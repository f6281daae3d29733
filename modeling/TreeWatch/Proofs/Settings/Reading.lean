import TreeWatch.Proofs.Settings.Files
import TreeWatch.Proofs.Tree.Asking

/-!
# Settings and the content of files

Loading settings reads the files of settings and no other, and asks none for its time. So in two
worlds that differ in files of which none is among them, the settings are the same.
-/

namespace TreeWatch.Settings

open Log

variable {e : Erasure} {serials : List Nat}

/-- No path of some leads to a file of the serial numbers. -/
def Spared (serials : List Nat) (w : World) (paths : List Path) : Prop :=
  ∀ p ∈ paths, ∀ serial ∈ w.serialAt? p, serial ∉ serials

theorem Spared.of_blank_eq {w w' : World} {paths : List Path} (spared : Spared serials w paths)
    (h : w.blank e serials = w'.blank e serials) : Spared serials w' paths := by
  intro p hp serial hserial
  have hsame : w'.serialAt? p = w.serialAt? p :=
    World.eq_of_blank_eq (f := (·.serialAt? p)) (fun v => v.serialAt?_blank p) h
  rw [hsame] at hserial
  exact spared p hp serial hserial

/-! ## What is loaded -/

/-- What is loaded depends on which files are read, on what they hold and on the environment. -/
theorem load_congr {w v : World} {project named : Option Path}
    (files : allFiles v project named = allFiles w project named)
    (environment : v.environment = w.environment)
    (entries : ∀ paths, allFiles w project named = .ok paths →
      ∀ p ∈ paths, entriesOfFile v p = entriesOfFile w p) :
    load v project named = load w project named := by
  have hentries : ∀ paths : List Path, (∀ p ∈ paths, entriesOfFile v p = entriesOfFile w p) →
      entriesOfFiles v paths = entriesOfFiles w paths := by
    intro paths hpaths
    induction paths with
    | nil => rfl
    | cons p rest ih =>
        obtain ⟨hfirst, hrest⟩ := List.forall_mem_cons.mp hpaths
        unfold entriesOfFiles
        rw [hfirst, ih hrest]
  unfold load
  rw [files, ofEnvironment_congr environment]
  cases hpaths : allFiles w project named with
  | error err => rfl
  | ok paths =>
      dsimp only
      rw [hentries paths (entries paths hpaths)]

/-! ## Trees that no question tells apart -/

section Recast

variable {f : Node → Node}

/-- Which files are read does not depend on what is in any. -/
theorem allFiles_recast (faithful : Node.Faithful f) (w : World) (project named : Option Path) :
    allFiles (w.recast f) project named = allFiles w project named := by
  have hhome : homeFile (w.recast f) = homeFile w := by
    unfold homeFile
    simp only [World.exists?_recast faithful]
    rfl
  have huser : userFile? (w.recast f) = userFile? w := by
    unfold userFile?
    rw [hhome]
    rfl
  have hfiles : files (w.recast f) project = files w project := by
    unfold files
    rw [huser]
    rfl
  unfold allFiles
  rw [hfiles]
  rfl

theorem entriesOfFile_recast (faithful : Node.Faithful f)
    (contents : ∀ n, (f n).content = n.content) (w : World) (p : Path) :
    entriesOfFile (w.recast f) p = entriesOfFile w p := by
  unfold entriesOfFile
  rw [World.exists?_recast faithful, World.readFile_recast faithful contents]

end Recast

/-! ## Files that are emptied -/

theorem allFiles_of_blank_eq {w w' : World} (h : w.blank e serials = w'.blank e serials)
    (project named : Option Path) :
    allFiles w' project named = allFiles w project named :=
  World.eq_of_blank_eq (f := (allFiles · project named))
    (fun v => allFiles_recast Node.faithful_blank v project named) h

theorem entriesOfFile_blank {w : World} {p : Path}
    (spared : ∀ serial ∈ w.serialAt? p, serial ∉ serials) :
    entriesOfFile (w.blank e serials) p = entriesOfFile w p := by
  unfold entriesOfFile
  rw [World.exists?_blank, World.readFile_blank spared]

theorem entriesOfFile_of_blank_eq {w w' : World} (h : w.blank e serials = w'.blank e serials)
    {paths : List Path} (spared : Spared serials w paths) :
    ∀ p ∈ paths, entriesOfFile w' p = entriesOfFile w p := by
  intro p hp
  have hspared := spared.of_blank_eq h
  rw [← entriesOfFile_blank (spared p hp), h, entriesOfFile_blank (hspared p hp)]

end TreeWatch.Settings
