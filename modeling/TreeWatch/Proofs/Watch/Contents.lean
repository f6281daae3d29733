import TreeWatch.Proofs.Tree.Blanking
import TreeWatch.Proofs.Watch.Polling

/-!
# Watching does not read

A walk asks for names, kinds, times and faults, never for the content of a file. So what a poller
finds, and what it says of it, is the same in two worlds that differ in the content of some files.
-/

namespace TreeWatch

variable {e : Erasure} {serials : List Nat}

/-- The times that lines will give to files, where the times of some files are perhaps forgotten. -/
def Erasure.eraseStamps (e : Erasure) (serials : List Nat) (stamps : Nat → Nat → Option Int)
    (serial k : Nat) : Option Int :=
  if e = contentAndTime ∧ serial ∈ serials then none else stamps serial k

theorem Erasure.eraseStamps_eq_iff {stamps stamps' : Nat → Nat → Option Int} :
    e.eraseStamps serials stamps = e.eraseStamps serials stamps' ↔
      ∀ serial, (e = contentAndTime ∧ serial ∈ serials) ∨ stamps serial = stamps' serial := by
  simp only [funext_iff, eraseStamps]
  refine forall_congr' fun serial => ?_
  by_cases h : e = contentAndTime ∧ serial ∈ serials <;> simp [h]

/-- The world with the files of some serial numbers emptied, and without their times if these are
forgotten as well. -/
def World.blank (e : Erasure) (serials : List Nat) (w : World) : World :=
  { w with root := w.root.blank e serials, stamps := e.eraseStamps serials w.stamps }

theorem World.blank_nil (w : World) : w.blank e [] = w := by
  have hstamps : e.eraseStamps [] w.stamps = w.stamps := by
    funext serial k
    simp [Erasure.eraseStamps]
  rw [blank, Node.blank_nil, hstamps]

theorem World.find_blank (w : World) (p : Path) :
    (w.blank e serials).find p = (w.find p).map (Lookup.Place.recast (Node.blank e serials)) :=
  find_recast Node.faithful_blank w p

theorem World.edit_congr {w w' : World} (h : w.blank e serials = w'.blank e serials)
    (change : Edit) : (w.edit change).blank e serials = (w'.edit change).blank e serials := by
  obtain ⟨root, next, directory, environment, platform, onTerminal, now, host, stamps⟩ := w
  obtain ⟨root', next', directory', environment', platform', onTerminal', now', host',
    stamps'⟩ := w'
  simp only [blank, mk.injEq] at h
  obtain ⟨hroot, rfl, rfl, rfl, rfl, rfl, rfl, rfl, hstamps⟩ := h
  simp only [edit, blank, Node.blank_apply_congr hroot, hstamps]

theorem World.setVariable_congr {w w' : World} (h : w.blank e serials = w'.blank e serials)
    (name : String) (value : Option String) :
    (w.setVariable name value).blank e serials = (w'.setVariable name value).blank e serials := by
  obtain ⟨root, next, directory, environment, platform, onTerminal, now, host, stamps⟩ := w
  obtain ⟨root', next', directory', environment', platform', onTerminal', now', host',
    stamps'⟩ := w'
  simp only [blank, mk.injEq] at h
  obtain ⟨hroot, rfl, rfl, rfl, rfl, rfl, rfl, rfl, hstamps⟩ := h
  simp only [setVariable, blank, hroot, hstamps]

theorem World.changeDirectory_congr {w w' : World} (h : w.blank e serials = w'.blank e serials)
    (directory : List String) :
    ({ w with directory } : World).blank e serials =
      ({ w' with directory } : World).blank e serials :=
  congrArg (fun v : World => { v with directory }) h

namespace Walk

theorem findings_blank (w : World) (scope : Scope) (root : Path) :
    findings (w.blank .content serials) scope root = findings w scope root :=
  findings_recast Node.faithful_blank Node.time_blank w scope root

/-- In worlds that differ in the content of files alone, walks find the same. -/
theorem findings_congr {w w' : World} (h : w.blank .content serials = w'.blank .content serials)
    (scope : Scope) (root : Path) : findings w scope root = findings w' scope root := by
  rw [← findings_blank w, h, findings_blank]

/-- Nor do walks tell worlds apart that differ in files which are not below their root. -/
theorem findings_congr_of_disjoint {w w' : World} {root : Path}
    (h : w.blank e serials = w'.blank e serials)
    (apart : ∀ names n, w'.find root = .ok (names, n) → n.fileNumbers.Disjoint serials)
    (scope : Scope) : findings w scope root = findings w' scope root := by
  have hfind : w.find root = w'.find root := by
    have hblank := congrArg (World.find · root) h
    rw [World.find_blank, World.find_blank] at hblank
    cases hw' : w'.find root with
    | error errno =>
        cases hw : w.find root with
        | error errno' => simpa [hw, hw', Except.map] using hblank
        | ok place => simp [hw, hw', Except.map] at hblank
    | ok place' =>
        cases hw : w.find root with
        | error errno => simp [hw, hw', Except.map] at hblank
        | ok place =>
            simp only [hw, hw', Except.map, Except.ok.injEq, Lookup.Place.recast,
              Prod.mk.injEq] at hblank
            have hnode := Node.eq_of_blank_eq hblank.2 (apart _ _ hw')
            exact congrArg Except.ok (Prod.ext hblank.1 hnode)
  unfold findings listRoot
  rw [hfind]

end Walk

end TreeWatch
