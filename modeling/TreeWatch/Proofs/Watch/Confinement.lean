import Mathlib
import TreeWatch.Proofs.Tree.Changing
import TreeWatch.Proofs.Tree.Ways
import TreeWatch.Proofs.Watch.Granting
import TreeWatch.Proofs.Watch.Outline
import TreeWatch.Proofs.Watch.Polling

/-!
# Nothing outside is looked at

A poller keeps its directory by the names that lead to it literally. What it finds depends on what
is below that directory, links counting as themselves: not on other files, on where links lead, on
the working directory or on the environment.
-/

namespace TreeWatch

/-- Directories below which there is the same, links being taken for themselves. -/
structure Node.SameBelow (n m : Node) : Prop where
  isDirectory : n.isDirectory = true
  isDirectory' : m.isDirectory = true
  faults : n.faults = m.faults
  entries : n.outline.entries = m.outline.entries

theorem Node.SameBelow.of_bare_eq {n m : Node} (isDirectory : n.isDirectory = true)
    (same : m.bare = n.bare) : n.SameBelow m where
  isDirectory := isDirectory
  isDirectory' := by rw [← unseen_bare.isDirectory, same, unseen_bare.isDirectory, isDirectory]
  faults := by rw [← unseen_bare.faults n, ← same, unseen_bare.faults]
  entries := by rw [outline, outline, same]

/-! ## What is found -/

theorem Walk.findings_of_sameBelow {w w' : World} {root : Path} {place place' : Lookup.Place}
    (found : w.find root = .ok place) (found' : w'.find root = .ok place')
    (same : place.2.SameBelow place'.2) (scope : Scope) :
    findings w scope root = findings w' scope root := by
  have hlisted : (Node.sortByName place.2.entries).map Node.outline =
      (Node.sortByName place'.2.entries).map Node.outline := by
    rw [← Node.unseen_outline.entries, same.entries, Node.unseen_outline.entries]
  have hrun := Node.unseen_outline.run_congr scope hlisted
  unfold findings listRoot list
  rw [found, found']
  dsimp only
  rw [if_pos same.isDirectory, if_pos same.isDirectory', same.faults]
  cases place'.2.faults.list with
  | some e => rfl
  | none => exact congrArg Except.ok hrun

/-! ## Where a poller looks -/

theorem Lookup.find_of_isAbsolute {root : Node} {p : Path} (h : p.isAbsolute = true)
    (here there : List String) : find root here p = find root there p := by
  rw [find, find, if_pos h, if_pos h]

theorem World.literal_of_find {w : World} {names : List String} {n : Node}
    (found : w.find (.absolute names) = .ok (names, n)) :
    (∀ name ∈ names, Lookup.IsPlain name) ∧ w.root.at? names = some n := by
  have hfound : Lookup.find w.root [] (.absolute names) = .ok (names, n) :=
    (Lookup.find_of_isAbsolute rfl [] w.directory).trans found
  exact ⟨Lookup.isPlain_of_find (by simp) hfound, Lookup.at?_of_find hfound⟩

namespace Node

theorem name_of_at? {n m : Node} {path : List String} (below : path ≠ [])
    (found : n.at? path = some m) : m.name = Edit.lastName path := by
  induction path generalizing n with
  | nil => exact absurd rfl below
  | cons name rest ih =>
      obtain ⟨k, hk, hkm⟩ := Option.bind_eq_some_iff.mp found
      cases rest with
      | nil =>
          obtain rfl : k = m := Option.some.inj hkm
          have hentry : n.entries.find? (·.name = name) = some k := hk
          have hname : k.name = name := by simpa using List.find?_some hentry
          exact hname
      | cons next more => exact ih (List.cons_ne_nil next more) hkm

/-- Wherever a link is made to lead, what is below a directory stays the same, provided that a link
in it keeps its time. -/
theorem sameBelow_of_relinked {root n : Node} {names path : List String} {a : Attributes}
    {old : String} (found : root.at? names = some n) (isDirectory : n.isDirectory = true)
    (linked : root.at? path = some (.link a old)) {target : String} {time : Int}
    (kept : names <+: path → a = { name := a.name, time }) (serial : Nat) :
    ∃ m, (Edit.apply serial root (.link path target time)).at? names = some m ∧
      n.SameBelow m := by
  have hbehind : ¬path <+: names := by
    rintro ⟨rest, rfl⟩
    rw [at?_append, linked, Option.bind_some] at found
    cases rest with
    | nil =>
        obtain rfl : Node.link a old = n := Option.some.inj found
        simp [Node.isDirectory] at isDirectory
    | cons name more => simp [at?, child?, entries] at found
  by_cases hbelow : names <+: path
  · have hnil : path ≠ [] := fun heq => hbehind (heq ▸ List.nil_prefix)
    have hname : a.name = Edit.lastName path := name_of_at? hnil linked
    have hlink : (some (link { name := Edit.lastName path, time } target)).map bare =
        some (link a old).bare := by
      rw [kept hbelow, ← hname]
      rfl
    have hbare : (Edit.apply serial root (.link path target time)).bare = root.bare :=
      bare_alterAt linked hlink
    have hsame := unseen_bare.at? (Edit.apply serial root (.link path target time)) names
    rw [hbare, unseen_bare.at?, found] at hsame
    obtain ⟨m, hm, hmn⟩ := Option.map_eq_some_iff.mp hsame.symm
    exact ⟨m, hm, SameBelow.of_bare_eq isDirectory hmn⟩
  · have hkeeps : KeepsName (Edit.lastName path)
        fun _ => some (link { name := Edit.lastName path, time } target) := by
      intro _ _ m hm
      obtain rfl := Option.mem_some.mp hm
      rfl
    refine ⟨n, ?_, SameBelow.of_bare_eq isDirectory rfl⟩
    exact (at?_alterAt_of_apart hkeeps hbehind hbelow root).trans found

end Node

/-! ## What a poller depends on -/

/-- A poller that was made in a world depends on what is below its directory alone. -/
structure Poller.Confined (w₀ : World) (p : Poller) : Prop where
  /-- When it was made, the names that it keeps led to its directory literally. -/
  literal : ∃ n, w₀.root.at? p.spec.root.parts = some n ∧ n.isDirectory = true ∧
    ((∀ name ∈ w₀.directory, Lookup.IsPlain name) →
      w₀.find p.spec.root = .ok (p.spec.root.parts, n))
  /-- It finds and reports the same in worlds in which its directory holds the same. -/
  below : ∀ (w w' : World) (place place' : Lookup.Place), w.find p.spec.root = .ok place →
    w'.find p.spec.root = .ok place' → place.2.SameBelow place'.2 →
      Snapshot.take w p.spec.scope p.spec.root = Snapshot.take w' p.spec.scope p.spec.root ∧
        p.poll w = p.poll w'
  /-- It does so wherever the program is run from, and in whatever environment. -/
  anywhere : ∀ (w : World) (directory : List String) (environment : List (String × String)),
    Snapshot.take { w with directory, environment } p.spec.scope p.spec.root =
        Snapshot.take w p.spec.scope p.spec.root ∧
      p.poll { w with directory, environment } = p.poll w
  /-- While the names that it keeps lead to its directory literally, it does so wherever a link is
  made to lead, if one within the directory keeps its time. -/
  relinked : ∀ (w : World) (n : Node) (path : List String) (a : Attributes) (old target : String)
    (time : Int), w.find p.spec.root = .ok (p.spec.root.parts, n) → n.isDirectory = true →
      w.root.at? path = some (.link a old) →
      (p.spec.root.parts <+: path → a = { name := a.name, time }) →
        Snapshot.take (w.edit (.link path target time)) p.spec.scope p.spec.root =
            Snapshot.take w p.spec.scope p.spec.root ∧
          p.poll (w.edit (.link path target time)) = p.poll w

/-- A poller whose request was granted looks at nothing outside its directory. -/
theorem Poller.confined_of_validate {w₀ : World} {r : Request} {p : Poller}
    (granted : r.validate w₀ = .ok p.spec) : p.Confined w₀ := by
  obtain ⟨root, names, n, -, -, hdirectory?, -, hfound, -, hspec⟩ :=
    Request.validate_eq_ok granted
  have hroot : p.spec.root = .absolute names := congrArg Spec.root hspec
  have hparts : p.spec.root.parts = names := congrArg Path.parts hroot
  have hdirectory : n.isDirectory = true :=
    Request.isDirectory_of_isDirectory? hdirectory? hfound
  have hbelow : ∀ (w w' : World) (place place' : Lookup.Place), w.find p.spec.root = .ok place →
      w'.find p.spec.root = .ok place' → place.2.SameBelow place'.2 →
        Snapshot.take w p.spec.scope p.spec.root = Snapshot.take w' p.spec.scope p.spec.root ∧
          p.poll w = p.poll w' := by
    intro w w' place place' hw hw' hsame
    have hfindings := Walk.findings_of_sameBelow hw hw' hsame p.spec.scope
    exact ⟨Snapshot.take_of_findings_eq hfindings, poll_of_findings_eq hfindings⟩
  refine ⟨⟨n, ?_, hdirectory, ?_⟩, hbelow, ?_, ?_⟩
  · rw [hparts]
    exact Lookup.at?_of_find hfound
  · intro hplain
    rw [hroot]
    exact Lookup.find_absolute_of_at? (Lookup.isPlain_of_find hplain hfound)
      (Lookup.at?_of_find hfound) hdirectory
  · intro w directory environment
    have hfind : ({ w with directory, environment } : World).find p.spec.root =
        w.find p.spec.root := by
      rw [hroot]
      exact Lookup.find_of_isAbsolute rfl directory w.directory
    have hfindings : Walk.findings { w with directory, environment } p.spec.scope p.spec.root =
        Walk.findings w p.spec.scope p.spec.root := by
      rw [Walk.findings, Walk.findings, Walk.listRoot, Walk.listRoot, hfind]
    exact ⟨Snapshot.take_of_findings_eq hfindings, poll_of_findings_eq hfindings⟩
  · intro w m path a old target time hw hm hlinked hkept
    rw [hparts] at hw hkept
    have hroot' := hroot ▸ hw
    obtain ⟨hplain, hat⟩ := World.literal_of_find hroot'
    obtain ⟨m', hm', hsame⟩ := Node.sameBelow_of_relinked hat hm hlinked hkept w.nextSerial
    have hw' : (w.edit (.link path target time)).find p.spec.root = .ok (names, m') := by
      rw [hroot]
      exact Lookup.find_absolute_of_at? hplain hm' hsame.isDirectory'
    have hboth := hbelow w (w.edit (.link path target time)) _ _ hw hw' hsame
    exact ⟨hboth.1.symm, hboth.2.symm⟩

def roundaboutDirectory : Node :=
  .directory { name := "w" } [.link { name := "back" } "../..", .file { name := "f" } 0 []]

/-- A world in which a link above the working directory leads to that directory. -/
def roundaboutWorld : World :=
  { root := .directory { name := "" } [
      .link { name := "way" } "home/w", .directory { name := "home" } [roundaboutDirectory]]
    directory := ["home"] }

def roundaboutRequest : Request :=
  ⟨⟨.none, ["..", "way"]⟩, { trackSymlinks := true }, .truth true⟩

def roundaboutPoller : Poller :=
  { spec := ⟨.absolute ["home", "w"], { trackSymlinks := true }, 1.0⟩ }

theorem confined_roundaboutPoller :
    let moved : World := { roundaboutWorld with directory := ["elsewhere"], environment := [] }
    roundaboutRequest.validate roundaboutWorld = .ok roundaboutPoller.spec ∧
      roundaboutPoller.Confined roundaboutWorld ∧
      roundaboutPoller.poll moved = roundaboutPoller.poll roundaboutWorld ∧
      roundaboutPoller.poll (roundaboutWorld.edit (.link ["way"] "nowhere" 7)) =
        roundaboutPoller.poll roundaboutWorld := by
  intro moved
  have hhome : roundaboutWorld.expandHome roundaboutRequest.root = .ok roundaboutRequest.root := by
    cbv
  have hfind : roundaboutWorld.find roundaboutRequest.root =
      .ok (["home", "w"], roundaboutDirectory) := by
    cbv
  have hask : ∀ question, roundaboutWorld.ask roundaboutRequest.root question =
      .ok (question roundaboutDirectory) := by
    intro question
    rw [World.ask, World.stat, hfind]
    rfl
  have granted : roundaboutRequest.validate roundaboutWorld = .ok roundaboutPoller.spec := by
    simp only [Request.validate, World.exists?, World.isDirectory?, bind, Except.bind, hhome, hask,
      hfind]
    rfl
  have confined := Poller.confined_of_validate granted
  obtain ⟨n, -, isDirectory, found⟩ := confined.literal
  have hfound := found (by decide)
  refine ⟨granted, confined, (confined.anywhere roundaboutWorld _ _).2, ?_⟩
  exact (confined.relinked roundaboutWorld n ["way"] { name := "way" } "home/w" "nowhere" 7 hfound
    isDirectory rfl (by decide)).2

end TreeWatch
