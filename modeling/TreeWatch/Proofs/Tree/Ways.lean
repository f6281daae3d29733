import TreeWatch.Tree.Lookup
import Mathlib.Data.List.Basic

/-!
# Where ways lead

A way that is found ends at the node that the names on it lead to. Names that lead to a directory
literally are such a way, and it asks no link. Where a way ends at a directory, it goes on by such
names.
-/

namespace TreeWatch

namespace Node

theorem at?_append (n : Node) (above names : List String) :
    n.at? (above ++ names) = (n.at? above).bind (·.at? names) := by
  induction above generalizing n with
  | nil => rfl
  | cons name rest ih =>
      rw [List.cons_append, at?, at?]
      cases n.child? name with
      | none => rfl
      | some m => exact ih m

theorem isDirectory_of_child? {n m : Node} {name : String} (h : n.child? name = some m) :
    n.isDirectory = true := by
  cases hn : n.isDirectory with
  | true => rfl
  | false => simp [child?, entries_eq_nil_of_not_isDirectory hn] at h

end Node

namespace Lookup

/-- A name that stands for itself on a way. -/
def IsPlain (name : String) : Prop :=
  name ≠ "." ∧ name ≠ ".."

instance (name : String) : Decidable (IsPlain name) :=
  inferInstanceAs (Decidable (_ ∧ _))

section Invariant

/-! ## What all ways have in common -/

variable {root : Node} {allowed : String → Prop} {motive : List String → Prop}
  {here parts : List String} {place : Place}

/-- What holds at the root and is kept when an allowed name is added or one is taken away holds
where a way over allowed parts ends, if it does so where a link leads to. -/
theorem walk_invariant (top : motive []) (up : ∀ here, motive here → motive here.dropLast)
    (down : ∀ here name, allowed name → IsPlain name → motive here → motive (here ++ [name]))
    (targets : ∀ target, ∀ part ∈ targetParts target, allowed part)
    {follow : List String → List String → Except Errno Place}
    (followed : ∀ here parts place, (∀ part ∈ parts, allowed part) → motive here →
      follow here parts = .ok place → root.at? place.1 = some place.2 ∧ motive place.1)
    (allowedParts : ∀ part ∈ parts, allowed part) (start : motive here)
    (h : walk root follow here parts = .ok place) :
    root.at? place.1 = some place.2 ∧ motive place.1 := by
  induction parts generalizing here with
  | nil =>
      rw [walk] at h
      cases hn : root.at? here with
      | none => simp [hn] at h
      | some n =>
          obtain rfl : (here, n) = place := by simpa [hn] using h
          exact ⟨hn, start⟩
  | cons part rest ih =>
      obtain ⟨hpart, hrest⟩ := List.forall_mem_cons.mp allowedParts
      rw [walk] at h
      cases hn : root.at? here with
      | none => simp [hn] at h
      | some n =>
          rw [hn] at h
          dsimp only at h
          split at h
          · by_cases hdot : part = "."
            · rw [if_pos hdot] at h
              exact ih hrest start h
            · rw [if_neg hdot] at h
              by_cases hdots : part = ".."
              · rw [if_pos hdots] at h
                exact ih hrest (up here start) h
              · rw [if_neg hdots] at h
                split at h
                · simp at h
                · next a target _ =>
                    split at h
                    · simp at h
                    · refine followed _ _ place ?_ ?_ h
                      · exact List.forall_mem_append.mpr ⟨targets target, hrest⟩
                      · split
                        · exact top
                        · exact start
                · exact ih hrest (down here part hpart ⟨hdot, hdots⟩ start) h
          · simp at h

theorem walkWithin_invariant (top : motive []) (up : ∀ here, motive here → motive here.dropLast)
    (down : ∀ here name, allowed name → IsPlain name → motive here → motive (here ++ [name]))
    (targets : ∀ target, ∀ part ∈ targetParts target, allowed part)
    {links : Nat} (allowedParts : ∀ part ∈ parts, allowed part) (start : motive here)
    (h : walkWithin root links here parts = .ok place) :
    root.at? place.1 = some place.2 ∧ motive place.1 := by
  induction links generalizing here parts place with
  | zero => exact walk_invariant top up down targets (by simp) allowedParts start h
  | succ links ih =>
      exact walk_invariant top up down targets (fun _ _ _ => ih) allowedParts start h

/-- A way that is found ends at the node that its names lead to. -/
theorem at?_of_find {p : Path} (h : find root here p = .ok place) :
    root.at? place.1 = some place.2 := by
  unfold find at h
  exact (walkWithin_invariant (motive := fun _ => True) trivial (fun _ _ => trivial)
    (fun _ _ _ _ _ => trivial) (fun _ _ _ => trivial) (fun _ _ => trivial) trivial h).1

/-- Names of a kind that the parts of the path, those of the targets of links and those of the
directory from which it is seen have lead to where a path leads. -/
theorem forall_names_of_find {kind : String → Prop} {p : Path} (kindHere : ∀ name ∈ here, kind name)
    (kindParts : ∀ part ∈ p.parts, IsPlain part → kind part)
    (kindTargets : ∀ target, ∀ part ∈ targetParts target, IsPlain part → kind part)
    (h : find root here p = .ok place) : ∀ name ∈ place.1, kind name := by
  unfold find at h
  refine (walkWithin_invariant
    (motive := fun names => ∀ name ∈ names, kind name) (by simp) ?_ ?_ kindTargets kindParts ?_ h).2
  · exact fun here h name hname => h name (List.dropLast_subset here hname)
  · intro here name hkind hname h other hother
    rcases List.mem_append.mp hother with hmem | hmem
    · exact h other hmem
    · rw [List.mem_singleton.mp hmem]
      exact hkind hname
  · split
    · simp
    · exact kindHere

/-- From a directory that is given without dots no way leads to one that is given with them. -/
theorem isPlain_of_find {p : Path} (plain : ∀ name ∈ here, IsPlain name)
    (h : find root here p = .ok place) : ∀ name ∈ place.1, IsPlain name :=
  forall_names_of_find plain (fun _ _ => id) (fun _ _ _ => id) h

end Invariant

/-! ## Literal ways -/

/-- Plain names that lead to a directory are followed name by name. -/
theorem walk_of_at? {root n : Node} {follow : List String → List String → Except Errno Place}
    {names : List String} (here : List String) (plain : ∀ name ∈ names, IsPlain name)
    (found : root.at? (here ++ names) = some n) (isDirectory : n.isDirectory = true) :
    walk root follow here names = .ok (here ++ names, n) := by
  induction names generalizing here with
  | nil =>
      rw [List.append_nil] at found
      rw [walk, found, List.append_nil]
  | cons name rest ih =>
      obtain ⟨⟨hdot, hdots⟩, hrest⟩ := List.forall_mem_cons.mp plain
      have hfound := found
      rw [Node.at?_append] at hfound
      obtain ⟨d, hd, hnames⟩ := Option.bind_eq_some_iff.mp hfound
      rw [Node.at?] at hnames
      obtain ⟨m, hm, hmn⟩ := Option.bind_eq_some_iff.mp hnames
      rw [List.append_cons] at found ⊢
      rw [walk, hd]
      dsimp only
      rw [if_pos (Node.isDirectory_of_child? hm), if_neg hdot, if_neg hdots, hm]
      -- A link holds no entries, so the way neither goes on from one nor ends at one.
      cases m with
      | link a target =>
          cases rest with
          | nil =>
              obtain rfl : Node.link a target = n := Option.some.inj hmn
              simp [Node.isDirectory] at isDirectory
          | cons next more => simp [Node.at?, Node.child?, Node.entries] at hmn
      | file | directory | special => exact ih (here ++ [name]) hrest found

theorem find_absolute_of_at? {root n : Node} {here names : List String}
    (plain : ∀ name ∈ names, IsPlain name) (found : root.at? names = some n)
    (isDirectory : n.isDirectory = true) :
    find root here (.absolute names) = .ok (names, n) :=
  walk_of_at? [] plain found isDirectory

/-! ## Ways that go on -/

section Onward

variable {root n d : Node} {there more here parts : List String}

/-- A way that ends at a directory goes on by plain names that lead to another one from there. -/
theorem walk_append {follow : List String → List String → Except Errno Place}
    (plain : ∀ name ∈ more, IsPlain name) (found : root.at? (there ++ more) = some d)
    (isDirectory : d.isDirectory = true)
    (followed : ∀ here parts, follow here parts = .ok (there, n) →
      follow here (parts ++ more) = .ok (there ++ more, d))
    (h : walk root follow here parts = .ok (there, n)) :
    walk root follow here (parts ++ more) = .ok (there ++ more, d) := by
  induction parts generalizing here with
  | nil =>
      rw [walk] at h
      cases hn : root.at? here with
      | none => simp [hn] at h
      | some m =>
          obtain ⟨rfl, -⟩ : here = there ∧ m = n := by simpa [hn] using h
          exact walk_of_at? here plain found isDirectory
  | cons part rest ih =>
      rw [List.cons_append]
      rw [walk] at h ⊢
      cases hn : root.at? here with
      | none => simp [hn] at h
      | some m =>
          rw [hn] at h
          dsimp only at h ⊢
          split at h
          · next hdirectory =>
              rw [if_pos hdirectory]
              by_cases hdot : part = "."
              · rw [if_pos hdot] at h ⊢
                exact ih h
              · rw [if_neg hdot] at h ⊢
                by_cases hdots : part = ".."
                · rw [if_pos hdots] at h ⊢
                  exact ih h
                · rw [if_neg hdots] at h ⊢
                  split at h
                  · simp at h
                  · split at h
                    · simp at h
                    · next htarget =>
                        rw [if_neg htarget, ← List.append_assoc]
                        exact followed _ _ h
                  · exact ih h
          · simp at h

theorem walkWithin_append (plain : ∀ name ∈ more, IsPlain name)
    (found : root.at? (there ++ more) = some d) (isDirectory : d.isDirectory = true)
    {links : Nat} (h : walkWithin root links here parts = .ok (there, n)) :
    walkWithin root links here (parts ++ more) = .ok (there ++ more, d) := by
  induction links generalizing here parts with
  | zero => exact walk_append plain found isDirectory (by simp) h
  | succ links ih => exact walk_append plain found isDirectory (fun _ _ => ih) h

theorem find_append {p : Path} (plain : ∀ name ∈ more, IsPlain name)
    (found : root.at? (there ++ more) = some d) (isDirectory : d.isDirectory = true)
    (h : find root here p = .ok (there, n)) :
    find root here ⟨p.lead, p.parts ++ more⟩ = .ok (there ++ more, d) :=
  walkWithin_append plain found isDirectory h

end Onward

end Lookup

end TreeWatch
