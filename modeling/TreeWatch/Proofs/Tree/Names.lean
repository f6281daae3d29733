import TreeWatch.Path
import TreeWatch.Tree.Node
import Mathlib.Data.List.Nodup
import Mathlib.Data.List.Basic

/-!
# Names in a tree

What a file system promises of the names in a directory: no two entries share one, and each reads
as a path of a single part. Names joined by slashes can then be told apart again.
-/

namespace TreeWatch

/-- A text that reads as a path of a single part. -/
def IsName (s : String) : Prop :=
  s ≠ "" ∧ s ≠ "." ∧ '/' ∉ s.toList

instance (s : String) : Decidable (IsName s) :=
  inferInstanceAs (Decidable (_ ∧ _ ∧ _))

def joined (names : List String) : String :=
  String.intercalate "/" names

@[simp] theorem joined_singleton (name : String) : joined [name] = name :=
  String.intercalate_singleton

theorem joined_cons {names : List String} (name : String) (h : names ≠ []) :
    joined (name :: names) = name ++ "/" ++ joined names :=
  String.intercalate_cons_of_ne_nil h

/-! ## Taking joined names apart -/

theorem splitAt_of_not_mem {separator : Char} {cs : List Char} (h : separator ∉ cs) :
    splitAt separator cs = [cs] := by
  induction cs with
  | nil => rfl
  | cons c cs ih =>
      rw [List.mem_cons, not_or] at h
      obtain ⟨hc, hcs⟩ := h
      simp [splitAt, Ne.symm hc, ih hcs]

theorem splitAt_append_separator {separator : Char} {cs : List Char} (h : separator ∉ cs)
    (rest : List Char) :
    splitAt separator (cs ++ separator :: rest) = cs :: splitAt separator rest := by
  induction cs with
  | nil => simp [splitAt]
  | cons c cs ih =>
      rw [List.mem_cons, not_or] at h
      obtain ⟨hc, hcs⟩ := h
      simp [splitAt, Ne.symm hc, ih hcs]

theorem splitAt_joined {names : List String} (nonempty : names ≠ [])
    (valid : ∀ name ∈ names, '/' ∉ name.toList) :
    splitAt '/' (joined names).toList = names.map String.toList := by
  induction names with
  | nil => exact absurd rfl nonempty
  | cons name rest ih =>
      have hname : '/' ∉ name.toList := valid name List.mem_cons_self
      by_cases hrest : rest = []
      · subst hrest
        simp [splitAt_of_not_mem hname]
      · have htail := ih hrest fun x hx => valid x (List.mem_cons_of_mem name hx)
        have hslash : "/".toList = ['/'] := rfl
        rw [joined_cons name hrest, String.toList_append, String.toList_append, hslash,
          List.append_assoc, List.singleton_append, splitAt_append_separator hname, htail]
        rfl

theorem joined_injective {names others : List String} (nonempty : names ≠ [])
    (nonempty' : others ≠ []) (valid : ∀ name ∈ names, '/' ∉ name.toList)
    (valid' : ∀ name ∈ others, '/' ∉ name.toList) (h : joined names = joined others) :
    names = others := by
  have hsplit : names.map String.toList = others.map String.toList := by
    rw [← splitAt_joined nonempty valid, ← splitAt_joined nonempty' valid', h]
  exact List.map_injective_iff.mpr (fun a b hab => String.toList_inj.mp hab) hsplit

namespace Node

mutual

/-- A tree as file systems hold it: below every directory the names differ, and each is one. -/
def WellFormed : Node → Prop
  | directory _ entries => (entries.map name).Nodup ∧ AllWellFormed entries
  | file _ _ _ | link _ _ | special _ _ => True
termination_by structural n => n

def AllWellFormed : List Node → Prop
  | [] => True
  | n :: rest => IsName n.name ∧ WellFormed n ∧ AllWellFormed rest
termination_by structural ns => ns

end

mutual

instance decidableWellFormed : (n : Node) → Decidable n.WellFormed
  | directory _ entries =>
    have := decidableAllWellFormed entries
    inferInstanceAs (Decidable ((entries.map name).Nodup ∧ AllWellFormed entries))
  | file _ _ _ | link _ _ | special _ _ => .isTrue trivial
termination_by structural n => n

instance decidableAllWellFormed : (ns : List Node) → Decidable (AllWellFormed ns)
  | [] => .isTrue trivial
  | n :: rest =>
    have := decidableWellFormed n
    have := decidableAllWellFormed rest
    inferInstanceAs (Decidable (IsName n.name ∧ n.WellFormed ∧ AllWellFormed rest))
termination_by structural ns => ns

end

theorem allWellFormed_iff {ns : List Node} :
    AllWellFormed ns ↔ ∀ n ∈ ns, IsName n.name ∧ n.WellFormed := by
  induction ns with
  | nil => simp [AllWellFormed]
  | cons n rest ih => simp [AllWellFormed, ih, and_assoc]

theorem wellFormed_iff {n : Node} :
    n.WellFormed ↔
      (n.entries.map name).Nodup ∧ ∀ m ∈ n.entries, IsName m.name ∧ m.WellFormed := by
  cases n <;> simp [WellFormed, entries, allWellFormed_iff]

theorem WellFormed.names_nodup {n : Node} (h : n.WellFormed) : (n.entries.map name).Nodup :=
  (wellFormed_iff.mp h).1

theorem WellFormed.isName {n m : Node} (h : n.WellFormed) (hm : m ∈ n.entries) :
    IsName m.name :=
  ((wellFormed_iff.mp h).2 m hm).1

theorem WellFormed.of_mem {n m : Node} (h : n.WellFormed) (hm : m ∈ n.entries) : m.WellFormed :=
  ((wellFormed_iff.mp h).2 m hm).2

theorem WellFormed.child?_of_mem {n m : Node} (h : n.WellFormed) (hm : m ∈ n.entries) :
    n.child? m.name = some m := by
  unfold child?
  have hnodup := h.names_nodup
  revert hm hnodup
  generalize n.entries = ns
  intro hm hnodup
  induction ns with
  | nil => simp at hm
  | cons k rest ih =>
      rw [List.map_cons, List.nodup_cons] at hnodup
      rcases List.mem_cons.mp hm with rfl | hrest
      · simp
      · have hne : k.name ≠ m.name := fun heq =>
          hnodup.1 (heq ▸ List.mem_map_of_mem hrest)
        simp [hne, ih hrest hnodup.2]

theorem WellFormed.at?_cons {n m : Node} (h : n.WellFormed) (hm : m ∈ n.entries)
    (names : List String) : n.at? (m.name :: names) = m.at? names := by
  rw [at?, h.child?_of_mem hm, Option.bind_some]

theorem WellFormed.at? {n m : Node} (h : n.WellFormed) {names : List String}
    (found : n.at? names = some m) : m.WellFormed := by
  induction names generalizing n with
  | nil =>
      obtain rfl : n = m := Option.some.inj found
      exact h
  | cons name rest ih =>
      obtain ⟨k, hk, hkm⟩ := Option.bind_eq_some_iff.mp found
      exact ih (h.of_mem (List.mem_of_find?_eq_some hk)) hkm

end Node

/-! ## Names that a file system takes -/

/-- A name that can be given to a file: none that stands for a directory of its own, and none with
the character that ends names. -/
def IsFileName (s : String) : Prop :=
  IsName s ∧ s ≠ ".." ∧ '\x00' ∉ s.toList

instance (s : String) : Decidable (IsFileName s) :=
  inferInstanceAs (Decidable (_ ∧ _ ∧ _))

namespace Node

mutual

def Named : Node → Prop
  | directory _ entries => AllNamed entries
  | file _ _ _ | link _ _ | special _ _ => True
termination_by structural n => n

def AllNamed : List Node → Prop
  | [] => True
  | n :: rest => IsFileName n.name ∧ Named n ∧ AllNamed rest
termination_by structural ns => ns

end

mutual

instance decidableNamed : (n : Node) → Decidable n.Named
  | directory _ entries => decidableAllNamed entries
  | file _ _ _ | link _ _ | special _ _ => .isTrue trivial
termination_by structural n => n

instance decidableAllNamed : (ns : List Node) → Decidable (AllNamed ns)
  | [] => .isTrue trivial
  | n :: rest =>
    have := decidableNamed n
    have := decidableAllNamed rest
    inferInstanceAs (Decidable (IsFileName n.name ∧ n.Named ∧ AllNamed rest))
termination_by structural ns => ns

end

theorem allNamed_iff {ns : List Node} :
    AllNamed ns ↔ ∀ n ∈ ns, IsFileName n.name ∧ n.Named := by
  induction ns with
  | nil => simp [AllNamed]
  | cons n rest ih => simp [AllNamed, ih, and_assoc]

theorem named_iff {n : Node} : n.Named ↔ ∀ m ∈ n.entries, IsFileName m.name ∧ m.Named := by
  cases n <;> simp [Named, entries, allNamed_iff]

/-- Names that lead anywhere are names of what is there. -/
theorem Named.isFileName_of_at? {n m : Node} (named : n.Named) {names : List String}
    (found : n.at? names = some m) : ∀ name ∈ names, IsFileName name := by
  induction names generalizing n with
  | nil => simp
  | cons name rest ih =>
      obtain ⟨k, hk, hkm⟩ := Option.bind_eq_some_iff.mp found
      have hname : k.name = name := by simpa using List.find?_some hk
      obtain ⟨hfile, hbelow⟩ := named_iff.mp named k (List.mem_of_find?_eq_some hk)
      exact List.forall_mem_cons.mpr ⟨hname ▸ hfile, ih hbelow hkm⟩

end Node

end TreeWatch
