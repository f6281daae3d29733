import TreeWatch.Proofs.Watch.Sight
import TreeWatch.Tree.Edit

/-!
# Changes of every node by itself

Some changes of a tree concern each node by itself: what files hold, which numbers and times they
have, where links lead. They leave every entry in its place, and what is done to a tree at a path
can as well be done after them.
-/

namespace TreeWatch.Node

/-- A change of each node of a tree by itself, which leaves directories as they are. -/
structure Entrywise (h : Node → Node) : Prop where
  name : ∀ n, (h n).name = n.name
  faults : ∀ n, (h n).faults = n.faults
  kind : ∀ n, (h n).kind = n.kind
  directory : ∀ a entries, h (directory a entries) = directory a (entries.map h)

/-- A change at a path changes directories alone. -/
theorem alterAt_eq_self {make : Bool} {f : Option Node → Option Node} {n : Node}
    (leaf : n.isDirectory = false) {names : List String} (below : names ≠ []) :
    alterAt make f names n = n := by
  cases n with
  | directory a entries => simp [Node.isDirectory] at leaf
  | file | link | special =>
      cases names with
      | nil => exact absurd rfl below
      | cons name rest => cases rest <;> rfl

namespace Entrywise

variable {h : Node → Node}

theorem isDirectory (entrywise : Entrywise h) (n : Node) :
    (h n).isDirectory = n.isDirectory := by
  rw [isDirectory_eq_kind, isDirectory_eq_kind, entrywise.kind]

theorem entries (entrywise : Entrywise h) (n : Node) : (h n).entries = n.entries.map h := by
  cases hn : n.isDirectory with
  | true =>
      cases n with
      | directory a entries => rw [entrywise.directory]; rfl
      | file | link | special => simp [Node.isDirectory] at hn
  | false =>
      rw [entries_eq_nil_of_not_isDirectory hn,
        entries_eq_nil_of_not_isDirectory ((entrywise.isDirectory n).trans hn), List.map_nil]

theorem keepsShape (entrywise : Entrywise h) : KeepsShape h where
  name := entrywise.name
  faults := entrywise.faults
  kind := entrywise.kind
  entries n := by rw [entrywise.entries, sortByName_map entrywise.name]

theorem unseen (entrywise : Entrywise h) (time : ∀ n, (h n).time = n.time) : Walk.Unseen h where
  toKeepsShape := entrywise.keepsShape
  time := time

/-! ## Changes at a path -/

variable {f g : Option Node → Option Node}

theorem alterEntry (entrywise : Entrywise h) (same : ∀ n?, (f n?).map h = g (n?.map h))
    (name : String) (ns : List Node) :
    (alterEntry name f ns).map h = Node.alterEntry name g (ns.map h) := by
  have hput : ∀ n?, (f n?).toList.map h = (g (n?.map h)).toList := by
    intro n?
    rw [← same, Option.toList_map]
  induction ns with
  | nil => exact hput none
  | cons n rest ih =>
      rw [List.map_cons, Node.alterEntry, Node.alterEntry, entrywise.name]
      by_cases hname : n.name = name
      · rw [if_pos hname, if_pos hname, List.map_append, hput, Option.map_some]
      · rw [if_neg hname, if_neg hname, List.map_cons, ih]

/-- It makes no difference whether a tree is changed at a path before or after. -/
theorem alterAt (entrywise : Entrywise h) (make : Bool) (same : ∀ n?, (f n?).map h = g (n?.map h))
    (names : List String) (n : Node) :
    h (alterAt make f names n) = Node.alterAt make g names (h n) := by
  induction names generalizing n with
  | nil =>
      have hput : (f (some n)).map h = g (some (h n)) := same (some n)
      rw [Node.alterAt, Node.alterAt, ← hput]
      cases f (some n) <;> rfl
  | cons name rest ih =>
      cases hleaf : n.isDirectory with
      | false =>
          rw [alterAt_eq_self hleaf (List.cons_ne_nil name rest),
            alterAt_eq_self ((entrywise.isDirectory n).trans hleaf) (List.cons_ne_nil name rest)]
      | true =>
          cases n with
          | file | link | special => simp [Node.isDirectory] at hleaf
          | directory a entries =>
              cases rest with
              | nil =>
                  rw [Node.alterAt, entrywise.directory, entrywise.directory, Node.alterAt,
                    entrywise.alterEntry same]
              | cons next more =>
                  rw [entrywise.directory]
                  simp only [Node.alterAt]
                  rw [entrywise.directory, entrywise.alterEntry]
                  rintro (_ | m)
                  · cases make with
                    | false => rfl
                    | true =>
                        simp only [if_pos, Option.map_some, Option.map_none, ih]
                        rw [emptyDirectory, entrywise.directory, List.map_nil]
                  · simp only [Option.map_some, ih]

end Entrywise

/-! ## Lines added to files -/

theorem appendAll_eq_map (serial : Nat) (bytes : Bytes) (time? : Option Int) (ns : List Node) :
    appendTo.appendAll serial bytes time? ns = ns.map (appendTo serial bytes time?) := by
  induction ns with
  | nil => rfl
  | cons n rest ih => rw [appendTo.appendAll, ih, List.map_cons]

theorem entrywise_appendTo (serial : Nat) (bytes : Bytes) (time? : Option Int) :
    Entrywise (appendTo serial bytes time?) where
  name n := by
    cases n with
    | file a s content => unfold appendTo; split <;> rfl
    | directory | link | special => rfl
  faults n := by
    cases n with
    | file a s content => unfold appendTo; split <;> rfl
    | directory | link | special => rfl
  kind n := by
    cases n with
    | file a s content => unfold appendTo; split <;> rfl
    | directory | link | special => rfl
  directory a entries := congrArg (Node.directory a) (appendAll_eq_map serial bytes time? entries)

end TreeWatch.Node
