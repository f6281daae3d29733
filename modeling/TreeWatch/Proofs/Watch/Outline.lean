import TreeWatch.Proofs.Tree.Arranging

/-!
# What is there without what it holds

The outline of a tree: names, kinds, times and faults of all nodes, whatever files contain, wherever
links lead and in whatever order entries were made. A walk sees nothing beyond it.
-/

namespace TreeWatch

namespace Node

/-- The tree with nothing in its files and with links that lead nowhere. -/
def bare : Node → Node
  | file a _ _ => file a 0 []
  | directory a entries => directory a (bareAll entries)
  | link a _ => link a ""
  | special a _ => special a .fifo
termination_by structural n => n
where
  bareAll : List Node → List Node
    | [] => []
    | n :: rest => bare n :: bareAll rest
  termination_by structural ns => ns

theorem bareAll_eq_map (ns : List Node) : bare.bareAll ns = ns.map bare := by
  induction ns with
  | nil => rfl
  | cons n rest ih => rw [bare.bareAll, ih, List.map_cons]

theorem bare_directory (a : Attributes) (entries : List Node) :
    (directory a entries).bare = directory a (entries.map bare) := by
  rw [bare, bareAll_eq_map]

@[simp] theorem attributes_bare (n : Node) : n.bare.attributes = n.attributes := by
  cases n <;> rfl

@[simp] theorem name_bare (n : Node) : n.bare.name = n.name := by
  rw [name, name, attributes_bare]

theorem entrywise_bare : Entrywise bare where
  name := name_bare
  faults n := by rw [faults, faults, attributes_bare]
  kind n := by cases n <;> rfl
  directory := bare_directory

theorem unseen_bare : Walk.Unseen bare :=
  entrywise_bare.unseen fun n => by rw [time, time, attributes_bare]

/-- Names, kinds, times and faults of a node and of all that is below it. -/
def outline (n : Node) : Node :=
  n.bare.arranged

theorem unseen_outline : Walk.Unseen outline :=
  unseen_arranged.comp unseen_bare

/-! ## Nodes in the place of nodes -/

theorem map_bare_alterEntry {f : Option Node → Option Node} {ns : List Node} {name : String}
    {m : Node} (found : ns.find? (·.name = name) = some m)
    (same : (f (some m)).map bare = some m.bare) :
    (alterEntry name f ns).map bare = ns.map bare := by
  induction ns with
  | nil => simp at found
  | cons n rest ih =>
      rw [alterEntry]
      by_cases hname : n.name = name
      · obtain rfl : n = m := by simpa [hname] using found
        obtain ⟨n', hn', hbare⟩ := Option.map_eq_some_iff.mp same
        rw [if_pos hname, hn', List.map_append, List.map_cons, ← hbare]
        rfl
      · rw [if_neg hname, List.map_cons, List.map_cons, ih (by simpa [hname] using found)]

theorem bare_alterAt {make : Bool} {f : Option Node → Option Node} {names : List String}
    {n m : Node} (found : n.at? names = some m) (same : (f (some m)).map bare = some m.bare) :
    (alterAt make f names n).bare = n.bare := by
  induction names generalizing n with
  | nil =>
      obtain rfl : n = m := Option.some.inj found
      obtain ⟨n', hn', hbare⟩ := Option.map_eq_some_iff.mp same
      rw [alterAt, hn']
      exact hbare
  | cons name rest ih =>
      obtain ⟨k, hk, hkm⟩ := Option.bind_eq_some_iff.mp found
      cases n with
      | file | link | special => cases rest <;> rfl
      | directory a entries =>
          have hentry : entries.find? (·.name = name) = some k := hk
          cases rest with
          | nil =>
              obtain rfl : k = m := Option.some.inj hkm
              rw [alterAt, bare_directory, bare_directory, map_bare_alterEntry hentry same]
          | cons next more =>
              simp only [alterAt, bare_directory]
              exact congrArg (directory a) (map_bare_alterEntry hentry (congrArg some (ih hkm)))

end Node

end TreeWatch
