import TreeWatch.Proofs.Tree.Changing
import TreeWatch.Proofs.Tree.Entrywise
import TreeWatch.Proofs.Tree.Recasting

/-!
# Trees in order

The tree in which the entries of every directory stand in the order of their names. It forgets in
which order entries were made and nothing else, and changes of the tree do to it what they do to the
tree.
-/

namespace TreeWatch

namespace Node

def arranged : Node → Node
  | directory a entries => directory a (sortByName (arrangedAll entries))
  | n => n
termination_by structural n => n
where
  arrangedAll : List Node → List Node
    | [] => []
    | n :: rest => arranged n :: arrangedAll rest
  termination_by structural ns => ns

theorem arrangedAll_eq_map (ns : List Node) : arranged.arrangedAll ns = ns.map arranged := by
  induction ns with
  | nil => rfl
  | cons n rest ih => rw [arranged.arrangedAll, ih, List.map_cons]

theorem arranged_directory (a : Attributes) (entries : List Node) :
    (directory a entries).arranged = directory a (sortByName (entries.map arranged)) := by
  rw [arranged, arrangedAll_eq_map]

@[simp] theorem attributes_arranged (n : Node) : n.arranged.attributes = n.attributes := by
  cases n <;> rfl

@[simp] theorem name_arranged (n : Node) : n.arranged.name = n.name := by
  rw [name, name, attributes_arranged]

theorem entries_arranged (n : Node) : n.arranged.entries = sortByName (n.entries.map arranged) := by
  cases n <;> simp [arranged, arrangedAll_eq_map, entries, sortByName]

/-- No walk sees in which order entries were made. -/
theorem unseen_arranged : Walk.Unseen arranged where
  name := name_arranged
  faults n := by rw [faults, faults, attributes_arranged]
  kind n := by cases n <;> rfl
  entries n := by
    rw [entries_arranged, sortByName_sortByName, sortByName_map name_arranged]
  time n := by rw [time, time, attributes_arranged]

/-- No question about paths tells the trees apart. -/
theorem faithful_arranged : Faithful arranged where
  toKeepsShape := unseen_arranged.toKeepsShape
  target? n := by cases n <;> rfl

theorem Entrywise.arranged {h : Node → Node} (entrywise : Entrywise h) (n : Node) :
    (h n).arranged = h n.arranged := by
  have hleaf : ∀ {m : Node}, m.isDirectory = false → m.arranged = m := by
    intro m hm
    cases m with
    | directory => simp [Node.isDirectory] at hm
    | file | link | special => rfl
  induction n using induction_on_entries with
  | step n ih =>
      cases hn : n.isDirectory with
      | false => rw [hleaf hn, hleaf ((entrywise.isDirectory n).trans hn)]
      | true =>
          cases n with
          | file | link | special => simp [Node.isDirectory] at hn
          | directory a entries =>
              have hentries :
                  (entries.map h).map Node.arranged = (entries.map Node.arranged).map h := by
                rw [List.map_map, List.map_map]
                exact List.map_congr_left ih
              rw [entrywise.directory, arranged_directory, arranged_directory, entrywise.directory,
                hentries, sortByName_map entrywise.name]

theorem arranged_directory_eq_iff {a : Attributes} {ns ms : List Node} :
    (directory a ns).arranged = (directory a ms).arranged ↔
      ∀ x, (ns.filter (·.name = x)).map arranged = (ms.filter (·.name = x)).map arranged := by
  have hfilter : ∀ (ls : List Node) (x : String),
      (ls.map arranged).filter (·.name = x) = (ls.filter (·.name = x)).map arranged := by
    intro ls x
    rw [List.filter_map]
    congr 2
    funext m
    rw [Function.comp_apply, name_arranged]
  rw [arranged_directory, arranged_directory, directory.injEq, and_iff_right rfl]
  constructor
  · intro h x
    rw [← hfilter, ← hfilter, ← filter_sortByName, h, filter_sortByName]
  · intro h
    refine sortByName_congr fun x => ?_
    rw [hfilter, hfilter, h]

theorem exists_of_arranged_eq {n : Node} {a : Attributes} {entries : List Node}
    (h : (directory a entries).arranged = n.arranged) : ∃ others, n = directory a others := by
  cases n with
  | file | link | special => simp [arranged] at h
  | directory b others =>
      rw [arranged_directory, arranged_directory, directory.injEq] at h
      exact ⟨others, by rw [h.1]⟩

/-! ## Changes -/

/-- What is put in the place of nodes that are the same in order is the same in order. -/
def PutsAlike (f g : Option Node → Option Node) : Prop :=
  ∀ n? m? : Option Node, n?.map arranged = m?.map arranged →
    (f n?).map arranged = (g m?).map arranged

variable {make : Bool} {name : String} {f g : Option Node → Option Node}

theorem arranged_alterEntry_congr (keeps : KeepsName name f) (keeps' : KeepsName name g)
    (alike : PutsAlike f g) {a : Attributes} {ns ms : List Node}
    (same : (directory a ns).arranged = (directory a ms).arranged) :
    (directory a (alterEntry name f ns)).arranged =
      (directory a (alterEntry name g ms)).arranged := by
  rw [arranged_directory_eq_iff] at same ⊢
  intro x
  by_cases hx : x = name
  · subst hx
    rw [filter_alterEntry_self keeps, filter_alterEntry_self keeps']
    have hsame := same x
    have htoList : ∀ n? m? : Option Node, n?.map arranged = m?.map arranged →
        (f n?).toList.map arranged = (g m?).toList.map arranged := by
      intro n? m? h
      rw [← Option.toList_map, ← Option.toList_map, alike n? m? h]
    cases hns : ns.filter (·.name = x) with
    | nil =>
        rw [hns, List.map_nil, eq_comm, List.map_eq_nil_iff] at hsame
        rw [hsame]
        exact htoList none none rfl
    | cons n rest =>
        rw [hns, List.map_cons, eq_comm, List.map_eq_cons_iff] at hsame
        obtain ⟨m, others, hms, hm, hothers⟩ := hsame
        have hname : ∀ {k : Node} {ls ks : List Node}, ls.filter (·.name = x) = k :: ks →
            k.name = x := by
          intro k ls ks hls
          have hmem : k ∈ ls.filter (·.name = x) := hls ▸ List.mem_cons_self
          exact of_decide_eq_true (List.mem_filter.mp hmem).2
        rw [hms, alterEntry, alterEntry, if_pos (hname hns), if_pos (hname hms), List.map_append,
          List.map_append, htoList (some n) (some m) (congrArg some hm.symm), hothers]
  · rw [filter_alterEntry_of_ne keeps hx, filter_alterEntry_of_ne keeps' hx, same]

/-- The same change at the same path of trees that are the same in order leaves them so. -/
theorem arranged_alterAt_congr {path : List String} (keeps : KeepsName (Edit.lastName path) f)
    (keeps' : KeepsName (Edit.lastName path) g) (alike : PutsAlike f g) {n m : Node}
    (same : n.arranged = m.arranged) :
    (alterAt make f path n).arranged = (alterAt make g path m).arranged := by
  induction path generalizing n m with
  | nil =>
      have hput := alike (some n) (some m) (congrArg some same)
      rw [alterAt, alterAt]
      cases hf : f (some n) with
      | none =>
          cases hg : g (some m) with
          | none => exact same
          | some m' => simp [hf, hg] at hput
      | some n' =>
          cases hg : g (some m) with
          | none => simp [hf, hg] at hput
          | some m' => simpa [hf, hg] using hput
  | cons name rest ih =>
      cases n with
      | file | link | special =>
          have hm : (Node.arranged m).isDirectory = false := by
            rw [← same]
            rfl
          cases m with
          | directory => simp [arranged, isDirectory] at hm
          | file | link | special => cases rest <;> exact same
      | directory a entries =>
          obtain ⟨others, rfl⟩ := exists_of_arranged_eq same
          cases rest with
          | nil => exact arranged_alterEntry_congr keeps keeps' alike same
          | cons next more =>
              simp only [alterAt]
              refine arranged_alterEntry_congr (keepsName_alterAt (List.cons_ne_nil next more))
                (keepsName_alterAt (List.cons_ne_nil next more)) ?_ same
              have hstep : ∀ {k l : Node}, k.arranged = l.arranged →
                  (alterAt make f (next :: more) k).arranged =
                    (alterAt make g (next :: more) l).arranged := ih keeps keeps'
              rintro (_ | k) (_ | l) hkl
              · cases make with
                | false => rfl
                | true => exact congrArg some (hstep rfl)
              · simp at hkl
              · simp at hkl
              · exact congrArg some (hstep (by simpa using hkl))

theorem putsAlike_attributes (f : Attributes → Attributes) :
    PutsAlike (Option.map (·.withAttributes f)) (Option.map (·.withAttributes f)) := by
  have hwith : ∀ n : Node, (n.withAttributes f).arranged = n.arranged.withAttributes f := by
    intro n
    cases n <;> rfl
  rintro (_ | n) (_ | m) h
  · rfl
  · simp at h
  · simp at h
  · have hnm : n.arranged = m.arranged := by simpa using h
    simp [hwith, hnm]

theorem putsAlike_put (serial : Nat) (change : Edit) :
    PutsAlike (change.put serial) (change.put serial) := by
  cases change with
  | touch | fault => exact putsAlike_attributes _
  | link | special | remove | rename => exact fun _ _ _ => rfl
  | makeDirectory | write =>
      rintro (_ | n) (_ | m) h
      · rfl
      · simp at h
      · simp at h
      · have hnm : n.arranged = m.arranged := by simpa using h
        cases n <;> cases m <;> simp_all [arranged, Edit.put]

/-- Changes do not depend on the order in which entries were made. -/
theorem arranged_apply_congr {root root' : Node} (same : root.arranged = root'.arranged)
    (serial : Nat) (change : Edit) :
    (change.apply serial root).arranged = (change.apply serial root').arranged := by
  cases change with
  | rename path target =>
      have hfound : (root.at? path).map arranged = (root'.at? path).map arranged := by
        rw [← unseen_arranged.at?, ← unseen_arranged.at?, same]
      rw [Edit.apply_rename, Edit.apply_rename]
      cases hn : root.at? path with
      | none =>
          cases hn' : root'.at? path with
          | none => exact same
          | some n' => simp [hn, hn'] at hfound
      | some n =>
          cases hn' : root'.at? path with
          | none => simp [hn, hn'] at hfound
          | some n' =>
              have hleft : (root.alterAt false (fun _ => none) path).arranged =
                  (root'.alterAt false (fun _ => none) path).arranged :=
                arranged_alterAt_congr (Edit.keepsName_put serial (.remove path))
                  (Edit.keepsName_put serial (.remove path))
                  (putsAlike_put serial (.remove path)) same
              have hmoved : (Edit.moved n target).arranged = (Edit.moved n' target).arranged := by
                have hput := putsAlike_attributes (fun a => { a with name := Edit.lastName target })
                  (some n) (some n') (by simpa [hn, hn'] using hfound)
                exact Option.some.inj hput
              exact arranged_alterAt_congr (Edit.keepsName_moved n target)
                (Edit.keepsName_moved n' target) (fun _ _ _ => congrArg some hmoved) hleft
  | _ =>
      rw [Edit.apply_eq_alterAt serial root (by simp), Edit.apply_eq_alterAt serial root' (by simp)]
      exact arranged_alterAt_congr (Edit.keepsName_put serial _) (Edit.keepsName_put serial _)
        (putsAlike_put serial _) same

end Node

end TreeWatch
