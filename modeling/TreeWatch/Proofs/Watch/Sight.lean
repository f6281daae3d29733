import TreeWatch.Proofs.Watch.Enumeration
import Mathlib.Data.List.Perm.Basic

/-!
# What a walk sees

A walk asks entries for their names, kinds, times and faults, and it takes the entries of a
directory in the order of their names. Whatever else is changed of a tree makes no difference to it.
-/

namespace TreeWatch

namespace Node

/-! ## Entries in the order of their names -/

theorem filter_sortByName (ns : List Node) (x : String) :
    (sortByName ns).filter (·.name = x) = ns.filter (·.name = x) := by
  have hsame : (ns.filter (·.name = x)).Pairwise fun a b => precedes a b := by
    refine List.pairwise_of_forall_mem_list ?_
    intro a ha b hb
    have hnames : a.name = b.name := by
      rw [of_decide_eq_true (List.mem_filter.mp ha).2, of_decide_eq_true (List.mem_filter.mp hb).2]
    exact precedes_iff.mpr hnames.le
  have hsublist : (ns.filter (·.name = x)).Sublist (sortByName ns) :=
    List.sublist_mergeSort precedes_trans precedes_total hsame List.filter_sublist
  have hfiltered := hsublist.filter (·.name = x)
  simp only [List.filter_filter, Bool.and_self] at hfiltered
  have hperm : (sortByName ns).Perm ns := ns.mergeSort_perm precedes
  exact (hfiltered.eq_of_length (hperm.filter _).length_eq.symm).symm

/-- Entries that are the same name by name are the same when they are sorted. -/
theorem sortByName_congr {ns ms : List Node}
    (h : ∀ x, ns.filter (·.name = x) = ms.filter (·.name = x)) :
    sortByName ns = sortByName ms := by
  have general : ∀ as bs : List Node, as.Pairwise (fun a b => a.name ≤ b.name) →
      bs.Pairwise (fun a b => a.name ≤ b.name) →
      (∀ x, as.filter (·.name = x) = bs.filter (·.name = x)) → as = bs := by
    intro as
    induction as with
    | nil =>
        intro bs _ _ hsame
        cases bs with
        | nil => rfl
        | cons b bs => simpa using hsame b.name
    | cons a as ih =>
        intro bs has hbs hsame
        cases bs with
        | nil => simpa using hsame a.name
        | cons b bs =>
            have hle : a.name ≤ b.name := by
              have hb : b ∈ (a :: as).filter (·.name = b.name) := by
                rw [hsame]
                simp
              rcases List.mem_cons.mp (List.mem_filter.mp hb).1 with rfl | hmem
              · exact le_rfl
              · exact List.rel_of_pairwise_cons has hmem
            have hge : b.name ≤ a.name := by
              have ha : a ∈ (b :: bs).filter (·.name = a.name) := by
                rw [← hsame]
                simp
              rcases List.mem_cons.mp (List.mem_filter.mp ha).1 with rfl | hmem
              · exact le_rfl
              · exact List.rel_of_pairwise_cons hbs hmem
            have hnames : a.name = b.name := le_antisymm hle hge
            have hfirst := hsame a.name
            rw [List.filter_cons_of_pos (by simp), List.filter_cons_of_pos (by simp [hnames])]
              at hfirst
            obtain ⟨rfl, _⟩ := List.cons.inj hfirst
            congr 1
            refine ih bs has.of_cons hbs.of_cons fun x => ?_
            have hx := hsame x
            by_cases hax : a.name = x
            · rw [List.filter_cons_of_pos (by simp [hax]), List.filter_cons_of_pos (by simp [hax])]
                at hx
              exact (List.cons.inj hx).2
            · rwa [List.filter_cons_of_neg (by simp [hax]), List.filter_cons_of_neg (by simp [hax])]
                at hx
  refine general _ _ (sortByName_pairwise_le ns) (sortByName_pairwise_le ms) fun x => ?_
  rw [filter_sortByName, filter_sortByName, h]

theorem sortByName_sortByName (ns : List Node) : sortByName (sortByName ns) = sortByName ns :=
  sortByName_congr (filter_sortByName ns)

theorem sortByName_map {f : Node → Node} (names : ∀ n, (f n).name = n.name) (ns : List Node) :
    sortByName (ns.map f) = (sortByName ns).map f := by
  unfold sortByName
  rw [List.map_mergeSort]
  intro n _ m _
  rw [precedes, precedes, names, names]

theorem find?_sortByName (ns : List Node) (x : String) :
    (sortByName ns).find? (·.name = x) = ns.find? (·.name = x) := by
  rw [← List.head?_filter, ← List.head?_filter, filter_sortByName]

theorem at?_of_child? {f : Node → Node}
    (entries : ∀ n name, (f n).child? name = (n.child? name).map f) (n : Node)
    (names : List String) : (f n).at? names = (n.at? names).map f := by
  induction names generalizing n with
  | nil => rfl
  | cons name rest ih =>
      rw [at?, at?, entries]
      cases n.child? name with
      | none => rfl
      | some m => exact ih m

theorem isDirectory_eq_kind (n : Node) : n.isDirectory = decide (n.kind = .directory) := by
  cases n <;> rfl

/-! ## Changes of nodes -/

/-- A change of nodes that keeps their names, their kinds and what fails at them, and their entries
in the order of their names, up to the same change. -/
structure KeepsShape (f : Node → Node) : Prop where
  name : ∀ n, (f n).name = n.name
  faults : ∀ n, (f n).faults = n.faults
  kind : ∀ n, (f n).kind = n.kind
  entries : ∀ n, sortByName (f n).entries = (sortByName n.entries).map f

namespace KeepsShape

variable {f : Node → Node}

theorem comp {g : Node → Node} (h : KeepsShape f) (h' : KeepsShape g) :
    KeepsShape fun n => f (g n) where
  name n := (h.name _).trans (h'.name n)
  faults n := (h.faults _).trans (h'.faults n)
  kind n := (h.kind _).trans (h'.kind n)
  entries n := by rw [h.entries, h'.entries, List.map_map]; rfl

theorem isDirectory (h : KeepsShape f) (n : Node) : (f n).isDirectory = n.isDirectory := by
  rw [isDirectory_eq_kind, isDirectory_eq_kind, h.kind]

theorem list (h : KeepsShape f) (n : Node) : Walk.list (f n) = (Walk.list n).map (List.map f) := by
  unfold Walk.list
  rw [h.faults, h.entries]
  cases n.faults.list <;> rfl

theorem child? (h : KeepsShape f) (n : Node) (name : String) :
    (f n).child? name = (n.child? name).map f := by
  have hmap : ∀ ns : List Node,
      (ns.map f).find? (·.name = name) = (ns.find? (·.name = name)).map f := by
    intro ns
    rw [List.find?_map]
    congr 2
    funext m
    rw [Function.comp_apply, h.name]
  rw [Node.child?, Node.child?, ← find?_sortByName, h.entries, hmap, find?_sortByName]

theorem at? (h : KeepsShape f) (n : Node) (names : List String) :
    (f n).at? names = (n.at? names).map f :=
  at?_of_child? h.child? n names

end KeepsShape

end Node

namespace Walk

/-- A change of nodes that no walk sees: it keeps their times as well. -/
structure Unseen (f : Node → Node) : Prop extends Node.KeepsShape f where
  time : ∀ n, (f n).time = n.time

def Frame.map (f : Node → Node) (frame : Frame) : Frame :=
  ⟨frame.base, frame.pending.map f⟩

theorem kindOf_congr {n m : Node} (kind : n.kind = m.kind) (faults : n.faults = m.faults) :
    kindOf n = kindOf m := by
  cases n <;> cases m <;> simp_all [kindOf, Node.kind, Node.faults, Node.attributes]

namespace Unseen

variable {f : Node → Node}

theorem comp {g : Node → Node} (h : Unseen f) (h' : Unseen g) : Unseen fun n => f (g n) where
  toKeepsShape := h.toKeepsShape.comp h'.toKeepsShape
  time n := (h.time _).trans (h'.time n)

theorem inspect (h : Unseen f) (scope : Scope) (n : Node) :
    inspect scope (f n) = inspect scope n := by
  unfold Walk.inspect
  rw [kindOf_congr (h.kind n) (h.faults n), h.faults, h.time]

theorem visit (h : Unseen f) (scope : Scope) (base : String) (n : Node) :
    visit scope base (f n) =
      ((visit scope base n).1, (visit scope base n).2.map (Frame.map f)) := by
  unfold Walk.visit
  rw [h.inspect, h.name, h.list]
  cases Walk.inspect scope n with
  | error e => rfl
  | ok kindAndTime =>
      dsimp only
      split
      · cases Walk.list n <;> rfl
      · rfl

theorem run (h : Unseen f) (scope : Scope) (stack : List Frame) :
    run scope (stack.map (Frame.map f)) = run scope stack := by
  induction stack using run.induct scope with
  | case1 => rfl
  | case2 base outer ih =>
      rw [List.map_cons]
      exact (run_done scope base _).trans (ih.trans (run_done scope base outer).symm)
  | case3 base n pending outer ih =>
      rw [List.map_cons, run_cons]
      refine (run_cons scope base (f n) (pending.map _) _).trans ?_
      rw [h.visit]
      rw [List.map_append, List.map_cons] at ih
      exact congrArg _ ih

/-- Directories whose entries are the same up to a change that no walk sees are walked alike. -/
theorem run_congr (h : Unseen f) (scope : Scope) {ns ms : List Node} (same : ns.map f = ms.map f) :
    Walk.run scope [⟨"", ns⟩] = Walk.run scope [⟨"", ms⟩] := by
  have hrun : ∀ ns : List Node, Walk.run scope [⟨"", ns.map f⟩] = Walk.run scope [⟨"", ns⟩] :=
    fun ns => h.run scope [⟨"", ns⟩]
  rw [← hrun ns, same, hrun ms]

end Unseen

end Walk

end TreeWatch
