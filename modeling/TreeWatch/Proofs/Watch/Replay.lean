import Mathlib
import TreeWatch.Proofs.Watch.Keys

/-!
# Replaying changes

Changes act on the set of paths that are present: what is created must be absent, what is modified
or deleted must be there. The difference of two snapshots is a list of changes that can happen in
its order, and it leads from the paths of the one to those of the other.
-/

namespace TreeWatch

/-- The paths present after a change, if the change can happen. -/
def Event.replay? (present : Finset String) (e : Event) : Option (Finset String) :=
  match e.kind with
  | .created => if e.path ∈ present then none else some (insert e.path present)
  | .modified => if e.path ∈ present then some present else none
  | .deleted => if e.path ∈ present then some (present.erase e.path) else none

def replay? (present : Finset String) (es : List Event) : Option (Finset String) :=
  es.foldlM Event.replay? present

@[simp] theorem replay?_nil (present : Finset String) : replay? present [] = some present := rfl

theorem replay?_cons (present : Finset String) (e : Event) (es : List Event) :
    replay? present (e :: es) = (e.replay? present).bind (replay? · es) := rfl

theorem replay?_append (present : Finset String) (es fs : List Event) :
    replay? present (es ++ fs) = (replay? present es).bind (replay? · fs) :=
  List.foldlM_append

namespace Snapshot

def pathSet (s : Snapshot) : Finset String :=
  s.paths.toFinset

@[simp] theorem mem_pathSet {s : Snapshot} {path : String} : path ∈ s.pathSet ↔ path ∈ s.paths :=
  List.mem_toFinset

@[simp] theorem pathSet_nil : pathSet [] = ∅ := rfl

@[simp] theorem pathSet_cons (e : String × Int) (s : Snapshot) :
    pathSet (e :: s) = insert e.1 (pathSet s) :=
  List.toFinset_cons

/-- What arrives adds its paths to those present. The entries still to come are new to what is
present unless they were there from the start. -/
theorem replay?_arrivals {old new : Snapshot} {present : Finset String}
    (nodup : new.paths.Nodup) (start : old.pathSet ⊆ present)
    (fresh : ∀ path ∈ new.paths, path ∈ present → path ∈ old.paths) :
    replay? present (new.filterMap (arrival old)) = some (present ∪ new.pathSet) := by
  induction new generalizing present with
  | nil => simp
  | cons e rest ih =>
      rw [paths_cons, List.nodup_cons] at nodup
      have hrest : ∀ path ∈ paths rest, path ∈ insert e.1 present → path ∈ old.paths := by
        intro path hpath hmem
        rcases Finset.mem_insert.mp hmem with rfl | hpresent
        · exact absurd hpath nodup.1
        · exact fresh path (List.mem_cons_of_mem _ hpath) hpresent
      have hstart : old.pathSet ⊆ insert e.1 present :=
        start.trans (Finset.subset_insert _ _)
      have hunion : present ∪ pathSet (e :: rest) = insert e.1 present ∪ pathSet rest := by
        rw [pathSet_cons, Finset.union_insert, Finset.insert_union]
      have hnext := ih nodup.2 hstart hrest
      rw [hunion]
      cases htime : old.time? e.1 with
      | none =>
          have habsent : e.1 ∉ present := fun hmem =>
            time?_eq_none_iff.mp htime (fresh e.1 List.mem_cons_self hmem)
          have harrival : arrival old e = some ⟨.created, e.1⟩ := by simp [arrival, htime]
          rw [List.filterMap_cons_some harrival, replay?_cons]
          simpa [Event.replay?, habsent] using hnext
      | some time =>
          have hpresent : e.1 ∈ present :=
            start (mem_pathSet.mpr (mem_paths_iff_time?.mpr ⟨time, htime⟩))
          rw [Finset.insert_eq_of_mem hpresent] at hnext ⊢
          by_cases hsame : time = e.2
          · have harrival : arrival old e = none := by simp [arrival, htime, hsame]
            rw [List.filterMap_cons_none harrival]
            exact hnext
          · have harrival : arrival old e = some ⟨.modified, e.1⟩ := by
              simp [arrival, htime, hsame]
            rw [List.filterMap_cons_some harrival, replay?_cons]
            simpa [Event.replay?, hpresent] using hnext

/-- What departs takes away its own paths and no others. -/
theorem replay?_departures {old new : Snapshot} {present : Finset String}
    (nodup : old.paths.Nodup) (start : old.pathSet ⊆ present) :
    replay? present (old.filterMap (departure new)) =
      some (present.filter fun path => path ∈ old.paths → path ∈ new.paths) := by
  induction old generalizing present with
  | nil => simp
  | cons e rest ih =>
      rw [paths_cons, List.nodup_cons] at nodup
      have hpresent : e.1 ∈ present := start (by simp)
      have hrest : pathSet rest ⊆ present := fun path hpath => start (by simp_all)
      cases htime : new.time? e.1 with
      | some time =>
          have hdeparture : departure new e = none := by simp [departure, htime]
          have hnew : e.1 ∈ new.paths := mem_paths_iff_time?.mpr ⟨time, htime⟩
          rw [List.filterMap_cons_none hdeparture, ih nodup.2 hrest]
          congr 1
          refine Finset.filter_congr fun path _ => ?_
          rw [paths_cons, List.mem_cons]
          constructor
          · rintro h (rfl | hmem)
            · exact hnew
            · exact h hmem
          · exact fun h hmem => h (.inr hmem)
      | none =>
          have hdeparture : departure new e = some ⟨.deleted, e.1⟩ := by simp [departure, htime]
          have hnew : e.1 ∉ new.paths := time?_eq_none_iff.mp htime
          have herased : pathSet rest ⊆ present.erase e.1 := by
            intro path hpath
            refine Finset.mem_erase.mpr ⟨?_, hrest hpath⟩
            rintro rfl
            exact nodup.1 (mem_pathSet.mp hpath)
          rw [List.filterMap_cons_some hdeparture, replay?_cons]
          simp only [Event.replay?, if_pos hpresent, Option.bind_some, ih nodup.2 herased]
          congr 1
          ext path
          simp only [Finset.mem_filter, Finset.mem_erase, paths_cons, List.mem_cons]
          constructor
          · rintro ⟨⟨hne, hmem⟩, h⟩
            exact ⟨hmem, fun hor => h (hor.resolve_left hne)⟩
          · rintro ⟨hmem, h⟩
            refine ⟨⟨?_, hmem⟩, fun hrest => h (.inr hrest)⟩
            rintro rfl
            exact hnew (h (.inl rfl))

/-- Replaying the difference of two snapshots leads from the paths of the one to those of the
other. -/
theorem replay?_diff {old new : Snapshot} (nodup : old.paths.Nodup) (nodup' : new.paths.Nodup) :
    replay? old.pathSet (diff old new) = some new.pathSet := by
  have harrivals := replay?_arrivals nodup' (Finset.Subset.refl old.pathSet)
    fun path _ hmem => mem_pathSet.mp hmem
  rw [diff, replay?_append, harrivals, Option.bind_some,
    replay?_departures nodup Finset.subset_union_left]
  congr 1
  ext path
  simp only [Finset.mem_filter, Finset.mem_union, mem_pathSet]
  tauto

end Snapshot

end TreeWatch
