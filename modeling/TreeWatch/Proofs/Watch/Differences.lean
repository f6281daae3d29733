import Mathlib.Data.List.Nodup
import Mathlib.Data.List.Perm.Basic
import TreeWatch.Proofs.Watch.Netting

/-!
# The difference of two snapshots

What the difference says of a path is what happened to it from the one snapshot to the other, and it
says no more than one thing of any path. So the events of a kind are those of the paths to which it
happened, the difference the other way round says the opposite, and the earlier snapshot amended by
it is the later one.
-/

namespace TreeWatch

/-! ## Events of a path -/

theorem mem_changesOf {path : String} {kind : ChangeKind} {es : List Event} :
    kind ∈ changesOf path es ↔ (⟨kind, path⟩ : Event) ∈ es := by
  simp only [changesOf, List.mem_filterMap, Option.ite_none_right_eq_some, Option.some.injEq]
  constructor
  · rintro ⟨e, he, rfl, rfl⟩
    exact he
  · exact fun he => ⟨_, he, rfl, rfl⟩

theorem length_changesOf (path : String) (es : List Event) :
    (changesOf path es).length = (es.map Event.path).count path := by
  induction es with
  | nil => rfl
  | cons e es ih =>
      by_cases hpath : e.path = path
      · simp_all [changesOf]
      · simp_all [changesOf]

theorem nodup_map_path {es : List Event} (h : ∀ path, (changesOf path es).length ≤ 1) :
    (es.map Event.path).Nodup := by
  refine List.nodup_iff_count_le_one.mpr fun path => ?_
  rw [← length_changesOf]
  exact h path

theorem eq_nil_iff_changesOf {es : List Event} : es = [] ↔ ∀ path, changesOf path es = [] := by
  constructor
  · rintro rfl path
    rfl
  · intro h
    refine List.eq_nil_iff_forall_not_mem.mpr fun e he => ?_
    have hmem : e.kind ∈ changesOf e.path es := mem_changesOf.mpr he
    rw [h] at hmem
    exact List.not_mem_nil hmem

/-! ## Changes the other way round -/

def ChangeKind.opposite : ChangeKind → ChangeKind
  | created => deleted
  | modified => modified
  | deleted => created

theorem change?_eq_some_opposite_iff {before after : Option Int} {kind : ChangeKind} :
    change? after before = some kind ↔ change? before after = some kind.opposite := by
  cases before <;> cases after <;> cases kind <;> simp [change?, ChangeKind.opposite, eq_comm]

namespace Snapshot

/-! ## Snapshots as maps -/

theorem time?_eq_some_iff {s : Snapshot} (nodup : s.paths.Nodup) {path : String} {time : Int} :
    s.time? path = some time ↔ (path, time) ∈ s := by
  induction s with
  | nil => simp [time?]
  | cons e rest ih =>
      rw [paths_cons, List.nodup_cons] at nodup
      rw [time?_cons, List.mem_cons, ← ih nodup.2]
      by_cases hpath : e.1 = path
      · have habsent : time? rest path = none := time?_eq_none_iff.mpr (hpath ▸ nodup.1)
        simp [hpath, habsent, Prod.ext_iff, eq_comm]
      · simp [hpath, Prod.ext_iff, Ne.symm hpath]

/-- Snapshots hold the same in some order if every path has the same time in both. -/
theorem perm_iff_time?_eq {s t : Snapshot} (nodup : s.paths.Nodup) (nodup' : t.paths.Nodup) :
    s.Perm t ↔ ∀ path, s.time? path = t.time? path := by
  rw [List.perm_ext_iff_of_nodup (List.Nodup.of_map _ nodup) (List.Nodup.of_map _ nodup')]
  constructor
  · intro h path
    refine Option.ext fun time => ?_
    rw [time?_eq_some_iff nodup, time?_eq_some_iff nodup', h]
  · rintro h ⟨path, time⟩
    rw [← time?_eq_some_iff nodup, ← time?_eq_some_iff nodup', h]

theorem time?_put (path : String) (time : Int) (s : Snapshot) (other : String) :
    (put path time s).time? other = if path = other then some time else s.time? other := by
  induction s with
  | nil => simp [put, time?_cons]
  | cons e rest ih =>
      unfold put
      split
      · next hsame =>
          rw [time?_cons, time?_cons, hsame]
          split <;> rfl
      · next hne =>
          rw [time?_cons, time?_cons, ih]
          split <;> split <;> simp_all

def without (path : String) (s : Snapshot) : Snapshot :=
  s.filter (·.1 ≠ path)

theorem time?_without (path : String) (s : Snapshot) (other : String) :
    (without path s).time? other = if path = other then none else s.time? other := by
  induction s with
  | nil => simp [without, time?]
  | cons e rest ih =>
      rw [without] at ih ⊢
      by_cases hsame : e.1 = path
      · rw [List.filter_cons_of_neg (by simpa using hsame), ih, time?_cons, hsame]
        split <;> rfl
      · rw [List.filter_cons_of_pos (by simpa using hsame), time?_cons, time?_cons, ih]
        split <;> split <;> simp_all

theorem nodup_paths_without (path : String) {s : Snapshot} (nodup : s.paths.Nodup) :
    (without path s).paths.Nodup :=
  nodup.sublist (List.filter_sublist.map _)

/-! ## Amending -/

/-- The snapshot after a change. What is created or modified gets the time that it has later. -/
def amend (later : Snapshot) (s : Snapshot) (e : Event) : Snapshot :=
  match e.kind with
  | .deleted => without e.path s
  | .created | .modified =>
    match later.time? e.path with
    | some time => put e.path time s
    | none => s

def amendAll (later : Snapshot) (es : List Event) (s : Snapshot) : Snapshot :=
  es.foldl (amend later) s

def amendedTime (later before : Option Int) : ChangeKind → Option Int
  | .deleted => none
  | .created | .modified => later.or before

theorem time?_amend (later s : Snapshot) (e : Event) (path : String) :
    (amend later s e).time? path =
      if e.path = path then amendedTime (later.time? path) (s.time? path) e.kind
      else s.time? path := by
  have hset : (match later.time? e.path with
      | some time => put e.path time s
      | none => s).time? path =
        if e.path = path then (later.time? path).or (s.time? path) else s.time? path := by
    cases hlater : later.time? e.path with
    | none =>
        by_cases hpath : e.path = path
        · rw [if_pos hpath, ← hpath, hlater, Option.none_or]
        · rw [if_neg hpath]
    | some time =>
        rw [time?_put]
        by_cases hpath : e.path = path
        · rw [if_pos hpath, if_pos hpath, ← hpath, hlater, Option.some_or]
        · rw [if_neg hpath, if_neg hpath]
  obtain ⟨kind, other⟩ := e
  cases kind with
  | deleted => exact time?_without other s path
  | created | modified => exact hset

theorem time?_amendAll (later : Snapshot) (es : List Event) (s : Snapshot) (path : String) :
    (amendAll later es s).time? path =
      (changesOf path es).foldl (amendedTime (later.time? path)) (s.time? path) := by
  induction es generalizing s with
  | nil => rfl
  | cons e es ih =>
      refine (ih (amend later s e)).trans ?_
      rw [time?_amend]
      by_cases hpath : e.path = path <;> simp [changesOf, hpath]

theorem nodup_paths_amendAll (later : Snapshot) (es : List Event) {s : Snapshot}
    (nodup : s.paths.Nodup) : (amendAll later es s).paths.Nodup := by
  induction es generalizing s with
  | nil => exact nodup
  | cons e es ih =>
      refine ih ?_
      unfold amend
      split
      · exact nodup_paths_without e.path nodup
      · split
        · exact nodup_paths_put e.path _ nodup
        · exact nodup
      · split
        · exact nodup_paths_put e.path _ nodup
        · exact nodup

/-! ## What the difference says -/

theorem arrival_eq_some {old : Snapshot} {entry : String × Int} {e : Event}
    (h : arrival old entry = some e) :
    e.path = entry.1 ∧ (e.kind = .created ∨ e.kind = .modified) := by
  unfold arrival at h
  split at h
  · cases h
    exact ⟨rfl, .inl rfl⟩
  · split at h
    · simp at h
    · cases h
      exact ⟨rfl, .inr rfl⟩

theorem departure_eq_some {new : Snapshot} {entry : String × Int} {e : Event}
    (h : departure new entry = some e) : e.path = entry.1 ∧ e.kind = .deleted := by
  unfold departure at h
  split at h
  · cases h
    exact ⟨rfl, rfl⟩
  · simp at h

theorem sublist_paths_of_filterMap {f : String × Int → Option Event}
    (own : ∀ entry e, f entry = some e → e.path = entry.1) (s : Snapshot) :
    ((s.filterMap f).map Event.path).Sublist s.paths := by
  induction s with
  | nil => exact List.Sublist.slnil
  | cons entry rest ih =>
      cases hf : f entry with
      | none =>
          rw [List.filterMap_cons_none hf, paths_cons]
          exact ih.cons entry.1
      | some e =>
          rw [List.filterMap_cons_some hf, List.map_cons, own entry e hf, paths_cons]
          exact ih.cons_cons entry.1

section Difference

variable {old new : Snapshot}

theorem mem_diff_iff (nodup : old.paths.Nodup) (nodup' : new.paths.Nodup) {kind : ChangeKind}
    {path : String} :
    (⟨kind, path⟩ : Event) ∈ diff old new ↔
      change? (old.time? path) (new.time? path) = some kind := by
  rw [← mem_changesOf, changesOf_diff nodup nodup', Option.mem_toList]

theorem nodup_map_path_diff (nodup : old.paths.Nodup) (nodup' : new.paths.Nodup) :
    ((diff old new).map Event.path).Nodup := by
  refine nodup_map_path fun path => ?_
  rw [changesOf_diff nodup nodup', Option.length_toList]
  split <;> decide

theorem diff_eq_nil_iff (nodup : old.paths.Nodup) (nodup' : new.paths.Nodup) :
    diff old new = [] ↔ old.Perm new := by
  rw [eq_nil_iff_changesOf, perm_iff_time?_eq nodup nodup']
  refine forall_congr' fun path => ?_
  rw [changesOf_diff nodup nodup', Option.toList_eq_nil_iff, change?_eq_none_iff]

theorem amendAll_diff_perm (nodup : old.paths.Nodup) (nodup' : new.paths.Nodup) :
    (amendAll new (diff old new) old).Perm new := by
  refine (perm_iff_time?_eq (nodup_paths_amendAll new _ nodup) nodup').mpr fun path => ?_
  rw [time?_amendAll, changesOf_diff nodup nodup']
  cases old.time? path with
  | none => cases new.time? path <;> rfl
  | some before =>
      cases new.time? path with
      | none => rfl
      | some after => by_cases hsame : before = after <;> simp [change?, hsame, amendedTime]

end Difference

/-- Events that tell two snapshots apart: of each path that is not the same in both they say in what
way, once, first in the order of the later snapshot and then in that of the earlier one. -/
structure TellsApart (old new : Snapshot) (es : List Event) : Prop where
  created : ∀ path, (⟨.created, path⟩ : Event) ∈ es ↔ path ∉ old.paths ∧ path ∈ new.paths
  modified : ∀ path, (⟨.modified, path⟩ : Event) ∈ es ↔
    ∃ before after, (path, before) ∈ old ∧ (path, after) ∈ new ∧ before ≠ after
  deleted : ∀ path, (⟨.deleted, path⟩ : Event) ∈ es ↔ path ∈ old.paths ∧ path ∉ new.paths
  nodup : (es.map Event.path).Nodup
  ordered : ∃ arrivals departures, es = arrivals ++ departures ∧
    (∀ e ∈ arrivals, e.kind = .created ∨ e.kind = .modified) ∧
    (∀ e ∈ departures, e.kind = .deleted) ∧
    (arrivals.map Event.path).Sublist new.paths ∧
    (departures.map Event.path).Sublist old.paths

/-- The difference of two snapshots tells them apart. It is empty just when they hold the same, the
difference the other way round is its mirror image, and it leads from the one to the other. -/
theorem tellsApart_diff {old new : Snapshot} (nodup : old.paths.Nodup)
    (nodup' : new.paths.Nodup) :
    TellsApart old new (diff old new) ∧
      (diff old new = [] ↔ old.Perm new) ∧
      (∀ kind path, (⟨kind, path⟩ : Event) ∈ diff new old ↔
        ⟨kind.opposite, path⟩ ∈ diff old new) ∧
      (amendAll new (diff old new) old).Perm new := by
  refine ⟨⟨?_, ?_, ?_, nodup_map_path_diff nodup nodup', ?_⟩, diff_eq_nil_iff nodup nodup', ?_,
    amendAll_diff_perm nodup nodup'⟩
  · intro path
    rw [mem_diff_iff nodup nodup', mem_paths_iff_time?, mem_paths_iff_time?]
    cases old.time? path <;> cases new.time? path <;> simp [change?]
  · intro path
    rw [mem_diff_iff nodup nodup']
    simp only [← time?_eq_some_iff nodup, ← time?_eq_some_iff nodup']
    cases old.time? path <;> cases new.time? path <;> simp [change?]
  · intro path
    rw [mem_diff_iff nodup nodup', mem_paths_iff_time?, mem_paths_iff_time?]
    cases old.time? path <;> cases new.time? path <;> simp [change?]
  · refine ⟨_, _, rfl, ?_, ?_, sublist_paths_of_filterMap (fun _ _ h => (arrival_eq_some h).1) new,
      sublist_paths_of_filterMap (fun _ _ h => (departure_eq_some h).1) old⟩
    · intro e he
      obtain ⟨entry, _, hentry⟩ := List.mem_filterMap.mp he
      exact (arrival_eq_some hentry).2
    · intro e he
      obtain ⟨entry, _, hentry⟩ := List.mem_filterMap.mp he
      exact (departure_eq_some hentry).2
  · intro kind path
    rw [mem_diff_iff nodup' nodup, mem_diff_iff nodup nodup', change?_eq_some_opposite_iff]

theorem tellsApart_diff_crossing :
    let old : Snapshot := [("z", 1), ("a", 0), ("y", -1), ("m", 1)]
    let new : Snapshot := [("m", 0), ("c", -3), ("a", 0)]
    diff old new = [⟨.modified, "m"⟩, ⟨.created, "c"⟩, ⟨.deleted, "z"⟩, ⟨.deleted, "y"⟩] ∧
      old.paths.Nodup ∧ new.paths.Nodup ∧ TellsApart old new (diff old new) ∧
      (amendAll new (diff old new) old).Perm new := by
  intro old new
  have nodup : old.paths.Nodup := by decide
  have nodup' : new.paths.Nodup := by decide
  obtain ⟨happart, -, -, hamended⟩ := tellsApart_diff nodup nodup'
  exact ⟨by decide, nodup, nodup', happart, hamended⟩

end Snapshot

end TreeWatch
