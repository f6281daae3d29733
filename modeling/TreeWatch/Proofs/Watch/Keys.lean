import TreeWatch.Watch.Snapshot
import Mathlib.Data.List.Nodup

/-!
# Paths of a snapshot

A snapshot that comes from giving paths their times one after the other holds no path twice, and
looking up one of its entries gives the time that stands beside it.
-/

namespace TreeWatch.Snapshot

def paths (s : Snapshot) : List String :=
  s.map (·.1)

@[simp] theorem paths_nil : paths [] = [] := rfl

@[simp] theorem paths_cons (e : String × Int) (s : Snapshot) : paths (e :: s) = e.1 :: paths s :=
  rfl

@[simp] theorem paths_append (s t : Snapshot) : paths (s ++ t) = paths s ++ paths t :=
  List.map_append

/-! ## Giving times -/

theorem put_of_not_mem {path : String} (time : Int) {s : Snapshot} (h : path ∉ paths s) :
    put path time s = s ++ [(path, time)] := by
  induction s with
  | nil => rfl
  | cons e rest ih =>
      rw [paths_cons, List.mem_cons, not_or] at h
      obtain ⟨hne, hrest⟩ := h
      simp [put, Ne.symm hne, ih hrest]

theorem paths_put_of_mem {path : String} (time : Int) {s : Snapshot} (h : path ∈ paths s) :
    paths (put path time s) = paths s := by
  induction s with
  | nil => simp at h
  | cons e rest ih =>
      unfold put
      split
      · next heq => simp [heq]
      · next hne =>
          have hrest : path ∈ paths rest := by simpa [Ne.symm hne] using h
          simp [ih hrest]

theorem nodup_paths_put (path : String) (time : Int) {s : Snapshot} (h : (paths s).Nodup) :
    (paths (put path time s)).Nodup := by
  by_cases hmem : path ∈ paths s
  · rwa [paths_put_of_mem time hmem]
  · rw [put_of_not_mem time hmem, paths_append]
    exact List.Nodup.append h (List.nodup_singleton path) (by simpa using hmem)

theorem nodup_paths_ofList (pairs : List (String × Int)) : (paths (ofList pairs)).Nodup := by
  have general : ∀ s : Snapshot, (paths s).Nodup →
      (paths (pairs.foldl (fun s e => put e.1 e.2 s) s)).Nodup := by
    induction pairs with
    | nil => exact fun s hs => hs
    | cons e rest ih => exact fun s hs => ih _ (nodup_paths_put e.1 e.2 hs)
  exact general [] List.nodup_nil

/-- Different paths simply line up. -/
theorem ofList_of_nodup {pairs : List (String × Int)} (h : (paths pairs).Nodup) :
    ofList pairs = pairs := by
  have general : ∀ s : Snapshot, (paths (s ++ pairs)).Nodup →
      pairs.foldl (fun s e => put e.1 e.2 s) s = s ++ pairs := by
    induction pairs with
    | nil => simp
    | cons e rest ih =>
        intro s hs
        have hnew : e.1 ∉ paths s := by
          intro hmem
          rw [paths_append, paths_cons] at hs
          exact (List.nodup_append.mp hs).2.2 e.1 hmem e.1 List.mem_cons_self rfl
        have hput : put e.1 e.2 s = s ++ [e] := put_of_not_mem e.2 hnew
        rw [List.foldl_cons, hput, ih (List.Nodup.of_cons h)]
        · simp
        · simpa using hs
  exact general [] h

/-! ## Looking up -/

theorem time?_eq_none_iff {s : Snapshot} {path : String} :
    s.time? path = none ↔ path ∉ s.paths := by
  simp only [time?, Option.map_eq_none_iff, List.find?_eq_none, paths, List.mem_map,
    decide_eq_true_eq]
  constructor
  · rintro h ⟨e, he, rfl⟩
    exact h e he rfl
  · intro h e he heq
    exact h ⟨e, he, heq⟩

theorem mem_paths_iff_time? {s : Snapshot} {path : String} :
    path ∈ s.paths ↔ ∃ time, s.time? path = some time := by
  rw [← Option.isSome_iff_exists, Option.isSome_iff_ne_none, ne_eq, time?_eq_none_iff, not_not]

theorem time?_cons (e : String × Int) (s : Snapshot) (path : String) :
    time? (e :: s) path = if e.1 = path then some e.2 else time? s path := by
  unfold time?
  by_cases hpath : e.1 = path <;> simp [hpath]

end TreeWatch.Snapshot
