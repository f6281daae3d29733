import TreeWatch.Proofs.Watch.Order

/-!
# The top level of a directory

A walk that does not go below its directory finds of it what any other walk finds at its top: the
entries whose paths are a single part. It asks them the same questions, so that what cannot be told
of an entry is missing in both. The difference of two snapshots goes path by path, and therefore the
events at the top are told in the same way.
-/

namespace TreeWatch

namespace Scope

def flat (scope : Scope) : Scope :=
  { scope with recursive := false }

def deep (scope : Scope) : Scope :=
  { scope with recursive := true }

end Scope

/-! ## Paths of a single part -/

theorem isPart_joined_iff {names : List String} (nonempty : names ≠ [])
    (parts : ∀ name ∈ names, IsPart name) : IsPart (joined names) ↔ names.length = 1 := by
  cases names with
  | nil => exact absurd rfl nonempty
  | cons name rest =>
      cases rest with
      | nil => simpa using parts name List.mem_cons_self
      | cons next more =>
          have hslash : '/' ∈ (joined (name :: next :: more)).toList := by
            rw [joined_cons name (List.cons_ne_nil next more)]
            simp [String.toList_append]
          simp [IsPart, hslash]

namespace Node

/-! ## Entries at the top -/

theorem contribution_flat (scope : Scope) (n : Node) :
    n.contribution scope.flat =
      (n.contribution scope.deep).filter fun e => e.1.length = 1 := by
  have hinspected : n.isInspected scope.flat = n.isInspected scope.deep := rfl
  have hflat : n.isDescended scope.flat = false := by simp [isDescended, Scope.flat]
  have hown : (if scope.deep.tracks n.kind then [([n.name], n.time)] else []).filter
        (fun e => e.1.length = 1) =
      if scope.flat.tracks n.kind then [([n.name], n.time)] else [] := by
    by_cases htracks : scope.flat.tracks n.kind = true
    · exact (congrArg _ (if_pos htracks)).trans (if_pos htracks).symm
    · exact (congrArg _ (if_neg htracks)).trans (if_neg htracks).symm
  -- What is below an entry has the name of the entry in front of at least one more.
  have hdeeper : (if n.isDescended scope.deep then
        (n.entriesBelow scope.deep).map fun e => (n.name :: e.1, e.2) else []).filter
          (fun e => e.1.length = 1) = [] := by
    refine List.filter_eq_nil_iff.mpr fun e he => ?_
    split at he
    · obtain ⟨f, hf, rfl⟩ := List.mem_map.mp he
      obtain ⟨m, _, hfm⟩ := mem_entriesBelow.mp hf
      simpa using ne_nil_of_mem_contribution hfm
    · simp at he
  rw [contribution_eq, contribution_eq, hinspected, hflat]
  split
  · rw [List.filter_append, hown, hdeeper]
    rfl
  · rfl

/-- A walk that stays at the top reports the entries that go by a single name. -/
theorem entriesBelow_flat (scope : Scope) (n : Node) :
    n.entriesBelow scope.flat =
      (n.entriesBelow scope.deep).filter fun e => e.1.length = 1 := by
  rw [entriesBelow, entriesBelow, List.filter_flatMap]
  exact List.flatMap_congr fun m _ => contribution_flat scope m

end Node

/-! ## Snapshots and events at the top -/

/-- The entries of a snapshot whose paths hold no slash. -/
def Snapshot.topLevel (s : Snapshot) : Snapshot :=
  s.filter fun e => IsPart e.1

def topLevel (es : List Event) : List Event :=
  es.filter fun e => IsPart e.path

namespace Snapshot

@[simp] theorem topLevel_nil : topLevel [] = [] := rfl

theorem snapshotBelow_flat (scope : Scope) {n : Node} (h : n.Orderly) :
    n.snapshotBelow scope.flat = (n.snapshotBelow scope.deep).topLevel := by
  rw [Node.snapshotBelow, Node.snapshotBelow, topLevel, List.filter_map, Node.entriesBelow_flat]
  refine congrArg _ (List.filter_congr fun e he => ?_)
  obtain ⟨hnonempty, hparts⟩ := Node.isPart_of_mem_entriesBelow h he
  simp [isPart_joined_iff hnonempty hparts]

theorem time?_topLevel (s : Snapshot) {path : String} (isPart : IsPart path) :
    s.topLevel.time? path = s.time? path := by
  induction s with
  | nil => rfl
  | cons e rest ih =>
      have hcons : topLevel (e :: rest) =
          if IsPart e.1 then e :: topLevel rest else topLevel rest := by
        simp [topLevel, List.filter_cons]
      rw [hcons]
      split
      · rw [time?_cons, time?_cons, ih]
      · next hpart =>
          have hne : e.1 ≠ path := fun heq => hpart (heq ▸ isPart)
          rw [time?_cons, if_neg hne, ih]

/-- What becomes of the entries at the top is what becomes of all entries, as far as it concerns the
top. -/
theorem filterMap_topLevel {f g : String × Int → Option Event} (s : Snapshot)
    (path : ∀ e d, g e = some d → d.path = e.1) (same : ∀ e, IsPart e.1 → f e = g e) :
    s.topLevel.filterMap f = TreeWatch.topLevel (s.filterMap g) := by
  rw [topLevel, TreeWatch.topLevel, List.filterMap_filter, List.filter_filterMap]
  refine List.filterMap_congr fun e _ => ?_
  have hevent : (g e).filter (fun d => IsPart d.path) = if IsPart e.1 then g e else none := by
    cases hg : g e with
    | none => simp
    | some d => rw [Option.filter_some, path e d hg]; simp
  by_cases hpart : IsPart e.1
  · rw [if_pos (decide_eq_true hpart), same e hpart, hevent, if_pos hpart]
  · rw [if_neg (by simpa using hpart), hevent, if_neg hpart]

/-- The differences at the top are the difference of the tops. -/
theorem diff_topLevel (old new : Snapshot) :
    diff old.topLevel new.topLevel = TreeWatch.topLevel (diff old new) := by
  have harrivals : new.topLevel.filterMap (arrival old.topLevel) =
      TreeWatch.topLevel (new.filterMap (arrival old)) := by
    refine new.filterMap_topLevel (fun e d hd => (arrival_eq_some hd).1) fun e hpart => ?_
    rw [arrival, arrival, old.time?_topLevel hpart]
  have hdepartures : old.topLevel.filterMap (departure new.topLevel) =
      TreeWatch.topLevel (old.filterMap (departure new)) := by
    refine old.filterMap_topLevel (fun e d hd => (departure_eq_some hd).1) fun e hpart => ?_
    rw [departure, departure, new.time?_topLevel hpart]
  rw [diff, diff, harrivals, hdepartures, TreeWatch.topLevel, TreeWatch.topLevel,
    TreeWatch.topLevel, List.filter_append]

/-! ## Looks -/

theorem take_flat {w : World} (h : w.Orderly) (scope : Scope) (root : Path) :
    (take w scope.flat root).outcome = (take w scope.deep root).outcome.map topLevel := by
  unfold take
  split
  · rfl
  · obtain ⟨e, hfailed⟩ | ⟨n, hn, hwalked⟩ := Walk.findings_of_orderly h root
    · rw [hfailed, hfailed]
      rfl
    · rw [hwalked, hwalked]
      show Except.ok _ = Except.ok _
      rw [ofFindings_run_root _ hn, ofFindings_run_root _ hn, snapshotBelow_flat scope hn]

end Snapshot

/-- What is watched is the same directory, once without what is below the directories in it and once
with it; the rest is watched alike, at whatever intervals. -/
structure Spec.IsTopOf (spec deeper : Spec) : Prop where
  root : spec.root = deeper.root
  scope : spec.scope = deeper.scope.flat
  recursive : deeper.scope.recursive = true

instance (spec deeper : Spec) : Decidable (spec.IsTopOf deeper) :=
  decidable_of_iff (_ ∧ _ ∧ _) ⟨fun h => ⟨h.1, h.2.1, h.2.2⟩, fun h => ⟨h.1, h.2, h.3⟩⟩

theorem Spec.IsTopOf.look? {spec deeper : Spec} (h : spec.IsTopOf deeper) {w : World}
    (orderly : w.Orderly) : spec.look? w = (deeper.look? w).map Snapshot.topLevel := by
  have hdeep : deeper.scope = deeper.scope.deep := by
    rw [Scope.deep, ← h.recursive]
  unfold Spec.look?
  obtain ⟨e, hfailed⟩ | ⟨n, hn, hwalked⟩ := Walk.findings_of_orderly orderly deeper.root
  · rw [h.root, hfailed, hfailed]
    rfl
  · rw [h.root, h.scope, hwalked, hwalked]
    simp only [Option.map_some, Snapshot.ofFindings_run_root _ hn]
    rw [hdeep]
    exact congrArg some (Snapshot.snapshotBelow_flat deeper.scope hn)

end TreeWatch
