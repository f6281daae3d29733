import TreeWatch.Proofs.Tree.Orderly
import TreeWatch.Proofs.Watch.Differences
import TreeWatch.Proofs.Watch.Polling
import TreeWatch.Proofs.Watch.Traversal

/-!
# The order of snapshots and events

Paths are compared part by part, the parts by their characters, and a path comes before those that
lead on from it. This is not the order of their texts: `a/z` comes before `a.txt`. A walk gives its
entries in this order, and so each half of the difference of two snapshots stands in it.
-/

namespace TreeWatch

def components (path : String) : List String :=
  (splitAt '/' path.toList).map String.ofList

/-- The parts of the first path come before those of the second, one after the other. -/
def Precedes (path other : String) : Prop :=
  components path < components other

instance (path other : String) : Decidable (Precedes path other) :=
  inferInstanceAs (Decidable (_ < _))

theorem Precedes.ne {path other : String} (h : Precedes path other) : path ≠ other := by
  rintro rfl
  exact lt_irrefl _ h

theorem components_joined {names : List String} (nonempty : names ≠ [])
    (parts : ∀ name ∈ names, IsPart name) : components (joined names) = names := by
  rw [components, splitAt_joined nonempty parts, List.map_map]
  have hid : String.ofList ∘ String.toList = id := by
    funext s
    exact String.ofList_toList
  rw [hid, List.map_id]

example : Precedes "a/z" "a.txt" ∧ Precedes "a" "a/z" ∧ "a.txt" < "a/z" := by decide

namespace Node

/-! ## The order of a walk -/

theorem isPart_of_mem_entriesBelow {scope : Scope} {n : Node} (h : n.Orderly)
    {e : List String × Int} (he : e ∈ n.entriesBelow scope) :
    e.1 ≠ [] ∧ ∀ name ∈ e.1, IsPart name := by
  induction n using induction_on_entries generalizing e with
  | step n ih =>
      obtain ⟨m, hm, hem⟩ := mem_entriesBelow.mp he
      have hpart := h.isPart hm
      obtain ⟨_, ⟨_, rfl⟩ | ⟨_, f, hf, rfl⟩⟩ := mem_contribution.mp hem
      · exact ⟨by simp, by simpa using hpart⟩
      · exact ⟨by simp, List.forall_mem_cons.mpr ⟨hpart, (ih m hm (h.of_mem hm) hf).2⟩⟩

theorem pairwise_contribution {scope : Scope} {n : Node}
    (below : (n.entriesBelow scope).Pairwise fun d e => d.1 < e.1) :
    (n.contribution scope).Pairwise fun d e => d.1 < e.1 := by
  have hdeeper : ((n.entriesBelow scope).map fun e => (n.name :: e.1, e.2)).Pairwise
      fun d e => d.1 < e.1 := by
    refine List.pairwise_map.mpr (below.imp fun hlt => ?_)
    exact List.cons_lt_cons_iff.mpr (.inr ⟨rfl, hlt⟩)
  rw [contribution_eq]
  split
  · refine List.pairwise_append.mpr ⟨?_, ?_, ?_⟩
    · split <;> simp
    · split
      · exact hdeeper
      · exact List.Pairwise.nil
    · intro d hd e he
      split at hd
      · obtain rfl := List.mem_singleton.mp hd
        split at he
        · obtain ⟨f, hf, rfl⟩ := List.mem_map.mp he
          obtain ⟨m, _, hfm⟩ := mem_entriesBelow.mp hf
          obtain ⟨name, rest, hf1⟩ := List.exists_cons_of_ne_nil (ne_nil_of_mem_contribution hfm)
          rw [hf1]
          exact List.cons_lt_cons_iff.mpr (.inr ⟨rfl, List.nil_lt_cons name rest⟩)
        · simp at he
      · simp at hd
  · exact List.Pairwise.nil

/-- Entries come in the order of the names that lead to them. -/
theorem pairwise_entriesBelow (scope : Scope) {n : Node} (h : n.Orderly) :
    (n.entriesBelow scope).Pairwise fun d e => d.1 < e.1 := by
  induction n using induction_on_entries with
  | step n ih =>
      rw [entriesBelow, List.pairwise_flatMap]
      constructor
      · intro m hm
        have hmem : m ∈ n.entries := mem_sortByName.mp hm
        exact pairwise_contribution (ih m hmem (h.of_mem hmem))
      · refine (sortByName_pairwise_lt h.names_nodup).imp ?_
        intro a b hab d hd e he
        obtain ⟨name, rest, hd1⟩ := List.exists_cons_of_ne_nil (ne_nil_of_mem_contribution hd)
        obtain ⟨name', rest', he1⟩ := List.exists_cons_of_ne_nil (ne_nil_of_mem_contribution he)
        have hname : name = a.name := by
          simpa [hd1] using head_of_mem_contribution hd
        have hname' : name' = b.name := by
          simpa [he1] using head_of_mem_contribution he
        rw [hd1, he1, hname, hname']
        exact List.cons_lt_cons_iff.mpr (.inl hab)

end Node

namespace Snapshot

/-- The paths of a snapshot stand in their order, each of them once. -/
def Canonical (s : Snapshot) : Prop :=
  s.Pairwise fun d e => Precedes d.1 e.1

theorem Canonical.nodup {s : Snapshot} (h : s.Canonical) : s.paths.Nodup :=
  List.pairwise_map.mpr (h.imp Precedes.ne)

theorem canonical_snapshotBelow (scope : Scope) {n : Node} (h : n.Orderly) :
    (n.snapshotBelow scope).Canonical := by
  refine List.pairwise_map.mpr ?_
  refine (Node.pairwise_entriesBelow scope h).imp_of_mem fun {d e} hd he hlt => ?_
  obtain ⟨hnonempty, hparts⟩ := Node.isPart_of_mem_entriesBelow h hd
  obtain ⟨hnonempty', hparts'⟩ := Node.isPart_of_mem_entriesBelow h he
  rw [Precedes, components_joined hnonempty hparts, components_joined hnonempty' hparts']
  exact hlt

theorem ofFindings_run_root (scope : Scope) {n : Node} (h : n.Orderly) :
    ofFindings (Walk.run scope [⟨"", Node.sortByName n.entries⟩]) = n.snapshotBelow scope := by
  rw [ofFindings, entries_run_root, ofList_of_nodup (canonical_snapshotBelow scope h).nodup]

end Snapshot

namespace Walk

theorem listRoot_eq_ok {w : World} {root : Path} {entries : List Node}
    (h : listRoot w root = .ok entries) :
    ∃ place, w.find root = .ok place ∧ entries = Node.sortByName place.2.entries := by
  unfold listRoot at h
  cases hfind : w.find root with
  | error e => simp [hfind] at h
  | ok place =>
      rw [hfind] at h
      dsimp only at h
      split at h
      · cases hlist : list place.2 with
        | error e => simp [hlist, Except.mapError] at h
        | ok sorted =>
            obtain rfl : sorted = entries := by simpa [hlist, Except.mapError] using h
            exact ⟨place, rfl, eq_sortByName_of_list hlist⟩
      · simp at h

theorem findings_of_orderly {w : World} (h : w.Orderly) (root : Path) :
    (∃ e, ∀ scope, findings w scope root = .error e) ∨
      ∃ n : Node, n.Orderly ∧
        ∀ scope, findings w scope root = .ok (run scope [⟨"", Node.sortByName n.entries⟩]) := by
  unfold findings
  cases hlisted : listRoot w root with
  | error e => exact .inl ⟨e, fun _ => rfl⟩
  | ok entries =>
      obtain ⟨place, hfind, rfl⟩ := listRoot_eq_ok hlisted
      exact .inr ⟨place.2, (h.root.at? (Lookup.at?_of_find hfind)).1, fun _ => rfl⟩

end Walk

namespace Snapshot

/-- What a walk finds in a world with proper names makes a snapshot in order. -/
theorem canonical_ofFindings {w : World} (h : w.Orderly) {scope : Scope} {root : Path}
    {fs : List Finding} (found : Walk.findings w scope root = .ok fs) :
    (ofFindings fs).Canonical := by
  obtain ⟨e, hfailed⟩ | ⟨n, hn, hwalked⟩ := Walk.findings_of_orderly h root
  · simp [hfailed] at found
  · obtain rfl : Walk.run scope [⟨"", Node.sortByName n.entries⟩] = fs :=
      Except.ok.inj ((hwalked scope).symm.trans found)
    rw [ofFindings_run_root scope hn]
    exact canonical_snapshotBelow scope hn

theorem canonical_look {w : World} (h : w.Orderly) (spec : Spec) :
    ((spec.look? w).getD []).Canonical := by
  unfold Spec.look?
  cases hfound : Walk.findings w spec.scope spec.root with
  | error e => exact List.Pairwise.nil
  | ok fs => exact canonical_ofFindings h hfound

end Snapshot

/-! ## The order of events -/

/-- Events in two blocks, first what is new or modified and then what is gone, each in the order of
the paths and no path in two places. -/
structure InBlocks (es arrivals departures : List Event) : Prop where
  split : es = arrivals ++ departures
  arrived : ∀ e ∈ arrivals, e.kind = .created ∨ e.kind = .modified
  departed : ∀ e ∈ departures, e.kind = .deleted
  arrivals_ordered : arrivals.Pairwise fun d e => Precedes d.path e.path
  departures_ordered : departures.Pairwise fun d e => Precedes d.path e.path
  nodup : (es.map Event.path).Nodup

namespace Snapshot

/-- The difference of snapshots in order is in order. -/
theorem inBlocks_diff {old new : Snapshot} (canonical : old.Canonical)
    (canonical' : new.Canonical) :
    InBlocks (diff old new) (new.filterMap (arrival old)) (old.filterMap (departure new)) := by
  have harrivals : (new.filterMap (arrival old)).Pairwise fun d e => Precedes d.path e.path := by
    refine canonical'.filterMap _ fun d e hlt d' hd e' he => ?_
    rwa [(arrival_eq_some hd).1, (arrival_eq_some he).1]
  have hdepartures : (old.filterMap (departure new)).Pairwise
      fun d e => Precedes d.path e.path := by
    refine canonical.filterMap _ fun d e hlt d' hd e' he => ?_
    rwa [(departure_eq_some hd).1, (departure_eq_some he).1]
  refine ⟨rfl, ?_, ?_, harrivals, hdepartures,
    nodup_map_path_diff canonical.nodup canonical'.nodup⟩
  · intro e he
    obtain ⟨entry, _, hentry⟩ := List.mem_filterMap.mp he
    exact (arrival_eq_some hentry).2
  · intro e he
    obtain ⟨entry, _, hentry⟩ := List.mem_filterMap.mp he
    exact (departure_eq_some hentry).2

end Snapshot

end TreeWatch
