import Mathlib
import TreeWatch.Proofs.Watch.Enumeration
import TreeWatch.Proofs.Watch.Keys

/-!
# The walk follows the recursion

A walk that is in the middle of some directories still owes what the pending entries of each
contribute, the innermost first. Every step pays for what it reports, so the walk of a directory
that can be listed reports its entries as the recursion on the tree gives them.
-/

namespace TreeWatch

def placed (base : String) (e : List String × Int) : String × Int :=
  (base ++ joined e.1, e.2)

theorem placed_cons (base name : String) {e : List String × Int} (h : e.1 ≠ []) :
    placed base (name :: e.1, e.2) = placed (base ++ name ++ "/") e := by
  simp [placed, joined_cons name h, String.append_assoc]

namespace Walk

/-! ## One step -/

theorem kindOf_of_isClassified {n : Node} (h : n.isClassified = true) : kindOf n = .ok n.kind := by
  simp only [Node.isClassified, Bool.and_eq_true, Bool.or_eq_true, Option.isNone_iff_eq_none,
    decide_eq_true_eq] at h
  obtain ⟨hclassify, hkind⟩ := h
  cases n <;> simp_all [kindOf, check, Node.kind, bind, Except.bind]

theorem kindOf_of_not_isClassified {n : Node} (h : ¬ n.isClassified = true) :
    ∃ e, kindOf n = .error e := by
  cases hclassify : n.faults.classify with
  | some e => exact ⟨e, by simp [kindOf, hclassify, check, bind, Except.bind]⟩
  | none =>
      cases hdir : n.faults.isDir with
      | some e =>
          refine ⟨e, ?_⟩
          cases n <;> simp_all [Node.isClassified, Node.kind, kindOf, check, bind, Except.bind]
      | none =>
          cases hfile : n.faults.isFile with
          | some e =>
              refine ⟨e, ?_⟩
              cases n <;> simp_all [Node.isClassified, Node.kind, kindOf, check, bind, Except.bind]
          | none => simp [Node.isClassified, hclassify, hdir, hfile] at h

theorem inspect_of_isInspected {scope : Scope} {n : Node} (h : n.isInspected scope = true) :
    inspect scope n = .ok (n.kind, if scope.tracks n.kind then some n.time else none) := by
  rw [Node.isInspected, Bool.and_eq_true] at h
  obtain ⟨hclassified, hstat⟩ := h
  by_cases htracks : scope.tracks n.kind = true
  · have hnone : n.faults.stat = none := by simpa [htracks] using hstat
    simp [inspect, kindOf_of_isClassified hclassified, htracks, hnone, check, bind, Except.bind]
  · simp [inspect, kindOf_of_isClassified hclassified, htracks, bind, Except.bind]

theorem inspect_of_not_isInspected {scope : Scope} {n : Node} (h : ¬ n.isInspected scope = true) :
    ∃ e, inspect scope n = .error e := by
  by_cases hclassified : n.isClassified = true
  · rw [Node.isInspected, hclassified, Bool.true_and, Bool.or_eq_true, not_or] at h
    obtain ⟨htracks, hstat⟩ := h
    cases hfault : n.faults.stat with
    | none => simp [hfault] at hstat
    | some e =>
        refine ⟨e, ?_⟩
        simp_all [inspect, kindOf_of_isClassified hclassified, check, bind, Except.bind]
  · obtain ⟨e, he⟩ := kindOf_of_not_isClassified hclassified
    exact ⟨e, by simp [inspect, he, bind, Except.bind]⟩

/-- What the pending entries of some directories contribute. -/
def owed (scope : Scope) (stack : List Frame) : Snapshot :=
  stack.flatMap fun f => (f.pending.flatMap (Node.contribution scope)).map (placed f.base)

/-- What a visit reports and what it leaves pending make up the contribution of the entry. -/
theorem visit_eq (scope : Scope) (base : String) (n : Node) :
    (visit scope base n).1.filterMap Finding.entry? ++ owed scope (visit scope base n).2 =
      (n.contribution scope).map (placed base) := by
  rw [Node.contribution_eq]
  by_cases hinspected : n.isInspected scope = true
  · have hown : (((if scope.tracks n.kind then some n.time else none).map
        (Finding.entry (base ++ n.name))).toList).filterMap Finding.entry? =
          (if scope.tracks n.kind then [([n.name], n.time)] else []).map (placed base) := by
      by_cases htracks : scope.tracks n.kind = true <;> simp [htracks, Finding.entry?, placed]
    have hdeeper : ∀ entries, list n = .ok entries →
        owed scope [⟨base ++ n.name ++ "/", entries⟩] =
          ((n.entriesBelow scope).map fun e => (n.name :: e.1, e.2)).map (placed base) := by
      intro entries hlist
      rw [eq_sortByName_of_list hlist, owed, List.flatMap_singleton, List.map_map]
      refine List.map_congr_left fun e he => ?_
      obtain ⟨m, _, hem⟩ := Node.mem_entriesBelow.mp he
      exact (placed_cons base n.name (Node.ne_nil_of_mem_contribution hem)).symm
    simp only [visit, inspect_of_isInspected hinspected, hinspected, if_true, List.map_append]
    cases hfault : n.faults.list with
    | some e =>
        have hlist : list n = .error e := by simp [list, hfault, check, bind, Except.bind]
        simp only [hlist, Node.isDescended, hfault]
        split
        · rw [List.filterMap_append, hown]
          simp [owed, Finding.entry?]
        · rw [hown]
          simp [owed]
    | none =>
        have hlist : list n = .ok (Node.sortByName n.entries) := by
          simp [list, hfault, check, bind, Except.bind]
        simp only [hlist, Node.isDescended, hfault]
        split
        · next hdescended =>
            rw [hown, hdeeper _ hlist]
            simp [hdescended]
        · next hdescended =>
            rw [hown]
            simp [hdescended, owed]
  · obtain ⟨e, he⟩ := inspect_of_not_isInspected hinspected
    simp [visit, he, hinspected, Finding.entry?, owed]

/-! ## The whole walk -/

/-- What is picked from the findings of a walk, if at each visit it is what the entry owes less what
the entries left pending owe. -/
theorem filterMap_run {β : Type} {scope : Scope} {pick : Finding → Option β}
    (due : String → Node → List β)
    (step : ∀ base n, (visit scope base n).1.filterMap pick ++
      (visit scope base n).2.flatMap (fun f => f.pending.flatMap (due f.base)) = due base n)
    (stack : List Frame) :
    (run scope stack).filterMap pick = stack.flatMap fun f => f.pending.flatMap (due f.base) := by
  -- The cases are those of the walk: nothing left, a directory done, an entry to visit.
  induction stack using run.induct scope with
  | case1 => simp
  | case2 base outer ih => simpa using ih
  | case3 base n pending outer ih =>
      rw [run_cons, List.filterMap_append, ih, List.flatMap_append, ← List.append_assoc, step]
      simp

/-- A walk reports exactly what it owes. -/
theorem run_eq_owed (scope : Scope) (stack : List Frame) :
    (run scope stack).filterMap Finding.entry? = owed scope stack := by
  let due (base : String) (n : Node) : Snapshot := (n.contribution scope).map (placed base)
  have howed : ∀ stack, owed scope stack =
      stack.flatMap fun f => f.pending.flatMap (due f.base) := by
    intro stack
    simp only [owed, List.map_flatMap, due]
  rw [howed]
  refine filterMap_run due (fun base n => ?_) stack
  rw [← howed, visit_eq]

/-- A path that leads to a directory which can be listed. -/
structure CanList (w : World) (root : Path) (n : Node) : Prop where
  noNul : root.hasNul = false
  found : ∃ names, w.find root = .ok (names, n)
  isDirectory : n.isDirectory = true
  listable : n.faults.list = none

theorem findings_of_canList {w : World} {root : Path} {n : Node} (h : CanList w root n)
    (scope : Scope) :
    findings w scope root = .ok (run scope [⟨"", Node.sortByName n.entries⟩]) := by
  obtain ⟨names, hfound⟩ := h.found
  have hlist : list n = .ok (Node.sortByName n.entries) := by
    simp [list, h.listable, check, bind, Except.bind]
  simp [findings, listRoot, hfound, h.isDirectory, hlist, Except.mapError, Except.map]

end Walk

/-- The entries below a directory as a snapshot. -/
def Node.snapshotBelow (scope : Scope) (n : Node) : Snapshot :=
  (n.entriesBelow scope).map fun e => (joined e.1, e.2)

theorem entries_run_root (scope : Scope) (n : Node) :
    (Walk.run scope [⟨"", Node.sortByName n.entries⟩]).filterMap Finding.entry? =
      n.snapshotBelow scope := by
  rw [Walk.run_eq_owed, Walk.owed, List.flatMap_singleton]
  simp [Node.snapshotBelow, Node.entriesBelow, placed]

/-- Where names are as file systems hold them, different ways are different paths. -/
theorem nodup_paths_snapshotBelow (scope : Scope) {n : Node} (valid : n.WellFormed) :
    (n.snapshotBelow scope).paths.Nodup := by
  have hways := Node.nodup_entriesBelow scope valid
  have hjoined : (n.snapshotBelow scope).paths = ((n.entriesBelow scope).map (·.1)).map joined := by
    simp [Node.snapshotBelow, Snapshot.paths]
  rw [hjoined]
  refine hways.map_on ?_
  intro names hnames others hothers heq
  obtain ⟨e, he, rfl⟩ := List.mem_map.mp hnames
  obtain ⟨f, hf, rfl⟩ := List.mem_map.mp hothers
  obtain ⟨_, hre⟩ := Node.exists_reports_of_mem valid he
  obtain ⟨_, hrf⟩ := Node.exists_reports_of_mem valid hf
  exact joined_injective hre.nonempty hrf.nonempty (fun x hx => (hre.valid x hx).2.2)
    (fun x hx => (hrf.valid x hx).2.2) heq

/-- What is taken of a directory that can be listed: the entries below it, and a record of each that
the walk skipped. -/
theorem Snapshot.take_of_canList {w : World} {root : Path} {n : Node}
    (listed : Walk.CanList w root n) (valid : n.WellFormed) (scope : Scope) :
    take w scope root =
      ⟨.ok (n.snapshotBelow scope),
        (Walk.run scope [⟨"", Node.sortByName n.entries⟩]).filterMap (Finding.record? root)⟩ := by
  unfold take
  rw [if_neg (by simp [listed.noNul]), Walk.findings_of_canList listed scope]
  simp only [ofFindings, entries_run_root, ofList_of_nodup (nodup_paths_snapshotBelow scope valid)]

/-- A snapshot lists the entries below its directory just as the recursion on the tree does. No
path stands in it twice, every entry is a node of a reported kind with its own time, and the way to
it leads through directories alone. -/
theorem take_eq_snapshotBelow (w : World) (scope : Scope) (root : Path) (n : Node)
    (listed : Walk.CanList w root n) (valid : n.WellFormed) :
    (Snapshot.take w scope root).outcome = .ok (n.snapshotBelow scope) ∧
      (n.snapshotBelow scope).paths.Nodup ∧
      ∀ e ∈ n.entriesBelow scope,
        ∃ m, n.Reports scope e.1 e.2 m ∧ m.kind ≠ .other := by
  have hnodup := nodup_paths_snapshotBelow scope valid
  refine ⟨?_, hnodup, ?_⟩
  · unfold Snapshot.take
    rw [if_neg (by simp [listed.noNul]), Walk.findings_of_canList listed scope]
    simp only [Snapshot.ofFindings, entries_run_root, Snapshot.ofList_of_nodup hnodup]
  · intro e he
    obtain ⟨m, hm⟩ := Node.exists_reports_of_mem valid he
    refine ⟨m, hm, ?_⟩
    intro hother
    have htracked := hm.tracked
    rw [hother] at htracked
    exact absurd htracked (by simp [Scope.tracks])

/-- A directory with a link to itself, a link to nothing, a fifo, a directory that cannot be listed
and one that is not told apart. -/
def tangledDirectory : Node :=
  .directory { name := "w" } [
    .file { name := "b.txt", time := 7 } 0 [],
    .link { name := "loop", time := 5 } ".",
    .directory { name := "b" } [
      .link { name := "gone" } "nowhere", .file { name := "z", time := -1 } 1 []],
    .special { name := "queue" } .fifo,
    .directory { name := "shut", faults := { list := some .permissionDenied } } [
      .file { name := "unseen" } 2 []],
    .directory { name := "vague", faults := { isDir := some .inputOutput } } [
      .file { name := "unseen" } 3 []]]

def tangledWorld : World :=
  { root := .directory { name := "" } [
      .link { name := "way" } "/home/w", .directory { name := "home" } [tangledDirectory]] }

theorem take_tangledWorld :
    Walk.CanList tangledWorld (.absolute ["way"]) tangledDirectory ∧
      tangledDirectory.WellFormed ∧
      (Snapshot.take tangledWorld ⟨true, false, true⟩ (.absolute ["way"])).outcome =
        .ok [("b/gone", defaultTime), ("b/z", -1), ("b.txt", 7), ("loop", 5)] := by
  have listed : Walk.CanList tangledWorld (.absolute ["way"]) tangledDirectory :=
    ⟨by decide, ⟨["home", "w"], by cbv⟩, rfl, rfl⟩
  have valid : tangledDirectory.WellFormed := by
    simp [tangledDirectory, Node.WellFormed, Node.AllWellFormed, Node.name, Node.attributes, IsName]
  have hbelow : tangledDirectory.snapshotBelow ⟨true, false, true⟩ =
      [("b/gone", defaultTime), ("b/z", -1), ("b.txt", 7), ("loop", 5)] := by
    cbv
  refine ⟨listed, valid, ?_⟩
  rw [← hbelow]
  exact (take_eq_snapshotBelow tangledWorld _ _ _ listed valid).1

end TreeWatch
