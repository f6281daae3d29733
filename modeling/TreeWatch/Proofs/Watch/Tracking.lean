import TreeWatch.Proofs.Watch.Order

/-!
# What is reported and what is walked

Directories and links are reported only if that is asked for. What is left of everything that could
be reported, without the kinds that are not asked for, is what is reported, but for one thing: the
time of a directory is read only if directories are reported, and where that fails the directory is
not walked. What is below such a directory is found only if directories are not reported.
-/

namespace TreeWatch

namespace Scope

def everything (scope : Scope) : Scope :=
  { scope with trackDirectories := true, trackSymlinks := true }

/-- Whether entries of a kind are left when directories and links are taken out, as far as they are
not to be reported. -/
def keeps (scope : Scope) (kind : EntryKind) : Bool :=
  (kind ≠ .directory || scope.trackDirectories) && (kind ≠ .symlink || scope.trackSymlinks)

end Scope

namespace Node

def kindAt? (n : Node) (names : List String) : Option EntryKind :=
  (n.at? names).map kind

/-- Whether the times of all directories on the way to an entry can be read. -/
def isTimedAbove (n : Node) : List String → Bool
  | name :: next :: rest =>
    (n.child? name).all fun m => m.faults.stat.isNone && m.isTimedAbove (next :: rest)
  | _ => true

@[simp] theorem isTimedAbove_singleton (n : Node) (name : String) :
    n.isTimedAbove [name] = true := rfl

/-- Whether an entry is left when the kinds that are not to be reported are taken out. -/
def isKept (scope : Scope) (n : Node) (names : List String) : Bool :=
  (n.kindAt? names).any scope.keeps

def isFileAt (n : Node) (names : List String) : Bool :=
  n.kindAt? names = some .file

theorem isFileAt_and_isKept (scope : Scope) (n : Node) (names : List String) :
    (n.isFileAt names && n.isKept scope names) = n.isFileAt names := by
  unfold isFileAt isKept
  cases n.kindAt? names with
  | none => rfl
  | some kind => cases kind <;> simp [Scope.keeps]

/-! ## Entries of a directory in it -/

section Child

variable {n m : Node}

theorem isKept_cons (valid : n.WellFormed) (hm : m ∈ n.entries) (scope : Scope)
    (names : List String) : n.isKept scope (m.name :: names) = m.isKept scope names := by
  rw [isKept, isKept, kindAt?, kindAt?, valid.at?_cons hm]

theorem isKept_singleton (valid : n.WellFormed) (hm : m ∈ n.entries) (scope : Scope) :
    n.isKept scope [m.name] = scope.keeps m.kind := by
  rw [isKept_cons valid hm]
  rfl

theorem isTimedAbove_cons (valid : n.WellFormed) (hm : m ∈ n.entries) {names : List String}
    (below : names ≠ []) :
    n.isTimedAbove (m.name :: names) = (m.faults.stat.isNone && m.isTimedAbove names) := by
  obtain ⟨name, rest, rfl⟩ := List.exists_cons_of_ne_nil below
  rw [isTimedAbove, valid.child?_of_mem hm, Option.all_some]

end Child

theorem ne_nil_of_mem_entriesBelow {scope : Scope} {n : Node} {e : List String × Int}
    (h : e ∈ n.entriesBelow scope) : e.1 ≠ [] := by
  obtain ⟨m, -, hem⟩ := mem_entriesBelow.mp h
  exact ne_nil_of_mem_contribution hem

theorem stat_of_isInspected {scope : Scope} {n : Node} (h : n.isInspected scope = true)
    (tracked : scope.tracks n.kind = true) : n.faults.stat = none := by
  rw [isInspected, Bool.and_eq_true, tracked] at h
  simpa using h.2

theorem kind_of_isDescended {scope : Scope} {n : Node} (h : n.isDescended scope = true) :
    n.kind = .directory := by
  simpa [isDirectory_eq_kind] using isDirectory_of_isDescended h

/-! ## What is left of everything -/

theorem isDescended_everything (scope : Scope) (n : Node) :
    n.isDescended scope.everything = n.isDescended scope := rfl

theorem tracks_everything (scope : Scope) (kind : EntryKind) :
    scope.tracks kind = (scope.everything.tracks kind && scope.keeps kind) := by
  cases kind <;> simp [Scope.tracks, Scope.everything, Scope.keeps]

theorem filter_contribution_of_timed {scope : Scope} {n m : Node} (valid : n.WellFormed)
    (hm : m ∈ n.entries) (timed : m.faults.stat = none)
    (below : (m.entriesBelow scope.everything).filter (fun e => m.isKept scope e.1) =
      (m.entriesBelow scope).filter fun e => m.isTimedAbove e.1) :
    (m.contribution scope.everything).filter (fun e => n.isKept scope e.1) =
      (m.contribution scope).filter fun e => n.isTimedAbove e.1 := by
  have hinspected : ∀ scope : Scope, m.isInspected scope = m.isClassified := by
    intro scope
    simp [isInspected, timed]
  have hown : (if scope.everything.tracks m.kind then [([m.name], m.time)] else []).filter
        (fun e => n.isKept scope e.1) =
      (if scope.tracks m.kind then [([m.name], m.time)] else []).filter
        fun e => n.isTimedAbove e.1 := by
    rw [tracks_everything scope]
    by_cases htracks : scope.everything.tracks m.kind = true <;>
      by_cases hkeeps : scope.keeps m.kind = true <;>
        simp [htracks, hkeeps, isKept_singleton valid hm, List.filter_cons]
  have hdeeper : ((m.entriesBelow scope.everything).map fun e => (m.name :: e.1, e.2)).filter
        (fun e => n.isKept scope e.1) =
      ((m.entriesBelow scope).map fun e => (m.name :: e.1, e.2)).filter
        fun e => n.isTimedAbove e.1 := by
    rw [List.filter_map, List.filter_map]
    congr 1
    refine ((List.filter_congr fun e _ => ?_).trans below).trans (List.filter_congr fun e he => ?_)
    · exact isKept_cons valid hm scope e.1
    · have htimed := isTimedAbove_cons valid hm (ne_nil_of_mem_entriesBelow he)
      rw [timed] at htimed
      exact htimed.symm
  rw [contribution_eq, contribution_eq, hinspected, hinspected, isDescended_everything]
  by_cases hclassified : m.isClassified = true
  · rw [if_pos hclassified, if_pos hclassified, List.filter_append, List.filter_append, hown]
    by_cases hdescended : m.isDescended scope = true
    · rw [if_pos hdescended, if_pos hdescended, hdeeper]
    · rw [if_neg hdescended, if_neg hdescended]
      rfl
  · rw [if_neg hclassified, if_neg hclassified]
    rfl

/-- An entry that has no time to read gives nothing when everything is reported. When less is
reported it gives at most what is below it. -/
theorem filter_contribution_of_untimed {scope : Scope} {n m : Node} (valid : n.WellFormed)
    (hm : m ∈ n.entries) (untimed : m.faults.stat.isNone = false) :
    (m.contribution scope.everything).filter (fun e => n.isKept scope e.1) =
      (m.contribution scope).filter fun e => n.isTimedAbove e.1 := by
  have heverything : m.contribution scope.everything = [] := by
    rw [List.eq_nil_iff_forall_not_mem]
    intro e he
    obtain ⟨hinspected, hcases⟩ := mem_contribution.mp he
    have htracks : scope.everything.tracks m.kind = true := by
      obtain ⟨htracks, -⟩ | ⟨hdescended, -⟩ := hcases
      · exact htracks
      · rw [kind_of_isDescended hdescended]
        rfl
    simp [stat_of_isInspected hinspected htracks] at untimed
  rw [heverything, List.filter_nil, eq_comm, List.filter_eq_nil_iff]
  intro e he htimed
  obtain ⟨hinspected, ⟨htracks, rfl⟩ | ⟨-, f, hf, rfl⟩⟩ := mem_contribution.mp he
  · simp [stat_of_isInspected hinspected htracks] at untimed
  · rw [isTimedAbove_cons valid hm (ne_nil_of_mem_entriesBelow hf), untimed] at htimed
    exact Bool.false_ne_true htimed

/-- What is left of everything below a directory is what is reported, without what is below
directories whose times cannot be read. -/
theorem filter_entriesBelow (scope : Scope) {n : Node} (valid : n.WellFormed) :
    (n.entriesBelow scope.everything).filter (fun e => n.isKept scope e.1) =
      (n.entriesBelow scope).filter fun e => n.isTimedAbove e.1 := by
  induction n using induction_on_entries with
  | step n ih =>
      rw [entriesBelow, entriesBelow, List.filter_flatMap, List.filter_flatMap]
      refine List.flatMap_congr fun m hmem => ?_
      have hm : m ∈ n.entries := mem_sortByName.mp hmem
      cases htimed : m.faults.stat with
      | none => exact filter_contribution_of_timed valid hm htimed (ih m hm (valid.of_mem hm))
      | some e => exact filter_contribution_of_untimed valid hm (by simp [htimed])

/-! ## When nothing is missed -/

/-- No directory below has a time that cannot be read. -/
def IsTimed (n : Node) : Prop :=
  ∀ names m, names ≠ [] → n.at? names = some m → m.kind = .directory → m.faults.stat = none

/-- Nothing is found below a directory whose time cannot be read if such directories are not walked,
or if there are none. -/
theorem isTimedAbove_of_mem {scope : Scope} {n : Node} (valid : n.WellFormed)
    (safe : scope.recursive = false ∨ scope.trackDirectories = true ∨ n.IsTimed)
    {e : List String × Int} (he : e ∈ n.entriesBelow scope) : n.isTimedAbove e.1 = true := by
  induction n using induction_on_entries generalizing e with
  | step n ih =>
      obtain ⟨m, hm, hem⟩ := mem_entriesBelow.mp he
      obtain ⟨hinspected, ⟨-, rfl⟩ | ⟨hdescended, f, hf, rfl⟩⟩ := mem_contribution.mp hem
      · rfl
      · have hkind : m.kind = .directory := kind_of_isDescended hdescended
        have hrecursive : scope.recursive = true := by
          simp only [isDescended, Bool.and_eq_true] at hdescended
          exact hdescended.1.2
        rw [isTimedAbove_cons valid hm (ne_nil_of_mem_entriesBelow hf), Bool.and_eq_true]
        rcases safe with hflat | htracks | htimed
        · rw [hrecursive] at hflat
          exact absurd hflat (by decide)
        · have hstat : m.faults.stat = none :=
            stat_of_isInspected hinspected (by rw [hkind]; exact htracks)
          exact ⟨by simp [hstat], ih m hm (valid.of_mem hm) (.inr (.inl htracks)) hf⟩
        · have hat : ∀ names, n.at? (m.name :: names) = m.at? names := valid.at?_cons hm
          have hstat : m.faults.stat = none := htimed [m.name] m (by simp) (hat []) hkind
          have hbelow : m.IsTimed := fun names k _ hk =>
            htimed (m.name :: names) k (by simp) ((hat names).trans hk)
          exact ⟨by simp [hstat], ih m hm (valid.of_mem hm) (.inr (.inr hbelow)) hf⟩

end Node

/-! ## Snapshots -/

namespace Snapshot

def having (p : List String → Bool) (s : Snapshot) : Snapshot :=
  s.filter fun e => p (components e.1)

theorem having_having (p q : List String → Bool) (s : Snapshot) :
    (s.having p).having q = s.having fun names => q names && p names :=
  List.filter_filter

theorem having_comm (p q : List String → Bool) (s : Snapshot) :
    (s.having p).having q = (s.having q).having p := by
  rw [having_having, having_having]
  exact congrArg (having · s) (funext fun names => Bool.and_comm _ _)

theorem having_snapshotBelow {scope : Scope} {n : Node} (valid : n.WellFormed)
    (p : List String → Bool) :
    (n.snapshotBelow scope).having p =
      ((n.entriesBelow scope).filter fun e => p e.1).map fun e => (joined e.1, e.2) := by
  rw [having, Node.snapshotBelow, List.filter_map]
  refine congrArg _ (List.filter_congr fun e he => ?_)
  obtain ⟨hnonempty, hparts⟩ := Node.isPart_of_mem_entriesBelow valid.orderly he
  rw [Function.comp_apply, components_joined hnonempty hparts]

/-- How what is reported of a directory stands to everything that can be. -/
structure IsPartOf (n : Node) (scope : Scope) (own whole : Snapshot) : Prop where
  kept : whole.having (n.isKept scope) = own.having n.isTimedAbove
  files : whole.having (n.isFileAt) = (own.having n.isFileAt).having n.isTimedAbove
  same_iff : whole.having (n.isKept scope) = own ↔
    ∀ e ∈ own, n.isTimedAbove (components e.1) = true
  same : scope.recursive = false ∨ scope.trackDirectories = true ∨ n.IsTimed →
    whole.having (n.isKept scope) = own ∧ whole.having n.isFileAt = own.having n.isFileAt

/-- What is reported of a directory is what is left of everything that can be, without the kinds
that are not to be reported, if directories are reported or if no time of a directory is missing. -/
theorem isPartOf_take {w : World} {root : Path} {n : Node} (listed : Walk.CanList w root n)
    (valid : n.WellFormed) (scope : Scope) :
    ∃ own whole, (take w scope root).outcome = .ok own ∧
      (take w scope.everything root).outcome = .ok whole ∧ IsPartOf n scope own whole := by
  refine ⟨n.snapshotBelow scope, n.snapshotBelow scope.everything,
    by rw [take_of_canList listed valid], by rw [take_of_canList listed valid], ?_⟩
  have hkept : (n.snapshotBelow scope.everything).having (n.isKept scope) =
      (n.snapshotBelow scope).having n.isTimedAbove := by
    rw [having_snapshotBelow valid, having_snapshotBelow valid,
      Node.filter_entriesBelow scope valid]
  have hfiles : (n.snapshotBelow scope.everything).having n.isFileAt =
      ((n.snapshotBelow scope).having n.isFileAt).having n.isTimedAbove := by
    have hleft : ∀ s : Snapshot, (s.having (n.isKept scope)).having n.isFileAt =
        s.having n.isFileAt := by
      intro s
      rw [having_having]
      refine congrArg (having · s) (funext fun names => ?_)
      exact n.isFileAt_and_isKept scope names
    rw [← hleft, hkept, having_comm]
  have hsame : scope.recursive = false ∨ scope.trackDirectories = true ∨ n.IsTimed →
      ∀ p, (having p (n.snapshotBelow scope)).having n.isTimedAbove =
        having p (n.snapshotBelow scope) := by
    intro safe p
    refine List.filter_eq_self.mpr fun e he => ?_
    obtain ⟨f, hf, rfl⟩ := List.mem_map.mp (List.mem_filter.mp he).1
    obtain ⟨hnonempty, hparts⟩ := Node.isPart_of_mem_entriesBelow valid.orderly hf
    rw [components_joined hnonempty hparts]
    exact Node.isTimedAbove_of_mem valid safe hf
  refine ⟨hkept, hfiles, ?_, fun safe => ⟨?_, hfiles.trans (hsame safe _)⟩⟩
  · rw [hkept, having, List.filter_eq_self]
  · have hall : (n.snapshotBelow scope).having (fun _ => true) = n.snapshotBelow scope :=
      List.filter_eq_self.mpr fun _ _ => rfl
    rw [hkept, ← hall]
    exact hsame safe _

def halfTimedDirectory : Node :=
  .directory { name := "w" } [
    .file { name := "a", time := 1 } 0 [],
    .directory { name := "vague", time := 2, faults := { stat := some .permissionDenied } } [
      .file { name := "b", time := 3 } 1 []],
    .directory { name := "clear", time := 4 } [
      .link { name := "l", time := 5 } "../a", .file { name := "c", time := 6 } 2 []]]

def halfTimedWorld : World :=
  { root := .directory { name := "" } [halfTimedDirectory] }

theorem canList_halfTimedWorld :
    Walk.CanList halfTimedWorld (.absolute ["w"]) halfTimedDirectory :=
  ⟨by decide, ⟨["w"], by cbv⟩, rfl, rfl⟩

theorem wellFormed_halfTimedDirectory : halfTimedDirectory.WellFormed := by
  simp [halfTimedDirectory, Node.WellFormed, Node.AllWellFormed, Node.name, Node.attributes, IsName]

theorem take_halfTimedWorld :
    (take halfTimedWorld {} (.absolute ["w"])).outcome =
        .ok [("a", 1), ("clear/c", 6), ("vague/b", 3)] ∧
      (take halfTimedWorld (Scope.everything {}) (.absolute ["w"])).outcome =
        .ok [("a", 1), ("clear", 4), ("clear/c", 6), ("clear/l", 5)] := by
  rw [take_of_canList canList_halfTimedWorld wellFormed_halfTimedDirectory,
    take_of_canList canList_halfTimedWorld wellFormed_halfTimedDirectory]
  exact ⟨congrArg Except.ok (by cbv), congrArg Except.ok (by cbv)⟩

theorem isPartOf_take_halfTimedWorld :
    Walk.CanList halfTimedWorld (.absolute ["w"]) halfTimedDirectory ∧
      halfTimedDirectory.WellFormed ∧
      IsPartOf halfTimedDirectory {} [("a", 1), ("clear/c", 6), ("vague/b", 3)]
        [("a", 1), ("clear", 4), ("clear/c", 6), ("clear/l", 5)] := by
  have listed := canList_halfTimedWorld
  have valid := wellFormed_halfTimedDirectory
  obtain ⟨own, whole, hown, hwhole, hpart⟩ := isPartOf_take listed valid {}
  obtain rfl := Except.ok.inj (take_halfTimedWorld.1.symm.trans hown)
  obtain rfl := Except.ok.inj (take_halfTimedWorld.2.symm.trans hwhole)
  exact ⟨listed, valid, hpart⟩

/-- Where directories are reported, a time that cannot be read hides what is below. -/
theorem not_forall_having_eq :
    ¬∀ (w : World) (root : Path) (n : Node), Walk.CanList w root n → n.WellFormed →
      ∀ (scope : Scope) (own whole : Snapshot), (take w scope root).outcome = .ok own →
        (take w scope.everything root).outcome = .ok whole →
        whole.having (n.isKept scope) = own := by
  intro h
  have hsame := h halfTimedWorld (.absolute ["w"]) halfTimedDirectory canList_halfTimedWorld
    wellFormed_halfTimedDirectory {} _ _ take_halfTimedWorld.1 take_halfTimedWorld.2
  exact absurd hsame (by decide +kernel)

end Snapshot

end TreeWatch
