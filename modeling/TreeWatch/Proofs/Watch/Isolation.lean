import Mathlib.Data.List.Flatten
import TreeWatch.Proofs.Tree.Mending
import TreeWatch.Proofs.Watch.Order

/-!
# What a failing entry hides

A walk skips an entry that cannot be looked at with all that is below it, and a directory that
cannot be listed with its entries. It hides nothing else, and it says so once: of every path that is
found only in the same tree without failures, one skipped entry is the path itself or on the way to
it.
-/

namespace TreeWatch

/-- Why a walk goes no further at an entry. -/
inductive Obstruction where
  | hidden (errno : Errno)
  | closed (errno : Errno)

namespace Obstruction

def finding (path : String) : Obstruction → Finding
  | hidden e => .hidden path e
  | closed e => .closed path e

def IsDueTo (n : Node) : Obstruction → Prop
  | hidden e => n.faults.classify = some e ∨ n.faults.isDir = some e ∨ n.faults.isFile = some e ∨
      n.faults.stat = some e
  | closed e => n.kind = .directory ∧ n.faults.list = some e

end Obstruction

namespace Finding

def path : Finding → String
  | entry path _ | hidden path _ | closed path _ => path

def isSkip : Finding → Bool
  | entry _ _ => false
  | hidden _ _ | closed _ _ => true

/-- Only what is skipped is put on record, each time once. -/
theorem filterMap_record? (root : Path) (fs : List Finding) :
    (fs.filterMap (record? root)).map some = (fs.filter isSkip).map (record? root) := by
  induction fs with
  | nil => rfl
  | cons f fs ih =>
      cases f with
      | entry => exact ih
      | hidden | closed => exact congrArg (List.cons _) ih

end Finding

namespace Node

/-! ## What is in the way of a walk -/

def obstruction? (scope : Scope) (n : Node) : Option Obstruction :=
  match Walk.inspect scope n with
  | .error e => some (.hidden e)
  | .ok _ => if n.kind = .directory && scope.recursive then n.faults.list.map .closed else none

/-- The entries at which a walk goes no further, each with the names that lead to it. -/
def obstructions (scope : Scope) (n : Node) : List (List String × Obstruction) :=
  match n.obstruction? scope with
  | some o => [([n.name], o)]
  | none =>
    if n.isDescended scope then
      ((sortByName n.entries).attach.flatMap fun m => obstructions scope m.1).map fun o =>
        (n.name :: o.1, o.2)
    else []
termination_by n.weight
decreasing_by exact weight_lt_of_mem_entries (mem_sortByName.mp m.2)

/-- The same for the entries of a directory. -/
def obstructionsBelow (scope : Scope) (n : Node) : List (List String × Obstruction) :=
  (sortByName n.entries).flatMap (obstructions scope)

theorem obstructions_eq (scope : Scope) (n : Node) :
    n.obstructions scope =
      match n.obstruction? scope with
      | some o => [([n.name], o)]
      | none =>
        if n.isDescended scope then
          (n.obstructionsBelow scope).map fun o => (n.name :: o.1, o.2)
        else [] := by
  have hentries : (sortByName n.entries).attach.flatMap (fun m => obstructions scope m.1) =
      n.obstructionsBelow scope := by
    rw [@List.flatMap_subtype _ _ _ _ _ (obstructions scope) fun _ _ => rfl, List.unattach_attach]
    rfl
  rw [obstructions, hentries]

section Entry

variable {scope : Scope} {n : Node}

theorem obstructions_of_some {o : Obstruction} (h : n.obstruction? scope = some o) :
    n.obstructions scope = [([n.name], o)] := by
  rw [obstructions_eq, h]

theorem obstructions_of_descended (h : n.obstruction? scope = none)
    (descended : n.isDescended scope = true) :
    n.obstructions scope = (n.obstructionsBelow scope).map fun o => (n.name :: o.1, o.2) := by
  rw [obstructions_eq, h]
  exact if_pos descended

theorem obstructions_of_not_descended (h : n.obstruction? scope = none)
    (descended : ¬n.isDescended scope = true) : n.obstructions scope = [] := by
  rw [obstructions_eq, h]
  exact if_neg descended

theorem isInspected_of_obstruction?_eq_none (h : n.obstruction? scope = none) :
    n.isInspected scope = true := by
  by_contra hinspected
  obtain ⟨e, he⟩ := Walk.inspect_of_not_isInspected hinspected
  simp [obstruction?, he] at h

theorem obstruction?_of_isInspected (h : n.isInspected scope = true) :
    n.obstruction? scope =
      if n.kind = .directory && scope.recursive then n.faults.list.map .closed else none := by
  rw [obstruction?, Walk.inspect_of_isInspected h]

theorem isDescended_of_obstruction?_eq_none (h : n.obstruction? scope = none)
    (directory : n.kind = .directory) (recursive : scope.recursive = true) :
    n.isDescended scope = true := by
  rw [obstruction?_of_isInspected (isInspected_of_obstruction?_eq_none h)] at h
  simpa [isDescended, directory, recursive] using h

theorem head_of_mem_obstructions {o : List String × Obstruction} (h : o ∈ n.obstructions scope) :
    o.1.head? = some n.name := by
  cases hobstruction : n.obstruction? scope with
  | some c =>
      rw [obstructions_of_some hobstruction, List.mem_singleton] at h
      rw [h]
      rfl
  | none =>
      by_cases hdescended : n.isDescended scope = true
      · rw [obstructions_of_descended hobstruction hdescended] at h
        obtain ⟨c, -, rfl⟩ := List.mem_map.mp h
        rfl
      · rw [obstructions_of_not_descended hobstruction hdescended] at h
        exact absurd h List.not_mem_nil

theorem ne_nil_of_mem_obstructions {o : List String × Obstruction}
    (h : o ∈ n.obstructions scope) : o.1 ≠ [] := by
  intro hnil
  have hhead := head_of_mem_obstructions h
  simp [hnil] at hhead

end Entry

end Node

namespace Walk

theorem fault_of_kindOf_eq_error {n : Node} {e : Errno} (h : kindOf n = .error e) :
    n.faults.classify = some e ∨ n.faults.isDir = some e ∨ n.faults.isFile = some e := by
  cases hclassify : n.faults.classify with
  | some d =>
      have hd : d = e := by simpa [kindOf, hclassify, check, bind, Except.bind] using h
      exact .inl (congrArg some hd)
  | none =>
      cases hdir : n.faults.isDir with
      | some d => cases n <;> simp_all [kindOf, check, bind, Except.bind]
      | none =>
          cases hfile : n.faults.isFile <;>
            cases n <;> simp_all [kindOf, check, bind, Except.bind]

theorem fault_of_inspect_eq_error {scope : Scope} {n : Node} {e : Errno}
    (h : inspect scope n = .error e) : (Obstruction.hidden e).IsDueTo n := by
  unfold inspect at h
  cases hkind : kindOf n with
  | error d =>
      rw [hkind] at h
      obtain rfl := Except.error.inj h
      obtain hclassify | hdir | hfile := fault_of_kindOf_eq_error hkind
      · exact .inl hclassify
      · exact .inr (.inl hdir)
      · exact .inr (.inr (.inl hfile))
  | ok kind =>
      have hstat : n.faults.stat = some e := by
        cases htracks : scope.tracks kind <;> cases hfault : n.faults.stat <;>
          simp_all [check, bind, Except.bind]
      exact .inr (.inr (.inr hstat))

end Walk

namespace Node

variable {scope : Scope} {n : Node}

theorem isDueTo_of_obstruction? {o : Obstruction} (h : n.obstruction? scope = some o) :
    o.IsDueTo n := by
  unfold obstruction? at h
  split at h
  · next e he =>
      obtain rfl := Option.some.inj h
      exact Walk.fault_of_inspect_eq_error he
  · split at h
    · next hdirectory =>
        obtain ⟨e, he, rfl⟩ := Option.map_eq_some_iff.mp h
        rw [Bool.and_eq_true, decide_eq_true_eq] at hdirectory
        exact ⟨hdirectory.1, he⟩
    · simp at h

theorem mem_obstructionsBelow {o : List String × Obstruction} :
    o ∈ n.obstructionsBelow scope ↔ ∃ m ∈ n.entries, o ∈ m.obstructions scope := by
  simp only [obstructionsBelow, List.mem_flatMap, mem_sortByName]

theorem ne_nil_of_mem_obstructionsBelow {o : List String × Obstruction}
    (h : o ∈ n.obstructionsBelow scope) : o.1 ≠ [] := by
  obtain ⟨m, -, hom⟩ := mem_obstructionsBelow.mp h
  exact ne_nil_of_mem_obstructions hom

theorem exists_of_mem_obstructionsBelow (valid : n.WellFormed) {o : List String × Obstruction}
    (h : o ∈ n.obstructionsBelow scope) :
    o.1 ≠ [] ∧ (∀ name ∈ o.1, IsPart name) ∧ ∃ m, n.at? o.1 = some m ∧ o.2.IsDueTo m := by
  induction n using induction_on_entries generalizing o with
  | step n ih =>
      obtain ⟨m, hm, hom⟩ := mem_obstructionsBelow.mp h
      have hpart : IsPart m.name := (valid.isName hm).isPart
      have hat : ∀ names, n.at? (m.name :: names) = m.at? names := valid.at?_cons hm
      cases hobstruction : m.obstruction? scope with
      | some c =>
          rw [obstructions_of_some hobstruction, List.mem_singleton] at hom
          subst hom
          exact ⟨by simp, by simpa using hpart, m, hat [], isDueTo_of_obstruction? hobstruction⟩
      | none =>
          by_cases hdescended : m.isDescended scope = true
          · rw [obstructions_of_descended hobstruction hdescended] at hom
            obtain ⟨c, hc, rfl⟩ := List.mem_map.mp hom
            obtain ⟨-, hparts, k, hk, hdue⟩ := ih m hm (valid.of_mem hm) hc
            exact ⟨by simp, List.forall_mem_cons.mpr ⟨hpart, hparts⟩, k, (hat c.1).trans hk, hdue⟩
          · rw [obstructions_of_not_descended hobstruction hdescended] at hom
            exact absurd hom List.not_mem_nil

/-! ## The same tree without failures -/

theorem entriesBelow_sound (scope : Scope) (n : Node) :
    n.sound.entriesBelow scope =
      (sortByName n.entries).flatMap fun m => m.sound.contribution scope := by
  rw [entriesBelow, sortByName_entries_sound, List.flatMap_map]

theorem isInspected_sound (scope : Scope) (n : Node) : n.sound.isInspected scope = true := by
  simp [isInspected, isClassified]

theorem isDescended_sound_of_isDescended (h : n.isDescended scope = true) :
    n.sound.isDescended scope = true := by
  simp only [isDescended, Bool.and_eq_true] at h
  simp [isDescended, h.1.1, h.1.2]

/-- What an entry contributes it contributes without failures too. -/
theorem contribution_sublist_sound
    (below : (n.entriesBelow scope).Sublist (n.sound.entriesBelow scope)) :
    (n.contribution scope).Sublist (n.sound.contribution scope) := by
  rw [contribution_eq, contribution_eq, if_pos (isInspected_sound scope n), kind_sound, name_sound,
    time_sound]
  split
  · refine List.Sublist.append (List.Sublist.refl _) ?_
    by_cases hdescended : n.isDescended scope = true
    · rw [if_pos hdescended, if_pos (isDescended_sound_of_isDescended hdescended)]
      exact below.map _
    · rw [if_neg hdescended]
      exact List.nil_sublist _
  · exact List.nil_sublist _

theorem entriesBelow_sublist_sound (scope : Scope) (n : Node) :
    (n.entriesBelow scope).Sublist (n.sound.entriesBelow scope) := by
  induction n using induction_on_entries with
  | step n ih =>
      rw [entriesBelow_sound, entriesBelow]
      exact List.Sublist.flatMap_right _ fun m hm =>
        contribution_sublist_sound (ih m (mem_sortByName.mp hm))

/-! ## What is hidden -/

/-- Where only one member of a list gives something that is wanted, nothing else is filtered out of
what they give. -/
theorem filter_flatMap_of_mem {α β : Type} {f : α → List β} {p : β → Bool} {as : List α}
    (nodup : as.Nodup) {a : α} (ha : a ∈ as)
    (others : ∀ b ∈ as, b ≠ a → (f b).filter p = []) :
    (as.flatMap f).filter p = (f a).filter p := by
  obtain ⟨before, after, rfl⟩ := List.append_of_mem ha
  have hnot : a ∉ before ++ after := (List.nodup_middle.mp nodup).notMem
  have hnil : ∀ bs : List α, (∀ b ∈ bs, b ∈ before ++ after) → (bs.flatMap f).filter p = [] := by
    intro bs hbs
    rw [List.filter_flatMap, List.flatMap_eq_nil_iff]
    intro b hb
    have hmem := hbs b hb
    refine others b ?_ fun heq => hnot (heq ▸ hmem)
    rcases List.mem_append.mp hmem with hbefore | hafter
    · exact List.mem_append_left _ hbefore
    · exact List.mem_append_right _ (List.mem_cons_of_mem a hafter)
  rw [List.flatMap_append, List.flatMap_cons, List.filter_append, List.filter_append,
    hnil before fun b hb => List.mem_append_left _ hb,
    hnil after fun b hb => List.mem_append_right _ hb, List.nil_append, List.append_nil]

theorem filter_obstructionsBelow {m : Node} (valid : n.WellFormed) (hm : m ∈ n.entries)
    (names : List String) :
    (n.obstructionsBelow scope).filter (fun o => o.1 <+: m.name :: names) =
      (m.obstructions scope).filter fun o => o.1 <+: m.name :: names := by
  have hsorted : ((sortByName n.entries).map name).Nodup :=
    ((n.entries.mergeSort_perm precedes).map name).nodup_iff.mpr valid.names_nodup
  refine filter_flatMap_of_mem (List.Nodup.of_map _ hsorted) (mem_sortByName.mpr hm) ?_
  intro b hb hne
  rw [List.filter_eq_nil_iff]
  intro o ho hprefix
  obtain ⟨first, rest, ho1⟩ := List.exists_cons_of_ne_nil (ne_nil_of_mem_obstructions ho)
  have hhead : first = b.name := by simpa [ho1] using head_of_mem_obstructions ho
  rw [ho1, decide_eq_true_eq, List.cons_prefix_cons, hhead] at hprefix
  exact hne (List.inj_on_of_nodup_map hsorted hb (mem_sortByName.mpr hm) hprefix.1)

theorem exists_obstruction_of_missing {e : List String × Int}
    (below : ∀ f ∈ n.sound.entriesBelow scope, f ∉ n.entriesBelow scope →
      ∃ o, (n.obstructionsBelow scope).filter (fun o => o.1 <+: f.1) = [o])
    (he : e ∈ n.sound.contribution scope) (missing : e ∉ n.contribution scope) :
    ∃ o, (n.obstructions scope).filter (fun o => o.1 <+: e.1) = [o] := by
  cases hobstruction : n.obstruction? scope with
  | some c =>
      refine ⟨([n.name], c), ?_⟩
      obtain ⟨name, rest, he1⟩ := List.exists_cons_of_ne_nil (ne_nil_of_mem_contribution he)
      have hname : name = n.name := by simpa [he1] using head_of_mem_contribution he
      rw [obstructions_of_some hobstruction, he1, hname]
      exact List.filter_cons_of_pos (by simp)
  | none =>
      have hinspected := isInspected_of_obstruction?_eq_none hobstruction
      obtain ⟨-, ⟨htracks, rfl⟩ | ⟨hdescended, f, hf, rfl⟩⟩ := mem_contribution.mp he
      · rw [kind_sound] at htracks
        exact absurd (mem_contribution.mpr ⟨hinspected, .inl ⟨htracks, by simp⟩⟩) missing
      · simp only [isDescended, kind_sound, Bool.and_eq_true, decide_eq_true_eq] at hdescended
        have hdescended := isDescended_of_obstruction?_eq_none hobstruction hdescended.1.1
          hdescended.1.2
        have hmissing : f ∉ n.entriesBelow scope := fun hmem =>
          missing (mem_contribution.mpr ⟨hinspected, .inr ⟨hdescended, f, hmem, by simp⟩⟩)
        obtain ⟨o, ho⟩ := below f hf hmissing
        refine ⟨(n.name :: o.1, o.2), ?_⟩
        rw [obstructions_of_descended hobstruction hdescended, List.filter_map, name_sound]
        refine (congrArg _ (List.filter_congr fun c _ => ?_)).trans (congrArg (List.map _) ho)
        simp [List.cons_prefix_cons]

/-- Of an entry below a directory that is found only without failures, just one thing is in the
way. -/
theorem exists_obstructionBelow_of_missing (valid : n.WellFormed) {e : List String × Int}
    (he : e ∈ n.sound.entriesBelow scope) (missing : e ∉ n.entriesBelow scope) :
    ∃ o, (n.obstructionsBelow scope).filter (fun o => o.1 <+: e.1) = [o] := by
  induction n using induction_on_entries generalizing e with
  | step n ih =>
      rw [entriesBelow_sound] at he
      obtain ⟨m, hsorted, hem⟩ := List.mem_flatMap.mp he
      have hm : m ∈ n.entries := mem_sortByName.mp hsorted
      have hmissing : e ∉ m.contribution scope := fun hmem =>
        missing (mem_entriesBelow.mpr ⟨m, hm, hmem⟩)
      obtain ⟨o, ho⟩ := exists_obstruction_of_missing
        (fun f hf => ih m hm (valid.of_mem hm) hf) hem hmissing
      obtain ⟨name, rest, he1⟩ := List.exists_cons_of_ne_nil (ne_nil_of_mem_contribution hem)
      have hname : name = m.name := by simpa [he1] using head_of_mem_contribution hem
      rw [he1, hname] at ho ⊢
      exact ⟨o, (filter_obstructionsBelow valid hm rest).trans ho⟩

end Node

namespace Walk

/-! ## What a walk skips -/

def skipped (base : String) (o : List String × Obstruction) : Finding :=
  o.2.finding (base ++ joined o.1)

theorem skipped_cons (base name : String) {o : List String × Obstruction} (h : o.1 ≠ []) :
    skipped base (name :: o.1, o.2) = skipped (base ++ name ++ "/") o := by
  simp [skipped, joined_cons name h, String.append_assoc]

/-- What a visit skips and what is in the way below it make up what is in the way at the entry. -/
theorem skips_visit (scope : Scope) (base : String) (n : Node) :
    (visit scope base n).1.filterMap (Option.guard Finding.isSkip) ++
        (visit scope base n).2.flatMap (fun f =>
          f.pending.flatMap fun m => (m.obstructions scope).map (skipped f.base)) =
      (n.obstructions scope).map (skipped base) := by
  by_cases hinspected : n.isInspected scope = true
  · have hown : (((if scope.tracks n.kind then some n.time else none).map
        (Finding.entry (base ++ n.name))).toList).filterMap (Option.guard Finding.isSkip) = [] := by
      split <;> rfl
    have hobstruction := Node.obstruction?_of_isInspected hinspected
    simp only [visit, inspect_of_isInspected hinspected]
    by_cases hwalked : (n.kind = .directory && scope.recursive) = true
    · rw [if_pos hwalked] at hobstruction ⊢
      cases hfault : n.faults.list with
      | some e =>
          have hlist : list n = .error e := by simp [list, hfault, check, bind, Except.bind]
          rw [hfault] at hobstruction
          rw [Node.obstructions_of_some hobstruction, hlist, List.filterMap_append, hown]
          simp [skipped, Obstruction.finding, Option.guard, Finding.isSkip]
      | none =>
          have hlist : list n = .ok (Node.sortByName n.entries) := by
            simp [list, hfault, check, bind, Except.bind]
          have hdescended : n.isDescended scope = true := by
            simpa [Node.isDescended, hfault] using hwalked
          rw [hfault] at hobstruction
          rw [Node.obstructions_of_descended hobstruction hdescended, hlist, hown,
            List.flatMap_singleton, List.nil_append, ← List.map_flatMap, List.map_map]
          refine List.map_congr_left fun o ho => ?_
          exact (skipped_cons base n.name (Node.ne_nil_of_mem_obstructionsBelow ho)).symm
    · have hdescended : ¬n.isDescended scope = true := by
        simp_all [Node.isDescended]
      rw [if_neg hwalked] at hobstruction ⊢
      rw [Node.obstructions_of_not_descended hobstruction hdescended, hown]
      rfl
  · obtain ⟨e, he⟩ := inspect_of_not_isInspected hinspected
    have hobstruction : n.obstruction? scope = some (.hidden e) := by
      rw [Node.obstruction?, he]
    rw [Node.obstructions_of_some hobstruction]
    simp [visit, he, skipped, Obstruction.finding, Option.guard, Finding.isSkip]

/-- A walk skips the entries at which something is in the way, and no others. -/
theorem filter_isSkip_run (scope : Scope) (n : Node) :
    (run scope [⟨"", Node.sortByName n.entries⟩]).filter Finding.isSkip =
      (n.obstructionsBelow scope).map (skipped "") := by
  let due (base : String) (m : Node) : List Finding := (m.obstructions scope).map (skipped base)
  have hrun := filterMap_run due (skips_visit scope) [⟨"", Node.sortByName n.entries⟩]
  rw [List.filterMap_eq_filter, List.flatMap_singleton] at hrun
  rw [hrun, Node.obstructionsBelow, List.map_flatMap]

theorem CanList.sound {w : World} {root : Path} {n : Node} (h : CanList w root n) :
    CanList w.sound root n.sound where
  noNul := h.noNul
  found := by
    obtain ⟨names, hfound⟩ := h.found
    exact ⟨names, by rw [World.find_sound, hfound]; rfl⟩
  isDirectory := by rw [Node.keepsWays_sound.isDirectory, h.isDirectory]
  listable := by rw [Node.faults_sound]

end Walk

/-! ## Snapshots -/

/-- The first path is the second or leads on to it. -/
def LeadsTo (path other : String) : Prop :=
  components path <+: components other

instance (path other : String) : Decidable (LeadsTo path other) :=
  inferInstanceAs (Decidable (_ <+: _))

theorem components_path_skipped {o : List String × Obstruction} (nonempty : o.1 ≠ [])
    (parts : ∀ name ∈ o.1, IsPart name) : components (Walk.skipped "" o).path = o.1 := by
  obtain ⟨names, c⟩ := o
  have hpath : (Walk.skipped "" (names, c)).path = joined names := by
    cases c <;> simp [Walk.skipped, Obstruction.finding, Finding.path]
  rw [hpath, components_joined nonempty parts]

namespace Snapshot

/-- How the snapshot of a directory in which something fails stands to the one without failures:
what is missing is accounted for by what the walk skipped. -/
structure Isolates (n : Node) (root : Path) (own whole : Snapshot) (skipped : List Finding)
    (records : List Log.Record) : Prop where
  sublist : own.Sublist whole
  recorded : records.map some = skipped.map (Finding.record? root)
  /-- Nothing is skipped without a failure at the very entry. -/
  caused : ∀ f ∈ skipped, ∃ (o : Obstruction) (m : Node), f = o.finding f.path ∧
    n.at? (components f.path) = some m ∧ o.IsDueTo m
  missing : ∀ path ∈ whole.paths, path ∉ own.paths →
    ∃ f, skipped.filter (fun f => LeadsTo f.path path) = [f]
  present : ∀ path ∈ whole.paths, (∀ f ∈ skipped, ¬LeadsTo f.path path) → path ∈ own.paths

theorem sublist_sound (scope : Scope) (n : Node) :
    (n.snapshotBelow scope).Sublist (n.sound.snapshotBelow scope) :=
  (Node.entriesBelow_sublist_sound scope n).map _

/-- A path that is found only without failures is skipped once, at itself or on the way to it. -/
theorem exists_skipped_of_missing {scope : Scope} {n : Node} (valid : n.WellFormed) {path : String}
    (found : path ∈ (n.sound.snapshotBelow scope).paths)
    (missing : path ∉ (n.snapshotBelow scope).paths) :
    ∃ f, ((n.obstructionsBelow scope).map (Walk.skipped "")).filter
      (fun f => LeadsTo f.path path) = [f] := by
  rw [Node.snapshotBelow, paths, List.map_map] at found
  obtain ⟨e, he, rfl⟩ := List.mem_map.mp found
  obtain ⟨hnonempty, hparts⟩ := Node.isPart_of_mem_entriesBelow valid.sound.orderly he
  have hmissing : e ∉ n.entriesBelow scope := fun hmem =>
    missing (List.mem_map_of_mem (List.mem_map_of_mem hmem))
  obtain ⟨o, ho⟩ := Node.exists_obstructionBelow_of_missing valid he hmissing
  refine ⟨Walk.skipped "" o, ?_⟩
  rw [List.filter_map]
  refine (congrArg _ (List.filter_congr fun c hc => ?_)).trans (congrArg (List.map _) ho)
  obtain ⟨hnonempty', hparts', -⟩ := Node.exists_of_mem_obstructionsBelow valid hc
  simp only [Function.comp_apply, LeadsTo, components_path_skipped hnonempty' hparts',
    components_joined hnonempty hparts]

/-- A failure below a directory hides nothing but what is there and below, and each path that it
hides is accounted for by one record of a skipped entry at it or on the way to it. -/
theorem isolates_take {w : World} {root : Path} {n : Node} (listed : Walk.CanList w root n)
    (valid : n.WellFormed) (scope : Scope) :
    ∃ fs whole, Walk.findings w scope root = .ok fs ∧
      (take w scope root).outcome = .ok (ofFindings fs) ∧
      (take w.sound scope root).outcome = .ok whole ∧
      Isolates n root (ofFindings fs) whole (fs.filter Finding.isSkip)
        (take w scope root).records := by
  have hown : ofFindings (Walk.run scope [⟨"", Node.sortByName n.entries⟩]) =
      n.snapshotBelow scope := by
    rw [ofFindings, entries_run_root, ofList_of_nodup (nodup_paths_snapshotBelow scope valid)]
  refine ⟨_, n.sound.snapshotBelow scope, Walk.findings_of_canList listed scope,
    by rw [take_of_canList listed valid, hown],
    by rw [take_of_canList listed.sound valid.sound], ?_⟩
  have hmissing : ∀ path ∈ (n.sound.snapshotBelow scope).paths,
      path ∉ (n.snapshotBelow scope).paths →
        ∃ f, ((n.obstructionsBelow scope).map (Walk.skipped "")).filter
          (fun f => LeadsTo f.path path) = [f] :=
    fun path hfound habsent => exists_skipped_of_missing valid hfound habsent
  rw [hown, take_of_canList listed valid, Walk.filter_isSkip_run]
  refine ⟨sublist_sound scope n, ?_, ?_, hmissing, ?_⟩
  · rw [← Walk.filter_isSkip_run]
    exact Finding.filterMap_record? root _
  · intro f hf
    obtain ⟨o, ho, rfl⟩ := List.mem_map.mp hf
    obtain ⟨hnonempty, hparts, m, hm, hdue⟩ := Node.exists_of_mem_obstructionsBelow valid ho
    refine ⟨o.2, m, ?_, by rw [components_path_skipped hnonempty hparts, hm], hdue⟩
    obtain ⟨names, c⟩ := o
    cases c <;> rfl
  · intro path hfound hclear
    by_contra habsent
    obtain ⟨f, hf⟩ := hmissing path hfound habsent
    obtain ⟨hmem, hleads⟩ := List.mem_filter.mp (hf ▸ List.mem_singleton_self f)
    exact hclear f hmem (of_decide_eq_true hleads)

/-- A directory with failures at several places, one of them out of the reach of a walk. -/
def brokenDirectory : Node :=
  .directory { name := "w" } [
    .directory { name := "g", time := 1, faults := { classify := some .inputOutput } } [
      .file { name := "h", time := 2 } 0 []],
    .directory { name := "b", time := 3 } [
      .directory { name := "d", time := 4, faults := { list := some .permissionDenied } } [
        .file { name := "e", time := 5, faults := { stat := some .inputOutput } } 1 []],
      .file { name := "c", time := 6, faults := { stat := some .permissionDenied } } 2 [],
      .file { name := "f", time := 7 } 3 []],
    .file { name := "a", time := 8 } 4 []]

def brokenWorld : World :=
  { root := .directory { name := "" } [brokenDirectory] }

theorem isolates_take_brokenWorld :
    Walk.CanList brokenWorld (.absolute ["w"]) brokenDirectory ∧
      brokenDirectory.WellFormed ∧
      Isolates brokenDirectory (.absolute ["w"])
        [("a", 8), ("b", 3), ("b/d", 4), ("b/f", 7)]
        [("a", 8), ("b", 3), ("b/c", 6), ("b/d", 4), ("b/d/e", 5), ("b/f", 7), ("g", 1), ("g/h", 2)]
        [.hidden "b/c" .permissionDenied, .closed "b/d" .permissionDenied, .hidden "g" .inputOutput]
        (take brokenWorld ⟨true, true, false⟩ (.absolute ["w"])).records := by
  have listed : Walk.CanList brokenWorld (.absolute ["w"]) brokenDirectory :=
    ⟨by decide, ⟨["w"], by cbv⟩, rfl, rfl⟩
  have valid : brokenDirectory.WellFormed := by
    simp [brokenDirectory, Node.WellFormed, Node.AllWellFormed, Node.name, Node.attributes, IsName]
  have hrun : Walk.findings brokenWorld ⟨true, true, false⟩ (.absolute ["w"]) =
      .ok [.entry "a" 8, .entry "b" 3, .hidden "b/c" .permissionDenied, .entry "b/d" 4,
        .closed "b/d" .permissionDenied, .entry "b/f" 7, .hidden "g" .inputOutput] := by
    rw [Walk.findings_of_canList listed]
    exact congrArg Except.ok (by cbv)
  have hsound : brokenDirectory.sound.snapshotBelow ⟨true, true, false⟩ =
      [("a", 8), ("b", 3), ("b/c", 6), ("b/d", 4), ("b/d/e", 5), ("b/f", 7), ("g", 1),
        ("g/h", 2)] := by
    cbv
  obtain ⟨fs, whole, hfs, -, hwhole, h⟩ := isolates_take listed valid ⟨true, true, false⟩
  obtain rfl := Except.ok.inj (hrun.symm.trans hfs)
  rw [take_of_canList listed.sound valid.sound, hsound] at hwhole
  obtain rfl := Except.ok.inj hwhole
  exact ⟨listed, valid, h⟩

end Snapshot

end TreeWatch
