import TreeWatch.Watch.Walk
import TreeWatch.Proofs.Tree.Names
import Mathlib.Data.List.Pairwise
import Mathlib.Data.String.Basic

/-!
# The entries below a directory

What a walk reports, by recursion on the tree instead of a stack. Entries go by the names on the
way to them. In a tree as file systems hold it each is a node that its names lead to, through
directories alone, and no way is taken twice.
-/

namespace TreeWatch.Node

/-! ## Order of names -/

theorem mem_sortByName {m : Node} {ns : List Node} : m ∈ sortByName ns ↔ m ∈ ns :=
  List.mem_mergeSort

theorem precedes_iff {a b : Node} : precedes a b = true ↔ a.name ≤ b.name := by
  rw [precedes, Bool.not_eq_true', decide_eq_false_iff_not, not_lt]

theorem precedes_trans (a b c : Node) (hab : precedes a b = true) (hbc : precedes b c = true) :
    precedes a c = true :=
  precedes_iff.mpr (le_trans (precedes_iff.mp hab) (precedes_iff.mp hbc))

theorem precedes_total (a b : Node) : (precedes a b || precedes b a) = true := by
  rw [Bool.or_eq_true, precedes_iff, precedes_iff]
  exact le_total a.name b.name

theorem sortByName_pairwise_le (ns : List Node) :
    (sortByName ns).Pairwise fun a b => a.name ≤ b.name :=
  (List.pairwise_mergeSort precedes_trans precedes_total ns).imp precedes_iff.mp

/-- Where names differ, the order of an enumeration is strict. -/
theorem sortByName_pairwise_lt {ns : List Node} (h : (ns.map name).Nodup) :
    (sortByName ns).Pairwise fun a b => a.name < b.name := by
  have hperm : (sortByName ns).Perm ns := ns.mergeSort_perm precedes
  have hnodup : ((sortByName ns).map name).Nodup := (hperm.map name).nodup_iff.mpr h
  have hne : (sortByName ns).Pairwise fun a b => a.name ≠ b.name := List.pairwise_map.mp hnodup
  exact (sortByName_pairwise_le ns).imp₂ (fun a b hle hne => lt_of_le_of_ne hle hne) hne

/-! ## Induction on entries -/

theorem weight_le_weightAll {m : Node} {ns : List Node} (h : m ∈ ns) :
    m.weight ≤ weightAll ns := by
  induction ns with
  | nil => simp at h
  | cons n rest ih =>
      rw [weightAll]
      rcases List.mem_cons.mp h with rfl | hrest
      · omega
      · have := ih hrest
        omega

theorem weight_lt_of_mem_entries {m n : Node} (h : m ∈ n.entries) : m.weight < n.weight := by
  have hle := weight_le_weightAll h
  rw [weight_eq n]
  omega

/-- What passes from the entries of every directory to the directory holds of all trees. -/
theorem induction_on_entries {motive : Node → Prop}
    (step : ∀ n : Node, (∀ m ∈ n.entries, motive m) → motive n) (n : Node) : motive n :=
  step n fun m _ => induction_on_entries step m
termination_by n.weight
decreasing_by exact weight_lt_of_mem_entries ‹_›

/-! ## The recursion -/

def kind : Node → EntryKind
  | file _ _ _ => .file
  | directory _ _ => .directory
  | link _ _ => .symlink
  | special _ _ => .other

/-- Whether the questions after the kind of an entry are answered. Only what is no link is asked
whether it is a directory, and only what is no directory either, whether it is a file. -/
def isClassified (n : Node) : Bool :=
  n.faults.classify.isNone &&
    (n.kind = .symlink || (n.faults.isDir.isNone &&
      (n.kind = .directory || n.faults.isFile.isNone)))

/-- Whether an entry is taken account of: its kind can be told, and its own time can be read if it
is to be reported. -/
def isInspected (scope : Scope) (n : Node) : Bool :=
  n.isClassified && (!scope.tracks n.kind || n.faults.stat.isNone)

def isDescended (scope : Scope) (n : Node) : Bool :=
  n.kind = .directory && scope.recursive && n.faults.list.isNone

/-- The entries that an entry of a directory gives, each with the names that lead to it: itself, if
its kind is reported, then what its own entries give, in the order of their names. -/
def contribution (scope : Scope) (n : Node) : List (List String × Int) :=
  if n.isInspected scope then
    (if scope.tracks n.kind then [([n.name], n.time)] else []) ++
      if n.isDescended scope then
        ((sortByName n.entries).attach.flatMap fun m => contribution scope m.1).map fun e =>
          (n.name :: e.1, e.2)
      else []
  else []
termination_by n.weight
decreasing_by exact weight_lt_of_mem_entries (mem_sortByName.mp m.2)

/-- The entries below a directory, with the names that lead to them from there. -/
def entriesBelow (scope : Scope) (n : Node) : List (List String × Int) :=
  (sortByName n.entries).flatMap (contribution scope)

theorem contribution_eq (scope : Scope) (n : Node) :
    n.contribution scope =
      if n.isInspected scope then
        (if scope.tracks n.kind then [([n.name], n.time)] else []) ++
          if n.isDescended scope then (n.entriesBelow scope).map fun e => (n.name :: e.1, e.2)
          else []
      else [] := by
  have hentries : (sortByName n.entries).attach.flatMap (fun m => contribution scope m.1) =
      n.entriesBelow scope := by
    rw [@List.flatMap_subtype _ _ _ _ _ (contribution scope) fun _ _ => rfl, List.unattach_attach]
    rfl
  rw [contribution, hentries]

theorem mem_entriesBelow {scope : Scope} {n : Node} {e : List String × Int} :
    e ∈ n.entriesBelow scope ↔ ∃ m ∈ n.entries, e ∈ m.contribution scope := by
  simp only [entriesBelow, List.mem_flatMap, mem_sortByName]

theorem mem_contribution {scope : Scope} {n : Node} {e : List String × Int} :
    e ∈ n.contribution scope ↔
      n.isInspected scope = true ∧
        ((scope.tracks n.kind = true ∧ e = ([n.name], n.time)) ∨
          (n.isDescended scope = true ∧
            ∃ f ∈ n.entriesBelow scope, e = (n.name :: f.1, f.2))) := by
  rw [contribution_eq]
  by_cases hinspected : n.isInspected scope
  · rw [if_pos hinspected, List.mem_append]
    have hown : e ∈ (if scope.tracks n.kind then [([n.name], n.time)] else []) ↔
        scope.tracks n.kind = true ∧ e = ([n.name], n.time) := by
      by_cases htracks : scope.tracks n.kind = true <;> simp [htracks]
    have hdeeper : e ∈ (if n.isDescended scope then
          (n.entriesBelow scope).map fun f => (n.name :: f.1, f.2) else []) ↔
        n.isDescended scope = true ∧ ∃ f ∈ n.entriesBelow scope, e = (n.name :: f.1, f.2) := by
      by_cases hdescended : n.isDescended scope = true <;> simp [hdescended, eq_comm]
    rw [hown, hdeeper]
    exact ⟨fun h => ⟨hinspected, h⟩, fun h => h.2⟩
  · simp [hinspected]

theorem isDirectory_of_isDescended {scope : Scope} {n : Node} (h : n.isDescended scope = true) :
    n.isDirectory = true := by
  cases n <;> simp_all [isDescended, kind, isDirectory]

/-! ## What is enumerated -/

theorem ne_nil_of_mem_contribution {scope : Scope} {n : Node} {e : List String × Int}
    (h : e ∈ n.contribution scope) : e.1 ≠ [] := by
  obtain ⟨_, ⟨_, rfl⟩ | ⟨_, f, _, rfl⟩⟩ := mem_contribution.mp h <;> simp

theorem head_of_mem_contribution {scope : Scope} {n : Node} {e : List String × Int}
    (h : e ∈ n.contribution scope) : e.1.head? = some n.name := by
  obtain ⟨_, ⟨_, rfl⟩ | ⟨_, f, _, rfl⟩⟩ := mem_contribution.mp h <;> rfl

/-- An enumerated entry in its tree: its names lead to it through directories that are walked, its
kind is one of those reported, and the time is its own. -/
structure Reports (scope : Scope) (n : Node) (names : List String) (time : Int) (m : Node) :
    Prop where
  nonempty : names ≠ []
  valid : ∀ name ∈ names, IsName name
  found : n.at? names = some m
  tracked : scope.tracks m.kind = true
  time_eq : time = m.time
  /-- No link stands on the way, and nothing else that holds no entries. -/
  through : ∀ above rest, names = above ++ rest → above ≠ [] → rest ≠ [] →
    ∃ d, n.at? above = some d ∧ d.isDirectory = true ∧ scope.recursive = true

theorem exists_reports_of_mem {scope : Scope} {n : Node} (valid : n.WellFormed)
    {e : List String × Int} (h : e ∈ n.entriesBelow scope) :
    ∃ m, Reports scope n e.1 e.2 m := by
  induction n using induction_on_entries generalizing e with
  | step n ih =>
      obtain ⟨k, hk, hek⟩ := mem_entriesBelow.mp h
      have hname : IsName k.name := valid.isName hk
      have hchild : n.child? k.name = some k := valid.child?_of_mem hk
      obtain ⟨_, ⟨htracks, rfl⟩ | ⟨hdescended, f, hf, rfl⟩⟩ := mem_contribution.mp hek
      · refine ⟨k, by simp, by simpa using hname, by simp [at?, hchild], htracks, rfl, ?_⟩
        intro above rest hsplit habove hrest
        rcases List.singleton_eq_append_iff.mp hsplit with ⟨hnil, _⟩ | ⟨_, hnil⟩
        · exact absurd hnil habove
        · exact absurd hnil hrest
      · obtain ⟨m, hm⟩ := ih k hk (valid.of_mem hk) hf
        have hat : ∀ names, n.at? (k.name :: names) = k.at? names := by simp [at?, hchild]
        refine ⟨m, by simp, ?_, by rw [hat, hm.found], hm.tracked, hm.time_eq, ?_⟩
        · intro name hmem
          rcases List.mem_cons.mp hmem with rfl | hrest
          · exact hname
          · exact hm.valid name hrest
        · intro above rest hsplit habove hrest
          cases above with
          | nil => exact absurd rfl habove
          | cons first others =>
              obtain ⟨rfl, htail⟩ := List.cons.inj hsplit
              by_cases hothers : others = []
              · subst hothers
                refine ⟨k, by simp [at?, hchild], isDirectory_of_isDescended hdescended, ?_⟩
                simp only [isDescended, Bool.and_eq_true] at hdescended
                exact hdescended.1.2
              · obtain ⟨d, hd⟩ := hm.through others rest htail hothers hrest
                exact ⟨d, by rw [hat, hd.1], hd.2⟩

theorem nodup_contribution {scope : Scope} {n : Node}
    (below : ((n.entriesBelow scope).map (·.1)).Nodup) :
    ((n.contribution scope).map (·.1)).Nodup := by
  have hcons : Function.Injective fun names : List String => n.name :: names :=
    fun _ _ h => (List.cons.inj h).2
  have hdeeper : (((n.entriesBelow scope).map fun f => (n.name :: f.1, f.2)).map (·.1)).Nodup := by
    have := below.map hcons
    rwa [List.map_map] at this ⊢
  have hown : [n.name] ∉ ((n.entriesBelow scope).map fun f => (n.name :: f.1, f.2)).map (·.1) := by
    rw [List.map_map, List.mem_map]
    rintro ⟨f, hf, hnames⟩
    obtain ⟨m, _, hfm⟩ := mem_entriesBelow.mp hf
    exact ne_nil_of_mem_contribution hfm (List.cons.inj hnames).2
  rw [contribution_eq]
  by_cases hinspected : n.isInspected scope = true
  · rw [if_pos hinspected]
    by_cases htracks : scope.tracks n.kind = true <;>
      by_cases hdescended : n.isDescended scope = true
    · rw [if_pos htracks, if_pos hdescended, List.map_append]
      exact List.nodup_cons.mpr ⟨hown, hdeeper⟩
    · simp [htracks, hdescended]
    · rw [if_neg htracks, if_pos hdescended, List.nil_append]
      exact hdeeper
    · simp [htracks, hdescended]
  · simp [hinspected]

/-- No way is taken twice. -/
theorem nodup_entriesBelow (scope : Scope) {n : Node} (valid : n.WellFormed) :
    ((n.entriesBelow scope).map (·.1)).Nodup := by
  induction n using induction_on_entries with
  | step n ih =>
      rw [entriesBelow, List.map_flatMap, List.nodup_flatMap]
      constructor
      · intro m hm
        have hmem : m ∈ n.entries := mem_sortByName.mp hm
        exact nodup_contribution (ih m hmem (valid.of_mem hmem))
      · refine (sortByName_pairwise_lt valid.names_nodup).imp ?_
        intro a b hab names ha hb
        obtain ⟨e, he, rfl⟩ := List.mem_map.mp ha
        obtain ⟨f, hf, hef⟩ := List.mem_map.mp hb
        have hheads : some b.name = some a.name := by
          rw [← head_of_mem_contribution hf, ← head_of_mem_contribution he, hef]
        exact absurd (Option.some.inj hheads) (ne_of_gt hab)

end TreeWatch.Node
