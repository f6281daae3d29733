import TreeWatch.Proofs.Tree.Orderly
import TreeWatch.Proofs.Watch.Intervals
import TreeWatch.Watch.Poller

/-!
# What watched directories are called

A path that is given as a text is made of names, and so is the way that it leads to, wherever the
links on it go. So the texts of two watched directories differ if the directories do.
-/

namespace TreeWatch

/-! ## Parts that are names -/

theorem isName_of_mem_partsOf {text part : String} (h : part ∈ Path.partsOf text) :
    IsName part := by
  obtain ⟨hpiece, hkept⟩ := List.mem_filter.mp h
  obtain ⟨hempty, hdot⟩ : part ≠ "" ∧ part ≠ "." := by simpa using hkept
  exact ⟨hempty, hdot, isPart_of_mem_splitAt hpiece⟩

theorem isName_of_mem_targetParts {target part : String} (h : part ∈ Lookup.targetParts target)
    (plain : Lookup.IsPlain part) : IsName part := by
  rcases List.mem_append.mp h with hpart | hdot
  · exact isName_of_mem_partsOf hpart
  · split at hdot
    · exact absurd (List.mem_singleton.mp hdot) plain.1
    · simp at hdot

namespace Path

def IsNamed (p : Path) : Prop :=
  ∀ part ∈ p.parts, IsName part

theorem isNamed_ofText (text : String) : (ofText text).IsNamed :=
  fun _ => isName_of_mem_partsOf

theorem IsNamed.expandHome? {p q : Path} (h : p.IsNamed) {home? : String → Option String}
    (expanded : p.expandHome? home? = some q) : q.IsNamed := by
  unfold Path.expandHome? at expanded
  split at expanded
  · next first rest _ hparts =>
      split at expanded
      · dsimp only at expanded
        split at expanded
        · simp at expanded
        · obtain rfl := Option.some.inj expanded
          refine List.forall_mem_append.mpr ⟨isNamed_ofText _, fun part hpart => ?_⟩
          exact h part (hparts ▸ List.mem_cons_of_mem first hpart)
      · exact Option.some.inj expanded ▸ h
  · exact Option.some.inj expanded ▸ h

/-! ## The text of a directory -/

theorem text_absolute (names : List String) : (absolute names).text = "/" ++ joined names := by
  simp [text, absolute, joined, Lead.text]

theorem joined_ne_empty {names : List String} (nonempty : names ≠ [])
    (isName : ∀ name ∈ names, IsName name) : joined names ≠ "" := by
  cases names with
  | nil => exact absurd rfl nonempty
  | cons name rest =>
      have hname : name ≠ "" := (isName name List.mem_cons_self).1
      cases rest with
      | nil => rwa [joined_singleton]
      | cons next more =>
          rw [joined_cons name (List.cons_ne_nil next more)]
          simp [hname]

theorem absolute_text_injective {names others : List String} (isName : ∀ name ∈ names, IsName name)
    (isName' : ∀ name ∈ others, IsName name)
    (same : (absolute names).text = (absolute others).text) : names = others := by
  have hjoined : joined names = joined others := by
    rw [text_absolute, text_absolute] at same
    exact (String.append_right_inj "/").mp same
  by_cases hnames : names = []
  · by_cases hothers : others = []
    · rw [hnames, hothers]
    · rw [hnames] at hjoined
      exact absurd hjoined.symm (joined_ne_empty hothers isName')
  · by_cases hothers : others = []
    · rw [hothers] at hjoined
      exact absurd hjoined (joined_ne_empty hnames isName)
    · exact joined_injective hnames hothers (fun name hname => (isName name hname).2.2)
        (fun name hname => (isName' name hname).2.2) hjoined

end Path

/-! ## Directories that are granted -/

/-- A directory that is given by names from the root. -/
def Spec.IsRooted (spec : Spec) : Prop :=
  ∃ names, spec.root = .absolute names ∧ ∀ name ∈ names, IsName name

theorem Spec.IsRooted.root_eq {spec spec' : Spec} (h : spec.IsRooted) (h' : spec'.IsRooted)
    (same : spec.root.text = spec'.root.text) : spec.root = spec'.root := by
  obtain ⟨names, hroot, hnames⟩ := h
  obtain ⟨others, hroot', hothers⟩ := h'
  rw [hroot, hroot'] at same ⊢
  rw [Path.absolute_text_injective hnames hothers same]

theorem Request.isRooted_of_validate {w : World} {r : Request} {spec : Spec}
    (directory : ∀ name ∈ w.directory, IsName name) (named : r.root.IsNamed)
    (h : r.validate w = .ok spec) : spec.IsRooted := by
  obtain ⟨root, names, n, hexpanded, -, -, -, hfound, -, hspec⟩ := Request.validate_eq_ok h
  have hroot : root.IsNamed := by
    unfold World.expandHome at hexpanded
    split at hexpanded
    · next q hq => exact Except.ok.inj hexpanded ▸ named.expandHome? hq
    · simp at hexpanded
  refine ⟨names, by rw [hspec], ?_⟩
  exact Lookup.forall_names_of_find directory
    (fun part hpart _ => hroot part hpart) (fun _ _ => isName_of_mem_targetParts) hfound

end TreeWatch
