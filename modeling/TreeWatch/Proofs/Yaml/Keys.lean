import TreeWatch.Yaml.Load
import TreeWatch.Proofs.Failure
import TreeWatch.Proofs.Value.Keys

/-!
# Keys of a document

Reading a document never puts two entries of a mapping under one key, however the mapping came by
them. A construction only ever learns of more nodes, so keys that were different stay different.
-/

namespace TreeWatch.Yaml

/-! ## Scalars -/

def GivesNoMapping (x : Except Problem Value) : Prop :=
  ∀ v, x = .ok v → v.isMapping = false

theorem givesNoMapping_ok {v : Value} (h : v.isMapping = false) : GivesNoMapping (.ok v) := by
  rintro w heq
  exact Except.ok.inj heq ▸ h

theorem givesNoMapping_error (p : Problem) : GivesNoMapping (.error p) := by
  simp [GivesNoMapping]

theorem givesNoMapping_refuse (cause : Failure) : GivesNoMapping (refuse cause) :=
  givesNoMapping_error _

theorem givesNoMapping_bind {α : Type} {x : Except Problem α} {f : α → Except Problem Value}
    (h : ∀ a, GivesNoMapping (f a)) : GivesNoMapping (x >>= f) := by
  intro v hv
  obtain ⟨a, -, ha⟩ := bind_eq_ok_iff.mp hv
  exact h a v ha

theorem givesNoMapping_boolOfText (text : String) : GivesNoMapping (boolOfText text) := by
  unfold boolOfText
  split
  · exact givesNoMapping_ok rfl
  · exact givesNoMapping_refuse _

theorem givesNoMapping_intOfText (text : String) : GivesNoMapping (intOfText text) :=
  givesNoMapping_bind (x := magnitudeOfChars _) fun _ => givesNoMapping_ok rfl

theorem givesNoMapping_floatOfText (text : String) : GivesNoMapping (floatOfText text) := by
  unfold floatOfText
  dsimp only
  split
  · exact givesNoMapping_refuse _
  · split
    · exact givesNoMapping_ok rfl
    · split
      · exact givesNoMapping_bind fun _ => givesNoMapping_ok rfl
      · split
        · exact givesNoMapping_bind fun _ => givesNoMapping_bind fun _ => givesNoMapping_ok rfl
        · exact givesNoMapping_bind fun _ => givesNoMapping_ok rfl

theorem givesNoMapping_bytesOfText (text : String) : GivesNoMapping (bytesOfText text) := by
  unfold bytesOfText
  split
  · split
    · exact givesNoMapping_ok rfl
    · exact givesNoMapping_error _
  · exact givesNoMapping_error _

theorem givesNoMapping_timeOfText (text : String) : GivesNoMapping (timeOfText text) := by
  unfold timeOfText
  split
  · exact givesNoMapping_refuse _
  · dsimp only
    split
    · split
      · exact givesNoMapping_ok rfl
      · exact givesNoMapping_refuse _
    · apply givesNoMapping_bind
      intro ahead
      split
      · exact givesNoMapping_ok rfl
      · exact givesNoMapping_refuse _

theorem givesNoMapping_valueOfText (tag : Tag) (text : String) :
    GivesNoMapping (valueOfText tag text) := by
  cases tag with
  | null | text => exact givesNoMapping_ok rfl
  | bool => exact givesNoMapping_boolOfText text
  | int => exact givesNoMapping_intOfText text
  | float => exact givesNoMapping_floatOfText text
  | binary => exact givesNoMapping_bytesOfText text
  | timestamp => exact givesNoMapping_timeOfText text
  | omap | pairs | set | sequence | mapping | merge | value | unknown =>
      exact givesNoMapping_error _

theorem givesNoMapping_valueOfHalves (tag : Tag) (codes : List Nat) :
    GivesNoMapping (valueOfHalves tag codes) := by
  cases tag with
  | null | text => exact givesNoMapping_ok rfl
  | bool | int | float | timestamp => exact givesNoMapping_refuse _
  | binary | omap | pairs | set | sequence | mapping | merge | value | unknown =>
      exact givesNoMapping_error _

theorem givesNoMapping_valueOfScalar (tag : Tag) (text : ScalarText) :
    GivesNoMapping (valueOfScalar tag text) := by
  cases text with
  | whole text => exact givesNoMapping_valueOfText tag text
  | halves codes => exact givesNoMapping_valueOfHalves tag codes

namespace Construction

theorem givesNoMapping_singleValue (nodes : Nodes) (id : NodeId) (n : Node) :
    GivesNoMapping (singleValue nodes id n) := by
  unfold singleValue
  split
  · exact givesNoMapping_valueOfScalar _ _
  · split
    case h_7 => exact givesNoMapping_bind fun _ => givesNoMapping_refuse _
    case h_8 => exact givesNoMapping_error _
    all_goals exact givesNoMapping_bind fun _ => givesNoMapping_valueOfScalar _ _

/-! ## Meeting nodes -/

/-- A construction that comes from another one by meeting nodes. -/
structure Meets (c d : Construction) : Prop where
  contents : d.contents = c.contents
  keeps : ∀ {id v}, c.single? id = some v → d.single? id = some v
  learns : ∀ {id v}, d.single? id = some v → c.single? id = some v ∨ v.isMapping = false

theorem Meets.refl (c : Construction) : Meets c c :=
  ⟨rfl, id, .inl⟩

theorem Meets.trans {c d e : Construction} (hcd : Meets c d) (hde : Meets d e) : Meets c e where
  contents := hde.contents.trans hcd.contents
  keeps h := hde.keeps (hcd.keeps h)
  learns h := (hde.learns h).elim hcd.learns .inr

theorem single?_eq_some_iff {c : Construction} {id : NodeId} {v : Value} :
    c.single? id = some v ↔ c.made? id = some (.single v) := by
  unfold single?
  split
  · next h => simp [h]
  · next h => simpa using h v

theorem meets_of_made {c d : Construction} {id : NodeId} {m : Made} (hnew : c.made? id = none)
    (hmade : d.made = c.made.setIfInBounds id (some m)) (hcontents : d.contents = c.contents)
    (hm : ∀ v, m = .single v → v.isMapping = false) : Meets c d := by
  have hother : ∀ other, other ≠ id → d.made? other = c.made? other := by
    intro other hne
    unfold made?
    rw [hmade, Array.getElem?_setIfInBounds_ne hne.symm]
  have hself : d.made? id = some m ∨ d.made? id = none := by
    unfold made?
    rw [hmade, Array.getElem?_setIfInBounds_self]
    split <;> simp
  refine ⟨hcontents, ?_, ?_⟩
  · intro other v hv
    rw [single?_eq_some_iff] at hv ⊢
    have hne : other ≠ id := by
      rintro rfl
      simp [hnew] at hv
    rwa [hother other hne]
  · intro other v hv
    rw [single?_eq_some_iff] at hv ⊢
    by_cases hne : other = id
    · subst hne
      rcases hself with hsome | hnone
      · exact .inr (hm v (Option.some.inj (hsome.symm.trans hv)))
      · simp [hnone] at hv
    · exact .inl (hother other hne ▸ hv)

theorem meets_meet {c d : Construction} {id : NodeId} (h : c.meet id = .ok d) : Meets c d := by
  unfold meet at h
  split at h
  · exact Except.ok.inj h ▸ Meets.refl c
  · simp at h
  · next n hnew hnode =>
      split at h
      · cases h
        exact meets_of_made hnew rfl rfl (by simp)
      · obtain ⟨v, hv, hd⟩ := bind_eq_ok_iff.mp h
        cases hd
        refine meets_of_made hnew rfl rfl ?_
        intro w hw
        exact Made.single.inj hw ▸ givesNoMapping_singleValue _ _ _ v hv

theorem meets_meetAll {c d : Construction} {ids : List NodeId} (h : c.meetAll ids = .ok d) :
    Meets c d :=
  foldlM_ok_induction (P := Meets c) (fun _ _ _ hs hmeet => hs.trans (meets_meet hmeet))
    ids c d (.refl c) h

theorem meets_meetPairs {c d : Construction} {items : List NodeId}
    {pairs : List (NodeId × NodeId)} (h : c.meetPairs items = .ok (pairs, d)) : Meets c d := by
  refine foldlM_ok_induction (P := fun s => Meets c s.2) ?_ items ([], c) (pairs, d) (.refl c) h
  rintro ⟨pairs, s⟩ item ⟨more, t⟩ hs hstep
  dsimp only at hstep
  split at hstep
  · next key value hentries =>
      obtain ⟨u, hu, hrest⟩ := bind_eq_ok_iff.mp hstep
      obtain ⟨r, hr, heq⟩ := bind_eq_ok_iff.mp hrest
      cases heq
      exact (hs.trans (meets_meet hu)).trans (meets_meet hr)
  · simp at hstep

/-! ## Keys that are met -/

/-- The keys of a mapping are values, and no two of them are one key. -/
def IsKeyed (c : Construction) (pairs : List (NodeId × NodeId)) : Prop :=
  (∀ e ∈ pairs, ∃ v, c.single? e.1 = some v) ∧
    pairs.Pairwise fun d e =>
      ∀ v w, c.single? d.1 = some v → c.single? e.1 = some w → v.sameKey w = false

theorem IsKeyed.of_meets {c d : Construction} {pairs : List (NodeId × NodeId)}
    (h : c.IsKeyed pairs) (hmeets : Meets c d) : d.IsKeyed pairs := by
  obtain ⟨hknown, hdistinct⟩ := h
  constructor
  · intro e he
    obtain ⟨v, hv⟩ := hknown e he
    exact ⟨v, hmeets.keeps hv⟩
  · refine hdistinct.imp_of_mem ?_
    intro d e hd he hde v w hv hw
    obtain ⟨v', hv'⟩ := hknown d hd
    obtain ⟨w', hw'⟩ := hknown e he
    have hvv : v' = v := Option.some.inj ((hmeets.keeps hv').symm.trans hv)
    have hww : w' = w := Option.some.inj ((hmeets.keeps hw').symm.trans hw)
    exact hvv ▸ hww ▸ hde v' w' hv' hw'

theorem sameKey_of_not_sameKey {c : Construction} {a b : NodeId} {v w : Value}
    (h : ¬c.sameKey a b = true) (hv : c.single? a = some v) (hw : c.single? b = some w) :
    v.sameKey w = false := by
  unfold sameKey at h
  rw [hv, hw, Bool.or_eq_true, not_or] at h
  simpa using h.2

theorem fst_of_mem_put {c : Construction} {key value : NodeId} {e : NodeId × NodeId}
    {pairs : List (NodeId × NodeId)} (h : e ∈ c.put key value pairs) :
    e.1 = key ∨ ∃ d ∈ pairs, d.1 = e.1 := by
  induction pairs with
  | nil =>
      rw [put, List.mem_singleton] at h
      exact .inl (congrArg Prod.fst h)
  | cons d rest ih =>
      unfold put at h
      split at h
      · rcases List.mem_cons.mp h with rfl | hmem
        · exact .inr ⟨d, List.mem_cons_self, rfl⟩
        · exact .inr ⟨e, List.mem_cons_of_mem d hmem, rfl⟩
      · rcases List.mem_cons.mp h with rfl | hmem
        · exact .inr ⟨e, List.mem_cons_self, rfl⟩
        · rcases ih hmem with hkey | ⟨f, hf, hfst⟩
          · exact .inl hkey
          · exact .inr ⟨f, List.mem_cons_of_mem d hf, hfst⟩

theorem IsKeyed.put {c : Construction} {pairs : List (NodeId × NodeId)} {key : NodeId}
    {v : Value} (h : c.IsKeyed pairs) (hkey : c.single? key = some v) (value : NodeId) :
    c.IsKeyed (c.put key value pairs) := by
  induction pairs with
  | nil => exact ⟨by simpa [Construction.put] using ⟨v, hkey⟩, List.pairwise_singleton _ _⟩
  | cons e rest ih =>
      obtain ⟨hknown, hdistinct⟩ := h
      rw [List.forall_mem_cons] at hknown
      obtain ⟨hhead, hrest⟩ := List.pairwise_cons.mp hdistinct
      unfold Construction.put
      split
      · exact ⟨List.forall_mem_cons.mpr hknown, List.pairwise_cons.mpr ⟨hhead, hrest⟩⟩
      · next hne =>
          obtain ⟨hknown', hdistinct'⟩ := ih ⟨hknown.2, hrest⟩
          refine ⟨List.forall_mem_cons.mpr ⟨hknown.1, hknown'⟩,
            List.pairwise_cons.mpr ⟨?_, hdistinct'⟩⟩
          intro f hf u w hu hw
          rcases fst_of_mem_put hf with heq | ⟨d, hd, heq⟩
          · exact sameKey_of_not_sameKey hne hu (heq ▸ hw)
          · exact hhead d hd u w hu (heq ▸ hw)

theorem meets_meetEntries {c d : Construction} {entries pairs : List (NodeId × NodeId)}
    (h : c.meetEntries entries = .ok (pairs, d)) : Meets c d ∧ d.IsKeyed pairs := by
  refine foldlM_ok_induction (P := fun s => Meets c s.2 ∧ s.2.IsKeyed s.1) ?_ entries
    ([], c) (pairs, d) ⟨.refl c, by simp [IsKeyed]⟩ h
  rintro ⟨pairs, s⟩ ⟨key, value⟩ ⟨more, t⟩ ⟨hs, hkeyed⟩ hstep
  obtain ⟨u, hu, hrest⟩ := bind_eq_ok_iff.mp hstep
  have hsu : Meets s u := meets_meet hu
  split at hrest
  · simp at hrest
  · next hsome =>
      obtain ⟨v, hv⟩ : ∃ v, u.single? key = some v := by
        simpa [Option.isNone_iff_eq_none, Option.ne_none_iff_exists'] using hsome
      obtain ⟨r, hr, heq⟩ := bind_eq_ok_iff.mp hrest
      cases heq
      have hut : Meets u t := meets_meet hr
      have hput := (hkeyed.of_meets (hsu.trans hut)).put (hut.keeps hv) value
      exact ⟨(hs.trans hsu).trans hut, hput⟩

/-! ## Filling collections -/

/-- Single values are no mappings, and the keys of mappings are values of which no two are one key.
-/
structure IsSound (c : Construction) : Prop where
  single : ∀ {id v}, c.single? id = some v → v.isMapping = false
  entries : ∀ {id pairs}, c.contentOf id = .entries pairs → c.IsKeyed pairs

theorem IsSound.of_meets {c d : Construction} (h : IsSound c) (hmeets : Meets c d) :
    IsSound d where
  single hv := (hmeets.learns hv).elim h.single id
  entries {id pairs} hentries := by
    have hcontent : c.contentOf id = .entries pairs := by
      rwa [contentOf, ← hmeets.contents]
    exact (h.entries hcontent).of_meets hmeets

theorem IsSound.setContent {c : Construction} {content : Content} (h : IsSound c) (id : NodeId)
    (hcontent : ∀ pairs, content = .entries pairs → c.IsKeyed pairs) :
    IsSound (c.setContent id content) where
  single := h.single
  entries {other pairs} hentries := by
    by_cases heq : other = id
    · subst heq
      unfold contentOf Construction.setContent at hentries
      rw [Array.getElem?_setIfInBounds_self] at hentries
      split at hentries
      · exact hcontent pairs hentries
      · simp at hentries
    · have hsame : (c.setContent id content).contentOf other = c.contentOf other := by
        unfold contentOf Construction.setContent
        rw [Array.getElem?_setIfInBounds_ne (Ne.symm heq)]
      exact h.entries (hsame ▸ hentries)

theorem IsSound.fill {c d : Construction} {id : NodeId} (h : IsSound c)
    (hfill : c.fill id = .ok d) : IsSound d := by
  unfold Construction.fill at hfill
  split at hfill
  case h_1 items _ =>
    obtain ⟨e, he, heq⟩ := bind_eq_ok_iff.mp hfill
    cases heq
    exact (h.of_meets (meets_meetAll he)).setContent id (by simp)
  case h_2 items _ | h_3 items _ =>
    obtain ⟨⟨pairs, e⟩, he, heq⟩ := bind_eq_ok_iff.mp hfill
    cases heq
    exact (h.of_meets (meets_meetPairs he)).setContent id (by simp)
  case h_4 _ _ =>
    obtain ⟨nodes, -, hrest⟩ := bind_eq_ok_iff.mp hfill
    obtain ⟨⟨pairs, e⟩, he, heq⟩ := bind_eq_ok_iff.mp hrest
    cases heq
    have hnodes : IsSound { c with nodes } := ⟨h.single, h.entries⟩
    obtain ⟨hmeets, hkeyed⟩ := meets_meetEntries he
    refine (hnodes.of_meets hmeets).setContent id ?_
    intro other hother
    exact Content.entries.inj hother ▸ hkeyed
  case h_5 _ _ =>
    obtain ⟨nodes, -, hrest⟩ := bind_eq_ok_iff.mp hfill
    obtain ⟨⟨pairs, e⟩, he, heq⟩ := bind_eq_ok_iff.mp hrest
    cases heq
    have hnodes : IsSound { c with nodes } := ⟨h.single, h.entries⟩
    exact (hnodes.of_meets (meets_meetEntries he).1).setContent id (by simp)
  case h_6 => simp at hfill

theorem IsSound.fillAll {c d : Construction} {fuel : Nat} (h : IsSound c)
    (hfill : c.fillAll fuel = .ok d) : IsSound d := by
  induction fuel generalizing c with
  | zero => exact Except.ok.inj hfill ▸ h
  | succ fuel ih =>
      unfold Construction.fillAll at hfill
      split at hfill
      · exact Except.ok.inj hfill ▸ h
      · obtain ⟨e, he, hrest⟩ := bind_eq_ok_iff.mp hfill
        have hstart : IsSound { c with waiting := [] } := ⟨h.single, h.entries⟩
        have hround : IsSound e :=
          foldlM_ok_induction (fun _ _ _ hs hstep => IsSound.fill hs hstep) _ _ _ hstart he
        exact ih hround hrest

theorem isSound_ofDocument {d : Document} {c : Construction} (h : ofDocument d = .ok c) :
    IsSound c := by
  obtain ⟨e, he, hfill⟩ := bind_eq_ok_iff.mp h
  refine IsSound.fillAll (IsSound.of_meets ?_ (meets_meet he)) hfill
  constructor
  · intro id v hv
    rw [single?_eq_some_iff, made?, Array.getElem?_replicate] at hv
    split at hv <;> simp at hv
  · intro id pairs hpairs
    rw [contentOf, Array.getElem?_replicate] at hpairs
    split at hpairs <;> simp at hpairs

/-! ## Mappings that are written out -/

theorem hasDistinctKeys_unfoldEntries {c : Construction} {pairs : List (NodeId × NodeId)}
    (h : c.IsKeyed pairs) (unfold : NodeId → Value) :
    (c.unfoldEntries unfold pairs).HasDistinctKeys := by
  unfold unfoldEntries Entries.HasDistinctKeys
  refine List.pairwise_map.mpr (h.2.imp_of_mem ?_)
  intro d e hd he hde
  obtain ⟨v, hv⟩ := h.1 d hd
  obtain ⟨w, hw⟩ := h.1 e he
  simpa [hv, hw] using hde v w hv hw

theorem throughout_unfoldEntries {c : Construction} {pairs : List (NodeId × NodeId)}
    {unfold : NodeId → Value} (h : c.IsKeyed pairs)
    (hunfold : ∀ id, Entries.Within Entries.HasDistinctKeys (unfold id)) :
    Entries.Throughout Entries.HasDistinctKeys (c.unfoldEntries unfold pairs) := by
  refine Entries.throughout_iff.mpr ⟨hasDistinctKeys_unfoldEntries h unfold, ?_⟩
  intro e he
  obtain ⟨d, -, rfl⟩ := List.mem_map.mp he
  exact hunfold d.2

theorem within_unfold {c : Construction} (h : IsSound c) (tame flat : Array Bool) (fuel : Nat)
    (id : NodeId) : Entries.Within Entries.HasDistinctKeys (c.unfold tame flat fuel id) := by
  induction fuel generalizing id with
  | zero => exact Entries.within_of_not_isMapping rfl
  | succ fuel ih =>
      unfold Construction.unfold
      split
      · next v hv => exact Entries.within_of_not_isMapping (h.single hv)
      · dsimp only
        split
        · next pairs hpairs =>
            split
            · exact Entries.within_map (throughout_unfoldEntries (h.entries hpairs) ih)
            · exact Entries.within_of_not_isMapping rfl
        · split
          · split <;> exact Entries.within_of_not_isMapping rfl
          · exact Entries.within_of_not_isMapping rfl

end Construction

/-- No mapping of a document holds a key twice. -/
theorem throughout_hasDistinctKeys_of_load {content : Bytes} {entries : Entries}
    (h : load content = .ok (.entries entries)) :
    Entries.Throughout Entries.HasDistinctKeys entries := by
  obtain ⟨document, -, hrest⟩ := bind_eq_ok_iff.mp h
  split at hrest
  · simp at hrest
  · next d =>
      obtain ⟨c, hc, heq⟩ := bind_eq_ok_iff.mp hrest
      have hsound : c.IsSound := Construction.isSound_ofDocument hc
      have houtcome : c.outcome d.root = .entries entries := Except.ok.inj heq
      unfold Construction.outcome at houtcome
      split at houtcome
      · simp at houtcome
      · simp at houtcome
      · split at houtcome
        · next pairs hpairs =>
            have heq := Outcome.entries.inj houtcome
            rw [← heq]
            exact Construction.throughout_unfoldEntries (hsound.entries hpairs)
              (Construction.within_unfold hsound _ _ _)
        · simp at houtcome

end TreeWatch.Yaml
