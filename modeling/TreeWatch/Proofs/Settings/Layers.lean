import TreeWatch.Settings.Layers
import TreeWatch.Proofs.Value.Keys
import Mathlib.Data.List.Induction

/-!
# Layers laid over each other

What the merge of layers holds under a key is settled by the values that the layers hold there: the
last of them wins, and where it is a mapping it is merged with the mappings right below it. Nothing
that is reached in a merge through mappings is empty.
-/

namespace TreeWatch

namespace Value

def isNull : Value → Bool
  | null => true
  | _ => false

theorem isNull_iff {v : Value} : v.isNull = true ↔ v = null := by
  cases v <;> simp [isNull]

end Value

namespace Layers

/-- A layer is missing, or a mapping that holds no key twice and in which a merge comes to an end.
-/
inductive IsLayer : Value → Prop
  | missing : IsLayer .null
  | mapping {entries : Entries} :
      entries.HasDistinctKeys → anyBottomless entries = false → IsLayer (.map entries)

/-- The value that entries hold under a key, if there is one other than nothing. -/
def heldIn (entries : Entries) (key : Value) : Option Value :=
  (entries.get? key).filter fun v => !v.isNull

/-- The values other than nothing that layers hold under a key, the lowest first. -/
def held (layers : List Value) (key : Value) : List Value :=
  layers.filterMap fun layer => heldIn (entriesOf layer) key

/-- What becomes of the values that layers hold under a key, the lowest first. -/
inductive Settles : List Value → Option Value → Prop
  | absent : Settles [] none
  /-- Anything but a mapping takes the place of all that is below it. -/
  | replaced {below : List Value} {v : Value} :
      v.isMapping = false → Settles (below ++ [v]) (some v)
  /-- Of mappings, those count that stand above everything else, and they are merged. -/
  | merged {below run : List Value} {inner : Entries} :
      run ≠ [] → (∀ v ∈ run, v.isMapping = true) →
      (∀ v, below.getLast? = some v → v.isMapping = false) →
      merge? run = .ok inner → Settles (below ++ run) (some (.map inner))

/-- No mapping that is reached holds nothing under some key. -/
def IsFull : Entries → Prop :=
  Entries.Throughout fun entries => ∀ e ∈ entries, e.2 ≠ .null

structure IsMergeOf (layers : List Value) (merged : Entries) : Prop where
  distinct : merged.HasDistinctKeys
  settles : ∀ key, Settles (held layers key) (merged.get? key)
  full : IsFull merged

/-! ## Values held under a key -/

theorem heldIn_eq_some_iff {entries : Entries} {key v : Value} :
    heldIn entries key = some v ↔ entries.get? key = some v ∧ v ≠ .null := by
  rw [heldIn, Option.filter_eq_some_iff, Bool.not_eq_true', Bool.eq_false_iff, ne_eq,
    Value.isNull_iff]

@[simp] theorem heldIn_nil (key : Value) : heldIn [] key = none := rfl

theorem heldIn_cons_of_sameKey {e : Value × Value} {key : Value} (rest : Entries)
    (hkey : e.1.sameKey key = true) (hvalue : e.2 ≠ .null) :
    heldIn (e :: rest) key = some e.2 := by
  rw [heldIn_eq_some_iff, Entries.get?_cons, if_pos hkey]
  exact ⟨rfl, hvalue⟩

theorem heldIn_cons_of_not_sameKey {e : Value × Value} {key : Value} (rest : Entries)
    (hkey : e.1.sameKey key = false) : heldIn (e :: rest) key = heldIn rest key := by
  rw [heldIn, heldIn, Entries.get?_cons, hkey, if_neg Bool.false_ne_true]

/-- Nothing under a key is as good as no such key. -/
theorem heldIn_cons_null {k : Value} {rest : Entries} (key : Value)
    (h : Entries.HasDistinctKeys ((k, .null) :: rest)) :
    heldIn ((k, .null) :: rest) key = heldIn rest key := by
  by_cases hkey : k.sameKey key = true
  · have hnone : rest.get? key = none := h.get?_eq_none_of_head hkey
    rw [heldIn, heldIn, Entries.get?_cons, if_pos hkey, hnone]
    rfl
  · exact heldIn_cons_of_not_sameKey rest (Bool.eq_false_iff.mpr hkey)

theorem held_cons (layer : Value) (layers : List Value) (key : Value) :
    held (layer :: layers) key =
      (heldIn (entriesOf layer) key).toList ++ held layers key := by
  unfold held
  rw [List.filterMap_cons]
  cases heldIn (entriesOf layer) key <;> rfl

theorem mem_held {layers : List Value} {key v : Value} (h : v ∈ held layers key) :
    ∃ layer ∈ layers, (entriesOf layer).get? key = some v ∧ v ≠ .null := by
  obtain ⟨layer, hmem, hlayer⟩ := List.mem_filterMap.mp h
  exact ⟨layer, hmem, heldIn_eq_some_iff.mp hlayer⟩

/-! ## Laying one layer -/

theorem overlay_of_not_isMapping {v : Value} (current : Option Value)
    (h : v.isMapping = false) : overlay current v = v := by
  cases v <;> first | rfl | simp [Value.isMapping] at h

theorem overlay_map (current : Option Value) (entries : Entries) :
    overlay current (.map entries) =
      .map (mergeInto (entriesOf (current.getD .null)) entries) := by
  rcases current with _ | v
  · rfl
  · cases v <;> rfl

theorem entriesOf_of_not_isMapping {v : Value} (h : v.isMapping = false) : entriesOf v = [] := by
  cases v <;> first | rfl | simp [Value.isMapping] at h

theorem mergeInto_cons_of_ne_null {value : Value} (target : Entries) (key : Value)
    (rest : Entries) (h : value ≠ .null) :
    mergeInto target ((key, value) :: rest) =
      mergeInto (target.put key (overlay (target.get? key) value)) rest := by
  cases value <;> first | rfl | exact absurd rfl h

/-- A layer changes what is found under the keys for which it holds something. -/
theorem get?_mergeInto (target : Entries) {layer : Entries} (h : layer.HasDistinctKeys)
    (key : Value) :
    (mergeInto target layer).get? key =
      match heldIn layer key with
      | none => target.get? key
      | some v => some (overlay (target.get? key) v) := by
  induction layer generalizing target with
  | nil => rfl
  | cons e rest ih =>
      obtain ⟨k, value⟩ := e
      have hrest : Entries.HasDistinctKeys rest := List.Pairwise.of_cons h
      by_cases hvalue : value = .null
      · subst hvalue
        rw [heldIn_cons_null key h, mergeInto, ih target hrest]
      · rw [mergeInto_cons_of_ne_null target k rest hvalue, ih _ hrest, Entries.get?_put]
        by_cases hkey : k.sameKey key = true
        · have hnone : heldIn rest key = none := by
            rw [heldIn, h.get?_eq_none_of_head hkey]
            rfl
          rw [hnone, heldIn_cons_of_sameKey rest hkey hvalue, if_pos hkey,
            Entries.get?_congr hkey]
        · have hne : k.sameKey key = false := Bool.eq_false_iff.mpr hkey
          rw [heldIn_cons_of_not_sameKey rest hne, if_neg hkey]

theorem hasDistinctKeys_mergeInto {target : Entries} (layer : Entries)
    (h : target.HasDistinctKeys) : (mergeInto target layer).HasDistinctKeys := by
  induction layer generalizing target with
  | nil => exact h
  | cons e rest ih =>
      obtain ⟨k, value⟩ := e
      by_cases hvalue : value = .null
      · subst hvalue
        exact ih h
      · rw [mergeInto_cons_of_ne_null target k rest hvalue]
        exact ih (h.put k _)

/-! ## Laying all layers -/

def overlayAll (current : Option Value) (vs : List Value) : Option Value :=
  vs.foldl (fun current v => some (overlay current v)) current

theorem get?_foldl_mergeInto (target : Entries) {layers : List Value}
    (h : ∀ layer ∈ layers, (entriesOf layer).HasDistinctKeys) (key : Value) :
    (layers.foldl (fun target layer => mergeInto target (entriesOf layer)) target).get? key =
      overlayAll (target.get? key) (held layers key) := by
  induction layers generalizing target with
  | nil => rfl
  | cons layer rest ih =>
      rw [List.forall_mem_cons] at h
      rw [List.foldl_cons, ih _ h.2, get?_mergeInto target h.1, held_cons]
      cases heldIn (entriesOf layer) key <;> rfl

theorem get?_merge {layers : List Value}
    (h : ∀ layer ∈ layers, (entriesOf layer).HasDistinctKeys) (key : Value) :
    (merge layers).get? key = overlayAll none (held layers key) :=
  get?_foldl_mergeInto [] h key

theorem hasDistinctKeys_merge (layers : List Value) : (merge layers).HasDistinctKeys := by
  unfold merge
  induction layers using List.reverseRecOn with
  | nil => exact List.Pairwise.nil
  | append_singleton layers layer ih =>
      rw [List.foldl_append]
      exact hasDistinctKeys_mergeInto _ ih

theorem merge_append_singleton (layers : List Value) (layer : Value) :
    merge (layers ++ [layer]) = mergeInto (merge layers) (entriesOf layer) := by
  rw [merge, List.foldl_append]
  rfl

theorem merge?_eq_ok {layers : List Value} (h : ∀ layer ∈ layers, isBottomless layer = false) :
    merge? layers = .ok (merge layers) := by
  have hany : layers.any isBottomless = false := by simpa using h
  rw [merge?, hany, if_neg Bool.false_ne_true]

theorem overlayAll_append_singleton (current : Option Value) (vs : List Value) (v : Value) :
    overlayAll current (vs ++ [v]) = some (overlay (overlayAll current vs) v) := by
  simp [overlayAll, List.foldl_append]

/-- A mapping that comes last is merged with the mappings right below it. -/
theorem Settles.append_mapping {vs : List Value} {found : Option Value} {entries : Entries}
    (h : Settles vs found) (hend : ∀ v ∈ vs ++ [.map entries], isBottomless v = false) :
    Settles (vs ++ [.map entries]) (some (overlay found (.map entries))) := by
  have hlast : isBottomless (.map entries) = false := hend _ (by simp)
  have halone : merge? [.map entries] = .ok (mergeInto [] entries) :=
    merge?_eq_ok (by simpa using hlast)
  cases h with
  | absent =>
      exact @Settles.merged [] _ _ (by simp) (by simp [Value.isMapping]) (by simp) halone
  | @replaced below v hv =>
      rw [overlay_map, Option.getD_some, entriesOf_of_not_isMapping hv]
      exact .merged (by simp) (by simp [Value.isMapping]) (by simpa using hv) halone
  | @merged below run inner hne hrun hbelow hinner =>
      have hends : ∀ v ∈ run ++ [.map entries], isBottomless v = false := by
        intro v hv
        apply hend v
        rw [List.append_assoc]
        exact List.mem_append_right below hv
      have hmerge : merge run = inner := by
        rw [merge?_eq_ok fun v hv => hends v (List.mem_append_left _ hv)] at hinner
        exact Except.ok.inj hinner
      rw [List.append_assoc]
      refine .merged (by simp) ?_ hbelow ?_
      · rw [List.forall_mem_append]
        exact ⟨hrun, by simp [Value.isMapping]⟩
      · rw [merge?_eq_ok hends, merge_append_singleton, hmerge]
        rfl

theorem settles_overlayAll {vs : List Value} (h : ∀ v ∈ vs, isBottomless v = false) :
    Settles vs (overlayAll none vs) := by
  -- From the end, since the last value decides whether those before it count.
  induction vs using List.reverseRecOn with
  | nil => exact .absent
  | append_singleton vs v ih =>
      have hvs : Settles vs (overlayAll none vs) := ih fun u hu => h u (List.mem_append_left _ hu)
      rw [overlayAll_append_singleton]
      by_cases hv : v.isMapping = true
      · obtain ⟨entries, rfl⟩ := Value.isMapping_iff.mp hv
        exact hvs.append_mapping h
      · have hv : v.isMapping = false := Bool.eq_false_iff.mpr hv
        rw [overlay_of_not_isMapping _ hv]
        exact .replaced hv

theorem isBottomless_of_mem {entries : Entries} (h : anyBottomless entries = false) :
    ∀ e ∈ entries, isBottomless e.2 = false := by
  induction entries with
  | nil => simp
  | cons e rest ih =>
      obtain ⟨hvalue, hrest⟩ := Bool.or_eq_false_iff.mp h
      exact List.forall_mem_cons.mpr ⟨hvalue, ih hrest⟩

theorem IsLayer.isBottomless {layer : Value} (h : IsLayer layer) :
    Layers.isBottomless layer = false := by
  cases h with
  | missing => rfl
  | mapping _ hend => exact hend

theorem IsLayer.distinct {layer : Value} (h : IsLayer layer) :
    (entriesOf layer).HasDistinctKeys := by
  cases h with
  | missing => exact List.Pairwise.nil
  | mapping hdistinct _ => exact hdistinct

theorem IsLayer.isBottomless_of_mem {layer : Value} (h : IsLayer layer) :
    ∀ e ∈ entriesOf layer, Layers.isBottomless e.2 = false := by
  cases h with
  | missing => simp [entriesOf]
  | mapping _ hend => exact Layers.isBottomless_of_mem hend

theorem isBottomless_of_mem_held {layers : List Value} (h : ∀ layer ∈ layers, IsLayer layer)
    (key : Value) : ∀ v ∈ held layers key, isBottomless v = false := by
  intro v hv
  obtain ⟨layer, hlayer, hget, -⟩ := mem_held hv
  obtain ⟨e, he, -, rfl⟩ := Entries.exists_mem_of_get? hget
  exact (h layer hlayer).isBottomless_of_mem e he

/-! ## What goes through a merge -/

/-- A property that values of a sort have, and mappings if their entries do, goes from mappings to
what is laid over them. -/
structure Inherited (sort property : Value → Prop) (ofEntries : Entries → Prop) : Prop where
  inner : ∀ {es : Entries}, sort (.map es) → ∀ e ∈ es, sort e.2
  leaf : ∀ {v : Value}, sort v → v ≠ .null → v.isMapping = false → property v
  map_iff : ∀ {es : Entries}, property (.map es) ↔ ofEntries es
  nil : ofEntries []
  get? : ∀ {es : Entries} {key v : Value}, ofEntries es → es.get? key = some v → property v
  put : ∀ {es : Entries} {v : Value}, ofEntries es → ∀ key, property v → ofEntries (es.put key v)

namespace Inherited

variable {sort property : Value → Prop} {ofEntries : Entries → Prop}

theorem entriesOf_get? (h : Inherited sort property ofEntries) {es : Entries} (hes : ofEntries es)
    (key : Value) : ofEntries (entriesOf ((es.get? key).getD .null)) := by
  cases hget : es.get? key with
  | none => exact h.nil
  | some v =>
      cases v with
      | map inner => exact h.map_iff.mp (h.get? hes hget)
      | _ => exact h.nil

mutual

theorem overlay (h : Inherited sort property ofEntries) {current : Option Value}
    (hcurrent : ofEntries (entriesOf (current.getD .null))) :
    ∀ value : Value, sort value → value ≠ .null → property (Layers.overlay current value)
  | .map entries, hsort, _ => by
    rw [overlay_map]
    exact h.map_iff.mpr (mergeInto h hcurrent entries (h.inner hsort))
  | .null, _, hne => absurd rfl hne
  | .bool _, hsort, hne | .int _, hsort, hne | .float _, hsort, hne | .nan, hsort, hne
  | .text _, hsort, hne | .halves _, hsort, hne | .bytes _, hsort, hne | .date _, hsort, hne
  | .moment _, hsort, hne | .list _, hsort, hne | .set _, hsort, hne | .tuple _, hsort, hne
  | .knot _ _, hsort, hne => h.leaf hsort hne rfl
termination_by structural value => value

theorem mergeInto (h : Inherited sort property ofEntries) {target : Entries}
    (htarget : ofEntries target) :
    ∀ layer : Entries, (∀ e ∈ layer, sort e.2) → ofEntries (Layers.mergeInto target layer)
  | [], _ => htarget
  | (key, value) :: rest, hlayer => by
    obtain ⟨hvalue, hrest⟩ := List.forall_mem_cons.mp hlayer
    by_cases hne : value = .null
    · rw [hne]
      exact mergeInto h htarget rest hrest
    · rw [mergeInto_cons_of_ne_null target key rest hne]
      have hover : property (Layers.overlay (target.get? key) value) :=
        overlay h (h.entriesOf_get? htarget key) value hvalue hne
      exact mergeInto h (h.put htarget key hover) rest hrest
termination_by structural layer => layer

end

theorem merge (h : Inherited sort property ofEntries) {layers : List Value}
    (hlayers : ∀ layer ∈ layers, ∀ e ∈ entriesOf layer, sort e.2) :
    ofEntries (Layers.merge layers) := by
  induction layers using List.reverseRecOn with
  | nil => exact h.nil
  | append_singleton layers layer ih =>
      rw [List.forall_mem_append, List.forall_mem_singleton] at hlayers
      rw [merge_append_singleton]
      exact h.mergeInto (ih hlayers.1) _ hlayers.2

end Inherited

/-! ## Nothing stands for nothing -/

/-- A value that is not nothing and, if it is a mapping, is full. -/
def IsSolid (v : Value) : Prop :=
  v ≠ .null ∧ ∀ inner, v = .map inner → IsFull inner

theorem isFull_iff {entries : Entries} : IsFull entries ↔ ∀ e ∈ entries, IsSolid e.2 := by
  rw [IsFull, Entries.throughout_iff, ← forall₂_and]
  rfl

theorem inherited_isSolid : Inherited (fun _ => True) IsSolid IsFull where
  inner _ _ _ := trivial
  leaf _ hne hleaf := ⟨hne, fun inner heq => by simp [heq, Value.isMapping] at hleaf⟩
  map_iff := ⟨fun h => h.2 _ rfl, fun h => ⟨by simp, fun _ heq => Value.map.inj heq ▸ h⟩⟩
  nil := isFull_iff.mpr (by simp)
  get? h hget := by
    obtain ⟨e, he, -, rfl⟩ := Entries.exists_mem_of_get? hget
    exact isFull_iff.mp h e he
  put h key hvalue := by
    rw [isFull_iff] at h ⊢
    intro e he
    rcases Entries.eq_or_mem_of_mem_put he with heq | hmem
    · exact heq ▸ hvalue
    · exact h e hmem

theorem isFull_merge (layers : List Value) : IsFull (merge layers) :=
  inherited_isSolid.merge fun _ _ _ _ => trivial

/-! ## The merge -/

/-- Layers have a merge, in which each key holds what becomes of the values of the layers. -/
theorem exists_isMergeOf {layers : List Value} (h : ∀ layer ∈ layers, IsLayer layer) :
    ∃ merged, merge? layers = .ok merged ∧ IsMergeOf layers merged := by
  refine ⟨merge layers, merge?_eq_ok fun layer hlayer => (h layer hlayer).isBottomless, ?_⟩
  constructor
  case distinct => exact hasDistinctKeys_merge layers
  case settles =>
    intro key
    rw [get?_merge (fun layer hlayer => (h layer hlayer).distinct) key]
    exact settles_overlayAll (isBottomless_of_mem_held h key)
  case full => exact isFull_merge layers

/-- Layers of which one is missing, and in which a number stands between mappings of one key. -/
def conflictingLayers : List Value :=
  [.map [(.text "poller", .map [(.text "interval", .int 1), (.text "recursive", .bool true)]),
      (.text "extra", .list [.int 1])],
    .null,
    .map [(.text "poller", .int 5), (.text "extra", .null)],
    .map [(.text "poller", .map [(.text "recursive", .null), (.text "interval", .int 2)])],
    .map [(.text "poller", .map [(.text "track_symlinks", .bool true)])]]

theorem exists_isMergeOf_conflictingLayers :
    (∀ layer ∈ conflictingLayers, IsLayer layer) ∧
      ∃ merged, merge? conflictingLayers = .ok merged ∧ IsMergeOf conflictingLayers merged ∧
        merged.get? (.text "poller") =
          some (.map [(.text "interval", .int 2), (.text "track_symlinks", .bool true)]) := by
  have hlayers : ∀ layer ∈ conflictingLayers, IsLayer layer := by
    simp only [conflictingLayers, List.forall_mem_cons]
    refine ⟨.mapping ?_ ?_, .missing, .mapping ?_ ?_, .mapping ?_ ?_, .mapping ?_ ?_, ?_⟩
    all_goals first | decide | simp
  obtain ⟨merged, hmerged, hmerge⟩ := exists_isMergeOf hlayers
  have heq : merge conflictingLayers = merged := Except.ok.inj hmerged
  exact ⟨hlayers, merged, hmerged, hmerge, heq ▸ rfl⟩

end Layers

end TreeWatch
