import TreeWatch.Proofs.Settings.Layers

/-!
# Layers merged in groups

The lowest of some layers can be merged first. So can the highest, unless along some path one layer
holds a mapping and another one something else. A layer that comes twice counts once.
-/

namespace TreeWatch.Layers

/-- A layer is missing, or a mapping in which, however deep, no key stands twice. -/
inductive IsDeepLayer : Value → Prop
  | missing : IsDeepLayer .null
  | mapping {entries : Entries} : entries.Throughout Entries.HasDistinctKeys →
      IsDeepLayer (.map entries)

/-- What a value holds along a path of keys. -/
def along? : List Value → Value → Option Value
  | [], v => some v
  | key :: path, v => ((entriesOf v).get? key).bind (along? path)

/-- Along no path one layer holds a mapping and another one something that is neither a mapping nor
nothing. -/
def Agree (layers : List Value) : Prop :=
  ∀ path, ∀ a ∈ layers, ∀ b ∈ layers, ∀ u v, along? path a = some u → along? path b = some v →
    u.isMapping = true → v ≠ .null → v.isMapping = true

/-- Along every path entries hold the same, in whatever order they stand. -/
def Alike (es fs : Entries) : Prop :=
  ∀ path, Option.Rel (fun u v => u = v ∨ u.isMapping = true ∧ v.isMapping = true)
    (along? path (.map es)) (along? path (.map fs))

/-- Each key in a mapping is the same when it comes again. Only a double that is no number need not
be. -/
def HasLastingKeys (es : Entries) : Prop :=
  ∀ e ∈ es, e.1.sameKey e.1 = true

/-- Some layers merge in two groups as they do one by one, also if that comes to no end. -/
structure Regroups (xs ys : List Value) : Prop where
  lowest : (do let lower ← merge? xs; merge? (.map lower :: ys)) = merge? (xs ++ ys)
  highest : Agree ys →
    (do let upper ← merge? ys; merge? (xs ++ [.map upper])) = merge? (xs ++ ys)
  repeated : ∀ last, (xs ++ ys).getLast? = some last → Entries.Within HasLastingKeys last →
    merge? (xs ++ ys ++ [last]) = merge? (xs ++ ys)
  /-- Whatever the keys of the last layer are, nothing that is found changes when it is repeated. -/
  alike : ∀ last merged, (xs ++ ys).getLast? = some last → merge? (xs ++ ys) = .ok merged →
    ∃ again, merge? (xs ++ ys ++ [last]) = .ok again ∧ Alike again merged
  ends : (∃ merged, merge? (xs ++ ys) = .ok merged) ↔
    ∀ layer ∈ xs ++ ys, isBottomless layer = false

/-! ## Paths -/

theorem along?_cons (key : Value) (path : List Value) (es : Entries) :
    along? (key :: path) (.map es) = (es.get? key).bind (along? path) := rfl

theorem along?_of_get? {es : Entries} {key v : Value} (h : es.get? key = some v)
    (path : List Value) : along? (key :: path) (.map es) = along? path v := by
  rw [along?_cons, h, Option.bind_some]

theorem along?_entriesOf (es : Entries) (key next : Value) (path : List Value) :
    along? (next :: path) (.map (entriesOf ((es.get? key).getD .null))) =
      along? (key :: next :: path) (.map es) := by
  rw [along?_cons key]
  cases es.get? key <;> rfl

/-- What is held along a path of a merge, if it is no mapping, is held there by one of the two that
were merged. -/
theorem along?_mergeInto {path : List Value} {v : Value} (hv : v.isMapping = false)
    {below above : Entries} (distinct : above.Throughout Entries.HasDistinctKeys)
    (h : along? path (.map (mergeInto below above)) = some v) :
    along? path (.map below) = some v ∨ along? path (.map above) = some v := by
  induction path generalizing below above with
  | nil =>
      obtain rfl := Option.some.inj h
      simp [Value.isMapping] at hv
  | cons key path ih =>
      rw [along?_cons, get?_mergeInto below distinct.self] at h
      cases hheld : heldIn above key with
      | none =>
          rw [hheld] at h
          exact .inl h
      | some w =>
          obtain ⟨hget, -⟩ := heldIn_eq_some_iff.mp hheld
          rw [hheld, Option.bind_some] at h
          by_cases hw : w.isMapping = true
          · obtain ⟨inner, rfl⟩ := Value.isMapping_iff.mp hw
            rw [overlay_map] at h
            rcases ih (distinct.of_get? hget inner rfl) h with hbelow | habove
            · left
              cases path with
              | nil =>
                  obtain rfl := Option.some.inj hbelow
                  simp [Value.isMapping] at hv
              | cons next path => rwa [along?_entriesOf] at hbelow
            · right
              rwa [along?_of_get? hget]
          · right
            rw [overlay_of_not_isMapping _ (Bool.eq_false_iff.mpr hw)] at h
            rwa [along?_of_get? hget]

/-! ## Layers that agree -/

mutual

/-- Whether both of two values are mappings, or neither is, and the same of all that they hold along
one path, nothing apart. -/
def suits : Value → Value → Bool
  | .null, _ => true
  | .map es, w => w.isNull || w.isMapping && allSuit es (entriesOf w)
  | _, w => !w.isMapping
termination_by structural v => v

def allSuit : Entries → Entries → Bool
  | [], _ => true
  | (key, v) :: rest, fs => (fs.get? key).all (suits v) && allSuit rest fs
termination_by structural es => es

end

theorem allSuit_iff {es fs : Entries} :
    allSuit es fs = true ↔ ∀ e ∈ es, ∀ w, fs.get? e.1 = some w → suits e.2 w = true := by
  induction es with
  | nil => simp [allSuit]
  | cons e rest ih =>
      obtain ⟨key, v⟩ := e
      simp [allSuit, ih, Option.all_eq_true]

theorem isMapping_of_suits {a b : Value} (h : suits a b = true) (ha : a.isMapping = true)
    (hb : b ≠ .null) : b.isMapping = true := by
  obtain ⟨es, rfl⟩ := Value.isMapping_iff.mp ha
  rw [suits, Bool.or_eq_true, Bool.and_eq_true, Value.isNull_iff] at h
  exact (h.resolve_left hb).1

theorem agree_of_suits {layers : List Value}
    (h : ∀ a ∈ layers, ∀ b ∈ layers, suits a b = true) : Agree layers := by
  have general : ∀ path a b u v, suits a b = true → along? path a = some u →
      along? path b = some v → u.isMapping = true → v ≠ .null → v.isMapping = true := by
    intro path
    induction path with
    | nil =>
        intro a b u v hsuits hu hv humap hne
        obtain rfl := Option.some.inj hu
        obtain rfl := Option.some.inj hv
        exact isMapping_of_suits hsuits humap hne
    | cons key path ih =>
        intro a b u v hsuits hu hv
        obtain ⟨x, hx, hu⟩ := Option.bind_eq_some_iff.mp hu
        obtain ⟨y, hy, hv⟩ := Option.bind_eq_some_iff.mp hv
        refine ih x y u v ?_ hu hv
        cases a with
        | map es =>
            have hb : b ≠ .null := by
              rintro rfl
              simp [entriesOf] at hy
            rw [suits, Bool.or_eq_true, Bool.and_eq_true, Value.isNull_iff] at hsuits
            obtain ⟨e, he, hkey, rfl⟩ := Entries.exists_mem_of_get? hx
            rw [← Entries.get?_congr hkey] at hy
            exact allSuit_iff.mp (hsuits.resolve_left hb).2 e he y hy
        | _ => simp [entriesOf] at hx
  exact fun path a ha b hb u v => general path a b u v (h a ha b hb)

/-! ## Merging into what was merged -/

/-- Along no path the middle one of three holds something other than a mapping while those below and
above it hold mappings. -/
def Unbroken (below middle above : Entries) : Prop :=
  ∀ path u v w, along? path (.map below) = some u → along? path (.map middle) = some v →
    along? path (.map above) = some w → u.isMapping = true → w.isMapping = true → v ≠ .null →
      v.isMapping = true

theorem unbroken_nil (middle above : Entries) : Unbroken [] middle above := by
  intro path u v w hu hv _ _ _ _
  cases path with
  | nil =>
      obtain rfl := Option.some.inj hv
      rfl
  | cons key path => simp [along?_cons] at hu

theorem Unbroken.of_get? {below middle above : Entries} (h : Unbroken below middle above)
    {key w : Value} (found : above.get? key = some w) :
    Unbroken (entriesOf ((below.get? key).getD .null)) (entriesOf ((middle.get? key).getD .null))
      (entriesOf w) := by
  intro path u v x hu hv hx humap hxmap hne
  cases path with
  | nil =>
      obtain rfl := Option.some.inj hv
      rfl
  | cons next path =>
      rw [along?_entriesOf] at hu hv
      refine h (key :: next :: path) u v x hu hv ?_ humap hxmap hne
      rw [along?_of_get? found]
      exact hx

theorem sameKey_self_of_get? {es : Entries} {key v : Value} (h : es.get? key = some v) :
    key.sameKey key = true := by
  obtain ⟨e, -, hkey, -⟩ := Entries.exists_mem_of_get? h
  exact Value.sameKey_trans (Value.sameKey_comm e.1 key ▸ hkey) hkey

theorem Unbroken.head {below middle rest : Entries} {key value : Value}
    (h : Unbroken below middle ((key, value) :: rest)) :
    Unbroken (entriesOf ((below.get? key).getD .null)) (entriesOf ((middle.get? key).getD .null))
      (entriesOf value) := by
  cases hget : below.get? key with
  | none => exact unbroken_nil _ _
  | some t =>
      rw [← hget]
      refine h.of_get? ?_
      rw [Entries.get?_cons, if_pos (sameKey_self_of_get? hget)]

theorem Unbroken.isMapping_head {below middle rest : Entries} {key value : Value}
    (h : Unbroken below middle ((key, value) :: rest)) (full : IsFull middle)
    (hbelow : ((below.get? key).getD .null).isMapping = true) (hvalue : value.isMapping = true) :
    ∀ v, middle.get? key = some v → v.isMapping = true := by
  intro v hv
  cases hget : below.get? key with
  | none => simp [hget, Value.isMapping] at hbelow
  | some t =>
      rw [hget] at hbelow
      have hhead : Entries.get? ((key, value) :: rest) key = some value := by
        rw [Entries.get?_cons, if_pos (sameKey_self_of_get? hget)]
      exact h [key] t v value (along?_of_get? hget []) (along?_of_get? hv [])
        (along?_of_get? hhead []) hbelow hvalue (inherited_isSolid.get? full hv).1

theorem along?_rest {e : Value × Value} {rest : Entries} {key w : Value} {path : List Value}
    (distinct : Entries.HasDistinctKeys (e :: rest))
    (h : along? (key :: path) (.map rest) = some w) :
    e.1.sameKey key = false ∧ along? (key :: path) (.map (e :: rest)) = some w := by
  obtain ⟨v, hv, -⟩ := Option.bind_eq_some_iff.mp h
  have hapart : e.1.sameKey key = false := by
    rw [Bool.eq_false_iff]
    intro hsame
    rw [entriesOf, distinct.get?_eq_none_of_head hsame] at hv
    simp at hv
  refine ⟨hapart, ?_⟩
  rwa [along?_cons, Entries.get?_cons, hapart, if_neg Bool.false_ne_true]

theorem Unbroken.rest {below middle rest : Entries} {e : Value × Value}
    (h : Unbroken below middle (e :: rest)) (distinct : Entries.HasDistinctKeys (e :: rest)) :
    Unbroken below middle rest := by
  intro path u v w hu hv hw
  cases path with
  | nil => exact fun humap _ => h [] u v (.map (e :: rest)) hu hv rfl humap rfl
  | cons next path => exact h (next :: path) u v w hu hv (along?_rest distinct hw).2

/-- What the first entry of a layer is merged to has no part in how the others are merged. -/
theorem Unbroken.put {below middle rest : Entries} {e : Value × Value}
    (h : Unbroken below middle (e :: rest)) (distinct : Entries.HasDistinctKeys (e :: rest))
    (laid : Value) : Unbroken below (middle.put e.1 laid) rest := by
  intro path u v w hu hv hw
  cases path with
  | nil =>
      intro _ _ _
      obtain rfl := Option.some.inj hv
      rfl
  | cons next path =>
      obtain ⟨hapart, hw⟩ := along?_rest distinct hw
      refine h (next :: path) u v w hu ?_ hw
      rwa [along?_cons, Entries.get?_put, hapart, if_neg Bool.false_ne_true] at hv

theorem put_mergeInto {target layer : Entries} {key : Value} (value : Value)
    (there : (target.get? key).isSome = true) (apart : ∀ e ∈ layer, e.1.sameKey key = false) :
    (mergeInto target layer).put key value = mergeInto (target.put key value) layer := by
  induction layer generalizing target with
  | nil => rfl
  | cons e rest ih =>
      obtain ⟨k, v⟩ := e
      obtain ⟨hk, hrest⟩ := List.forall_mem_cons.mp apart
      have hk' : key.sameKey k = false := (Value.sameKey_comm key k).trans hk
      by_cases hv : v = .null
      · rw [hv]
        exact ih there hrest
      · have hkept : ∀ laid, ((target.put k laid).get? key).isSome = true := by
          intro laid
          rwa [Entries.get?_put, hk, if_neg Bool.false_ne_true]
        rw [mergeInto_cons_of_ne_null target k rest hv, ih (hkept _) hrest,
          Entries.put_comm hk _ _ there, mergeInto_cons_of_ne_null _ k rest hv, Entries.get?_put,
          hk', if_neg Bool.false_ne_true]

theorem mergeInto_put {layer : Entries} (below : Entries) (distinct : layer.HasDistinctKeys)
    (full : ∀ e ∈ layer, e.2 ≠ .null) (key : Value) {value : Value} (hvalue : value ≠ .null) :
    mergeInto below (layer.put key value) =
      (mergeInto below layer).put key (overlay (below.get? key) value) := by
  induction layer generalizing below with
  | nil => exact mergeInto_cons_of_ne_null below key [] hvalue
  | cons e rest ih =>
      obtain ⟨k, v⟩ := e
      obtain ⟨hhead, hdistinct⟩ := List.pairwise_cons.mp distinct
      obtain ⟨hv, hfull⟩ := List.forall_mem_cons.mp full
      rw [mergeInto_cons_of_ne_null below k rest hv]
      cases hkey : k.sameKey key with
      | true =>
          have hthere : ∀ laid, ((below.put k laid).get? key).isSome = true := by
            intro laid
            rw [Entries.get?_put, hkey]
            rfl
          have hapart : ∀ e ∈ rest, e.1.sameKey key = false := by
            intro e he
            rw [Value.sameKey_comm, ← Value.sameKey_congr hkey]
            exact hhead e he
          rw [Entries.put_cons_of_sameKey rest value hkey,
            mergeInto_cons_of_ne_null below k rest hvalue, put_mergeInto _ (hthere _) hapart,
            Entries.put_put hkey, Entries.get?_congr hkey]
      | false =>
          rw [Entries.put_cons_of_not_sameKey rest value hkey,
            mergeInto_cons_of_ne_null below k _ hv, ih _ hdistinct hfull, Entries.get?_put, hkey,
            if_neg Bool.false_ne_true]

theorem get?_mergeInto_of_isFull (below : Entries) {layer : Entries}
    (distinct : layer.HasDistinctKeys) (full : IsFull layer) (key : Value) :
    (mergeInto below layer).get? key =
      ((layer.get? key).map (overlay (below.get? key))).or (below.get? key) := by
  have hheld : heldIn layer key = layer.get? key := by
    cases hget : layer.get? key with
    | none => simp [heldIn, hget]
    | some v => exact heldIn_eq_some_iff.mpr ⟨hget, (inherited_isSolid.get? full hget).1⟩
  rw [get?_mergeInto below distinct, hheld]
  cases layer.get? key <;> rfl

theorem inherited_hasDistinctKeys :
    Inherited (fun _ => True) (Entries.Within Entries.HasDistinctKeys)
      (Entries.Throughout Entries.HasDistinctKeys) where
  inner _ _ _ := trivial
  leaf _ _ hleaf := Entries.within_of_not_isMapping hleaf
  map_iff := ⟨fun h => h _ rfl, Entries.within_map⟩
  nil := Entries.throughout_iff.mpr ⟨List.Pairwise.nil, by simp⟩
  get? h hget := h.of_get? hget
  put h key hvalue := by
    obtain ⟨hdistinct, hwithin⟩ := Entries.throughout_iff.mp h
    refine Entries.throughout_iff.mpr ⟨hdistinct.put key _, fun e he => ?_⟩
    rcases Entries.eq_or_mem_of_mem_put he with heq | hmem
    · exact heq ▸ hvalue
    · exact hwithin e hmem

theorem entriesOf_overlay {below middle : Option Value}
    (level : (below.getD .null).isMapping = true → ∀ v, middle = some v → v.isMapping = true) :
    entriesOf (((middle.map (overlay below)).or below).getD .null) =
      mergeInto (entriesOf (below.getD .null)) (entriesOf (middle.getD .null)) := by
  cases middle with
  | none => rfl
  | some v =>
      rw [Option.map_some, Option.some_or, Option.getD_some, Option.getD_some]
      by_cases hv : v.isMapping = true
      · obtain ⟨inner, rfl⟩ := Value.isMapping_iff.mp hv
        rw [overlay_map]
        rfl
      · have hbelow : (below.getD .null).isMapping = false := by
          rw [Bool.eq_false_iff]
          exact fun hmap => hv (level hmap v rfl)
        have hv : v.isMapping = false := Bool.eq_false_iff.mpr hv
        rw [overlay_of_not_isMapping below hv, entriesOf_of_not_isMapping hv,
          entriesOf_of_not_isMapping hbelow]
        rfl

mutual

/-- The recursion is the one by which values and layers are merged. Below a key the three are
unbroken again, and the values there are both mappings or hide nothing. -/
theorem overlay_overlay {below middle : Option Value}
    (distinct : (entriesOf (middle.getD .null)).Throughout Entries.HasDistinctKeys)
    (full : IsFull (entriesOf (middle.getD .null))) :
    ∀ value : Value, Entries.Within Entries.HasDistinctKeys value →
      Unbroken (entriesOf (below.getD .null)) (entriesOf (middle.getD .null)) (entriesOf value) →
      ((below.getD .null).isMapping = true → value.isMapping = true →
        ∀ v, middle = some v → v.isMapping = true) →
      overlay below (overlay middle value) = overlay ((middle.map (overlay below)).or below) value
  | .map entries, distinct', unbroken, level => by
    rw [overlay_map, overlay_map, overlay_map, entriesOf_overlay fun hbelow => level hbelow rfl,
      mergeInto_mergeInto distinct full entries (distinct' entries rfl) unbroken]
  | .null, _, _, _ | .bool _, _, _, _ | .int _, _, _, _ | .float _, _, _, _ | .nan, _, _, _
  | .text _, _, _, _ | .halves _, _, _, _ | .bytes _, _, _, _ | .date _, _, _, _
  | .moment _, _, _, _ | .list _, _, _, _ | .set _, _, _, _ | .tuple _, _, _, _
  | .knot _ _, _, _, _ => rfl
termination_by structural value => value

/-- A layer can be merged into another one before both are merged into what is below them. -/
theorem mergeInto_mergeInto {below middle : Entries}
    (distinct : middle.Throughout Entries.HasDistinctKeys) (full : IsFull middle) :
    ∀ above : Entries, above.Throughout Entries.HasDistinctKeys → Unbroken below middle above →
      mergeInto below (mergeInto middle above) = mergeInto (mergeInto below middle) above
  | [], _, _ => rfl
  | (key, value) :: rest, distinct', unbroken => by
    obtain ⟨hkeys, hwithin⟩ := Entries.throughout_iff.mp distinct'
    obtain ⟨hvalue, hwithin⟩ := List.forall_mem_cons.mp hwithin
    have hrest : Entries.Throughout Entries.HasDistinctKeys rest :=
      Entries.throughout_iff.mpr ⟨List.Pairwise.of_cons hkeys, hwithin⟩
    by_cases hne : value = .null
    · rw [hne]
      exact mergeInto_mergeInto distinct full rest hrest (unbroken.rest hkeys)
    · let laid := overlay (middle.get? key) value
      have hsolid : IsSolid laid :=
        inherited_isSolid.overlay (inherited_isSolid.entriesOf_get? full key) value trivial hne
      have hinner : Entries.Within Entries.HasDistinctKeys laid :=
        inherited_hasDistinctKeys.overlay (inherited_hasDistinctKeys.entriesOf_get? distinct key)
          value trivial hne
      have hput := mergeInto_put below distinct.self
        (fun e he => (isFull_iff.mp full e he).1) key hsolid.1
      have hnested : overlay (below.get? key) laid =
          overlay ((mergeInto below middle).get? key) value := by
        rw [get?_mergeInto_of_isFull below distinct.self full]
        exact overlay_overlay (inherited_hasDistinctKeys.entriesOf_get? distinct key)
          (inherited_isSolid.entriesOf_get? full key) value hvalue unbroken.head
          (unbroken.isMapping_head full)
      rw [mergeInto_cons_of_ne_null middle key rest hne,
        mergeInto_mergeInto (inherited_hasDistinctKeys.put distinct key hinner)
          (inherited_isSolid.put full key hsolid) rest hrest (unbroken.put hkeys laid),
        hput, hnested, ← mergeInto_cons_of_ne_null _ key rest hne]
termination_by structural above => above

end

/-! ## Merging a layer twice -/

mutual

theorem overlay_overlay_self (current : Option Value) :
    ∀ value : Value, Entries.Within Entries.HasDistinctKeys value →
      Entries.Within HasLastingKeys value →
      overlay (some (overlay current value)) value = overlay current value
  | .map entries, distinct, lasting => by
    rw [overlay_map current, overlay_map, Option.getD_some, entriesOf,
      mergeInto_mergeInto_self _ entries (distinct entries rfl) (lasting entries rfl)]
  | .null, _, _ | .bool _, _, _ | .int _, _, _ | .float _, _, _ | .nan, _, _ | .text _, _, _
  | .halves _, _, _ | .bytes _, _, _ | .date _, _, _ | .moment _, _, _ | .list _, _, _
  | .set _, _, _ | .tuple _, _, _ | .knot _ _, _, _ => rfl
termination_by structural value => value

theorem mergeInto_mergeInto_self (target : Entries) :
    ∀ layer : Entries, layer.Throughout Entries.HasDistinctKeys → layer.Throughout HasLastingKeys →
      mergeInto (mergeInto target layer) layer = mergeInto target layer
  | [], _, _ => rfl
  | (key, value) :: rest, distinct, lasting => by
    obtain ⟨hkeys, hwithin⟩ := Entries.throughout_iff.mp distinct
    obtain ⟨hlast, hwithin'⟩ := Entries.throughout_iff.mp lasting
    obtain ⟨hkey, hlast⟩ := List.forall_mem_cons.mp hlast
    obtain ⟨hvalue, hwithin⟩ := List.forall_mem_cons.mp hwithin
    obtain ⟨hvalue', hwithin'⟩ := List.forall_mem_cons.mp hwithin'
    have hrest : ∀ target, mergeInto (mergeInto target rest) rest = mergeInto target rest :=
      fun target => mergeInto_mergeInto_self target rest
        (Entries.throughout_iff.mpr ⟨List.Pairwise.of_cons hkeys, hwithin⟩)
        (Entries.throughout_iff.mpr ⟨hlast, hwithin'⟩)
    by_cases hne : value = .null
    · rw [hne]
      exact hrest target
    · let laid := overlay (target.get? key) value
      have hfound : (mergeInto (target.put key laid) rest).get? key = some laid := by
        have hnone : heldIn rest key = none := by
          rw [heldIn, Entries.HasDistinctKeys.get?_eq_none_of_head hkeys hkey]
          rfl
        rw [get?_mergeInto _ (List.Pairwise.of_cons hkeys), hnone, Entries.get?_put]
        exact if_pos hkey
      have hlaid : overlay (some laid) value = laid :=
        overlay_overlay_self (target.get? key) value hvalue hvalue'
      rw [mergeInto_cons_of_ne_null target key rest hne, mergeInto_cons_of_ne_null _ key rest hne,
        hfound, hlaid, Entries.put_eq_self hfound, hrest]
termination_by structural layer => layer

end

theorem rel_self (found : Option Value) :
    Option.Rel (fun u v => u = v ∨ u.isMapping = true ∧ v.isMapping = true) found found := by
  cases found with
  | none => exact .none
  | some v => exact .some (.inl rfl)

/-- Whatever its keys are, a layer that is merged again changes nothing that is found. -/
theorem alike_mergeInto_self (target : Entries) {layer : Entries}
    (distinct : layer.Throughout Entries.HasDistinctKeys) :
    Alike (mergeInto (mergeInto target layer) layer) (mergeInto target layer) := by
  intro path
  induction path generalizing target layer with
  | nil => exact .some (.inr ⟨rfl, rfl⟩)
  | cons key path ih =>
      rw [along?_cons, along?_cons, get?_mergeInto _ distinct.self, get?_mergeInto _ distinct.self]
      cases hheld : heldIn layer key with
      | none => exact rel_self _
      | some v =>
          dsimp only
          by_cases hv : v.isMapping = true
          · obtain ⟨inner, rfl⟩ := Value.isMapping_iff.mp hv
            obtain ⟨hget, -⟩ := heldIn_eq_some_iff.mp hheld
            rw [overlay_map (target.get? key), overlay_map]
            exact ih _ (distinct.of_get? hget inner rfl)
          · have hv : v.isMapping = false := Bool.eq_false_iff.mpr hv
            rw [overlay_of_not_isMapping _ hv, overlay_of_not_isMapping _ hv]
            exact rel_self _

/-! ## Layers -/

theorem IsDeepLayer.distinct {layer : Value} (h : IsDeepLayer layer) :
    (entriesOf layer).Throughout Entries.HasDistinctKeys := by
  cases h with
  | missing => exact inherited_hasDistinctKeys.nil
  | mapping hdistinct => exact hdistinct

theorem IsDeepLayer.lasting {layer : Value} (h : IsDeepLayer layer)
    (lasting : Entries.Within HasLastingKeys layer) :
    (entriesOf layer).Throughout HasLastingKeys := by
  cases h with
  | missing =>
      have hkeys : HasLastingKeys [] := by simp [HasLastingKeys]
      exact Entries.throughout_iff.mpr ⟨hkeys, by simp [entriesOf]⟩
  | mapping => exact lasting _ rfl

theorem anyBottomless_eq_false_iff {entries : Entries} :
    anyBottomless entries = false ↔ ∀ e ∈ entries, isBottomless e.2 = false := by
  induction entries with
  | nil => simp [anyBottomless]
  | cons e rest ih =>
      obtain ⟨key, v⟩ := e
      simp [anyBottomless, ih]

theorem inherited_not_isBottomless :
    Inherited (fun v => isBottomless v = false) (fun v => isBottomless v = false)
      (fun es => anyBottomless es = false) where
  inner h := anyBottomless_eq_false_iff.mp h
  leaf h _ _ := h
  map_iff := Iff.rfl
  nil := rfl
  get? h hget := by
    obtain ⟨e, he, -, rfl⟩ := Entries.exists_mem_of_get? hget
    exact anyBottomless_eq_false_iff.mp h e he
  put h key hvalue := by
    rw [anyBottomless_eq_false_iff] at h ⊢
    intro e he
    rcases Entries.eq_or_mem_of_mem_put he with heq | hmem
    · exact heq ▸ hvalue
    · exact h e hmem

theorem isBottomless_merge {layers : List Value} (h : layers.any isBottomless = false) :
    isBottomless (.map (merge layers)) = false := by
  refine inherited_not_isBottomless.merge fun layer hlayer => ?_
  have hlayer : isBottomless layer = false := by simpa using List.any_eq_false.mp h layer hlayer
  cases layer with
  | map entries => exact anyBottomless_eq_false_iff.mp hlayer
  | _ => simp [entriesOf]

theorem merge?_eq_ok_iff {layers : List Value} {merged : Entries} :
    merge? layers = .ok merged ↔
      (∀ layer ∈ layers, isBottomless layer = false) ∧ merge layers = merged := by
  constructor
  · intro h
    unfold merge? at h
    split at h
    · simp at h
    · next hany => exact ⟨by simpa using hany, Except.ok.inj h⟩
  · rintro ⟨hends, rfl⟩
    exact merge?_eq_ok hends

/-- A group of layers can be merged first, provided that this changes nothing where it ends. -/
theorem merge?_group {lower group upper : List Value}
    (same : merge (lower ++ .map (merge group) :: upper) = merge (lower ++ group ++ upper)) :
    (do let merged ← merge? group; merge? (lower ++ .map merged :: upper)) =
      merge? (lower ++ group ++ upper) := by
  unfold merge?
  cases hgroup : group.any isBottomless with
  | true => simp [hgroup, bind, Except.bind]
  | false => simp [hgroup, isBottomless_merge hgroup, same, bind, Except.bind]

theorem merge?_again (layers : List Value) (last : Value) :
    merge? (layers ++ [last] ++ [last]) =
      (merge? (layers ++ [last])).map fun merged => mergeInto merged (entriesOf last) := by
  have hany : (layers ++ [last] ++ [last]).any isBottomless =
      (layers ++ [last]).any isBottomless := by
    simp
  rw [merge?, merge?, hany, merge_append_singleton]
  split <;> rfl

theorem mergeInto_nil_merge {layers : List Value} (h : ∀ layer ∈ layers, IsDeepLayer layer) :
    mergeInto [] (merge layers) = merge layers := by
  induction layers using List.reverseRecOn with
  | nil => rfl
  | append_singleton layers layer ih =>
      rw [List.forall_mem_append, List.forall_mem_singleton] at h
      rw [merge_append_singleton,
        mergeInto_mergeInto (inherited_hasDistinctKeys.merge fun _ _ _ _ => trivial)
          (isFull_merge layers) _ h.2.distinct (unbroken_nil _ _), ih h.1]

theorem merge_lowest {xs : List Value} (h : ∀ layer ∈ xs, IsDeepLayer layer) (ys : List Value) :
    merge (.map (merge xs) :: ys) = merge (xs ++ ys) := by
  have hfirst : merge (.map (merge xs) :: ys) =
      ys.foldl (fun target layer => mergeInto target (entriesOf layer))
        (mergeInto [] (merge xs)) := rfl
  rw [hfirst, mergeInto_nil_merge h, merge, merge, List.foldl_append]

theorem exists_along?_of_merge {layers : List Value} (h : ∀ layer ∈ layers, IsDeepLayer layer)
    {path : List Value} {v : Value} (hv : v.isMapping = false)
    (found : along? path (.map (merge layers)) = some v) :
    ∃ layer ∈ layers, along? path layer = some v := by
  induction layers using List.reverseRecOn with
  | nil =>
      cases path with
      | nil =>
          obtain rfl := Option.some.inj found
          simp [Value.isMapping] at hv
      | cons key path => simp [along?_cons, merge] at found
  | append_singleton layers layer ih =>
      rw [List.forall_mem_append, List.forall_mem_singleton] at h
      rw [merge_append_singleton] at found
      rcases along?_mergeInto hv h.2.distinct found with hbelow | habove
      · obtain ⟨other, hother, hfound⟩ := ih h.1 hbelow
        exact ⟨other, List.mem_append_left _ hother, hfound⟩
      · refine ⟨layer, by simp, ?_⟩
        cases path with
        | nil =>
            obtain rfl := Option.some.inj habove
            simp [Value.isMapping] at hv
        | cons key path => exact habove

theorem unbroken_of_agree {layers : List Value} {layer : Value}
    (h : ∀ other ∈ layers, IsDeepLayer other) (agree : Agree (layers ++ [layer]))
    (below : Entries) : Unbroken below (merge layers) (entriesOf layer) := by
  intro path u v w _ hv hw _ hwmap hne
  by_contra hvmap
  obtain ⟨other, hother, hfound⟩ := exists_along?_of_merge h (Bool.eq_false_iff.mpr hvmap) hv
  cases path with
  | nil =>
      obtain rfl := Option.some.inj hv
      exact hvmap rfl
  | cons key path =>
      have hlayer : layer ∈ layers ++ [layer] := by simp
      have hother : other ∈ layers ++ [layer] := by simp [hother]
      exact hvmap (agree (key :: path) layer hlayer other hother w v hw hfound hwmap hne)

theorem merge_highest {xs ys : List Value} (h : ∀ layer ∈ ys, IsDeepLayer layer)
    (agree : Agree ys) : merge (xs ++ [.map (merge ys)]) = merge (xs ++ ys) := by
  rw [merge_append_singleton]
  show mergeInto (merge xs) (merge ys) = _
  induction ys using List.reverseRecOn with
  | nil => simp [merge, mergeInto]
  | append_singleton ys layer ih =>
      have hboth := h
      rw [List.forall_mem_append, List.forall_mem_singleton] at hboth
      have hprefix : Agree ys := fun path a ha b hb =>
        agree path a (List.mem_append_left _ ha) b (List.mem_append_left _ hb)
      rw [merge_append_singleton,
        mergeInto_mergeInto (inherited_hasDistinctKeys.merge fun _ _ _ _ => trivial)
          (isFull_merge ys) _ hboth.2.distinct (unbroken_of_agree hboth.1 agree _),
        ih hboth.1 hprefix, ← List.append_assoc, merge_append_singleton]

/-- Between two mappings a value that is none hides the lower one, but not from a layer with which
it was merged before. -/
example :
    let low : Value := .map [(.text "a", .map [(.text "x", .int 1)])]
    let scalar : Value := .map [(.text "a", .int 5)]
    let high : Value := .map [(.text "a", .map [(.text "y", .int 2)])]
    merge [low, scalar, high] = [(.text "a", .map [(.text "y", .int 2)])] ∧
      merge [low, .map (merge [scalar, high])] =
        [(.text "a", .map [(.text "x", .int 1), (.text "y", .int 2)])] :=
  ⟨rfl, rfl⟩

/-- Layers can be merged from the lowest on and, if they agree, also from the highest on, and the
last one can come again. -/
theorem regroups_of_isDeepLayer {xs ys : List Value} (h : ∀ layer ∈ xs ++ ys, IsDeepLayer layer) :
    Regroups xs ys := by
  obtain ⟨hxs, hys⟩ := List.forall_mem_append.mp h
  constructor
  case lowest =>
    have hsame : merge ([] ++ .map (merge xs) :: ys) = merge ([] ++ xs ++ ys) := merge_lowest hxs ys
    exact merge?_group hsame
  case highest =>
    intro agree
    have hsame : merge (xs ++ .map (merge ys) :: []) = merge (xs ++ ys ++ []) := by
      rw [List.append_nil]
      exact merge_highest hys agree
    have hgroup := merge?_group hsame
    rwa [List.append_nil] at hgroup
  case repeated =>
    intro last hlast lasting
    have hdeep : IsDeepLayer last := h last (List.mem_of_getLast? hlast)
    obtain ⟨layers, hlayers⟩ := List.getLast?_eq_some_iff.mp hlast
    rw [hlayers, merge?_again]
    cases hmerged : merge? (layers ++ [last]) with
    | error e => rfl
    | ok merged =>
        obtain ⟨-, rfl⟩ := merge?_eq_ok_iff.mp hmerged
        rw [Except.map, merge_append_singleton,
          mergeInto_mergeInto_self _ _ hdeep.distinct (hdeep.lasting lasting)]
  case alike =>
    intro last merged hlast hmerged
    have hdeep : IsDeepLayer last := h last (List.mem_of_getLast? hlast)
    obtain ⟨layers, hlayers⟩ := List.getLast?_eq_some_iff.mp hlast
    rw [hlayers] at hmerged ⊢
    obtain ⟨-, rfl⟩ := merge?_eq_ok_iff.mp hmerged
    refine ⟨_, by rw [merge?_again, hmerged, Except.map], ?_⟩
    rw [merge_append_singleton]
    exact alike_mergeInto_self _ hdeep.distinct
  case ends =>
    simp only [merge?_eq_ok_iff, exists_and_left, exists_eq', and_true]

def lowerLayers : List Value :=
  [.map [(.text "poller", .map [(.text "interval", .int 1), (.text "recursive", .null)]),
      (.text "extra", .null)],
    .null]

def upperLayers : List Value :=
  [.map [],
    .map [(.text "poller", .map [(.text "interval", .null), (.text "recursive", .bool true)]),
      (.text "extra", .map [])],
    .map [(.text "poller", .map [(.text "interval", .int 2)]), (.int 1, .list [])]]

def mergedLayers : Entries :=
  [(.text "poller", .map [(.text "interval", .int 2), (.text "recursive", .bool true)]),
    (.text "extra", .map []), (.int 1, .list [])]

theorem regroups_mergedLayers :
    (∀ layer ∈ lowerLayers ++ upperLayers, IsDeepLayer layer) ∧ Agree upperLayers ∧
      Regroups lowerLayers upperLayers ∧
      merge? (lowerLayers ++ upperLayers) = .ok mergedLayers ∧
      (do let upper ← merge? upperLayers; merge? (lowerLayers ++ [Value.map upper])) =
        .ok mergedLayers := by
  have hflat : ∀ es : Entries, es.HasDistinctKeys → (∀ e ∈ es, e.2.isMapping = false) →
      Entries.Within Entries.HasDistinctKeys (.map es) := fun es hes hleaves =>
    Entries.within_map (Entries.throughout_iff.mpr
      ⟨hes, fun e he => Entries.within_of_not_isMapping (hleaves e he)⟩)
  have hlayers : ∀ layer ∈ lowerLayers ++ upperLayers, IsDeepLayer layer := by
    simp only [lowerLayers, upperLayers, List.cons_append, List.nil_append, List.forall_mem_cons]
    refine ⟨.mapping ?_, .missing, .mapping (hflat [] (by decide) (by simp) _ rfl),
      .mapping ?_, .mapping ?_, by simp⟩
    all_goals refine Entries.throughout_iff.mpr ⟨by decide, ?_⟩
    all_goals simp only [List.forall_mem_cons]
    all_goals refine ⟨hflat _ (by decide) (by decide), ?_, by simp⟩
    · exact Entries.within_of_not_isMapping rfl
    · exact hflat [] (by decide) (by simp)
    · exact Entries.within_of_not_isMapping rfl
  have hagree : Agree upperLayers := agree_of_suits (by decide)
  have hregroups := regroups_of_isDeepLayer hlayers
  exact ⟨hlayers, hagree, hregroups, rfl, (hregroups.highest hagree).trans rfl⟩

end TreeWatch.Layers
