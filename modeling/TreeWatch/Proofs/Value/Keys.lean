import TreeWatch.Value.Basic
import Mathlib.Data.List.Basic

/-!
# Keys of mappings

Being one key is a partial equivalence of values. Giving a key a value changes what is found under
that key and nothing else, and no key comes to stand twice by it. From a mapping others are reached,
which are values in it or in one that is reached.
-/

namespace TreeWatch

namespace Value

variable {a b c : Value}

theorem sameKey_iff : a.sameKey b = true ↔ ∃ k, a.key? = some k ∧ b.key? = some k := by
  unfold sameKey
  cases ha : a.key? <;> cases hb : b.key? <;> simp [eq_comm]

theorem sameKey_comm (a b : Value) : a.sameKey b = b.sameKey a := by
  rw [Bool.eq_iff_iff, sameKey_iff, sameKey_iff]
  simp only [and_comm]

theorem sameKey_trans (hab : a.sameKey b = true) (hbc : b.sameKey c = true) :
    a.sameKey c = true := by
  obtain ⟨k, hak, hbk⟩ := sameKey_iff.mp hab
  obtain ⟨l, hbl, hcl⟩ := sameKey_iff.mp hbc
  have hkl : l = k := Option.some.inj (hbl.symm.trans hbk)
  exact sameKey_iff.mpr ⟨k, hak, hkl ▸ hcl⟩

theorem sameKey_congr (hab : a.sameKey b = true) (c : Value) : a.sameKey c = b.sameKey c := by
  rw [Bool.eq_iff_iff]
  constructor
  · intro hac
    exact sameKey_trans (sameKey_comm a b ▸ hab) hac
  · intro hbc
    exact sameKey_trans hab hbc

@[simp] theorem sameKey_text (s t : String) :
    (Value.text s).sameKey (.text t) = decide (s = t) := by
  simp [sameKey, key?]

theorem keyOfFloat?_ne_text (x : Float) (s : String) : keyOfFloat? x ≠ some (.text s) := by
  unfold keyOfFloat?
  split <;> simp

theorem sameKey_text_iff {s : String} : a.sameKey (.text s) = true ↔ a = .text s := by
  rw [sameKey_iff]
  cases a with
  | float x => simp [key?, keyOfFloat?_ne_text]
  | _ => simp [key?, eq_comm]

def isMapping : Value → Bool
  | map _ => true
  | _ => false

theorem isMapping_iff {v : Value} : v.isMapping = true ↔ ∃ entries, v = map entries := by
  cases v <;> simp [isMapping]

end Value

namespace Entries

def HasDistinctKeys (es : Entries) : Prop :=
  es.Pairwise fun d e => d.1.sameKey e.1 = false

instance (es : Entries) : Decidable es.HasDistinctKeys :=
  inferInstanceAs (Decidable (es.Pairwise fun d e => d.1.sameKey e.1 = false))

/-! ## Looking up -/

@[simp] theorem get?_nil (key : Value) : get? [] key = none := rfl

theorem get?_cons (e : Value × Value) (es : Entries) (key : Value) :
    get? (e :: es) key = if e.1.sameKey key then some e.2 else get? es key := by
  unfold get?
  rw [List.find?_cons]
  cases e.1.sameKey key <;> rfl

theorem exists_mem_of_get? {es : Entries} {key value : Value} (h : es.get? key = some value) :
    ∃ e ∈ es, e.1.sameKey key = true ∧ e.2 = value := by
  obtain ⟨e, he, hvalue⟩ := Option.map_eq_some_iff.mp h
  have hkey : e.1.sameKey key = true := by simpa using List.find?_some he
  exact ⟨e, List.mem_of_find?_eq_some he, hkey, hvalue⟩

theorem get?_eq_none {es : Entries} {key : Value} (h : ∀ e ∈ es, e.1.sameKey key = false) :
    es.get? key = none := by
  cases hget : es.get? key with
  | none => rfl
  | some value =>
      obtain ⟨e, he, hkey, -⟩ := exists_mem_of_get? hget
      simp [h e he] at hkey

theorem get?_congr {k l : Value} (h : k.sameKey l = true) (es : Entries) :
    es.get? k = es.get? l := by
  have hall : ∀ e : Value × Value, e.1.sameKey k = e.1.sameKey l := by
    intro e
    rw [Value.sameKey_comm e.1 k, Value.sameKey_comm e.1 l, Value.sameKey_congr h]
  unfold get?
  simp only [hall]

theorem HasDistinctKeys.get?_eq_none_of_head {e : Value × Value} {es : Entries} {key : Value}
    (h : HasDistinctKeys (e :: es)) (hkey : e.1.sameKey key = true) : get? es key = none := by
  apply get?_eq_none
  intro d hd
  have hne : e.1.sameKey d.1 = false := (List.pairwise_cons.mp h).1 d hd
  rwa [Value.sameKey_congr hkey, Value.sameKey_comm] at hne

/-! ## Giving a key a value -/

/-- Giving a key a value changes what is found under that key alone. -/
theorem get?_put (key value other : Value) (es : Entries) :
    (es.put key value).get? other =
      if key.sameKey other then some value else es.get? other := by
  induction es with
  | nil => rw [put, get?_cons]
  | cons e rest ih =>
      unfold put
      split
      · next hsame =>
          rw [get?_cons, get?_cons, ← Value.sameKey_congr hsame other]
          split <;> rfl
      · next hne =>
          rw [get?_cons, get?_cons, ih]
          by_cases hother : e.1.sameKey other = true
          · have hkey : key.sameKey other = false := by
              rw [Bool.eq_false_iff]
              intro hkey
              exact hne (Value.sameKey_trans hother (Value.sameKey_comm key other ▸ hkey))
            simp [hother, hkey]
          · simp [hother]

theorem eq_or_mem_of_mem_put {key value : Value} {e : Value × Value} {es : Entries}
    (h : e ∈ es.put key value) : e.2 = value ∨ e ∈ es := by
  induction es with
  | nil =>
      rw [put, List.mem_singleton] at h
      exact .inl (congrArg Prod.snd h)
  | cons d rest ih =>
      unfold put at h
      split at h
      · rcases List.mem_cons.mp h with rfl | hmem
        · exact .inl rfl
        · exact .inr (List.mem_cons_of_mem d hmem)
      · rcases List.mem_cons.mp h with rfl | hmem
        · exact .inr List.mem_cons_self
        · exact (ih hmem).imp_right (List.mem_cons_of_mem d)

theorem sameKey_of_mem_put {key value : Value} {d : Value × Value} {es : Entries}
    (hd : ∀ e ∈ es, d.1.sameKey e.1 = false) (hkey : d.1.sameKey key = false) :
    ∀ e ∈ es.put key value, d.1.sameKey e.1 = false := by
  induction es with
  | nil => simpa [put] using hkey
  | cons e rest ih =>
      rw [List.forall_mem_cons] at hd
      unfold put
      split
      · exact List.forall_mem_cons.mpr hd
      · exact List.forall_mem_cons.mpr ⟨hd.1, ih hd.2⟩

theorem HasDistinctKeys.put {es : Entries} (h : es.HasDistinctKeys) (key value : Value) :
    (es.put key value).HasDistinctKeys := by
  induction es with
  | nil => exact List.pairwise_singleton _ _
  | cons e rest ih =>
      obtain ⟨hhead, hrest⟩ := List.pairwise_cons.mp h
      unfold Entries.put
      split
      · exact List.pairwise_cons.mpr ⟨hhead, hrest⟩
      · next hne =>
          have hkey : e.1.sameKey key = false := by simpa using hne
          exact List.pairwise_cons.mpr ⟨sameKey_of_mem_put hhead hkey, ih hrest⟩

theorem put_cons_of_sameKey {e : Value × Value} {key : Value} (rest : Entries) (value : Value)
    (h : e.1.sameKey key = true) : put key value (e :: rest) = (e.1, value) :: rest :=
  if_pos h

theorem put_cons_of_not_sameKey {e : Value × Value} {key : Value} (rest : Entries) (value : Value)
    (h : e.1.sameKey key = false) : put key value (e :: rest) = e :: rest.put key value :=
  if_neg (by simp [h])

theorem put_put {k l : Value} (same : k.sameKey l = true) (a b : Value) (es : Entries) :
    (es.put k a).put l b = es.put k b := by
  induction es with
  | nil => exact put_cons_of_sameKey [] b same
  | cons e rest ih =>
      have hkeys : e.1.sameKey l = e.1.sameKey k := by
        rw [Value.sameKey_comm e.1 l, ← Value.sameKey_congr same, Value.sameKey_comm]
      cases hkey : e.1.sameKey k with
      | true =>
          rw [put_cons_of_sameKey rest a hkey, put_cons_of_sameKey rest b hkey]
          exact put_cons_of_sameKey rest b (hkeys.trans hkey)
      | false =>
          rw [put_cons_of_not_sameKey rest a hkey, put_cons_of_not_sameKey rest b hkey,
            put_cons_of_not_sameKey _ b (hkeys.trans hkey), ih]

/-- Giving values to two keys can be done in either order if one of them is there. -/
theorem put_comm {k l : Value} (apart : k.sameKey l = false) (a b : Value) {es : Entries}
    (there : (es.get? l).isSome = true) : (es.put k a).put l b = (es.put l b).put k a := by
  induction es with
  | nil => simp at there
  | cons e rest ih =>
      cases hk : e.1.sameKey k with
      | true =>
          have hl : e.1.sameKey l = false := (Value.sameKey_congr hk l).trans apart
          rw [put_cons_of_sameKey rest a hk, put_cons_of_not_sameKey rest b hl,
            put_cons_of_sameKey _ a hk]
          exact put_cons_of_not_sameKey rest b hl
      | false =>
          cases hl : e.1.sameKey l with
          | true =>
              rw [put_cons_of_not_sameKey rest a hk, put_cons_of_sameKey _ b hl,
                put_cons_of_sameKey rest b hl]
              exact (put_cons_of_not_sameKey (e := (e.1, b)) rest a hk).symm
          | false =>
              have hrest : (get? rest l).isSome = true := by
                simpa [get?_cons, hl] using there
              rw [put_cons_of_not_sameKey rest a hk, put_cons_of_not_sameKey _ b hl,
                put_cons_of_not_sameKey rest b hl, put_cons_of_not_sameKey _ a hk, ih hrest]

theorem put_eq_self {key value : Value} {es : Entries} (h : es.get? key = some value) :
    es.put key value = es := by
  induction es with
  | nil => simp at h
  | cons e rest ih =>
      rw [get?_cons] at h
      cases hkey : e.1.sameKey key with
      | true =>
          obtain rfl : e.2 = value := by simpa [hkey] using h
          exact put_cons_of_sameKey rest e.2 hkey
      | false => rw [put_cons_of_not_sameKey rest value hkey, ih (by simpa [hkey] using h)]

/-! ## Mappings within mappings -/

/-- A mapping that is reached from another one through mappings alone. -/
inductive Reaches : Entries → Entries → Prop
  | here (es : Entries) : Reaches es es
  | into {es inner below : Entries} {key : Value} :
      (key, .map inner) ∈ es → Reaches inner below → Reaches es below

/-- Something holds of every mapping that is reached. -/
def Throughout (P : Entries → Prop) (es : Entries) : Prop :=
  ∀ below, Reaches es below → P below

def Within (P : Entries → Prop) (v : Value) : Prop :=
  ∀ inner, v = .map inner → Throughout P inner

variable {P : Entries → Prop}

theorem throughout_iff {es : Entries} :
    Throughout P es ↔ P es ∧ ∀ e ∈ es, Within P e.2 := by
  constructor
  · intro h
    refine ⟨h es (.here es), ?_⟩
    rintro ⟨key, v⟩ he inner rfl below hreach
    exact h below (.into he hreach)
  · rintro ⟨hes, hinner⟩ below hreach
    cases hreach with
    | here => exact hes
    | into he hbelow => exact hinner _ he _ rfl below hbelow

theorem Throughout.self {es : Entries} (h : Throughout P es) : P es :=
  (throughout_iff.mp h).1

theorem Throughout.of_get? {es : Entries} {key v : Value} (h : Throughout P es)
    (hget : es.get? key = some v) : Within P v := by
  obtain ⟨e, he, -, heq⟩ := exists_mem_of_get? hget
  exact heq ▸ (throughout_iff.mp h).2 e he

theorem within_of_not_isMapping {v : Value} (h : v.isMapping = false) : Within P v := by
  rintro inner rfl
  simp [Value.isMapping] at h

theorem within_map {es : Entries} (h : Throughout P es) : Within P (.map es) := by
  intro inner heq
  exact Value.map.inj heq ▸ h

end Entries

end TreeWatch
