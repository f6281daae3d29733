import TreeWatch.Proofs.Session.Turns
import Mathlib.Data.List.Induction

/-!
# Which settings are kept

The settings of the whole program that a session keeps are those of the last load of them that read
the files and came to something, unless they have been forgotten since. Calls for them are answered
with these settings whatever has become of the files, and calls for a project or with a file named
neither get them nor change them. Settings that are handed out bear a number, and two answers bear
the same one just when one load made them both.
-/

namespace TreeWatch

/-! ## Histories -/

/-- The last load of the settings of the whole program that read the files and came to something is
the one at a moment, and the settings have not been forgotten since. -/
structure IsLastLoad (history : List Happening) (moment : Nat) (settings : Settings) : Prop where
  loads : history[moment]?.map (·.turn) = some (.fresh settings true)
  since : ∀ later, moment < later → ∀ e, history[later]? = some e → e.turn.isChange = false

/-- The settings that are used at one moment were loaded at another. -/
inductive IsFrom (history : List Happening) (moment : Nat) : Nat → Prop where
  | fresh {settings : Settings} {isGlobal : Bool}
      (turn : history[moment]?.map (·.turn) = some (.fresh settings isGlobal)) :
      IsFrom history moment moment
  | kept {earlier : Nat} {settings : Settings} (turn : history[moment]?.map (·.turn) = some .kept)
      (last : IsLastLoad (history.take moment) earlier settings) : IsFrom history moment earlier

/-- The settings that were loaded at a moment have been handed out under a number. -/
def Given (history : List Happening) (moment number : Nat) : Prop :=
  ∃ later settings, history[later]?.bind (·.handed?) = some (settings, number) ∧
    IsFrom history later moment

section Histories

variable {history : List Happening} {e : Happening} {k l m n : Nat} {settings : Settings}

theorem getElem?_append_singleton {e' : Happening} :
    (history ++ [e])[k]? = some e' ↔ history[k]? = some e' ∨ (k = history.length ∧ e = e') := by
  rcases Nat.lt_trichotomy k history.length with hold | rfl | hnew
  · rw [List.getElem?_append_left hold]
    exact ⟨.inl, fun h => h.resolve_right fun h' => (Nat.ne_of_lt hold) h'.1⟩
  · simp
  · have hnone : history[k]? = none := List.getElem?_eq_none (Nat.le_of_lt hnew)
    have hnone' : (history ++ [e])[k]? = none :=
      List.getElem?_eq_none (by simpa using Nat.succ_le_of_lt hnew)
    simp [hnone, hnone', Nat.ne_of_gt hnew]

theorem IsLastLoad.lt (h : IsLastLoad history k settings) : k < history.length := by
  obtain ⟨e, he, -⟩ := Option.map_eq_some_iff.mp h.loads
  exact (List.getElem?_eq_some_iff.mp he).choose

theorem IsLastLoad.unique {other : Settings} (h : IsLastLoad history k settings)
    (h' : IsLastLoad history l other) : k = l := by
  obtain ⟨e, he, hturn⟩ := Option.map_eq_some_iff.mp h.loads
  obtain ⟨e', he', hturn'⟩ := Option.map_eq_some_iff.mp h'.loads
  rcases Nat.lt_trichotomy k l with hlt | heq | hgt
  · simpa [hturn', Turn.isChange] using h.since l hlt e' he'
  · exact heq
  · simpa [hturn, Turn.isChange] using h'.since k hgt e he

theorem isLastLoad_append :
    IsLastLoad (history ++ [e]) k settings ↔
      (k = history.length ∧ e.turn = .fresh settings true) ∨
        (IsLastLoad history k settings ∧ e.turn.isChange = false) := by
  constructor
  · intro h
    have hlt : k < history.length + 1 := by simpa using h.lt
    rcases Nat.lt_succ_iff_lt_or_eq.mp hlt with hold | rfl
    · refine .inr ⟨⟨?_, ?_⟩, ?_⟩
      · simpa [List.getElem?_append_left hold] using h.loads
      · intro later hlater e' he'
        exact h.since later hlater e' (getElem?_append_singleton.mpr (.inl he'))
      · exact h.since history.length hold e (by simp)
    · exact .inl ⟨rfl, by simpa using h.loads⟩
  · rintro (⟨rfl, hturn⟩ | ⟨h, hchange⟩)
    · refine ⟨by simp [hturn], ?_⟩
      intro later hlater e' he'
      rcases getElem?_append_singleton.mp he' with hold | ⟨rfl, -⟩
      · exact absurd (List.getElem?_eq_some_iff.mp hold).choose (Nat.lt_asymm hlater)
      · exact absurd hlater (Nat.lt_irrefl _)
    · refine ⟨by simpa [List.getElem?_append_left h.lt] using h.loads, ?_⟩
      intro later hlater e' he'
      rcases getElem?_append_singleton.mp he' with hold | ⟨-, rfl⟩
      · exact h.since later hlater e' hold
      · exact hchange

theorem isLastLoad_append_of_not_isChange (change : e.turn.isChange = false) :
    IsLastLoad (history ++ [e]) k settings ↔ IsLastLoad history k settings := by
  rw [isLastLoad_append]
  refine ⟨?_, fun h => .inr ⟨h, change⟩⟩
  rintro (⟨-, hturn⟩ | ⟨h, -⟩)
  · simp [hturn, Turn.isChange] at change
  · exact h

theorem IsFrom.le (h : IsFrom history k l) : l ≤ k := by
  cases h with
  | fresh turn => exact Nat.le_refl _
  | kept turn last =>
      have hlt := last.lt
      rw [List.length_take] at hlt
      omega

theorem isFrom_append_of_lt (h : k < history.length) :
    IsFrom (history ++ [e]) k l ↔ IsFrom history k l := by
  have hget : (history ++ [e])[k]? = history[k]? := List.getElem?_append_left h
  have htake : (history ++ [e]).take k = history.take k :=
    List.take_append_of_le_length (Nat.le_of_lt h)
  constructor
  · intro hfrom
    cases hfrom with
    | fresh turn => exact .fresh (hget ▸ turn)
    | kept turn last => exact .kept (hget ▸ turn) (htake ▸ last)
  · intro hfrom
    cases hfrom with
    | fresh turn => exact .fresh (hget.symm ▸ turn)
    | kept turn last => exact .kept (hget.symm ▸ turn) (htake.symm ▸ last)

theorem isFrom_append_length :
    IsFrom (history ++ [e]) history.length l ↔
      (∃ settings isGlobal, e.turn = .fresh settings isGlobal ∧ l = history.length) ∨
        (e.turn = .kept ∧ ∃ settings, IsLastLoad history l settings) := by
  have htake : (history ++ [e]).take history.length = history := by simp
  constructor
  · intro hfrom
    cases hfrom with
    | fresh turn => exact .inl ⟨_, _, by simpa using turn, rfl⟩
    | kept turn last => exact .inr ⟨by simpa using turn, _, htake ▸ last⟩
  · rintro (⟨settings, isGlobal, hturn, rfl⟩ | ⟨hturn, settings, hlast⟩)
    · exact .fresh (by simpa using hturn)
    · exact .kept (by simpa using hturn) (htake.symm ▸ hlast)

theorem given_append :
    Given (history ++ [e]) k n ↔
      Given history k n ∨ ∃ settings, e.handed? = some (settings, n) ∧
        ((∃ fresh isGlobal, e.turn = .fresh fresh isGlobal ∧ k = history.length) ∨
          (e.turn = .kept ∧ ∃ last, IsLastLoad history k last)) := by
  constructor
  · rintro ⟨later, settings, hhanded, hfrom⟩
    obtain ⟨e', he', hsettings⟩ := Option.bind_eq_some_iff.mp hhanded
    rcases getElem?_append_singleton.mp he' with hold | ⟨rfl, rfl⟩
    · have hlt : later < history.length := (List.getElem?_eq_some_iff.mp hold).choose
      exact .inl ⟨later, settings, Option.bind_eq_some_iff.mpr ⟨e', hold, hsettings⟩,
        (isFrom_append_of_lt hlt).mp hfrom⟩
    · exact .inr ⟨settings, hsettings, isFrom_append_length.mp hfrom⟩
  · rintro (⟨later, settings, hhanded, hfrom⟩ | ⟨settings, hhanded, hfrom⟩)
    · obtain ⟨e', he', hsettings⟩ := Option.bind_eq_some_iff.mp hhanded
      have hlt : later < history.length := (List.getElem?_eq_some_iff.mp he').choose
      refine ⟨later, settings, ?_, (isFrom_append_of_lt hlt).mpr hfrom⟩
      rwa [List.getElem?_append_left hlt]
    · exact ⟨history.length, settings, by simpa using hhanded, isFrom_append_length.mpr hfrom⟩

theorem given_append_of_none (handed : e.handed? = none) :
    Given (history ++ [e]) k n ↔ Given history k n := by
  simp [given_append, handed]

theorem Given.lt (h : Given history k n) : k < history.length := by
  obtain ⟨later, settings, hhanded, hfrom⟩ := h
  obtain ⟨e', he', -⟩ := Option.bind_eq_some_iff.mp hhanded
  exact Nat.lt_of_le_of_lt hfrom.le (List.getElem?_eq_some_iff.mp he').choose

/-- What is kept after a history, and the numbers under which settings were handed out. -/
structure Keeps (history : List Happening) (cached : Option LoadedSettings) (next : Nat) :
    Prop where
  last : ∀ settings,
    cached.map (·.settings) = some settings ↔ ∃ k, IsLastLoad history k settings
  same : ∀ k l m n, Given history k m → Given history l n → (m = n ↔ k = l)
  below : ∀ k n, Given history k n → n < next
  /-- The settings that are kept bear the number under which they were handed out, if they were. -/
  number : ∀ loaded k settings, cached = some loaded → IsLastLoad history k settings →
    ∀ l n, Given history l n → (loaded.number = some n ↔ l = k)
  numberBelow : ∀ loaded n, cached = some loaded → loaded.number = some n → n < next

variable {cached : Option LoadedSettings} {next : Nat}

theorem Keeps.exists_isLastLoad {loaded : LoadedSettings} (h : Keeps history cached next)
    (hcached : cached = some loaded) : ∃ k, IsLastLoad history k loaded.settings :=
  (h.last loaded.settings).mp (by rw [hcached]; rfl)

/-- A happening in which nothing is handed out and nothing else is kept. -/
theorem Keeps.append_quiet (h : Keeps history cached next) (handed : e.handed? = none)
    (change : e.turn.isChange = false) : Keeps (history ++ [e]) cached next := by
  have hgiven : ∀ k n, Given (history ++ [e]) k n ↔ Given history k n :=
    fun _ _ => given_append_of_none handed
  have hlast : ∀ k settings, IsLastLoad (history ++ [e]) k settings ↔
      IsLastLoad history k settings :=
    fun _ _ => isLastLoad_append_of_not_isChange change
  exact ⟨by simpa only [hlast] using h.last, by simpa only [hgiven] using h.same,
    by simpa only [hgiven] using h.below, by simpa only [hgiven, hlast] using h.number,
    h.numberBelow⟩

theorem Keeps.append_forgotten (h : Keeps history cached next) (turn : e.turn = .forgotten)
    (handed : e.handed? = none) : Keeps (history ++ [e]) none next := by
  have hgiven : ∀ k n, Given (history ++ [e]) k n ↔ Given history k n :=
    fun _ _ => given_append_of_none handed
  refine ⟨?_, by simpa only [hgiven] using h.same, by simpa only [hgiven] using h.below, ?_, ?_⟩
  · intro settings
    simp [isLastLoad_append, turn, Turn.isChange]
  · simp
  · simp

/-- If a number is given to the settings of one moment more, and to no others, numbers still go with
moments. -/
theorem Keeps.same_of_given (h : Keeps history cached next)
    (fits : ∀ l m, Given history l m → (m = n ↔ l = k))
    (given : ∀ l m, Given (history ++ [e]) l m ↔ Given history l m ∨ (l = k ∧ m = n)) :
    ∀ k l m n, Given (history ++ [e]) k m → Given (history ++ [e]) l n → (m = n ↔ k = l) := by
  intro i j a b ha hb
  rcases (given i a).mp ha with hi | ⟨rfl, rfl⟩ <;> rcases (given j b).mp hb with hj | ⟨rfl, rfl⟩
  · exact h.same i j a b hi hj
  · exact fits i a hi
  · rw [eq_comm, fits j b hj, eq_comm]
  · simp

theorem Keeps.append_kept {loaded : LoadedSettings} (h : Keeps history (some loaded) next)
    (turn : e.turn = .kept)
    (handed : e.handed? = some (loaded.settings, loaded.number.getD next)) :
    Keeps (history ++ [e]) (some { loaded with number := some (loaded.number.getD next) })
      (if loaded.number.isNone then next + 1 else next) := by
  obtain ⟨k, hk⟩ := h.exists_isLastLoad rfl
  have hlast : ∀ l settings, IsLastLoad (history ++ [e]) l settings ↔
      IsLastLoad history l settings :=
    fun _ _ => isLastLoad_append_of_not_isChange (by rw [turn]; rfl)
  have hgiven : ∀ l m, Given (history ++ [e]) l m ↔
      Given history l m ∨ (l = k ∧ m = loaded.number.getD next) := by
    intro l m
    rw [given_append]
    refine or_congr_right ⟨?_, ?_⟩
    · rintro ⟨settings, hhanded, ⟨fresh, isGlobal, hfresh, -⟩ | ⟨-, last, hl⟩⟩
      · simp [turn] at hfresh
      · rw [handed] at hhanded
        cases hhanded
        exact ⟨hl.unique hk, rfl⟩
    · rintro ⟨rfl, rfl⟩
      exact ⟨loaded.settings, handed, .inr ⟨turn, _, hk⟩⟩
  have hfits : ∀ l m, Given history l m → (m = loaded.number.getD next ↔ l = k) := by
    intro l m hm
    rw [← h.number loaded k _ rfl hk l m hm]
    cases hnumber : loaded.number with
    | none => simp [Nat.ne_of_lt (h.below l m hm)]
    | some n => simp [eq_comm]
  have hnext : next ≤ (if loaded.number.isNone then next + 1 else next) := by
    split <;> omega
  have hbelow : loaded.number.getD next < (if loaded.number.isNone then next + 1 else next) := by
    cases hnumber : loaded.number with
    | none => simp
    | some n => simpa using h.numberBelow loaded n rfl hnumber
  refine ⟨?_, h.same_of_given hfits hgiven, ?_, ?_, ?_⟩
  · intro settings
    simp only [hlast]
    exact h.last settings
  · intro l m hm
    rcases (hgiven l m).mp hm with hold | ⟨-, rfl⟩
    · exact Nat.lt_of_lt_of_le (h.below l m hold) hnext
    · exact hbelow
  · intro kept l settings hkept hl i m hm
    cases hkept
    rw [hk.unique ((hlast l settings).mp hl)] at hgiven hfits
    rcases (hgiven i m).mp hm with hold | ⟨rfl, rfl⟩
    · rw [← hfits i m hold, Option.some_inj, eq_comm]
    · simp
  · intro kept m hkept hm
    cases hkept
    cases hm
    exact hbelow

theorem given_append_fresh {isGlobal hands : Bool} (turn : e.turn = .fresh settings isGlobal)
    (handed : e.handed? = if hands then some (settings, next) else none) :
    Given (history ++ [e]) k n ↔
      Given history k n ∨ (k = history.length ∧ hands = true ∧ n = next) := by
  rw [given_append, handed]
  cases hands <;> simp [turn, and_comm, eq_comm]

theorem Keeps.same_of_fresh {isGlobal hands : Bool} (h : Keeps history cached next)
    (turn : e.turn = .fresh settings isGlobal)
    (handed : e.handed? = if hands then some (settings, next) else none) :
    ∀ k l m n, Given (history ++ [e]) k m → Given (history ++ [e]) l n → (m = n ↔ k = l) := by
  have hfits : ∀ l m, Given history l m → (m = next ↔ l = history.length) := fun l m hm =>
    iff_of_false (Nat.ne_of_lt (h.below l m hm)) (Nat.ne_of_lt hm.lt)
  have hgiven : ∀ l m, Given (history ++ [e]) l m ↔
      Given history l m ∨ (l = history.length ∧ hands = true ∧ m = next) :=
    fun _ _ => given_append_fresh turn handed
  cases hands with
  | false =>
      simp only [Bool.false_eq_true, false_and, and_false, or_false] at hgiven
      simpa only [hgiven] using h.same
  | true =>
      simp only [true_and] at hgiven
      exact h.same_of_given hfits hgiven

theorem Keeps.below_of_fresh {isGlobal hands : Bool} (h : Keeps history cached next)
    (turn : e.turn = .fresh settings isGlobal)
    (handed : e.handed? = if hands then some (settings, next) else none) :
    ∀ k n, Given (history ++ [e]) k n → n < if hands then next + 1 else next := by
  intro k n hn
  rcases (given_append_fresh turn handed).mp hn with hold | ⟨-, rfl, rfl⟩
  · have hlt := h.below k n hold
    split <;> omega
  · simp

theorem Keeps.append_apart {settings : Settings} {hands : Bool} (h : Keeps history cached next)
    (turn : e.turn = .fresh settings false)
    (handed : e.handed? = if hands then some (settings, next) else none) :
    Keeps (history ++ [e]) cached (if hands then next + 1 else next) := by
  have hlast : ∀ l other, IsLastLoad (history ++ [e]) l other ↔ IsLastLoad history l other :=
    fun _ _ => isLastLoad_append_of_not_isChange (by rw [turn]; rfl)
  refine ⟨by simpa only [hlast] using h.last, h.same_of_fresh turn handed,
    h.below_of_fresh turn handed, ?_, ?_⟩
  · intro loaded k other hloaded hk l n hn
    have hk := (hlast k other).mp hk
    rcases (given_append_fresh turn handed).mp hn with hold | ⟨rfl, -, rfl⟩
    · exact h.number loaded k other hloaded hk l n hold
    · refine iff_of_false (fun hnumber => ?_) (Nat.ne_of_gt hk.lt)
      exact Nat.lt_irrefl _ (h.numberBelow loaded _ hloaded hnumber)
  · intro loaded n hloaded hn
    have hlt := h.numberBelow loaded n hloaded hn
    split <;> omega

theorem Keeps.append_fresh {settings : Settings} {hands : Bool} (h : Keeps history cached next)
    (turn : e.turn = .fresh settings true)
    (handed : e.handed? = if hands then some (settings, next) else none) :
    Keeps (history ++ [e]) (some ⟨settings, if hands then some next else none⟩)
      (if hands then next + 1 else next) := by
  have hlast : ∀ l other, IsLastLoad (history ++ [e]) l other ↔
      l = history.length ∧ settings = other := by
    intro l other
    simp [isLastLoad_append, turn, Turn.isChange]
  refine ⟨?_, h.same_of_fresh turn handed, h.below_of_fresh turn handed, ?_, ?_⟩
  · intro other
    simp [hlast]
  · intro loaded k other hloaded hk l n hn
    cases hloaded
    rw [((hlast k other).mp hk).1]
    rcases (given_append_fresh turn handed).mp hn with hold | ⟨rfl, rfl, rfl⟩
    · have hnumber : (if hands then some next else none) ≠ some n := by
        cases hands <;> simp [Nat.ne_of_gt (h.below l n hold)]
      simp [hnumber, Nat.ne_of_lt hold.lt]
    · simp
  · intro loaded n hloaded hn
    cases hloaded
    cases hands with
    | false => simp at hn
    | true =>
        simp at hn ⊢
        omega

/-- What one happening does to what is kept. -/
theorem Keeps.append {hands : Bool} (h : Keeps history cached next)
    (handed : e.handed? = e.turn.handed? hands next cached)
    (kept : e.turn = .kept → ∃ loaded, cached = some loaded) :
    Keeps (history ++ [e]) (e.turn.cachedAfter hands next cached)
      (e.turn.nextAfter hands next cached) := by
  cases hturn : e.turn with
  | idle | failed =>
      rw [hturn] at handed
      exact h.append_quiet handed (by rw [hturn]; rfl)
  | forgotten =>
      rw [hturn] at handed
      exact h.append_forgotten hturn handed
  | kept =>
      obtain ⟨loaded, rfl⟩ := kept hturn
      rw [hturn] at handed
      cases hands with
      | false => exact h.append_quiet handed (by rw [hturn]; rfl)
      | true =>
          have hkept := h.append_kept hturn handed
          simpa [Turn.cachedAfter, Turn.nextAfter] using hkept
  | fresh settings isGlobal =>
      rw [hturn] at handed
      cases isGlobal with
      | true => exact h.append_fresh hturn handed
      | false => exact h.append_apart hturn handed

end Histories

namespace Session

variable {τ : Type} [Timeline τ]

def history (s : Session τ) : List (Move τ) → List Happening
  | [] => []
  | m :: ms => s.happening m :: history (s.make m) ms

theorem history_append (s : Session τ) (ms : List (Move τ)) (m : Move τ) :
    s.history (ms ++ [m]) = s.history ms ++ [(s.makeAll ms).happening m] := by
  induction ms generalizing s with
  | nil => rfl
  | cons first rest ih => simp [history, ih]

omit [Timeline τ] in
theorem exists_cached_of_kept {s : Session τ} {m : Move τ} (h : s.turn m = .kept) :
    ∃ loaded, s.cached = some loaded := by
  have hcall : ∃ c, s.turnOf c = .kept := by
    unfold turn at h
    split at h
    · simp at h
    · next a _ =>
        cases hc : a.settingsCall? with
        | none => simp [hc] at h
        | some c => exact ⟨c, by simpa [hc] using h⟩
    · simp at h
  obtain ⟨c, hc⟩ := hcall
  exact Option.isSome_iff_exists.mp (turnOf_eq_kept hc).1

theorem keeps_makeAll (w : World) (ms : List (Move τ)) :
    Keeps ((ofWorld w).history ms) ((ofWorld w).makeAll ms).cached
      ((ofWorld w).makeAll ms).nextNumber := by
  induction ms using List.reverseRecOn with
  | nil =>
      refine ⟨?_, ?_, ?_, ?_, ?_⟩
      · intro settings
        refine iff_of_false (by simp [ofWorld]) ?_
        rintro ⟨k, hk⟩
        exact absurd hk.lt (Nat.not_lt_zero k)
      · exact fun k _ _ _ hk => absurd hk.lt (Nat.not_lt_zero k)
      · exact fun k _ hk => absurd hk.lt (Nat.not_lt_zero k)
      · exact fun _ k _ _ hk => absurd hk.lt (Nat.not_lt_zero k)
      · exact fun _ _ hcached => by simp [ofWorld] at hcached
  | append_singleton ms m ih =>
      obtain ⟨htook, hhanded⟩ := took_make ((ofWorld w).makeAll ms) m
      rw [history_append, makeAll_append, makeAll_cons, makeAll_nil, htook.cached,
        htook.nextNumber]
      exact ih.append hhanded exists_cached_of_kept

/-- How a session answers a call for settings. -/
structure Answers (s : Session τ) (c : SettingsCall) : Prop where
  /-- With the settings that are kept, whatever the files hold, and without a record. -/
  kept : ∀ loaded, s.cached = some loaded → c.isGlobal = true → c.reload = false →
    ∃ t, s.giveSettings c.project c.named c.reload =
        (.ok (.settings loaded.settings (loaded.number.getD s.nextNumber)), t) ∧
      t.cached = some { loaded with number := some (loaded.number.getD s.nextNumber) } ∧
      t.world = s.world ∧ t.journal = s.journal
  /-- With what is read from the files and the environment as they are, under a new number. -/
  afresh : c.isGlobal = false ∨ c.reload = true ∨ s.cached = none →
    (s.giveSettings c.project c.named c.reload).1 =
      (Settings.load s.world c.project c.named).outcome.map (.settings · s.nextNumber)
  apart : c.isGlobal = false → (s.giveSettings c.project c.named c.reload).2.cached = s.cached
  failed : ∀ e, (s.giveSettings c.project c.named c.reload).1 = .error e →
    (s.giveSettings c.project c.named c.reload).2.cached = s.cached

omit [Timeline τ] in
theorem answers (s : Session τ) (c : SettingsCall) : s.Answers c := by
  have hloaded := loaded_loadSettings s c
  cases hresult : s.loadSettings c.project c.named c.reload with
  | mk result t =>
      rw [hresult] at hloaded
      cases hloaded with
      | @kept loaded turn cached =>
          obtain ⟨-, hglobal, hreload⟩ := turnOf_eq_kept turn
          have hgive := giveSettings_of_ok hresult
          refine ⟨?_, ?_, ?_, ?_⟩
          · intro loaded' hloaded' _ _
            obtain rfl : loaded' = loaded := Option.some.inj (hloaded'.symm.trans cached)
            obtain ⟨t, hhand, hkept, hworld, hjournal⟩ := handOut_of_cached cached
            refine ⟨t, ?_, hkept, hworld, hjournal⟩
            rw [hgive, hglobal, hhand]
          · simp [hglobal, hreload, cached]
          · simp [hglobal]
          · simp [hgive]
      | failed turn read cached nextNumber =>
          have hgive := giveSettings_of_error hresult
          refine ⟨?_, ?_, ?_, ?_⟩
          · intro loaded hkept hglobal hreload
            simp [turnOf, hkept, hglobal, hreload] at turn
          · intro _
            rw [hgive, read]
            rfl
          · simp [hgive, cached]
          · simp [hgive, cached]
      | fresh turn read cached nextNumber =>
          have hgive := giveSettings_of_ok hresult
          refine ⟨?_, ?_, ?_, ?_⟩
          · intro loaded hkept hglobal hreload
            simp [turnOf, hkept, hglobal, hreload] at turn
          · intro _
            rw [hgive, read, ← nextNumber]
            rfl
          · intro hglobal
            simp [hgive, handOut, hglobal, cached]
          · simp [hgive]

/-- In every session, at every moment, the settings that are kept are those of the last load of
them that read the files and came to something, unless they have been forgotten since; two answers
with settings bear the same number just when one load made both; and that is how every further call
for settings is answered. -/
theorem keeps_last_load (w : World) (ms : List (Move τ)) :
    Keeps ((ofWorld w).history ms) ((ofWorld w).makeAll ms).cached
        ((ofWorld w).makeAll ms).nextNumber ∧
      ∀ c, ((ofWorld w).makeAll ms).Answers c :=
  ⟨keeps_makeAll w ms, answers _⟩

def numbersOf (actions : List Action) : List (Option Nat) :=
  let w : World := { environment := [("XDG_CONFIG_HOME", "/none")] }
  ((ofWorld w : Session Float).history (actions.map .act)).map fun e => e.handed?.map (·.2)

/-- A project gets settings of its own, and a load that fails leaves those that are kept. -/
example : numbersOf [.getSettings, .loadSettings (some (.absolute ["p"])) none true, .getSettings,
    .edit (.write ["etc", "dirpoll", "config.yaml"] [0xff] 0), .loadSettings none none true,
    .getSettings, .edit (.remove ["etc"]), .loadSettings none none true, .getSettings,
    .resetSettings, .getSettings] =
    [some 0, some 1, some 0, none, none, some 0, none, some 2, some 2, none, some 3] := by
  decide +kernel

end Session

end TreeWatch
