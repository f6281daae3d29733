import TreeWatch.Proofs.Session.Course

/-!
# What moves do about settings

A session keeps settings of the whole program. Each move leaves them alone, forgets them, uses them
or reads settings from the files, and may hand out those that are used under a number. One lemma
says of every move what is kept after it and what is handed out.
-/

namespace TreeWatch

structure SettingsCall where
  project : Option Path := none
  named : Option Path := none
  reload : Bool := false

def SettingsCall.isGlobal (c : SettingsCall) : Bool :=
  c.project.isNone && c.named.isNone

namespace Action

def settingsCall? : Action → Option SettingsCall
  | .loadSettings project named reload => some ⟨project, named, reload⟩
  | .getSettings | .createFromSettings _ _ none | .setupLogging .loaded => some {}
  | _ => none

def handsOut : Action → Bool
  | .loadSettings _ _ _ | .getSettings => true
  | _ => false

end Action

/-- What becomes of settings that are called for. -/
inductive Turn where
  | idle
  /-- Those that are kept are forgotten. -/
  | forgotten
  /-- They are read, but nothing comes of it. -/
  | failed
  | kept
  /-- They are read. Those of the whole program are kept from then on. -/
  | fresh (settings : Settings) (isGlobal : Bool)

namespace Turn

def isChange : Turn → Bool
  | .forgotten | .fresh _ true => true
  | _ => false

/-- The settings that are kept from then on, if those that are used are handed out or not under the
next number. -/
def cachedAfter (hands : Bool) (next : Nat) (cached : Option LoadedSettings) :
    Turn → Option LoadedSettings
  | .idle | .failed => cached
  | .forgotten => none
  | .kept =>
    if hands then cached.map fun l => { l with number := some (l.number.getD next) } else cached
  | .fresh settings isGlobal =>
    if isGlobal then some ⟨settings, if hands then some next else none⟩ else cached

def nextAfter (hands : Bool) (next : Nat) (cached : Option LoadedSettings) : Turn → Nat
  | .kept => if hands && cached.any (·.number.isNone) then next + 1 else next
  | .fresh _ _ => if hands then next + 1 else next
  | _ => next

def handed? (hands : Bool) (next : Nat) (cached : Option LoadedSettings) :
    Turn → Option (Settings × Nat)
  | .kept => if hands then cached.map fun l => (l.settings, l.number.getD next) else none
  | .fresh settings _ => if hands then some (settings, next) else none
  | _ => none

end Turn

structure Happening where
  turn : Turn
  handed? : Option (Settings × Nat)

namespace Session

variable {τ : Type} [Timeline τ]

def turnOf (s : Session τ) (c : SettingsCall) : Turn :=
  if s.cached.isSome && (c.isGlobal && !c.reload) then .kept
  else
    match (Settings.load s.world c.project c.named).outcome with
    | .ok settings => .fresh settings c.isGlobal
    | .error _ => .failed

def turn (s : Session τ) : Move τ → Turn
  | .act .resetSettings => .forgotten
  | .act action => (action.settingsCall?.map s.turnOf).getD .idle
  | _ => .idle

def handedBy : Outcome τ → Option (Settings × Nat)
  | .ok (.settings settings number) => some (settings, number)
  | _ => none

def happening (s : Session τ) (m : Move τ) : Happening where
  turn := s.turn m
  handed? :=
    match m with
    | .act action => handedBy (s.act action).1
    | _ => none

/-! ## What a call does -/

/-- What is kept in the second session is what a turn leaves of it. -/
structure Took (hands : Bool) (turn : Turn) (s t : Session τ) : Prop where
  cached : t.cached = turn.cachedAfter hands s.nextNumber s.cached
  nextNumber : t.nextNumber = turn.nextAfter hands s.nextNumber s.cached

/-- What is kept is the same, with the same number. -/
abbrev Undisturbed (s t : Session τ) : Prop :=
  Took false .idle s t

section Calls

omit [Timeline τ]

theorem Undisturbed.refl (s : Session τ) : Undisturbed s s := ⟨rfl, rfl⟩

theorem undisturbed_withPoller {α : Type} (s : Session τ) (place : Nat)
    (work : World → Poller → Log.Reported (α × Poller)) (standard : α) :
    Undisturbed s (s.withPoller place work standard).2 := by
  cases hp : s.pollerAt? place with
  | none => exact withPoller_of_none hp work standard ▸ .refl s
  | some p => exact withPoller_of_some hp work standard ▸ ⟨rfl, rfl⟩

theorem undisturbed_changePoller (s : Session τ) (place : Nat)
    (change : Poller → Log.Reported Poller) : Undisturbed s (s.changePoller place change) :=
  undisturbed_withPoller s place _ _

inductive Loaded (c : SettingsCall) (s : Session τ) :
    Except Failure LoadedSettings × Session τ → Prop where
  | kept {loaded : LoadedSettings} (turn : s.turnOf c = .kept) (cached : s.cached = some loaded) :
      Loaded c s (.ok loaded, s)
  | failed {e : Failure} {t : Session τ} (turn : s.turnOf c = .failed)
      (read : (Settings.load s.world c.project c.named).outcome = .error e)
      (cached : t.cached = s.cached) (nextNumber : t.nextNumber = s.nextNumber) :
      Loaded c s (.error e, t)
  | fresh {settings : Settings} {t : Session τ} (turn : s.turnOf c = .fresh settings c.isGlobal)
      (read : (Settings.load s.world c.project c.named).outcome = .ok settings)
      (cached : t.cached = if c.isGlobal then some ⟨settings, none⟩ else s.cached)
      (nextNumber : t.nextNumber = s.nextNumber) : Loaded c s (.ok ⟨settings, none⟩, t)

theorem turnOf_eq_kept {s : Session τ} {c : SettingsCall} (h : s.turnOf c = .kept) :
    s.cached.isSome = true ∧ c.isGlobal = true ∧ c.reload = false := by
  unfold turnOf at h
  split at h
  · next hkeeps => simpa using hkeeps
  · split at h <;> simp at h

theorem loaded_loadSettings (s : Session τ) (c : SettingsCall) :
    Loaded c s (s.loadSettings c.project c.named c.reload) := by
  unfold loadSettings
  dsimp only
  split
  · next loaded hcached hglobal =>
      refine .kept ?_ hcached
      simp only [turnOf, SettingsCall.isGlobal, hcached, hglobal]
      rfl
  · next hnot =>
      have hread : (s.cached.isSome && (c.isGlobal && !c.reload)) = false := by
        cases hcached : s.cached with
        | none => rfl
        | some loaded => exact Bool.eq_false_iff.mpr fun h => hnot loaded hcached h
      have hturn : s.turnOf c = match (Settings.load s.world c.project c.named).outcome with
          | .ok settings => .fresh settings c.isGlobal
          | .error _ => .failed := by
        rw [turnOf, hread]
        rfl
      rw [report]
      cases hload : (Settings.load s.world c.project c.named).outcome with
      | error e =>
          rw [hload] at hturn
          exact .failed hturn hload rfl rfl
      | ok settings =>
          rw [hload] at hturn
          dsimp only
          refine .fresh hturn hload ?_ ?_
          · show (if c.isGlobal then _ else _ : Session τ).cached = _
            split <;> rfl
          · show (if c.isGlobal then _ else _ : Session τ).nextNumber = _
            split <;> rfl

/-- Settings that are kept get a number when they are handed out, if they have none yet. -/
theorem handOut_of_cached {s : Session τ} {loaded : LoadedSettings}
    (cached : s.cached = some loaded) :
    ∃ t, handOut true loaded s =
        (.settings loaded.settings (loaded.number.getD s.nextNumber), t) ∧
      t.cached = some { loaded with number := some (loaded.number.getD s.nextNumber) } ∧
      t.world = s.world ∧ t.journal = s.journal := by
  obtain ⟨settings, number⟩ := loaded
  cases number with
  | none => exact ⟨_, rfl, rfl, rfl, rfl⟩
  | some number => exact ⟨s, rfl, cached, rfl, rfl⟩

theorem took_handOut {s t : Session τ} {c : SettingsCall} {loaded : LoadedSettings}
    (h : Loaded c s (.ok loaded, t)) :
    Took true (s.turnOf c) s (handOut c.isGlobal loaded t).2 ∧
      handedBy (.ok (handOut c.isGlobal loaded t).1) =
        (s.turnOf c).handed? true s.nextNumber s.cached := by
  cases h with
  | kept turn cached =>
      have hglobal : c.isGlobal = true := (turnOf_eq_kept turn).2.1
      obtain ⟨settings, number⟩ := loaded
      cases number with
      | none =>
          simp only [turn, handOut, hglobal, if_true]
          exact ⟨⟨by simp [Turn.cachedAfter, cached], by simp [Turn.nextAfter, cached]⟩,
            by simp [handedBy, Turn.handed?, cached]⟩
      | some number =>
          simp only [turn, handOut]
          exact ⟨⟨by simp [Turn.cachedAfter, cached], by simp [Turn.nextAfter, cached]⟩,
            by simp [handedBy, Turn.handed?, cached]⟩
  | fresh turn read cached nextNumber =>
      simp only [turn, handOut]
      cases hglobal : c.isGlobal with
      | true =>
          exact ⟨⟨by simp [Turn.cachedAfter, nextNumber], by simp [Turn.nextAfter, nextNumber]⟩,
            by simp [handedBy, Turn.handed?, nextNumber]⟩
      | false =>
          exact ⟨⟨by simp [Turn.cachedAfter, cached, hglobal],
              by simp [Turn.nextAfter, nextNumber]⟩,
            by simp [handedBy, Turn.handed?, nextNumber]⟩

theorem giveSettings_of_error {s t : Session τ} {c : SettingsCall} {e : Failure}
    (h : s.loadSettings c.project c.named c.reload = (.error e, t)) :
    s.giveSettings c.project c.named c.reload = (.error e, t) := by
  rw [giveSettings, h]

theorem giveSettings_of_ok {s t : Session τ} {c : SettingsCall} {loaded : LoadedSettings}
    (h : s.loadSettings c.project c.named c.reload = (.ok loaded, t)) :
    s.giveSettings c.project c.named c.reload =
      (.ok (handOut c.isGlobal loaded t).1, (handOut c.isGlobal loaded t).2) := by
  rw [giveSettings, h]
  rfl

theorem took_giveSettings (s : Session τ) (c : SettingsCall) :
    Took true (s.turnOf c) s (s.giveSettings c.project c.named c.reload).2 ∧
      handedBy (s.giveSettings c.project c.named c.reload).1 =
        (s.turnOf c).handed? true s.nextNumber s.cached := by
  have hloaded := loaded_loadSettings s c
  cases hresult : s.loadSettings c.project c.named c.reload with
  | mk result t =>
      rw [hresult] at hloaded
      cases result with
      | error e =>
          cases hloaded with
          | failed turn read cached nextNumber =>
              rw [giveSettings_of_error hresult, turn]
              exact ⟨⟨cached, nextNumber⟩, rfl⟩
      | ok loaded =>
          rw [giveSettings_of_ok hresult]
          exact took_handOut hloaded

/-- Settings that are only used are kept as they are when they are handed out, without a number. -/
theorem took_of_loaded {s t : Session τ} {c : SettingsCall}
    {result : Except Failure LoadedSettings} (h : Loaded c s (result, t)) :
    Took false (s.turnOf c) s t := by
  cases h with
  | kept turn cached => exact turn ▸ ⟨rfl, rfl⟩
  | failed turn read cached nextNumber => exact turn ▸ ⟨cached, nextNumber⟩
  | fresh turn read cached nextNumber => exact turn ▸ ⟨cached, nextNumber⟩

/-! ## What a move does -/

theorem undisturbed_forPoller {s : Session τ} {id : String}
    {work : Nat → Poller → Outcome τ × Session τ}
    (keeps : ∀ place p, Undisturbed s (work place p).2 ∧ handedBy (work place p).1 = none) :
    Undisturbed s (s.forPoller id work).2 ∧ handedBy (s.forPoller id work).1 = none := by
  unfold forPoller
  split
  · exact ⟨.refl s, rfl⟩
  · split
    · exact ⟨.refl s, rfl⟩
    · exact keeps _ _

theorem took_globalSettings (s : Session τ) : Took false (s.turnOf {}) s s.globalSettings.2 :=
  took_of_loaded (loaded_loadSettings s {})

end Calls

theorem undisturbed_pollAt (s : Session τ) (place : Nat) : Undisturbed s (s.pollAt place).2 :=
  have h := undisturbed_withPoller s.passListing place (fun w p => p.poll w) []
  ⟨h.cached, h.nextNumber⟩

theorem took_create {hands : Bool} {turn : Turn} {s t : Session τ} (h : Took hands turn s t)
    (id : String) (request : Request) :
    Took hands turn s (t.create id request).2 ∧ handedBy (t.create id request).1 = none := by
  unfold create createPoller
  cases request.validate t.world with
  | error e => exact ⟨h, rfl⟩
  | ok spec => exact ⟨⟨h.cached, h.nextNumber⟩, rfl⟩

omit [Timeline τ] in
theorem took_setupLogging {hands : Bool} {turn : Turn} {s t : Session τ} (h : Took hands turn s t)
    (settings : Option LoggingSettings) :
    Took hands turn s (t.setupLogging settings).2 ∧
      handedBy (t.setupLogging settings).1 = none := by
  refine ⟨⟨h.cached, h.nextNumber⟩, ?_⟩
  unfold setupLogging
  dsimp only
  cases (t.journal.setup t.world settings).1 <;> rfl

theorem took_act (s : Session τ) (a : Action) :
    Took a.handsOut (s.turn (.act a)) s (s.act a).2 ∧
      handedBy (s.act a).1 = (s.turn (.act a)).handed? a.handsOut s.nextNumber s.cached := by
  have hnone : ∀ turn : Turn, turn.handed? false s.nextNumber s.cached = none := by
    intro turn
    cases turn <;> rfl
  cases a with
  | resetSettings => exact ⟨⟨rfl, rfl⟩, rfl⟩
  | loadSettings project named reload => exact took_giveSettings s ⟨project, named, reload⟩
  | getSettings => exact took_giveSettings s {}
  | createFromSettings id root given =>
      cases given with
      | some value =>
          simp only [act, pollerSettings, report]
          cases (Settings.ofEntries [(.text "poller", value)]).outcome with
          | error e => exact ⟨⟨rfl, rfl⟩, rfl⟩
          | ok settings => exact took_create ⟨rfl, rfl⟩ id _
      | none =>
          have hload := took_globalSettings s
          show Took false (s.turnOf {}) s _ ∧ _ = Turn.handed? false _ _ _
          rw [hnone]
          simp only [act, pollerSettings]
          cases hresult : s.globalSettings with
          | mk result t =>
              rw [hresult] at hload
              cases result with
              | error e => exact ⟨hload, rfl⟩
              | ok loaded => exact took_create hload id _
  | setupLogging source =>
      cases source with
      | given settings => exact took_setupLogging ⟨rfl, rfl⟩ settings
      | loaded =>
          have hload := took_globalSettings s
          show Took false (s.turnOf {}) s _ ∧ _ = Turn.handed? false _ _ _
          rw [hnone]
          simp only [act]
          cases hresult : s.globalSettings with
          | mk result t =>
              rw [hresult] at hload
              cases result with
              | error e => exact ⟨hload, rfl⟩
              | ok loaded => exact took_setupLogging hload _
  | create id request => exact took_create (Undisturbed.refl s) id request
  | validate request =>
      refine ⟨⟨rfl, rfl⟩, ?_⟩
      simp only [act]
      cases request.validate s.world <;> rfl
  | takeSnapshot root scope =>
      refine ⟨⟨rfl, rfl⟩, ?_⟩
      simp only [act, report]
      cases (Snapshot.take s.passListing.world scope root).outcome <;> rfl
  | poll id =>
      refine undisturbed_forPoller fun place p => ⟨?_, rfl⟩
      exact undisturbed_pollAt s place
  | stop id => exact undisturbed_forPoller fun place p => ⟨undisturbed_changePoller s place _, rfl⟩
  | snapshot id | hold id name | isRunning id =>
      exact undisturbed_forPoller fun place p => ⟨⟨rfl, rfl⟩, rfl⟩
  | resolve id word path =>
      refine undisturbed_forPoller fun place p => ?_
      split <;> exact ⟨⟨rfl, rfl⟩, rfl⟩
  | held name =>
      simp only [act]
      split <;> exact ⟨⟨rfl, rfl⟩, rfl⟩
  | diffHeld old new =>
      simp only [act]
      split <;> exact ⟨⟨rfl, rfl⟩, rfl⟩
  | readSettingsFile path =>
      refine ⟨⟨rfl, rfl⟩, ?_⟩
      simp only [act, report]
      cases (Settings.entriesOfFile s.world path).outcome <;> rfl
  | settingsFiles project =>
      refine ⟨⟨rfl, rfl⟩, ?_⟩
      simp only [act]
      cases Settings.files s.world project <;> rfl
  | fileContent path =>
      simp only [act]
      split <;> exact ⟨⟨rfl, rfl⟩, rfl⟩
  | edit | changeDirectory | setVariable | resetLogging | loggingState | log | errorText =>
      exact ⟨⟨rfl, rfl⟩, rfl⟩

def handsOut : Move τ → Bool
  | .act action => action.handsOut
  | _ => false

theorem took_make (s : Session τ) (m : Move τ) :
    Took (handsOut m) (s.turn m) s (s.make m) ∧
      (s.happening m).handed? = (s.turn m).handed? (handsOut m) s.nextNumber s.cached := by
  cases m with
  | act action => exact took_act s action
  | poll place receiver? => exact ⟨undisturbed_pollAt s place, rfl⟩
  | enter place token? =>
      cases token? with
      | none | some token => exact ⟨undisturbed_changePoller s place _, rfl⟩
  | stop place | reject place | setToken place | cancel place | leave place | sayStopped place =>
      exact ⟨undisturbed_changePoller s place _, rfl⟩
  | hand | fail | ask | pass | slow | sayCancelled | owe => exact ⟨⟨rfl, rfl⟩, rfl⟩

end Session

end TreeWatch
