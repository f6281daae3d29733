import TreeWatch.Proofs.Log.Muting
import TreeWatch.Session.Perform

/-!
# What the parts of a session leave alone

Records change the log and the files that it goes to, and nothing else. A poller is changed at its
own place alone, and no action but a poll or a request to stop touches the pollers that are there:
creating one adds it behind the others, after a first look.
-/

namespace TreeWatch.Session

open Log

variable {τ : Type}

/-! ## Records -/

@[simp] theorem pollers_emit (s : Session τ) (rs : List Record) : (s.emit rs).pollers = s.pollers :=
  rfl

@[simp] theorem pollerAt?_emit (s : Session τ) (rs : List Record) (place : Nat) :
    (s.emit rs).pollerAt? place = s.pollerAt? place := rfl

@[simp] theorem report_fst {α : Type} (s : Session τ) (r : Reported α) :
    (s.report r).1 = r.outcome := rfl

@[simp] theorem report_snd {α : Type} (s : Session τ) (r : Reported α) :
    (s.report r).2 = s.emit r.records := rfl

theorem recordsFrom_emit (s : Session τ) (rs : List Record) :
    (s.emit rs).recordsFrom s.recordCount = s.journal.kept rs := by
  obtain ⟨_, _, hrecords⟩ := Journal.emitAll_spec s.world s.journal rs fun _ hmem => hmem
  have hcount : s.recordCount = s.journal.records.toList.length := rfl
  rw [recordsFrom, hcount]
  exact (congrArg _ hrecords).trans List.drop_left

theorem recordsFrom_recordCount (s : Session τ) : s.recordsFrom s.recordCount = [] :=
  List.drop_length

theorem fileSerials_emit (s : Session τ) (rs : List Record) :
    (s.emit rs).journal.fileSerials = s.journal.fileSerials := by
  obtain ⟨_, hmuted, _⟩ := Journal.emitAll_spec s.world s.journal rs fun _ hmem => hmem
  exact (Journal.fileSerials_of_muted_eq hmuted).trans (Journal.fileSerials_meetAll s.journal rs)

theorem hasMet_emit {s : Session τ} {name : String} (met : s.journal.HasMet name)
    (rs : List Record) : (s.emit rs).journal.HasMet name := by
  obtain ⟨_, hmuted, _⟩ := Journal.emitAll_spec s.world s.journal rs fun _ hmem => hmem
  exact (met.meetAll rs).of_muted_eq hmuted

/-! ## Pollers at their places -/

theorem pollerAt?_setPoller_self {s : Session τ} {place : Nat} {p : Poller}
    (h : s.pollerAt? place = some p) (q : Poller) :
    (s.setPoller place q).pollerAt? place = some q := by
  have hlt : place < s.pollers.length := (List.getElem?_eq_some_iff.mp h).choose
  simp [pollerAt?, setPoller, hlt]

theorem pollerAt?_setPoller_of_ne (s : Session τ) {place other : Nat} (h : place ≠ other)
    (q : Poller) : (s.setPoller place q).pollerAt? other = s.pollerAt? other := by
  simp [pollerAt?, setPoller, h]

theorem setPoller_eq_self {s : Session τ} {place : Nat} {p : Poller}
    (h : s.pollerAt? place = some p) : s.setPoller place p = s := by
  obtain ⟨hlt, rfl⟩ := List.getElem?_eq_some_iff.mp h
  rw [setPoller, List.set_getElem_self]

theorem withPoller_of_none {α : Type} {s : Session τ} {place : Nat}
    (h : s.pollerAt? place = none) (work : World → Poller → Reported (α × Poller)) (standard : α) :
    s.withPoller place work standard = (standard, s) := by
  simp [withPoller, h]

theorem withPoller_of_some {α : Type} {s : Session τ} {place : Nat} {p : Poller}
    (h : s.pollerAt? place = some p) (work : World → Poller → Reported (α × Poller))
    (standard : α) :
    s.withPoller place work standard =
      ((work s.world p).outcome.1,
        (s.emit (work s.world p).records).setPoller place (work s.world p).outcome.2) := by
  simp [withPoller, h, report]

theorem changePoller_of_none {s : Session τ} {place : Nat} (h : s.pollerAt? place = none)
    (change : Poller → Reported Poller) : s.changePoller place change = s := by
  simp [changePoller, withPoller_of_none h]

theorem changePoller_of_some {s : Session τ} {place : Nat} {p : Poller}
    (h : s.pollerAt? place = some p) (change : Poller → Reported Poller) :
    s.changePoller place change =
      (s.emit (change p).records).setPoller place (change p).outcome := by
  simp [changePoller, withPoller_of_some h]

/-- What leaves a poller as it is does no more than to speak. -/
theorem changePoller_eq_emit {s : Session τ} {place : Nat} {p : Poller}
    (h : s.pollerAt? place = some p) {change : Poller → Reported Poller}
    (keeps : (change p).outcome = p) : s.changePoller place change = s.emit (change p).records := by
  rw [changePoller_of_some h, keeps]
  exact setPoller_eq_self (s := s.emit _) h

theorem pollerAt?_changePoller_self {s : Session τ} {place : Nat} {p : Poller}
    (h : s.pollerAt? place = some p) (change : Poller → Reported Poller) :
    (s.changePoller place change).pollerAt? place = some (change p).outcome := by
  rw [changePoller_of_some h]
  exact pollerAt?_setPoller_self (s := s.emit _) h _

theorem pollerAt?_changePoller_of_ne (s : Session τ) {place other : Nat} (h : place ≠ other)
    (change : Poller → Reported Poller) :
    (s.changePoller place change).pollerAt? other = s.pollerAt? other := by
  cases hp : s.pollerAt? place with
  | none => rw [changePoller_of_none hp]
  | some p => rw [changePoller_of_some hp, pollerAt?_setPoller_of_ne _ h, pollerAt?_emit]

theorem pollerAt?_changePoller (s : Session τ) (place other : Nat)
    (change : Poller → Reported Poller) :
    (s.changePoller place change).pollerAt? other =
      if place = other then (s.pollerAt? other).map (fun p => (change p).outcome)
      else s.pollerAt? other := by
  by_cases h : place = other
  · subst h
    rw [if_pos rfl]
    cases hp : s.pollerAt? place with
    | none => rw [changePoller_of_none hp, hp]; rfl
    | some p => rw [pollerAt?_changePoller_self hp]; rfl
  · rw [if_neg h, pollerAt?_changePoller_of_ne s h]

theorem names_changePoller (s : Session τ) (place : Nat) (change : Poller → Reported Poller) :
    (s.changePoller place change).names = s.names := by
  cases hp : s.pollerAt? place with
  | none => rw [changePoller_of_none hp]
  | some p => rw [changePoller_of_some hp]; rfl

theorem cancelled_changePoller (s : Session τ) (place : Nat) (change : Poller → Reported Poller) :
    (s.changePoller place change).cancelled = s.cancelled := by
  cases hp : s.pollerAt? place with
  | none => rw [changePoller_of_none hp]
  | some p => rw [changePoller_of_some hp]; rfl

theorem host_changePoller (s : Session τ) (place : Nat) (change : Poller → Reported Poller) :
    (s.changePoller place change).world.host = s.world.host := by
  cases hp : s.pollerAt? place with
  | none => rw [changePoller_of_none hp]
  | some p =>
      rw [changePoller_of_some hp]
      exact Journal.host_emitAll s.world s.journal (change p).records

theorem pollerAt?_foldl_range {I : Session τ → Prop} {work : Session τ → Nat → Session τ}
    {g : Poller → Poller} (keeps : ∀ s i, I s → I (work s i))
    (one : ∀ s, I s → ∀ i place, (work s i).pollerAt? place =
      if i = place then (s.pollerAt? place).map g else s.pollerAt? place)
    (count : Nat) {s : Session τ} (start : I s) (place : Nat) :
    ((List.range count).foldl work s).pollerAt? place =
      if place < count then (s.pollerAt? place).map g else s.pollerAt? place := by
  have hlasts : ∀ places : List Nat, I (places.foldl work s) := by
    intro places
    induction places using List.reverseRecOn with
    | nil => exact start
    | append_singleton places i ih =>
        rw [List.foldl_append]
        exact keeps _ i ih
  induction count with
  | zero => rfl
  | succ count ih =>
      rw [List.range_succ, List.foldl_append, List.foldl_cons, List.foldl_nil, one _ (hlasts _), ih]
      by_cases hlast : count = place
      · subst hlast
        simp
      · rw [if_neg hlast]
        by_cases hlt : place < count
        · rw [if_pos hlt, if_pos (by omega)]
        · rw [if_neg hlt, if_neg (by omega)]

theorem pollerIs_of_some {s : Session τ} {place : Nat} {p : Poller}
    (h : s.pollerAt? place = some p) (question : Poller → Bool) :
    s.pollerIs place question = question p := by
  simp [pollerIs, h]

theorem pollerIs_eq_true_iff {s : Session τ} {place : Nat} {question : Poller → Bool} :
    s.pollerIs place question = true ↔ ∃ p, s.pollerAt? place = some p ∧ question p = true := by
  rw [pollerIs, Option.any_eq_true]

variable [Timeline τ]

/-! ## Listings -/

@[simp] theorem pollerAt?_passListing (s : Session τ) (place : Nat) :
    s.passListing.pollerAt? place = s.pollerAt? place := rfl

theorem pollAt_of_none {s : Session τ} {place : Nat} (h : s.pollerAt? place = none) :
    s.pollAt place = ([], s.passListing) :=
  withPoller_of_none (s := s.passListing) h _ _

theorem pollAt_of_some {s : Session τ} {place : Nat} {p : Poller}
    (h : s.pollerAt? place = some p) :
    s.pollAt place =
      ((p.poll s.world).outcome.1,
        (s.passListing.emit (p.poll s.world).records).setPoller place
          (p.poll s.world).outcome.2) :=
  withPoller_of_some (s := s.passListing) h _ _

end TreeWatch.Session

namespace TreeWatch.Session

open Log

variable {τ : Type}

/-! ## Settings and the log -/

/-- The second session differs from the first in the world, the log and the kept settings alone. -/
structure Aside (s t : Session τ) : Prop where
  pollers : t.pollers = s.pollers
  names : t.names = s.names
  held : t.held = s.held
  clock : t.clock = s.clock
  delay : t.delay = s.delay
  cancelled : t.cancelled = s.cancelled

theorem Aside.refl (s : Session τ) : Aside s s := ⟨rfl, rfl, rfl, rfl, rfl, rfl⟩

theorem Aside.trans {s t u : Session τ} (first : Aside s t) (second : Aside t u) : Aside s u :=
  ⟨second.pollers.trans first.pollers, second.names.trans first.names,
    second.held.trans first.held, second.clock.trans first.clock, second.delay.trans first.delay,
    second.cancelled.trans first.cancelled⟩

theorem aside_report {α : Type} (s : Session τ) (r : Reported α) : Aside s (s.report r).2 :=
  ⟨rfl, rfl, rfl, rfl, rfl, rfl⟩

theorem aside_loadSettings (s : Session τ) (project named : Option Path) (reload : Bool) :
    Aside s (s.loadSettings project named reload).2 := by
  have hfresh := aside_report s (Settings.load s.world project named)
  unfold loadSettings
  dsimp only
  split
  · exact Aside.refl s
  · split
    · next heq =>
        rw [heq] at hfresh
        exact hfresh
    · next heq =>
        rw [heq] at hfresh
        dsimp only
        split
        · exact ⟨hfresh.pollers, hfresh.names, hfresh.held, hfresh.clock, hfresh.delay,
            hfresh.cancelled⟩
        · exact hfresh

theorem aside_handOut (isGlobal : Bool) (loaded : LoadedSettings) (s : Session τ) :
    Aside s (handOut isGlobal loaded s).2 := by
  unfold handOut
  split
  · exact Aside.refl s
  · dsimp only
    split <;> exact ⟨rfl, rfl, rfl, rfl, rfl, rfl⟩

theorem aside_giveSettings (s : Session τ) (project named : Option Path) (reload : Bool) :
    Aside s (s.giveSettings project named reload).2 := by
  have hload := aside_loadSettings s project named reload
  unfold giveSettings
  split
  · next heq =>
      rw [heq] at hload
      exact hload
  · next heq =>
      rw [heq] at hload
      exact hload.trans (aside_handOut _ _ _)

theorem aside_pollerSettings (s : Session τ) (given : Option Value) :
    Aside s (s.pollerSettings given).2 := by
  cases given with
  | some value =>
      have hreport := aside_report s (Settings.ofEntries [(.text "poller", value)])
      simp only [pollerSettings]
      split
      · next heq =>
          rw [heq] at hreport
          exact hreport
      · next heq =>
          rw [heq] at hreport
          exact hreport
  | none =>
      have hload := aside_loadSettings s none none false
      simp only [pollerSettings, globalSettings]
      split
      · next heq =>
          rw [heq] at hload
          exact hload
      · next heq =>
          rw [heq] at hload
          exact hload

theorem aside_setupLogging (s : Session τ) (settings : Option LoggingSettings) :
    Aside s (s.setupLogging settings).2 :=
  ⟨rfl, rfl, rfl, rfl, rfl, rfl⟩

end TreeWatch.Session

namespace TreeWatch

/-- An action that is neither a poll nor a request to stop. -/
def Action.isPlain : Action → Bool
  | .poll _ | .stop _ => false
  | _ => true

/-- A look at a directory: the session in which it is made, and what is watched. -/
structure Look (τ : Type) where
  session : Session τ
  spec : Spec

/-- The poller that a look makes, if it is the first one of that poller. -/
def Look.poller {τ : Type} (l : Look τ) : Poller :=
  (Poller.ofSpec l.session.world l.spec).outcome

namespace Session

variable {τ : Type}

/-! ## Actions -/

theorem pollers_forPoller {s : Session τ} {id : String}
    {work : Nat → Poller → Outcome τ × Session τ}
    (keeps : ∀ place p, (work place p).2.pollers = s.pollers) :
    (s.forPoller id work).2.pollers = s.pollers := by
  unfold forPoller
  split
  · rfl
  · split
    · rfl
    · exact keeps _ _

variable [Timeline τ]

/-- The look with which a request makes a poller, if it is granted. -/
def lookFor? (s : Session τ) (request : Request) : Option (Look τ) :=
  match request.validate s.world with
  | .ok spec => some ⟨s.passListing, spec⟩
  | .error _ => none

def firstLook? (s : Session τ) : Action → Option (Look τ)
  | .create _ request => s.lookFor? request
  | .createFromSettings _ root given =>
    match s.pollerSettings given with
    | (.ok settings, t) => t.lookFor? (settings.request root)
    | (.error _, _) => none
  | _ => none

/-- The request with which an action asks for a poller, and the session in which it is judged. -/
inductive Asks (s : Session τ) : Action → Session τ → Request → Prop
  | given (id : String) (request : Request) : Asks s (.create id request) s request
  | fromSettings {given : Option Value} {settings : PollerSettings} {t : Session τ} (id : String)
      (root : Path) (found : s.pollerSettings given = (.ok settings, t)) :
      Asks s (.createFromSettings id root given) t (settings.request root)

theorem firstLook?_eq_some {s : Session τ} {a : Action} {l : Look τ}
    (h : s.firstLook? a = some l) :
    ∃ t request spec, Asks s a t request ∧ request.validate t.world = .ok spec ∧
      l = ⟨t.passListing, spec⟩ := by
  have hgranted : ∀ {t : Session τ} {request : Request}, t.lookFor? request = some l →
      ∃ spec, request.validate t.world = .ok spec ∧ l = ⟨t.passListing, spec⟩ := by
    intro t request hlook
    unfold lookFor? at hlook
    split at hlook
    · next spec hspec => exact ⟨spec, hspec, (Option.some.inj hlook).symm⟩
    · simp at hlook
  cases a
  case create id request =>
    obtain ⟨spec, hspec⟩ := hgranted h
    exact ⟨s, request, spec, .given id request, hspec⟩
  case createFromSettings id root given =>
    simp only [firstLook?] at h
    split at h
    · next settings t hfound =>
        obtain ⟨spec, hspec⟩ := hgranted h
        exact ⟨t, _, spec, .fromSettings id root hfound, hspec⟩
    · simp at h
  all_goals simp [firstLook?] at h

theorem pollers_create (s : Session τ) (id : String) (request : Request) :
    (s.create id request).2.pollers =
      s.pollers ++ ((s.lookFor? request).map Look.poller).toList := by
  unfold create createPoller lookFor?
  cases request.validate s.world with
  | error e => exact (List.append_nil _).symm
  | ok spec => rfl

/-- A plain action leaves every poller that is there as it is, and adds at most the one that its
look makes. -/
theorem pollers_act {a : Action} (plain : a.isPlain = true) (s : Session τ) :
    (s.act a).2.pollers = s.pollers ++ ((s.firstLook? a).map Look.poller).toList := by
  have same : ∀ {t : Session τ}, t.pollers = s.pollers →
      t.pollers = s.pollers ++ ((none : Option (Look τ)).map Look.poller).toList := by
    intro t h
    rw [h]
    exact (List.append_nil _).symm
  cases a
  case poll | stop => simp [Action.isPlain] at plain
  case create id request => exact pollers_create s id request
  case createFromSettings id root given =>
    have haside := aside_pollerSettings s given
    simp only [act, firstLook?]
    split
    · next heq =>
        rw [heq] at haside
        simp only [heq]
        exact same haside.pollers
    · next heq =>
        rw [heq] at haside
        simp only [heq]
        rw [← haside.pollers]
        exact pollers_create _ _ _
  case snapshot | hold | isRunning => exact same (pollers_forPoller fun _ _ => rfl)
  case resolve =>
    refine same (pollers_forPoller fun _ _ => ?_)
    split <;> rfl
  case held | diffHeld | fileContent =>
    simp only [act]
    split <;> exact same rfl
  case loadSettings project named reload =>
    exact same (aside_giveSettings s project named reload).pollers
  case getSettings => exact same (aside_giveSettings s none none false).pollers
  case setupLogging source =>
    cases source with
    | given settings => exact same (aside_setupLogging s settings).pollers
    | loaded =>
        have hload := aside_loadSettings s none none false
        simp only [act, globalSettings]
        split
        · next heq =>
            rw [heq] at hload
            exact same hload.pollers
        · next heq =>
            rw [heq] at hload
            exact same hload.pollers
  all_goals exact same rfl

theorem pollerAt?_act {a : Action} (plain : a.isPlain = true) {s : Session τ} {place : Nat}
    {p : Poller} (h : s.pollerAt? place = some p) : (s.act a).2.pollerAt? place = some p := by
  have hlt : place < s.pollers.length := (List.getElem?_eq_some_iff.mp h).choose
  rw [pollerAt?, pollers_act plain, List.getElem?_append_left hlt]
  exact h

end Session

end TreeWatch
