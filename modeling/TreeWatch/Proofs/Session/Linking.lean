import TreeWatch.Proofs.Session.Moves
import TreeWatch.Proofs.Settings.Reading

/-!
# Sessions side by side

Two sessions in worlds that are related, with logs that are, and the same in everything else. If the
relation is kept by what can happen to worlds and logs, then the sessions stay side by side whatever
is done in both, as long as what is looked at and the settings that are read are the same in related
worlds.
-/

namespace TreeWatch

namespace Session

open Log

variable {τ : Type}

/-! ## Files of settings that are read -/

/-- The files that are read when settings are loaded, unless those that are kept will do. -/
def filesLoaded (s : Session τ) (project named : Option Path) (reload : Bool) : List Path :=
  if s.cached.isSome && (project.isNone && named.isNone && !reload) then []
  else
    match Settings.allFiles s.world project named with
    | .ok paths => paths
    | .error _ => []

/-- The files of settings that an action reads. -/
def filesRead (s : Session τ) : Action → List Path
  | .loadSettings project named reload => s.filesLoaded project named reload
  | .getSettings | .setupLogging .loaded | .createFromSettings _ _ none =>
    s.filesLoaded none none false
  | .readSettingsFile path => [path]
  | _ => []

def loadAfresh (s : Session τ) (project named : Option Path) :
    Except Failure LoadedSettings × Session τ :=
  match s.report (Settings.load s.world project named) with
  | (.error e, s) => (.error e, s)
  | (.ok settings, s) =>
    let loaded : LoadedSettings := { settings }
    (.ok loaded, if project.isNone && named.isNone then { s with cached := some loaded } else s)

theorem loadSettings_eq (s : Session τ) (project named : Option Path) (reload : Bool) :
    s.loadSettings project named reload =
      match s.cached, project.isNone && named.isNone && !reload with
      | some loaded, true => (.ok loaded, s)
      | _, _ => s.loadAfresh project named :=
  rfl

/-! ## Directories that are looked at -/

structure Sight where
  world : World
  scope : Scope
  root : Path

/-- What is seen there is the same in all related worlds. -/
def Sight.IsShared (R : World × Journal → World × Journal → Prop) (x : Sight) : Prop :=
  ∀ {j v k}, R (x.world, j) (v, k) →
    Walk.findings v x.scope x.root = Walk.findings x.world x.scope x.root

/-- What the poller at a place looks at. -/
def sightAt? (s : Session τ) (place : Nat) : Option Sight :=
  (s.pollerAt? place).map fun p => ⟨s.world, p.spec.scope, p.spec.root⟩

def sights [Timeline τ] (s : Session τ) : Action → List Sight
  | .poll id => ((s.named? id).bind fun named => s.sightAt? named.1).toList
  | .takeSnapshot root scope => [⟨s.world, scope, root⟩]
  | a => ((s.firstLook? a).map fun l => ⟨l.session.world, l.spec.scope, l.spec.root⟩).toList

/-! ## Relations of worlds with their logs -/

/-- A relation of worlds with their logs that is kept by whatever an allowed action does to them,
and in which requests and the names of settings files come to the same. -/
structure Bond (allowed : Action → Prop) (R : World × Journal → World × Journal → Prop) : Prop where
  emitAll : ∀ {w v j k}, R (w, j) (v, k) → ∀ rs, R (j.emitAll w rs) (k.emitAll v rs)
  setup : ∀ {w v j k source}, allowed (.setupLogging source) → R (w, j) (v, k) → ∀ settings,
    R (j.setup w settings).2 (k.setup v settings).2
  reset : ∀ {w v j k}, allowed .resetLogging → R (w, j) (v, k) → R (w, j.reset) (v, k.reset)
  edit : ∀ {w v j k change}, allowed (.edit change) → R (w, j) (v, k) →
    R (w.edit change, j) (v.edit change, k)
  changeDirectory : ∀ {w v j k path}, allowed (.changeDirectory path) → R (w, j) (v, k) →
    R ({ w with directory := path }, j) ({ v with directory := path }, k)
  setVariable : ∀ {w v j k}, R (w, j) (v, k) → ∀ name value,
    R (w.setVariable name value, j) (v.setVariable name value, k)
  validate : ∀ {w v j k}, R (w, j) (v, k) → ∀ r : Request, r.validate v = r.validate w
  allFiles : ∀ {w v j k}, R (w, j) (v, k) → ∀ project named,
    Settings.allFiles v project named = Settings.allFiles w project named
  environment : ∀ {w v j k}, R (w, j) (v, k) → v.environment = w.environment
  host : ∀ {w v j k}, R (w, j) (v, k) → v.host = w.host

/-- The worlds and logs of the sessions are related, and all else is the same. -/
structure Linked (R : World × Journal → World × Journal → Prop) (s t : Session τ) : Prop where
  log : R (s.world, s.journal) (t.world, t.journal)
  cached : s.cached = t.cached
  nextNumber : s.nextNumber = t.nextNumber
  pollers : s.pollers = t.pollers
  names : s.names = t.names
  held : s.held = t.held
  clock : s.clock = t.clock
  delay : s.delay = t.delay
  cancelled : s.cancelled = t.cancelled

def LinkedEnds {α : Type} (R : World × Journal → World × Journal → Prop) (x y : α × Session τ) :
    Prop :=
  ∃ outcome s t, x = (outcome, s) ∧ y = (outcome, t) ∧ Linked R s t

theorem LinkedEnds.linked {α : Type} {R : World × Journal → World × Journal → Prop}
    {x y : α × Session τ} (h : LinkedEnds R x y) : Linked R x.2 y.2 := by
  obtain ⟨outcome, s, t, rfl, rfl, hlinked⟩ := h
  exact hlinked

namespace Linked

variable {allowed : Action → Prop} {R : World × Journal → World × Journal → Prop}
  {s t : Session τ}

theorem pollerAt? (h : Linked R s t) (i : Nat) : t.pollerAt? i = s.pollerAt? i :=
  (congrArg (·[i]?) h.pollers).symm

theorem pollerIs (h : Linked R s t) (i : Nat) (question : Poller → Bool) :
    t.pollerIs i question = s.pollerIs i question :=
  congrArg (·.any question) (h.pollerAt? i)

theorem named? (h : Linked R s t) (id : String) : t.named? id = s.named? id := by
  unfold Session.named? place?
  rw [h.names]
  simp only [h.pollerAt?]

theorem cannotWait (bond : Bond allowed R) (h : Linked R s t) (i : Nat) :
    t.cannotWait i = s.cannotWait i := by
  have hlong : t.world.isTooLong = s.world.isTooLong := World.isTooLong_congr (bond.host h.log)
  rw [Session.cannotWait, Session.cannotWait, hlong, h.pollerIs]

theorem inherits (h : Linked R s t) (i : Nat) (task : Option String) :
    t.inherits i task = s.inherits i task := by
  rw [Session.inherits, Session.inherits, owes, owes, h.cancelled, h.pollerIs]

/-! ### Parts of actions -/

theorem setPoller (h : Linked R s t) (i : Nat) (p : Poller) :
    Linked R (s.setPoller i p) (t.setPoller i p) :=
  { h with pollers := congrArg (·.set i p) h.pollers }

theorem addPoller (h : Linked R s t) (id : String) (p : Poller) :
    Linked R (s.addPoller id p) (t.addPoller id p) := by
  have hpollers : s.pollers ++ [p] = t.pollers ++ [p] := congrArg (· ++ [p]) h.pollers
  have hnames : (id, s.pollers.length) :: s.names = (id, t.pollers.length) :: t.names := by
    rw [h.pollers, h.names]
  exact { h with pollers := hpollers, names := hnames }

theorem forPoller (h : Linked R s t) (id : String)
    {work work' : Nat → Poller → Outcome τ × Session τ}
    (linked : ∀ i p, Linked R (work i p).2 (work' i p).2) :
    Linked R (s.forPoller id work).2 (t.forPoller id work').2 := by
  have hnamed := h.named? id
  cases hs : s.named? id with
  | none => rwa [forPoller_of_none hs, forPoller_of_none (hnamed.trans hs)]
  | some named =>
      rw [forPoller_of_some hs, forPoller_of_some (hnamed.trans hs)]
      exact linked named.1 named.2

theorem handOut (h : Linked R s t) (isGlobal : Bool) (loaded : LoadedSettings) :
    LinkedEnds R (handOut isGlobal loaded s) (handOut isGlobal loaded t) := by
  unfold Session.handOut
  split
  · exact ⟨_, _, _, rfl, rfl, h⟩
  · dsimp only
    rw [← h.nextNumber]
    refine ⟨_, _, _, rfl, rfl, ?_⟩
    split
    · exact { h with cached := rfl, nextNumber := rfl }
    · exact { h with nextNumber := rfl }

theorem emit (bond : Bond allowed R) (h : Linked R s t) (rs : List Record) :
    Linked R (s.emit rs) (t.emit rs) :=
  { h with log := bond.emitAll h.log rs }

theorem changePoller (bond : Bond allowed R) (h : Linked R s t) (i : Nat)
    (change : Poller → Reported Poller) :
    Linked R (s.changePoller i change) (t.changePoller i change) := by
  have hp := h.pollerAt? i
  cases hs : s.pollerAt? i with
  | none => rwa [changePoller_of_none hs, changePoller_of_none (hp.trans hs)]
  | some p =>
      rw [changePoller_of_some hs, changePoller_of_some (hp.trans hs)]
      exact (h.emit bond _).setPoller i _

/-! ### Settings -/

theorem report (bond : Bond allowed R) (h : Linked R s t) {α : Type} (r : Reported α) :
    LinkedEnds R (s.report r) (t.report r) :=
  ⟨r.outcome, s.emit r.records, t.emit r.records, rfl, rfl, h.emit bond r.records⟩

def SameFiles (s t : Session τ) (paths : List Path) : Prop :=
  ∀ p ∈ paths, Settings.entriesOfFile t.world p = Settings.entriesOfFile s.world p

theorem loadAfresh (bond : Bond allowed R) (h : Linked R s t) {project named : Option Path}
    (read : ∀ paths, Settings.allFiles s.world project named = .ok paths → SameFiles s t paths) :
    LinkedEnds R (s.loadAfresh project named) (t.loadAfresh project named) := by
  have hload := Settings.load_congr (bond.allFiles h.log project named) (bond.environment h.log)
    read
  obtain ⟨outcome, s', t', hs, ht, hlinked⟩ :=
    h.report bond (Settings.load s.world project named)
  unfold Session.loadAfresh
  rw [hload, hs, ht]
  cases outcome with
  | error e => exact ⟨_, _, _, rfl, rfl, hlinked⟩
  | ok settings =>
      refine ⟨_, _, _, rfl, rfl, ?_⟩
      split
      · exact { hlinked with cached := rfl }
      · exact hlinked

theorem loadSettings (bond : Bond allowed R) (h : Linked R s t) {project named : Option Path}
    {reload : Bool} (read : SameFiles s t (s.filesLoaded project named reload)) :
    LinkedEnds R (s.loadSettings project named reload) (t.loadSettings project named reload) := by
  rw [loadSettings_eq, loadSettings_eq, ← h.cached]
  unfold filesLoaded at read
  have hafresh : (s.cached.isSome && (project.isNone && named.isNone && !reload)) = false →
      LinkedEnds R (s.loadAfresh project named) (t.loadAfresh project named) := by
    intro hkept
    refine h.loadAfresh bond fun paths hpaths => ?_
    rwa [hkept, if_neg (by simp), hpaths] at read
  cases hcached : s.cached with
  | none => exact hafresh (by rw [hcached]; rfl)
  | some loaded =>
      cases hglobal : (project.isNone && named.isNone && !reload) with
      | false => exact hafresh (by rw [hglobal, Bool.and_false])
      | true => exact ⟨_, _, _, rfl, rfl, h⟩

theorem giveSettings (bond : Bond allowed R) (h : Linked R s t) {project named : Option Path}
    {reload : Bool} (read : SameFiles s t (s.filesLoaded project named reload)) :
    LinkedEnds R (s.giveSettings project named reload) (t.giveSettings project named reload) := by
  obtain ⟨outcome, s', t', hs, ht, hlinked⟩ := h.loadSettings bond read
  unfold Session.giveSettings
  rw [hs, ht]
  cases outcome with
  | error e => exact ⟨_, _, _, rfl, rfl, hlinked⟩
  | ok loaded =>
      obtain ⟨reply, s'', t'', hs', ht', hlinked'⟩ :=
        hlinked.handOut (project.isNone && named.isNone) loaded
      dsimp only
      rw [hs', ht']
      exact ⟨_, _, _, rfl, rfl, hlinked'⟩

theorem pollerSettings (bond : Bond allowed R) (h : Linked R s t) {given : Option Value}
    (read : given = none → SameFiles s t (s.filesLoaded none none false)) :
    LinkedEnds R (s.pollerSettings given) (t.pollerSettings given) := by
  cases given with
  | some value =>
      obtain ⟨outcome, s', t', hs, ht, hlinked⟩ :=
        h.report bond (Settings.ofEntries [(.text "poller", value)])
      simp only [Session.pollerSettings, hs, ht]
      cases outcome <;> exact ⟨_, _, _, rfl, rfl, hlinked⟩
  | none =>
      obtain ⟨outcome, s', t', hs, ht, hlinked⟩ := h.loadSettings bond (read rfl)
      simp only [Session.pollerSettings, globalSettings, hs, ht]
      cases outcome <;> exact ⟨_, _, _, rfl, rfl, hlinked⟩

theorem setupLogging (bond : Bond allowed R) (h : Linked R s t) {source : LoggingSource}
    (permitted : allowed (.setupLogging source)) (settings : Option LoggingSettings) :
    Linked R (s.setupLogging settings).2 (t.setupLogging settings).2 :=
  { h with log := bond.setup permitted h.log settings }

variable [Timeline τ]

/-! ### Pollers and the clock -/

theorem pass (h : Linked R s t) (span : τ) : Linked R (s.pass span) (t.pass span) :=
  { h with clock := congrArg (Timeline.after · span) h.clock }

theorem addDelay (h : Linked R s t) (seconds : Float) :
    Linked R (s.addDelay seconds) (t.addDelay seconds) :=
  { h with delay := congrArg (Timeline.after · (Timeline.ofSeconds seconds)) h.delay }

theorem passListing (h : Linked R s t) : Linked R s.passListing t.passListing := by
  have hclock : Timeline.after s.clock s.delay = Timeline.after t.clock t.delay := by
    rw [h.clock, h.delay]
  exact { h with clock := hclock, delay := rfl }

theorem spanUntil (h : Linked R s t) (next : τ) : t.spanUntil next = s.spanUntil next := by
  rw [Session.spanUntil, Session.spanUntil, h.clock]

theorem nextStart (h : Linked R s t) (i : Nat) : t.nextStart i = s.nextStart i := by
  rw [Session.nextStart, Session.nextStart, h.pollerAt?, h.clock]

theorem pollAt (bond : Bond allowed R) (h : Linked R s t) (i : Nat)
    (shared : ∀ x ∈ s.sightAt? i, x.IsShared R) :
    LinkedEnds R (s.pollAt i) (t.pollAt i) := by
  have hp := h.pollerAt? i
  have hpassed := h.passListing
  cases hs : s.pollerAt? i with
  | none =>
      rw [pollAt_of_none hs, pollAt_of_none (hp.trans hs)]
      exact ⟨_, _, _, rfl, rfl, hpassed⟩
  | some p =>
      have hsight : s.sightAt? i = some ⟨s.world, p.spec.scope, p.spec.root⟩ := by
        rw [sightAt?, hs]
        rfl
      have hpoll : p.poll t.world = p.poll s.world :=
        Poller.poll_of_findings_eq (shared _ hsight h.log)
      rw [pollAt_of_some hs, pollAt_of_some (hp.trans hs), hpoll]
      exact ⟨_, _, _, rfl, rfl, (hpassed.emit bond _).setPoller i _⟩

omit [Timeline τ] in
theorem deliver (bond : Bond allowed R) (h : Linked R s t) (i : Nat) (receiver : Receiver)
    (e : Event) : Linked R (s.deliver i receiver e) (t.deliver i receiver e) := by
  have hstopped : Linked R
      (if receiver.stopsOn.contains e.path then s.changePoller i Poller.stop else s)
      (if receiver.stopsOn.contains e.path then t.changePoller i Poller.stop else t) := by
    split
    · exact h.changePoller bond i Poller.stop
    · exact h
  unfold Session.deliver
  dsimp only
  cases receiver.failsOn.find? (·.1 = e.path) with
  | none => exact hstopped
  | some entry => exact hstopped.emit bond _

omit [Timeline τ] in
theorem dispatch (bond : Bond allowed R) (h : Linked R s t) (i : Nat) (receiver : Receiver)
    (es : List Event) : Linked R (s.dispatch i receiver es) (t.dispatch i receiver es) := by
  induction es generalizing s t with
  | nil => exact h
  | cons e rest ih => exact ih (h.deliver bond i receiver e)

theorem pollInLoop (bond : Bond allowed R) (h : Linked R s t) (i : Nat) (receiver : Receiver)
    (shared : ∀ x ∈ s.sightAt? i, x.IsShared R) :
    ∃ next events s' t', s.pollInLoop i receiver = (next, events, s') ∧
      t.pollInLoop i receiver = (next, events, t') ∧ Linked R s' t' := by
  obtain ⟨events, s', t', hs, ht, hlinked⟩ := h.pollAt bond i shared
  unfold Session.pollInLoop
  rw [hs, ht, h.nextStart]
  exact ⟨_, _, _, _, rfl, rfl, hlinked.dispatch bond i receiver events⟩

theorem create (bond : Bond allowed R) (h : Linked R s t) (id : String) (request : Request)
    (shared : ∀ l ∈ s.lookFor? request,
      Sight.IsShared R ⟨l.session.world, l.spec.scope, l.spec.root⟩) :
    Linked R (s.create id request).2 (t.create id request).2 := by
  unfold lookFor? at shared
  unfold Session.create createPoller
  rw [bond.validate h.log]
  cases hvalid : request.validate s.world with
  | error e => exact h
  | ok spec =>
      rw [hvalid] at shared
      have hlook : Poller.ofSpec t.world spec = Poller.ofSpec s.world spec :=
        Poller.ofSpec_of_findings_eq (shared _ rfl h.log)
      obtain ⟨p, s', t', hs, ht, hlinked⟩ :=
        h.passListing.report bond (Poller.ofSpec s.world spec)
      have hs' : s.passListing.report (Poller.ofSpec s.passListing.world spec) = (p, s') := hs
      have ht' : t.passListing.report (Poller.ofSpec t.passListing.world spec) = (p, t') :=
        (congrArg t.passListing.report hlook).trans ht
      simp only [hs', ht']
      exact hlinked.addPoller id p

/-! ### Actions -/

/-- An action that is allowed leaves sessions side by side unless it reads settings from files in
which they differ, or looks at a directory that differs. -/
theorem act (bond : Bond allowed R) (h : Linked R s t) {a : Action} (permitted : allowed a)
    (read : SameFiles s t (s.filesRead a)) (shared : ∀ x ∈ s.sights a, x.IsShared R) :
    Linked R (s.act a).2 (t.act a).2 := by
  -- Where an action makes a poller, its first look is what it looks at.
  have hfirst : ∀ {u : Session τ} {request : Request}, s.firstLook? a = u.lookFor? request →
      s.sights a = ((s.firstLook? a).map fun l =>
        (⟨l.session.world, l.spec.scope, l.spec.root⟩ : Sight)).toList →
      ∀ l ∈ u.lookFor? request, Sight.IsShared R ⟨l.session.world, l.spec.scope, l.spec.root⟩ := by
    intro u request hlook hsights l hl
    refine shared _ ?_
    rw [hsights, hlook, Option.mem_toList]
    exact Option.mem_map_of_mem _ hl
  cases a
  case edit change => exact { h with log := bond.edit permitted h.log }
  case changeDirectory path => exact { h with log := bond.changeDirectory permitted h.log }
  case setVariable name value => exact { h with log := bond.setVariable h.log name value }
  case create id request => exact h.create bond id request (hfirst rfl rfl)
  case createFromSettings id root given =>
    have hread : given = none → SameFiles s t (s.filesLoaded none none false) := by
      rintro rfl
      exact read
    obtain ⟨outcome, s', t', hs, ht, hlinked⟩ := h.pollerSettings bond hread
    simp only [Session.act, hs, ht]
    cases outcome with
    | error e => exact hlinked
    | ok settings => exact hlinked.create bond id _ (hfirst (by simp only [firstLook?, hs]) rfl)
  case takeSnapshot root scope =>
    have hsame : Snapshot.take t.world scope root = Snapshot.take s.world scope root :=
      Snapshot.take_of_findings_eq (shared _ List.mem_cons_self h.log)
    have hlinked := (h.passListing.report bond (Snapshot.take s.world scope root)).linked
    have hact : ∀ u : Session τ, (u.act (.takeSnapshot root scope)).2 =
        (u.passListing.report (Snapshot.take u.world scope root)).2 := fun _ => rfl
    rw [hact, hact, hsame]
    exact hlinked
  case poll id =>
    cases hnamed : s.named? id with
    | none =>
        rwa [Session.act, Session.act, forPoller_of_none hnamed,
          forPoller_of_none ((h.named? id).trans hnamed)]
    | some named =>
        have hpoll := h.pollAt bond named.1 fun x hx => shared x (by
          rw [sights, hnamed, Option.bind_some, Option.mem_toList]
          exact hx)
        rw [Session.act, Session.act, forPoller_of_some hnamed,
          forPoller_of_some ((h.named? id).trans hnamed)]
        exact hpoll.linked
  case hold id name =>
    exact h.forPoller id fun i p => { h with held := congrArg ((name, p.snapshot) :: ·) h.held }
  case snapshot id | isRunning id => exact h.forPoller id fun _ _ => h
  case resolve id word path =>
    refine h.forPoller id fun _ _ => ?_
    cases ChangeKind.ofWord? word <;> exact h
  case held name | diffHeld old new =>
    simp only [Session.act, heldSnapshot?, h.held]
    split <;> exact h
  case stop id => exact h.forPoller id fun i p => h.changePoller bond i Poller.stop
  case loadSettings project named reload => exact (h.giveSettings bond read).linked
  case getSettings => exact (h.giveSettings bond read).linked
  case resetSettings => exact { h with cached := rfl }
  case readSettingsFile path =>
    have hentries : Settings.entriesOfFile t.world path = Settings.entriesOfFile s.world path :=
      read path List.mem_cons_self
    have hlinked := (h.report bond (Settings.entriesOfFile s.world path)).linked
    have hact : ∀ u : Session τ, (u.act (.readSettingsFile path)).2 =
        (u.report (Settings.entriesOfFile u.world path)).2 := fun _ => rfl
    rw [hact, hact, hentries]
    exact hlinked
  case setupLogging source =>
    cases source with
    | given settings => exact h.setupLogging bond permitted settings
    | loaded =>
        obtain ⟨outcome, s', t', hs, ht, hlinked⟩ := h.loadSettings bond read
        simp only [Session.act, globalSettings, hs, ht]
        cases outcome with
        | error e => exact hlinked
        | ok loaded => exact hlinked.setupLogging bond permitted _
  case resetLogging => exact { h with log := bond.reset permitted h.log }
  case log logger level message => exact h.emit bond [⟨level, loggerName logger, message⟩]
  case fileContent path =>
    have hact : ∀ u : Session τ, (u.act (.fileContent path)).2 = u := by
      intro u
      simp only [Session.act]
      split <;> rfl
    rw [hact, hact]
    exact h
  all_goals exact h

end Linked

end Session

end TreeWatch
