import TreeWatch.Session.Timeline
import TreeWatch.Session.Step
import TreeWatch.Session.Reply
import TreeWatch.Settings.Sources

/-!
# The state of a session

The world, the log, the settings that are kept, the pollers and a clock. A poller stays at its
place when another takes over its name, so that a loop in progress keeps its own.
-/

namespace TreeWatch

structure LoadedSettings where
  settings : Settings
  number : Option Nat := none

structure Session (τ : Type) where
  world : World
  journal : Log.Journal := {}
  cached : Option LoadedSettings := none
  nextNumber : Nat := 0
  pollers : List Poller := []
  /-- The places of the pollers by name, the newest name first. -/
  names : List (String × Nat) := []
  held : List (String × Snapshot) := []
  clock : τ
  /-- What the next listing of a watched directory takes. -/
  delay : τ
  /-- The tasks that were cancelled for a coroutine which ended before it was told. The next wait in
  such a task is cut short. -/
  cancelled : List String := []

namespace Session

open Log

variable {τ : Type} [Timeline τ]

def ofWorld (world : World) : Session τ :=
  { world, clock := Timeline.zero, delay := Timeline.zero }

def emit (s : Session τ) (rs : List Record) : Session τ :=
  let (world, journal) := s.journal.emitAll s.world rs
  { s with world, journal }

def report {α : Type} (s : Session τ) (r : Reported α) : α × Session τ :=
  (r.outcome, s.emit r.records)

def recordsFrom (s : Session τ) (count : Nat) : List Record :=
  s.journal.records.toList.drop count

def answer (count : Nat) (result : Except Failure (Reply τ) × Session τ) : Answer τ × Session τ :=
  ((result.1, result.2.recordsFrom count), result.2)

def recordCount (s : Session τ) : Nat :=
  s.journal.records.size

def place? (s : Session τ) (id : String) : Option Nat :=
  (s.names.find? (·.1 = id)).map (·.2)

def pollerAt? (s : Session τ) (place : Nat) : Option Poller :=
  s.pollers[place]?

def setPoller (s : Session τ) (place : Nat) (p : Poller) : Session τ :=
  { s with pollers := s.pollers.set place p }

def addPoller (s : Session τ) (id : String) (p : Poller) : Session τ :=
  { s with pollers := s.pollers ++ [p], names := (id, s.pollers.length) :: s.names }

def withPoller {α : Type} (s : Session τ) (place : Nat)
    (work : World → Poller → Reported (α × Poller)) (standard : α) : α × Session τ :=
  match s.pollerAt? place with
  | none => (standard, s)
  | some p =>
    let ((a, p), s) := s.report (work s.world p)
    (a, s.setPoller place p)

def changePoller (s : Session τ) (place : Nat) (change : Poller → Reported Poller) : Session τ :=
  (s.withPoller place (fun _ p => do
    let p ← change p
    pure ((), p)) ()).2

def owes (s : Session τ) (task : Option String) : Bool :=
  task.any s.cancelled.contains

def owe (s : Session τ) (task : Option String) : Session τ :=
  { s with cancelled := task.toList ++ s.cancelled }

def settle (s : Session τ) (task : Option String) : Session τ :=
  { s with cancelled := s.cancelled.filter fun t => some t ≠ task }

def pollerIs (s : Session τ) (place : Nat) (question : Poller → Bool) : Bool :=
  (s.pollerAt? place).any question

def pass (s : Session τ) (span : τ) : Session τ :=
  { s with clock := Timeline.after s.clock span }

def passListing (s : Session τ) : Session τ :=
  { s.pass s.delay with delay := Timeline.zero }

def addDelay (s : Session τ) (seconds : Float) : Session τ :=
  { s with delay := Timeline.after s.delay (Timeline.ofSeconds seconds) }

/-- The clock reading at which the next poll of the poller at a place is due. -/
def nextStart (s : Session τ) (place : Nat) : τ :=
  match s.pollerAt? place with
  | some p => Timeline.after s.clock (Timeline.ofSeconds p.spec.interval)
  | none => s.clock

def pollAt (s : Session τ) (place : Nat) : List Event × Session τ :=
  s.passListing.withPoller place (fun w p => p.poll w) []

/-- Hands an event to the receiver, who may ask for a stop and may fail. -/
def deliver (s : Session τ) (place : Nat) (receiver : Receiver) (e : Event) : Session τ :=
  let s := if receiver.stopsOn.contains e.path then s.changePoller place Poller.stop else s
  match receiver.failsOn.find? (·.1 = e.path) with
  | some (_, text) =>
    s.emit [.of .error "poller" ("Error in change callback for " ++ e.path ++ ": " ++ text)]
  | none => s

/-- Hands events to the receiver, each of them whatever became of those before it. -/
def dispatch (s : Session τ) (place : Nat) (receiver : Receiver) (es : List Event) : Session τ :=
  es.foldl (fun s e => s.deliver place receiver e) s

def createPoller (s : Session τ) (request : Request) : Except Failure Poller × Session τ :=
  match request.validate s.world with
  | .error e => (.error e, s)
  | .ok spec =>
    let s := s.passListing
    let (p, s) := s.report (Poller.ofSpec s.world spec)
    (.ok p, s)

def create (s : Session τ) (id : String) (request : Request) :
    Except Failure (Reply τ) × Session τ :=
  match s.createPoller request with
  | (.error e, s) => (.error e, s)
  | (.ok p, s) => (.ok (.spec p.spec), s.addPoller id p)

/-- Loads settings. Those of the whole program are kept and not read again unless that is asked
for. -/
def loadSettings (s : Session τ) (project named : Option Path) (reload : Bool) :
    Except Failure LoadedSettings × Session τ :=
  let isGlobal := project.isNone && named.isNone
  match s.cached, isGlobal && !reload with
  | some loaded, true => (.ok loaded, s)
  | _, _ =>
    match s.report (Settings.load s.world project named) with
    | (.error e, s) => (.error e, s)
    | (.ok settings, s) =>
      let loaded : LoadedSettings := { settings }
      (.ok loaded, if isGlobal then { s with cached := some loaded } else s)

def globalSettings (s : Session τ) : Except Failure LoadedSettings × Session τ :=
  s.loadSettings none none false

/-- Hands settings out. They keep the number that they get the first time. -/
def handOut (isGlobal : Bool) (loaded : LoadedSettings) (s : Session τ) : Reply τ × Session τ :=
  match loaded.number with
  | some number => (.settings loaded.settings number, s)
  | none =>
    let number := s.nextNumber
    let s := { s with nextNumber := number + 1 }
    (.settings loaded.settings number,
      if isGlobal then { s with cached := some { loaded with number := some number } } else s)

def giveSettings (s : Session τ) (project named : Option Path) (reload : Bool) :
    Except Failure (Reply τ) × Session τ :=
  match s.loadSettings project named reload with
  | (.error e, s) => (.error e, s)
  | (.ok loaded, s) =>
    let (reply, s) := handOut (project.isNone && named.isNone) loaded s
    (.ok reply, s)

def pollerSettings (s : Session τ) :
    Option Value → Except Failure PollerSettings × Session τ
  | some given =>
    match s.report (Settings.ofEntries [(.text "poller", given)]) with
    | (.error e, s) => (.error e, s)
    | (.ok settings, s) => (.ok settings.poller, s)
  | none =>
    match s.globalSettings with
    | (.error e, s) => (.error e, s)
    | (.ok loaded, s) => (.ok loaded.settings.poller, s)

def loggingReply (s : Session τ) : Reply τ :=
  .logging s.journal.initialized s.journal.level s.journal.handlers

def setupLogging (s : Session τ) (settings : Option LoggingSettings) :
    Except Failure (Reply τ) × Session τ :=
  let (outcome, world, journal) := s.journal.setup s.world settings
  let s := { s with world, journal }
  (outcome.map fun _ => s.loggingReply, s)

end Session

def PollerSettings.request (p : PollerSettings) (root : Path) : Request :=
  ⟨root, ⟨p.recursive, p.trackDirectories, p.trackSymlinks⟩, p.interval⟩

end TreeWatch
