import TreeWatch.Watch.Walk
import TreeWatch.Decimal.Fixed

/-!
# Pollers

A poller keeps the latest snapshot of its directory; a poll compares it with a new one. A
directory that cannot be listed reads as empty, which is reported once. A request to stop is kept
until the loop that it ends, or the next one, has ended.
-/

namespace TreeWatch

open Log

/-- What a blocking loop waits on: the poller's own request to stop, or a token from outside. -/
inductive Token where
  | own
  | external (isSet : Bool)
  deriving DecidableEq

inductive Loop where
  | idle
  | blocking (token : Token)
  | coroutine (cancelRequested : Bool)
  deriving DecidableEq

structure Poller where
  spec : Spec
  snapshot : Snapshot := []
  /-- Whether the directory could not be listed last time. -/
  rootMissing : Bool := false
  stopPending : Bool := false
  loop : Loop := .idle

namespace Poller

def say (level : Level) (message : String) : Reported Unit :=
  .say (.of level "poller" message)

def rootText (p : Poller) : String :=
  p.spec.root.text

def isRunning (p : Poller) : Bool :=
  p.loop ≠ .idle

def refresh (w : World) (p : Poller) : Reported Poller :=
  match Walk.findings w p.spec.scope p.spec.root with
  | .error e => do
    if !p.rootMissing then
      say .warning ("Watch root unavailable " ++ p.rootText ++ ": " ++ e.message)
    pure { p with snapshot := [], rootMissing := true }
  | .ok fs => do
    ⟨(), fs.filterMap (Finding.record? p.spec.root)⟩
    if p.rootMissing then say .info ("Watch root is back: " ++ p.rootText)
    pure { p with snapshot := Snapshot.ofFindings fs, rootMissing := false }

/-- The poller of a specification, with the snapshot that its first poll is compared with. -/
def ofSpec (w : World) (spec : Spec) : Reported Poller := do
  let p ← refresh w { spec }
  say .debug ("Baseline for " ++ p.rootText ++ ": " ++ toString p.snapshot.length ++ " entries")
  pure p

def poll (w : World) (p : Poller) : Reported (List Event × Poller) := do
  let next ← refresh w p
  let events := Snapshot.diff p.snapshot next.snapshot
  if !events.isEmpty then
    say .verbose (toString events.length ++ " change(s) under " ++ p.rootText)
  pure (events, next)

/-- The path of the entry that an event is about: the texts between the slashes of the event lead
on from the watched directory. -/
def resolve (p : Poller) (e : Event) : Path :=
  p.spec.root.joinTexts ((splitAt '/' e.path.toList).map String.ofList)

/-- Asks the active loop to stop, or the next one if none is active. -/
def stop (p : Poller) : Reported Poller := do
  let loop := match p.loop with
    | .blocking (.external _) => .blocking (.external true)
    | .coroutine _ => .coroutine true
    | loop => loop
  say .debug ("Stop requested for " ++ p.rootText)
  pure { p with stopPending := true, loop }

def tokenIsSet (p : Poller) : Bool :=
  match p.loop with
  | .blocking (.external isSet) => isSet
  | _ => p.stopPending

def setToken (p : Poller) : Poller :=
  match p.loop with
  | .blocking (.external _) => { p with loop := .blocking (.external true) }
  | _ => { p with stopPending := true }

def cancelRequested (p : Poller) : Bool :=
  p.loop = .coroutine true

def requestCancel (p : Poller) : Poller :=
  match p.loop with
  | .coroutine _ => { p with loop := .coroutine true }
  | _ => p

def reject (p : Poller) : Reported Unit :=
  say .warning ("DirectoryPoller already running for " ++ p.rootText)

def intervalText (p : Poller) : String :=
  "interval: " ++ Decimal.onePlace p.spec.interval ++ "s"

/-- Enters a blocking loop. A stop that is pending sets the token. -/
def enterBlocking (token : Token) (p : Poller) : Reported Poller := do
  let token := match token with
    | .own => .own
    | .external isSet => .external (isSet || p.stopPending)
  say .info ("Polling " ++ p.rootText ++ " (" ++ p.intervalText ++ ", recursive: " ++
    (if p.spec.scope.recursive then "True" else "False") ++ ")")
  pure { p with loop := .blocking token }

def enterCoroutine (p : Poller) : Reported Poller := do
  say .info ("Polling " ++ p.rootText ++ " (" ++ p.intervalText ++ ")")
  pure { p with loop := .coroutine false }

/-- The poller after its loop: no stop is pending any more. -/
def leave (p : Poller) : Poller :=
  { p with loop := .idle, stopPending := false }

def sayStopped (p : Poller) : Reported Unit :=
  say .info ("Stopped polling " ++ p.rootText)

end Poller

end TreeWatch
