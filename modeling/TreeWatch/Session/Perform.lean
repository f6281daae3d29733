import TreeWatch.Session.Act

/-!
# Doing steps

What each step does to a session. A loop waits until its next poll is due, and the steps of a tick
are done while it waits, so that a session may be in the middle of several loops at once.
-/

namespace TreeWatch.Session

open Log

variable {τ : Type} [Timeline τ]

structure Trace (τ : Type) where
  waits : List τ := []
  events : List Event := []
  ticks : List (List (Answer τ)) := []
  isCut : Bool := false

namespace Trace

def waited (t : Trace τ) (span : τ) : Trace τ :=
  { t with waits := span :: t.waits }

def ticked (t : Trace τ) (answers : List (Answer τ)) : Trace τ :=
  { t with ticks := answers :: t.ticks }

def delivered (t : Trace τ) (events : List Event) : Trace τ :=
  { t with events := events ++ t.events }

def reply (t : Trace τ) (token : Option Bool) (s : Session τ) (place : Nat) : Reply τ :=
  .loop t.waits t.events t.ticks (s.pollerIs place Poller.isRunning) token
    (s.pollerIs place (·.stopPending))

end Trace

def spanUntil (s : Session τ) (next : τ) : τ :=
  Timeline.remaining next s.clock

/-- Polls once in a loop: the reading at which the next poll is due counts from here. -/
def pollInLoop (s : Session τ) (place : Nat) (receiver : Receiver) :
    τ × List Event × Session τ :=
  let next := s.nextStart place
  let (events, s) := s.pollAt place
  (next, events, s.dispatch place receiver events)

/-- Whether the loop at a place waits on a token that is not set for longer than a thread can. -/
def cannotWait (s : Session τ) (place : Nat) : Bool :=
  s.pollerIs place fun p => !p.tokenIsSet && s.world.isTooLong p.spec.interval

/-- Ends a blocking loop: the value of its token, and the session without it. -/
def endBlocking (s : Session τ) (place : Nat) : Bool × Session τ :=
  let external := match (s.pollerAt? place).map (·.loop) with
    | some (.blocking (.external isSet)) => some isSet
    | _ => none
  let s := s.changePoller place fun p => pure p.leave
  let s := s.changePoller place fun p => do
    p.sayStopped
    pure p
  (external.getD (s.pollerIs place (·.stopPending)), s)

/-- Whether the coroutine at a place ends before it is told of its cancellation. -/
def leavesOwing (s : Session τ) (place : Nat) (trace : Trace τ) : Bool :=
  !trace.isCut && s.pollerIs place Poller.cancelRequested

/-- Ends a coroutine. The cancellation that it was not told of is left to its task. -/
def endCoroutine (s : Session τ) (place : Nat) (trace : Trace τ) (task : Option String) :
    Session τ :=
  let left := s.changePoller place fun p => pure p.leave
  if s.leavesOwing place trace then left.owe task else left

def sayCancelled (s : Session τ) : Session τ :=
  s.emit [.of .info "poller" "DirectoryPoller cancelled"]

/-- Whether the coroutine at a place is told at its first wait that its task was cancelled
before. -/
def inherits (s : Session τ) (place : Nat) (task : Option String) : Bool :=
  s.owes task && !s.pollerIs place (·.stopPending)

def inherit (s : Session τ) (place : Nat) (task : Option String) : Trace τ × Session τ :=
  (({ isCut := true } : Trace τ).waited (s.spanUntil (s.nextStart place)),
    (s.settle task).sayCancelled)

/-- The token as a loop that was not entered leaves it. -/
def untouched (token : Token) (s : Session τ) (place : Nat) : Bool :=
  match token with
  | .external isSet => isSet
  | .own => s.pollerIs place (·.stopPending)

mutual

def perform : Step → Session τ → Outcome τ × Session τ
  | .run id token receiver ticks, s => s.forPoller id fun place p =>
    if p.isRunning then
      let s := s.changePoller place fun p => do
        p.reject
        pure p
      (.ok (({} : Trace τ).reply (some (untouched token s place)) s place), s)
    else
      let s := s.changePoller place (Poller.enterBlocking token)
      if s.cannotWait place then (.error .tooLarge, (s.endBlocking place).2)
      else
        let (trace, s) := loop place receiver ticks (s.nextStart place) s
        let (token, s) := s.endBlocking place
        (.ok (trace.reply (some token) s place), s)
  | .runCoroutine id cancelAtEnd receiver ticks task, s => s.forPoller id fun place p =>
    if p.isRunning then
      let s := s.changePoller place fun p => do
        p.reject
        pure p
      (.ok (({} : Trace τ).reply none s place), s)
    else
      let s := s.changePoller place Poller.enterCoroutine
      let (trace, s) :=
        if s.inherits place task then s.inherit place task
        else coroutine place cancelAtEnd receiver ticks (s.nextStart place) s
      let s := s.endCoroutine place trace task
      (.ok (trace.reply none s place), s)
  | .act action, s => s.act action
termination_by structural step => step

/-- Does steps one after the other. A step that fails does not keep the next ones from being
done. -/
def performAll : List Step → Session τ → List (Answer τ) × Session τ
  | [], s => ([], s)
  | step :: rest, s =>
    let (first, s) := answer s.recordCount (perform step s)
    let (others, s) := performAll rest s
    (first :: others, s)
termination_by structural steps => steps

/-- The blocking loop of the poller at a place, the next poll being due at a reading. -/
def loop (place : Nat) (receiver : Receiver) : List Tick → τ → Session τ → Trace τ × Session τ
  | [], next, s =>
    let span := s.spanUntil next
    if s.pollerIs place Poller.tokenIsSet then (({} : Trace τ).waited span, s)
    else
      let s := (s.pass span).changePoller place fun p => pure p.setToken
      (({} : Trace τ).waited span, s)
  | .mk steps seconds _ _ :: rest, next, s =>
    let span := s.spanUntil next
    if s.pollerIs place Poller.tokenIsSet then (({} : Trace τ).waited span, s)
    else
      let (answers, s) := performAll steps ((s.pass span).addDelay seconds)
      if s.pollerIs place Poller.tokenIsSet then
        ((({} : Trace τ).ticked answers).waited span, s)
      else
        let (next, events, s) := s.pollInLoop place receiver
        let (trace, s) := loop place receiver rest next s
        (((trace.delivered events).ticked answers).waited span, s)
termination_by structural ticks => ticks

/-- The coroutine of the poller at a place, the next poll being due at a reading. -/
def coroutine (place : Nat) (cancelAtEnd : Bool) (receiver : Receiver) :
    List Tick → τ → Session τ → Trace τ × Session τ
  | [], next, s =>
    if s.pollerIs place (·.stopPending) then ({}, s)
    else
      let span := s.spanUntil next
      let s := s.pass span
      let s := if cancelAtEnd then s.changePoller place fun p => pure p.requestCancel
        else s.changePoller place Poller.stop
      (({ isCut := true } : Trace τ).waited span, s.sayCancelled)
  | .mk steps seconds cancel late :: rest, next, s =>
    if s.pollerIs place (·.stopPending) then ({}, s)
    else
      let span := s.spanUntil next
      let (answers, s) := performAll steps ((s.pass span).addDelay seconds)
      let s := if cancel then s.changePoller place fun p => pure p.requestCancel else s
      let ended : Trace τ := (({} : Trace τ).ticked answers).waited span
      if !late && s.pollerIs place Poller.cancelRequested then
        ({ ended with isCut := true }, s.sayCancelled)
      else if s.pollerIs place (·.stopPending) then (ended, s)
      else
        let (next, events, s) := s.pollInLoop place receiver
        let (trace, s) := coroutine place cancelAtEnd receiver rest next s
        (((trace.delivered events).ticked answers).waited span, s)
termination_by structural ticks => ticks

end

end TreeWatch.Session
