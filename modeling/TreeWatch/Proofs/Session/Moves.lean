import TreeWatch.Proofs.Session.Frame

/-!
# A session move by move

Everything that a session does as one line of moves: loops within the ticks of loops are flattened
into the order in which things happen. What is proved of any line of moves holds at every moment of
every session, however deep its loops are nested.
-/

namespace TreeWatch

/-- A single thing that happens in a session. Pollers go by their places. -/
inductive Move (τ : Type) where
  | act (action : Action)
  /-- A poll, on demand or by the loop that hands its events to a receiver. -/
  | poll (place : Nat) (receiver? : Option Receiver)
  | hand (place : Nat) (e : Event)
  | fail (e : Event) (text : String)
  | stop (place : Nat)
  /-- A loop begins: one that blocks on a token, or a coroutine. -/
  | enter (place : Nat) (token? : Option Token)
  | reject (place : Nat)
  | ask (place : Nat) (span : τ)
  | pass (span : τ)
  | slow (seconds : Float)
  | setToken (place : Nat)
  | cancel (place : Nat)
  | sayCancelled
  /-- It is noted of which tasks a cancellation is still to come. -/
  | owe (tasks : List String)
  | leave (place : Nat)
  | sayStopped (place : Nat)

def Receiver.failure? (receiver : Receiver) (e : Event) : Option String :=
  (receiver.failsOn.find? (·.1 = e.path)).map (·.2)

def failureRecord (e : Event) (text : String) : Log.Record :=
  .of .error "poller" ("Error in change callback for " ++ e.path ++ ": " ++ text)

namespace Session

open Log

variable {τ : Type} [Timeline τ]

def make (s : Session τ) : Move τ → Session τ
  | .act action => (s.act action).2
  | .poll place _ => (s.pollAt place).2
  | .hand _ _ => s
  | .fail e text => s.emit [failureRecord e text]
  | .stop place => s.changePoller place Poller.stop
  | .enter place (some token) => s.changePoller place (Poller.enterBlocking token)
  | .enter place none => s.changePoller place Poller.enterCoroutine
  | .reject place => s.changePoller place fun p => do
    p.reject
    pure p
  | .ask _ _ => s
  | .pass span => s.pass span
  | .slow seconds => s.addDelay seconds
  | .setToken place => s.changePoller place fun p => pure p.setToken
  | .cancel place => s.changePoller place fun p => pure p.requestCancel
  | .sayCancelled => s.sayCancelled
  | .owe tasks => { s with cancelled := tasks }
  | .leave place => s.changePoller place fun p => pure p.leave
  | .sayStopped place => s.changePoller place fun p => do
    p.sayStopped
    pure p

def makeAll (s : Session τ) (ms : List (Move τ)) : Session τ :=
  ms.foldl make s

@[simp] theorem makeAll_nil (s : Session τ) : s.makeAll [] = s := rfl

@[simp] theorem makeAll_cons (s : Session τ) (m : Move τ) (ms : List (Move τ)) :
    s.makeAll (m :: ms) = (s.make m).makeAll ms := rfl

@[simp] theorem makeAll_append (s : Session τ) (ms ns : List (Move τ)) :
    s.makeAll (ms ++ ns) = (s.makeAll ms).makeAll ns :=
  List.foldl_append

/-! ## The moves of steps -/

def named? (s : Session τ) (id : String) : Option (Nat × Poller) :=
  (s.place? id).bind fun place => (s.pollerAt? place).map fun p => (place, p)

def actMoves (s : Session τ) : Action → List (Move τ)
  | .poll id => ((s.named? id).map fun (place, _) => .poll place none).toList
  | .stop id => ((s.named? id).map fun (place, _) => .stop place).toList
  | action => [.act action]

/-- How the receiver of a loop gets an event: it may ask for a stop, and it may fail. -/
def handMoves (place : Nat) (receiver : Receiver) (e : Event) : List (Move τ) :=
  .hand place e ::
    ((if receiver.stopsOn.contains e.path then [.stop place] else []) ++
      ((receiver.failure? e).map (Move.fail e)).toList)

def pollMoves (s : Session τ) (place : Nat) (receiver : Receiver) : List (Move τ) :=
  .poll place (some receiver) :: (s.pollAt place).1.flatMap (handMoves place receiver)

/-- How a coroutine ends whose task was cancelled before. -/
def inheritMoves (s : Session τ) (place : Nat) (task : Option String) : List (Move τ) :=
  [.ask place (s.spanUntil (s.nextStart place)), .owe (s.settle task).cancelled, .sayCancelled]

/-- What becomes of the cancellation that a coroutine was not told of. -/
def oweMoves (s : Session τ) (place : Nat) (trace : Trace τ) (task : Option String) :
    List (Move τ) :=
  if s.leavesOwing place trace then [.owe (s.owe task).cancelled] else []

mutual

/-- What a step does move by move. -/
def moves : Step → Session τ → List (Move τ)
  | .act action, s => s.actMoves action
  | .run id token receiver ticks, s =>
    match s.named? id with
    | none => []
    | some (place, p) =>
      if p.isRunning then [.reject place]
      else
        let entered := s.make (.enter place (some token))
        .enter place (some token) ::
          ((if entered.cannotWait place then []
            else loopMoves place receiver ticks (entered.nextStart place) entered) ++
            [.leave place, .sayStopped place])
  | .runCoroutine id cancelAtEnd receiver ticks task, s =>
    match s.named? id with
    | none => []
    | some (place, p) =>
      if p.isRunning then [.reject place]
      else
        let entered := s.make (.enter place none)
        if entered.inherits place task then
          .enter place none :: (entered.inheritMoves place task ++ [.leave place])
        else
          let next := entered.nextStart place
          let (trace, t) := coroutine place cancelAtEnd receiver ticks next entered
          .enter place none :: (coroutineMoves place cancelAtEnd receiver ticks next entered ++
            .leave place :: t.oweMoves place trace task)
termination_by structural step => step

def allMoves : List Step → Session τ → List (Move τ)
  | [], _ => []
  | step :: rest, s => moves step s ++ allMoves rest (perform step s).2
termination_by structural steps => steps

def loopMoves (place : Nat) (receiver : Receiver) : List Tick → τ → Session τ → List (Move τ)
  | [], next, s =>
    .ask place (s.spanUntil next) ::
      if s.pollerIs place Poller.tokenIsSet then []
      else [.pass (s.spanUntil next), .setToken place]
  | .mk steps seconds _ _ :: rest, next, s =>
    .ask place (s.spanUntil next) ::
      if s.pollerIs place Poller.tokenIsSet then []
      else
        let waiting := (s.pass (s.spanUntil next)).addDelay seconds
        let waited := (performAll steps waiting).2
        .pass (s.spanUntil next) :: .slow seconds :: (allMoves steps waiting ++
          if waited.pollerIs place Poller.tokenIsSet then []
          else
            let (next, _, polled) := waited.pollInLoop place receiver
            waited.pollMoves place receiver ++ loopMoves place receiver rest next polled)
termination_by structural ticks => ticks

def coroutineMoves (place : Nat) (cancelAtEnd : Bool) (receiver : Receiver) :
    List Tick → τ → Session τ → List (Move τ)
  | [], next, s =>
    if s.pollerIs place (·.stopPending) then []
    else
      [.ask place (s.spanUntil next), .pass (s.spanUntil next),
        if cancelAtEnd then .cancel place else .stop place, .sayCancelled]
  | .mk steps seconds cancel late :: rest, next, s =>
    if s.pollerIs place (·.stopPending) then []
    else
      let waiting := (s.pass (s.spanUntil next)).addDelay seconds
      let ticked := (performAll steps waiting).2
      let waited := if cancel then ticked.make (.cancel place) else ticked
      .ask place (s.spanUntil next) :: .pass (s.spanUntil next) :: .slow seconds ::
        (allMoves steps waiting ++ ((if cancel then [.cancel place] else []) ++
          if !late && waited.pollerIs place Poller.cancelRequested then [.sayCancelled]
          else if waited.pollerIs place (·.stopPending) then []
          else
            let (next, _, polled) := waited.pollInLoop place receiver
            waited.pollMoves place receiver ++
              coroutineMoves place cancelAtEnd receiver rest next polled))
termination_by structural ticks => ticks

end

/-! ## Parts of loops as moves -/

omit [Timeline τ] in
theorem forPoller_of_none {s : Session τ} {id : String} (h : s.named? id = none)
    (work : Nat → Poller → Outcome τ × Session τ) :
    s.forPoller id work = (.error .unknownName, s) := by
  cases hplace : s.place? id with
  | none => simp [forPoller, hplace]
  | some place =>
      cases hpoller : s.pollerAt? place with
      | none => simp [forPoller, hplace, hpoller]
      | some p => simp [named?, hplace, hpoller] at h

omit [Timeline τ] in
theorem pollerAt?_of_named? {s : Session τ} {id : String} {place : Nat} {p : Poller}
    (h : s.named? id = some (place, p)) : s.pollerAt? place = some p := by
  obtain ⟨i, _, hi⟩ := Option.bind_eq_some_iff.mp h
  obtain ⟨q, hq, heq⟩ := Option.map_eq_some_iff.mp hi
  obtain ⟨rfl, rfl⟩ := Prod.mk.inj heq
  exact hq

omit [Timeline τ] in
theorem forPoller_of_some {s : Session τ} {id : String} {place : Nat} {p : Poller}
    (h : s.named? id = some (place, p)) (work : Nat → Poller → Outcome τ × Session τ) :
    s.forPoller id work = work place p := by
  obtain ⟨i, hi, hmap⟩ := Option.bind_eq_some_iff.mp h
  obtain ⟨q, hq, heq⟩ := Option.map_eq_some_iff.mp hmap
  obtain ⟨rfl, rfl⟩ := Prod.mk.inj heq
  simp [forPoller, hi, hq]

theorem makeAll_handMoves (s : Session τ) (place : Nat) (receiver : Receiver) (e : Event) :
    s.makeAll (handMoves place receiver e) = s.deliver place receiver e := by
  unfold handMoves deliver Receiver.failure?
  rw [makeAll_cons, makeAll_append]
  cases receiver.failsOn.find? (·.1 = e.path) with
  | none => split <;> rfl
  | some entry => split <;> rfl

/-- Handing the events of a poll one after the other is what a loop does with them. -/
theorem makeAll_pollMoves (s : Session τ) (place : Nat) (receiver : Receiver) :
    s.makeAll (s.pollMoves place receiver) = (s.pollInLoop place receiver).2.2 := by
  have hdispatch : ∀ (es : List Event) (t : Session τ),
      t.makeAll (es.flatMap (handMoves place receiver)) = t.dispatch place receiver es := by
    intro es
    induction es with
    | nil => exact fun _ => rfl
    | cons e rest ih =>
        intro t
        rw [List.flatMap_cons, makeAll_append, makeAll_handMoves, ih]
        rfl
  exact hdispatch _ _

theorem endBlocking_snd (s : Session τ) (place : Nat) :
    (s.endBlocking place).2 = s.makeAll [.leave place, .sayStopped place] := rfl

omit [Timeline τ] in
theorem mem_oweMoves {s : Session τ} {place : Nat} {trace : Trace τ} {task : Option String}
    {m : Move τ} (hm : m ∈ s.oweMoves place trace task) : m = .owe (s.owe task).cancelled := by
  unfold oweMoves at hm
  split at hm
  · exact List.mem_singleton.mp hm
  · simp at hm

/-- A coroutine that is told of its cancellation leaves none to its task. -/
theorem endCoroutine_inherit (s : Session τ) (place : Nat) (task : Option String) :
    (s.inherit place task).2.endCoroutine place (s.inherit place task).1 task =
      (s.inherit place task).2.make (.leave place) := rfl

theorem endCoroutine_eq (s : Session τ) (place : Nat) (trace : Trace τ) (task : Option String) :
    s.endCoroutine place trace task =
      (s.make (.leave place)).makeAll (s.oweMoves place trace task) := by
  have hcancelled := cancelled_changePoller s place fun p => pure p.leave
  unfold endCoroutine oweMoves
  split
  · simp only [owe, hcancelled]
    rfl
  · rfl

/-! ## Loops that are accepted -/

section Accepted

variable {s : Session τ} {id : String} {place : Nat} {p : Poller}

theorem moves_run (named : s.named? id = some (place, p)) (idle : p.isRunning = false)
    (token : Token) (receiver : Receiver) (ticks : List Tick) :
    moves (.run id token receiver ticks) s =
      let entered := s.make (.enter place (some token))
      .enter place (some token) ::
        ((if entered.cannotWait place then []
          else loopMoves place receiver ticks (entered.nextStart place) entered) ++
          [.leave place, .sayStopped place]) := by
  simp [moves, named, idle]

theorem moves_runCoroutine (named : s.named? id = some (place, p)) (idle : p.isRunning = false)
    (cancelAtEnd : Bool) (receiver : Receiver) (ticks : List Tick) (task : Option String) :
    moves (.runCoroutine id cancelAtEnd receiver ticks task) s =
      let entered := s.make (.enter place none)
      if entered.inherits place task then
        .enter place none :: (entered.inheritMoves place task ++ [.leave place])
      else
        let next := entered.nextStart place
        let (trace, t) := coroutine place cancelAtEnd receiver ticks next entered
        .enter place none :: (coroutineMoves place cancelAtEnd receiver ticks next entered ++
          .leave place :: t.oweMoves place trace task) := by
  simp [moves, named, idle]

theorem perform_run (named : s.named? id = some (place, p)) (idle : p.isRunning = false)
    (token : Token) (receiver : Receiver) (ticks : List Tick) :
    perform (.run id token receiver ticks) s =
      let entered := s.make (.enter place (some token))
      if entered.cannotWait place then (.error .tooLarge, (entered.endBlocking place).2)
      else
        let (trace, t) := loop place receiver ticks (entered.nextStart place) entered
        let (isSet, u) := t.endBlocking place
        (.ok (trace.reply (some isSet) u place), u) := by
  rw [perform, forPoller_of_some named, if_neg (by simp [idle])]
  rfl

theorem perform_runCoroutine (named : s.named? id = some (place, p)) (idle : p.isRunning = false)
    (cancelAtEnd : Bool) (receiver : Receiver) (ticks : List Tick) (task : Option String) :
    perform (.runCoroutine id cancelAtEnd receiver ticks task) s =
      let entered := s.make (.enter place none)
      let (trace, t) :=
        if entered.inherits place task then entered.inherit place task
        else coroutine place cancelAtEnd receiver ticks (entered.nextStart place) entered
      let u := t.endCoroutine place trace task
      (.ok (trace.reply none u place), u) := by
  rw [perform, forPoller_of_some named, if_neg (by simp [idle])]
  rfl

end Accepted

/-! ## Loops that are over -/

theorem pollerAt?_endBlocking_eq (s : Session τ) (i place : Nat) :
    (s.endBlocking i).2.pollerAt? place =
      if i = place then (s.pollerAt? place).map Poller.leave else s.pollerAt? place := by
  rw [endBlocking_snd]
  simp only [makeAll_cons, makeAll_nil, make, pollerAt?_changePoller]
  by_cases h : i = place
  · rw [if_pos h, if_pos h, if_pos h, Option.map_map]
    rfl
  · rw [if_neg h, if_neg h, if_neg h]

theorem pollerAt?_endBlocking {s : Session τ} {place : Nat} {p : Poller}
    (h : s.pollerAt? place = some p) :
    (s.endBlocking place).2.pollerAt? place = some p.leave := by
  rw [pollerAt?_endBlocking_eq, if_pos rfl, h]
  rfl

omit [Timeline τ] in
theorem names_endBlocking (s : Session τ) (place : Nat) :
    (s.endBlocking place).2.names = s.names :=
  (names_changePoller _ place _).trans (names_changePoller s place _)

omit [Timeline τ] in
theorem host_endBlocking (s : Session τ) (place : Nat) :
    (s.endBlocking place).2.world.host = s.world.host :=
  (host_changePoller _ place _).trans (host_changePoller s place _)

omit [Timeline τ] in
theorem pollerAt?_endCoroutine {s : Session τ} {place : Nat} {p : Poller}
    (h : s.pollerAt? place = some p) (trace : Trace τ) (task : Option String) :
    (s.endCoroutine place trace task).pollerAt? place = some p.leave := by
  have hleft := pollerAt?_changePoller_self h fun p => pure p.leave
  unfold endCoroutine
  split <;> exact hleft

omit [Timeline τ] in
theorem reply_of_left {trace : Trace τ} {token? : Option Bool} {s : Session τ} {place : Nat}
    {p : Poller} (h : s.pollerAt? place = some p.leave) :
    trace.reply token? s place = .loop trace.waits trace.events trace.ticks false token? false := by
  rw [Trace.reply, pollerIs_of_some h, pollerIs_of_some h]
  rfl

end Session

end TreeWatch
