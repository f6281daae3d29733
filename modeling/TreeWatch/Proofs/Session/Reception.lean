import Mathlib
import TreeWatch.Proofs.Session.Delivery
import TreeWatch.Proofs.Session.Listing

/-!
# What loops reply

A loop lists the events that it handed on. The loops in its ticks are those of other pollers, so
that among all that is handed in the meantime its own events can be told by their place. With this
it is settled who gets which changes.
-/

namespace TreeWatch.Session

variable {τ : Type} [Timeline τ]

/-! ## Events by the place of their loop -/

def handedAt (place : Nat) (ms : List (Move τ)) : List Event :=
  ms.filterMap fun
    | .hand i e => if i = place then some e else none
    | _ => none

omit [Timeline τ] in
theorem handedAt_append (place : Nat) (ms ns : List (Move τ)) :
    handedAt place (ms ++ ns) = handedAt place ms ++ handedAt place ns :=
  List.filterMap_append

omit [Timeline τ] in
theorem handedAt_flatMap_handMoves (place i : Nat) (receiver : Receiver) (es : List Event) :
    handedAt place (es.flatMap (handMoves i receiver) : List (Move τ)) =
      if i = place then es else [] := by
  induction es with
  | nil => simp [handedAt]
  | cons e rest ih =>
      rw [List.flatMap_cons, handedAt_append, ih]
      cases hfailure : receiver.failure? e <;>
        cases hstops : receiver.stopsOn.contains e.path <;>
          by_cases hi : i = place <;>
            simp [handMoves, handedAt, hfailure, hi]

omit [Timeline τ] in
theorem reads_handedAt (place : Nat) :
    Reads place (Trace.events (τ := τ)) fun
      | .hand i e => if i = place then some e else none
      | _ => none where
  empty := rfl
  cut _ := rfl
  waited _ _ := rfl
  ticked _ _ := rfl
  delivered t receiver es := by
    have h := handedAt_flatMap_handMoves (τ := τ) place place receiver es
    rw [if_pos rfl] at h
    exact (congrArg (· ++ t.events) h).symm
  polled _ := rfl
  entered _ := rfl
  left := rfl
  others m hm := by
    cases m <;> simp_all [Move.isOwn]

/-! ## Replies -/

/-- A blocking loop that is accepted and can wait replies with the events that it handed on, and
after it the poller is in no loop and has no stop pending. -/
theorem reply_of_run {s : Session τ} {id : String} {place : Nat} {p : Poller}
    (named : s.named? id = some (place, p)) (idle : p.isRunning = false) (token : Token)
    (waits : p.cannotBegin s.world token = false) (receiver : Receiver) (ticks : List Tick) :
    ∃ waits answers isSet, (perform (.run id token receiver ticks) s).1 =
      .ok (.loop waits (handedAt place (moves (.run id token receiver ticks) s)) answers false
        (some isSet) false) := by
  obtain ⟨trace, isSet, hlists⟩ := exists_lists_of_run named idle token receiver ticks waits
  refine ⟨trace.waits, trace.ticks, isSet, ?_⟩
  rw [hlists.reply, hlists.read (reads_handedAt place)]
  rfl

theorem reply_of_runCoroutine {s : Session τ} {id : String} {place : Nat} {p : Poller}
    (named : s.named? id = some (place, p)) (idle : p.isRunning = false) (cancelAtEnd : Bool)
    (receiver : Receiver) (ticks : List Tick) (task : Option String) :
    ∃ waits answers, (perform (.runCoroutine id cancelAtEnd receiver ticks task) s).1 =
      .ok (.loop waits (handedAt place (moves (.runCoroutine id cancelAtEnd receiver ticks task) s))
        answers false none false) := by
  obtain ⟨trace, hlists⟩ := exists_lists_of_runCoroutine named idle cancelAtEnd receiver ticks task
  refine ⟨trace.waits, trace.ticks, ?_⟩
  rw [hlists.reply, hlists.read (reads_handedAt place)]
  rfl

/-! ## Changes from where they are found to whom they go -/

/-- While steps are done in a session, no change that its pollers find is lost, repeated or given to
two. -/
structure Accounted (s : Session τ) (steps : List Step) : Prop where
  made : (performAll steps s).2 = s.makeAll (allMoves steps s)
  /-- From any moment to any later one the events of all polls of a poller can happen in their
  order, and they lead from the paths that it knew to those that it knows. -/
  leads : ∀ before between after, allMoves steps s = before ++ between ++ after →
    ∀ place p, (s.makeAll before).pollerAt? place = some p →
      ∃ q, (s.makeAll (before ++ between)).pollerAt? place = some q ∧
        replay? p.snapshot.pathSet (polled place (s.makeAll before) between) =
          some q.snapshot.pathSet
  /-- A poll of a loop is followed at once by the handing of all its events, whichever of them make
  the receiver fail or ask for a stop. -/
  handedAtOnce : ∀ before after place receiver,
    allMoves steps s = before ++ .poll place (some receiver) :: after →
      ∃ rest, after =
        ((s.makeAll before).pollAt place).1.flatMap (handMoves place receiver) ++ rest
  handedOnce : handed (allMoves steps s) =
    gathered (fun place _ es => es.map fun e => (place, e)) s (allMoves steps s)
  complainedOnce : complaints (allMoves steps s) =
    gathered (fun _ receiver es =>
      es.filterMap fun e => (receiver.failure? e).map (failureRecord e)) s (allMoves steps s)

/-- A step replies with the events that its own poll found or that its own loop handed on. A loop
whose interval no thread can wait for fails before it polls and hands nothing on. -/
structure Told (s : Session τ) (id : String) (place : Nat) (p : Poller) : Prop where
  poll : (perform (.act (.poll id)) s).1 =
    .ok (.events (polled place s (moves (.act (.poll id)) s)))
  run : p.isRunning = false → ∀ token, p.cannotBegin s.world token = false →
    ∀ receiver ticks, ∃ waits answers isSet,
      (perform (.run id token receiver ticks) s).1 =
        .ok (.loop waits (handedAt place (moves (.run id token receiver ticks) s)) answers false
          (some isSet) false)
  runTooLong : p.isRunning = false → ∀ token, p.cannotBegin s.world token = true →
    ∀ receiver ticks, (perform (.run id token receiver ticks) s).1 = .error .tooLarge ∧
      handedAt place (moves (.run id token receiver ticks) s) = []
  runCoroutine : p.isRunning = false → ∀ cancelAtEnd receiver ticks task, ∃ waits answers,
    (perform (.runCoroutine id cancelAtEnd receiver ticks task) s).1 =
      .ok (.loop waits (handedAt place (moves (.runCoroutine id cancelAtEnd receiver ticks task) s))
        answers false none false)

theorem told_of_named {s : Session τ} {id : String} {place : Nat} {p : Poller}
    (named : s.named? id = some (place, p)) : Told s id place p where
  poll := by
    have hmoves : moves (.act (.poll id)) s = [.poll place none] := by
      rw [moves, actMoves, named]
      rfl
    rw [perform, act, forPoller_of_some named, hmoves]
    simp [polled, found]
  run idle := reply_of_run named idle
  runTooLong idle token cannot receiver ticks := by
    obtain ⟨hfailed, hmoves⟩ := run_of_cannotBegin named idle cannot receiver ticks
    refine ⟨hfailed, ?_⟩
    rw [hmoves]
    rfl
  runCoroutine idle := reply_of_runCoroutine named idle

/-- Whatever is done in a session, and however loops are nested in it, each change is found once and
goes to the one who asked for the poll that found it. -/
theorem accounted_of_world (w : World) (steps : List Step) :
    Accounted (ofWorld w : Session τ) steps ∧
      ∀ (s : Session τ) id place p, s.named? id = some (place, p) → Told s id place p := by
  have hcourse := course_allMoves steps (ofWorld w : Session τ)
  refine ⟨⟨hcourse.makeAll_eq.symm, ?_, ?_, hcourse.handed_eq, hcourse.complaints_eq⟩,
    fun s id place p => told_of_named⟩
  · intro before between after hsplit place p hp
    have hfits := hcourse.fitsAll
    rw [hsplit, List.append_assoc, fitsAll_append, fitsAll_append] at hfits
    have hnodup : ∀ q ∈ ((ofWorld w : Session τ).makeAll before).pollers,
        q.snapshot.paths.Nodup := nodup_snapshot_makeAll hfits.1 (by simp [ofWorld])
    rw [makeAll_append]
    exact replay?_polled hfits.2.1 hnodup hp
  · intro before after place receiver hsplit
    have hfollowed := hcourse.followed
    rw [hsplit] at hfollowed
    exact hfollowed.exists_rest

/-- A world with a directory from which one file went and to which one came. -/
def changedWorld : World :=
  { root := .directory { name := "" } [
      .directory { name := "w" } [.file { name := "old" } 0 [], .file { name := "new" } 2 []]],
    nextSerial := 3 }

def stalePoller : Poller :=
  { spec := ⟨.absolute ["w"], {}, 1.0⟩,
    snapshot := [("gone", defaultTime), ("old", defaultTime)] }

def changedSession : Session Float :=
  { (ofWorld changedWorld : Session Float) with pollers := [stalePoller], names := [("p", 0)] }

/-- A loop in whose tick somebody else polls, and whose receiver asks for a stop and fails. -/
def contestedSteps : List Step := [
  .act (.create "p" ⟨.absolute ["w"], {}, .seconds 1.0⟩),
  .run "p" .own { stopsOn := ["old"], failsOn := [("old", "no")] } [
    .mk [.act (.edit (.remove ["w", "new"])), .act (.poll "p"),
      .act (.edit (.touch ["w", "old"] 5))] 0.0 false false]]

theorem accounted_changedWorld :
    Accounted (ofWorld changedWorld : Session Float) contestedSteps ∧
      changedSession.named? "p" = some (0, stalePoller) ∧
      (perform (.act (.poll "p")) changedSession).1 =
        .ok (.events [⟨.created, "new"⟩, ⟨.deleted, "gone"⟩]) := by
  have hnamed : changedSession.named? "p" = some (0, stalePoller) := rfl
  have hlook : stalePoller.spec.look? changedWorld =
      some [("new", defaultTime), ("old", defaultTime)] := by
    have hscope : stalePoller.spec.scope = {} := rfl
    have hroot : stalePoller.spec.root = .absolute ["w"] := rfl
    rw [Spec.look?, hscope, hroot]
    cbv
  have hfound : (changedSession.pollAt 0).1 =
      Snapshot.diff stalePoller.snapshot [("new", defaultTime), ("old", defaultTime)] := by
    rw [pollAt_of_some (p := stalePoller) rfl, Poller.outcome_poll_fst]
    exact congrArg (fun s => Snapshot.diff stalePoller.snapshot (s.getD [])) hlook
  have hpolled : polled 0 changedSession (moves (.act (.poll "p")) changedSession) =
      [⟨.created, "new"⟩, ⟨.deleted, "gone"⟩] := by
    rw [moves, actMoves, hnamed]
    change (changedSession.pollAt 0).1 ++ [] = _
    rw [hfound]
    decide
  have haccounted := @accounted_of_world Float _ changedWorld contestedSteps
  refine ⟨haccounted.1, hnamed, ?_⟩
  rw [(haccounted.2 changedSession "p" 0 stalePoller hnamed).poll, hpolled]

end TreeWatch.Session
