import TreeWatch.Proofs.Session.Likeness
import TreeWatch.Proofs.Session.Stopping

/-!
# One loop in two forms

A blocking loop with its own token and a coroutine look at the request to stop at different points
and end in different ways. All the same they are one loop: in sessions that are alike they poll at
the same times, hand on the same events and leave sessions that are alike again. What they say
differs, but as long as they poll they say as much, so that even the files of their logs may be
watched.
-/

namespace TreeWatch

/-- A step that is an action of watching. -/
def Step.isWatching : Step → Bool
  | .act a => a.isWatching
  | _ => false

/-- A tick with steps of watching alone, in which nobody cancels the coroutine. -/
def Tick.isWatching : Tick → Bool
  | .mk steps _ cancel _ => !cancel && steps.all Step.isWatching

namespace Session.Alike

open Log

variable {τ : Type} [Timeline τ] {e : Erasure} {serials : List Nat} {place : Nat} {s t : Session τ}

/-! ## Parts of loops in sessions that are alike -/

theorem spanUntil (h : Alike e serials place s t) (next : τ) :
    s.spanUntil next = t.spanUntil next := by
  rw [Session.spanUntil, Session.spanUntil, h.clock]

theorem pass (h : Alike e serials place s t) (span : τ) :
    Alike e serials place (s.pass span) (t.pass span) :=
  { h with clock := congrArg (Timeline.after · span) h.clock }

theorem addDelay (h : Alike e serials place s t) (seconds : Float) :
    Alike e serials place (s.addDelay seconds) (t.addDelay seconds) :=
  { h with delay := congrArg (Timeline.after · (Timeline.ofSeconds seconds)) h.delay }

omit [Timeline τ] in
theorem stopPending (h : Alike e serials place s t) (i : Nat) :
    s.pollerIs i (·.stopPending) = t.pollerIs i (·.stopPending) := by
  rcases h.pollerAt? i with ⟨hp, hq⟩ | ⟨p, q, hp, hq, hsame⟩
  · simp [pollerIs, hp, hq]
  · rw [pollerIs_of_some hp, pollerIs_of_some hq, (Poller.eq_of_seenAt_eq hsame).2.2.2.1]

theorem nextStart (h : Alike e serials place s t) (i : Nat) : s.nextStart i = t.nextStart i := by
  unfold Session.nextStart
  rcases h.pollerAt? i with ⟨hp, hq⟩ | ⟨p, q, hp, hq, hsame⟩
  · simp only [hp, hq, h.clock]
  · simp only [hp, hq, h.clock, (Poller.eq_of_seenAt_eq hsame).1]

theorem performAll (h : Alike .content serials place s t) {steps : List Step}
    (watching : steps.all Step.isWatching = true) :
    (performAll steps s).1 = (performAll steps t).1 ∧
      Alike .content serials place (performAll steps s).2 (performAll steps t).2 := by
  induction steps generalizing s t with
  | nil => exact ⟨rfl, h⟩
  | cons step rest ih =>
      rw [List.all_cons, Bool.and_eq_true] at watching
      cases step with
      | act a =>
          have hagree := h.act watching.1
          obtain ⟨hanswers, halike⟩ := ih hagree.alike watching.2
          refine ⟨?_, halike⟩
          rw [Session.performAll, Session.performAll]
          dsimp only [answer, perform]
          rw [hagree.outcome, hagree.records, hanswers]
      | run => exact absurd watching.1 (by simp [Step.isWatching])
      | runCoroutine => exact absurd watching.1 (by simp [Step.isWatching])

omit [Timeline τ] in
theorem deliver (h : Alike .content serials place s t) (i : Nat) (receiver : Receiver) (e : Event) :
    Alike .content serials place (s.deliver i receiver e) (t.deliver i receiver e) := by
  have hstopped : Alike .content serials place
      (if receiver.stopsOn.contains e.path then s.changePoller i Poller.stop else s)
      (if receiver.stopsOn.contains e.path then t.changePoller i Poller.stop else t) := by
    split
    · exact (h.changePoller i fun _ _ => Poller.stop_congr).1
    · exact h
  unfold Session.deliver
  dsimp only
  cases receiver.failsOn.find? (·.1 = e.path) with
  | none => exact hstopped
  | some entry => exact (hstopped.emit _).1

omit [Timeline τ] in
theorem dispatch (h : Alike .content serials place s t) (i : Nat) (receiver : Receiver)
    (es : List Event) :
    Alike .content serials place (s.dispatch i receiver es) (t.dispatch i receiver es) := by
  induction es generalizing s t with
  | nil => exact h
  | cons e rest ih => exact ih (h.deliver i receiver e)

theorem pollInLoop (h : Alike .content serials place s t) (i : Nat) (receiver : Receiver) :
    (s.pollInLoop i receiver).1 = (t.pollInLoop i receiver).1 ∧
      (s.pollInLoop i receiver).2.1 = (t.pollInLoop i receiver).2.1 ∧
      Alike .content serials place (s.pollInLoop i receiver).2.2 (t.pollInLoop i receiver).2.2 := by
  obtain ⟨hevents, halike, _⟩ := h.pollAt i
  refine ⟨h.nextStart i, hevents, ?_⟩
  unfold Session.pollInLoop
  dsimp only
  rw [hevents]
  exact halike.dispatch i receiver _

end Session.Alike

namespace Session

open Log

variable {τ : Type} [Timeline τ] {serials : List Nat} {place : Nat}

/-! ## What watching leaves of loops -/

/-- In the steps of watching nobody cancels a coroutine. -/
theorem cancel_not_mem_allMoves {steps : List Step} (watching : steps.all Step.isWatching = true)
    (s : Session τ) : ∀ m ∈ allMoves steps s, m ≠ .cancel place := by
  induction steps generalizing s with
  | nil => simp [allMoves]
  | cons step rest ih =>
      rw [List.all_cons, Bool.and_eq_true] at watching
      rw [allMoves]
      intro m hm
      rcases List.mem_append.mp hm with hm | hm
      · cases step with
        | act a =>
            rw [moves] at hm
            cases a
            case poll id | stop id =>
              obtain ⟨named, _, rfl⟩ := Option.map_eq_some_iff.mp (Option.mem_toList.mp hm)
              simp
            all_goals
              obtain rfl := List.mem_singleton.mp hm
              simp
        | run => exact absurd watching.1 (by simp [Step.isWatching])
        | runCoroutine => exact absurd watching.1 (by simp [Step.isWatching])
      · exact ih watching.2 _ m hm

omit [Timeline τ] in
theorem tokenIsSet_of_own {s : Session τ} (active : s.kindAt? place = some (.blocking .own)) :
    s.pollerIs place Poller.tokenIsSet = s.pollerIs place (·.stopPending) := by
  obtain ⟨p, hp, hk⟩ := kindAt?_eq_some_iff.mp active
  rw [pollerIs_of_some hp, pollerIs_of_some hp, Poller.tokenIsSet, Poller.loop_eq_own hk]

/-! ## The two loops side by side -/

/-- The sessions are alike, one in the blocking loop of a poller with its own token and the other in
its coroutine, which nobody has cancelled but by a request to stop. -/
structure InStep (serials : List Nat) (place : Nat) (s t : Session τ) : Prop where
  alike : Alike .content serials place s t
  blocking : s.kindAt? place = some (.blocking .own)
  coroutine : t.kindAt? place = some (.coroutine false)
  owed : ∀ q, t.pollerAt? place = some q → q.cancelRequested = true → q.stopPending = true

namespace InStep

variable {s t : Session τ}

theorem pass (h : InStep serials place s t) (span : τ) :
    InStep serials place (s.pass span) (t.pass span) :=
  ⟨h.alike.pass span, h.blocking, h.coroutine, h.owed⟩

theorem addDelay (h : InStep serials place s t) (seconds : Float) :
    InStep serials place (s.addDelay seconds) (t.addDelay seconds) :=
  ⟨h.alike.addDelay seconds, h.blocking, h.coroutine, h.owed⟩

/-- As long as nobody cancels the coroutine, only a stop can make it end. -/
theorem owed_makeAll (h : InStep serials place s t) {ms : List (Move τ)} (fits : t.FitsAll ms)
    (notCancelled : ∀ m ∈ ms, m ≠ .cancel place) : ∀ q, (t.makeAll ms).pollerAt? place = some q →
      q.cancelRequested = true → q.stopPending = true := by
  intro q hq
  obtain ⟨q₀, hq₀, _⟩ := kindAt?_eq_some_iff.mp h.coroutine
  obtain ⟨q', hq', howed⟩ := cancelRequested_makeAll fits hq₀ (h.owed q₀ hq₀) notCancelled
  obtain rfl : q' = q := Option.some.inj (hq'.symm.trans hq)
  exact howed

theorem performAll (h : InStep serials place s t) {steps : List Step}
    (watching : steps.all Step.isWatching = true) :
    InStep serials place (performAll steps s).2 (performAll steps t).2 := by
  have hs := course_allMoves steps s
  have ht := course_allMoves steps t
  refine ⟨(h.alike.performAll watching).2, hs.kindAt?_eq h.blocking (by simp),
    ht.kindAt?_eq h.coroutine (by simp), ?_⟩
  rw [← ht.makeAll_eq]
  exact h.owed_makeAll ht.fitsAll (cancel_not_mem_allMoves watching t)

theorem pollInLoop (h : InStep serials place s t) (calm : s.pollerIs place (·.stopPending) = false)
    (receiver : Receiver) :
    InStep serials place (s.pollInLoop place receiver).2.2 (t.pollInLoop place receiver).2.2 := by
  have hs : s.Fits (.poll place (some receiver)) :=
    fits_poll_of_blocking h.blocking (by rw [tokenIsSet_of_own h.blocking, calm])
  have ht : t.Fits (.poll place (some receiver)) :=
    fits_poll_of_coroutine h.coroutine (by rw [← h.alike.stopPending, calm])
  have hblocking := kindAt?_pollMoves hs h.blocking (by simp)
  have hcoroutine := kindAt?_pollMoves ht h.coroutine (by simp)
  have hnotCancelled : ∀ m ∈ t.pollMoves place receiver, m ≠ .cancel place := by
    intro m hm
    obtain rfl | ⟨e, rfl⟩ | rfl | ⟨e, text, rfl⟩ := mem_pollMoves hm <;> simp
  have howed := h.owed_makeAll (fitsAll_pollMoves ht) hnotCancelled
  rw [makeAll_pollMoves] at hblocking hcoroutine howed
  exact ⟨(h.alike.pollInLoop place receiver).2.2, hblocking, hcoroutine, howed⟩

omit [Timeline τ] in
theorem stopPending_of_cancelRequested (h : InStep serials place s t)
    (requested : t.pollerIs place Poller.cancelRequested = true) :
    s.pollerIs place (·.stopPending) = true := by
  obtain ⟨q, hq, hrequested⟩ := pollerIs_eq_true_iff.mp requested
  rw [h.alike.stopPending]
  exact pollerIs_eq_true_iff.mpr ⟨q, hq, h.owed q hq hrequested⟩

omit [Timeline τ] in
theorem pollers (h : InStep serials place s t) : ∃ p q requested, s.pollerAt? place = some p ∧
    t.pollerAt? place = some q ∧ p.loop = .blocking .own ∧ q.loop = .coroutine requested ∧
      q = { p with loop := .coroutine requested } := by
  obtain ⟨p, hp, hpk⟩ := kindAt?_eq_some_iff.mp h.blocking
  obtain ⟨q, hq, hqk⟩ := kindAt?_eq_some_iff.mp h.coroutine
  obtain ⟨requested, hrequested⟩ := Poller.exists_loop_eq_coroutine hqk
  obtain ⟨hspec, hsnapshot, hmissing, hpending, _⟩ :=
    Poller.eq_of_seenAt_eq (h.alike.seenAt_eq hp hq)
  refine ⟨p, q, requested, hp, hq, Poller.loop_eq_own hpk, hrequested, ?_⟩
  cases q
  simp_all

/-- A stop that the receiver asks for is pending after the poll. -/
theorem stopPending_pollInLoop (h : InStep serials place s t)
    (calm : s.pollerIs place (·.stopPending) = false) (receiver : Receiver) :
    (s.pollInLoop place receiver).2.2.pollerIs place (·.stopPending) =
      (s.pollInLoop place receiver).2.1.any (receiver.stopsOn.contains ·.path) := by
  obtain ⟨p, hp, _⟩ := kindAt?_eq_some_iff.mp h.blocking
  have hcalm : p.stopPending = false := (pollerIs_of_some hp _).symm.trans calm
  rw [pollerIs_of_some (pollerAt?_pollInLoop hp receiver), Poller.outcome_poll_snd]
  cases (s.pollInLoop place receiver).2.1.any (receiver.stopsOn.contains ·.path) with
  | true => rw [if_pos rfl, Poller.outcome_stop]
  | false => exact hcalm

omit [Timeline τ] in
theorem ended (h : InStep serials place s t) :
    Alike .contentAndTime serials place (s.changePoller place fun p => pure p.setToken)
      (t.changePoller place Poller.stop).sayCancelled := by
  obtain ⟨p, q, requested, hp, hq, hploop, hqloop, rfl⟩ := h.pollers
  have hseen : p.setToken.seenAt place place =
      (Poller.stop { p with loop := .coroutine requested }).outcome.seenAt place place := by
    refine Poller.seenAt_eq_of_veil_eq ?_
    rw [Poller.setToken, hploop, Poller.outcome_stop]
    rfl
  rw [changePoller_of_some hp, changePoller_of_some hq]
  have hsaid := h.alike.emit_aside [] (Poller.stop { p with loop := .coroutine requested }).records
    (by simp [Poller.stop, Poller.say, Reported.say, Record.of])
  exact (hsaid.setPoller hp hq hseen).emit_aside [] _ (by simp [Record.of])

end InStep

/-- The blocking loop waited as the coroutine did, and once more at the end if a stop was pending
already when that wait began. -/
def Waited (pending : Bool) (waits waits' : List τ) : Prop :=
  if pending then ∃ span, waits = waits' ++ [span] else waits = waits'

omit [Timeline τ] in
theorem Waited.cons {pending : Bool} {waits waits' : List τ} (h : Waited pending waits waits')
    (span : τ) : Waited pending (span :: waits) (span :: waits') := by
  cases pending with
  | true =>
      obtain ⟨last, rfl⟩ := h
      exact ⟨last, rfl⟩
  | false => exact congrArg (span :: ·) h

/-- What the two loops did is the same but for a last wait, and they leave sessions that are
alike. -/
structure Matching (serials : List Nat) (place : Nat) (receiver : Receiver) (pending : Bool)
    (x y : Trace τ × Session τ) : Prop where
  events : x.1.events = y.1.events
  ticks : x.1.ticks = y.1.ticks
  waits : Waited (pending || x.1.events.any (receiver.stopsOn.contains ·.path))
    x.1.waits y.1.waits
  alike : Alike .contentAndTime serials place x.2 y.2

theorem matching_of_pending {s t : Session τ} (h : InStep serials place s t) (receiver : Receiver)
    (ticks : List Tick) (next : τ) (pending : s.pollerIs place (·.stopPending) = true) :
    Matching serials place receiver true (loop place receiver ticks next s)
      (coroutine place false receiver ticks next t) := by
  have hset : s.pollerIs place Poller.tokenIsSet = true := by
    rw [tokenIsSet_of_own h.blocking, pending]
  have hpending : t.pollerIs place (·.stopPending) = true := by
    rw [← h.alike.stopPending, pending]
  rw [loop_of_set hset, coroutine_of_pending hpending]
  exact ⟨rfl, rfl, ⟨_, rfl⟩, h.alike.relax⟩

/-- The blocking loop and the coroutine do the same. -/
theorem matching_loops (receiver : Receiver) {ticks : List Tick}
    (watching : ticks.all Tick.isWatching = true) (next : τ) {s t : Session τ}
    (h : InStep serials place s t) :
    Matching serials place receiver (s.pollerIs place (·.stopPending))
      (loop place receiver ticks next s) (coroutine place false receiver ticks next t) := by
  induction ticks generalizing next s t with
  | nil =>
      cases hpending : s.pollerIs place (·.stopPending) with
      | true => exact matching_of_pending h receiver [] next hpending
      | false =>
          rw [loop, coroutine, tokenIsSet_of_own h.blocking, ← h.alike.stopPending, hpending]
          dsimp only
          rw [if_neg (by simp), if_neg (by simp), h.alike.spanUntil]
          exact ⟨rfl, rfl, rfl, (h.pass _).ended⟩
  | cons tick rest ih =>
      obtain ⟨steps, seconds, cancel, late⟩ := tick
      rw [List.all_cons, Bool.and_eq_true, Tick.isWatching, Bool.and_eq_true] at watching
      obtain ⟨⟨hnotCancelled, hsteps⟩, hrest⟩ := watching
      obtain rfl : cancel = false := by simpa using hnotCancelled
      cases hpending : s.pollerIs place (·.stopPending) with
      | true => exact matching_of_pending h receiver _ next hpending
      | false =>
          have hticked := ((h.pass (s.spanUntil next)).addDelay seconds).performAll hsteps
          have hanswers :=
            (((h.alike.pass (s.spanUntil next)).addDelay seconds).performAll hsteps).1
          rw [loop, coroutine, tokenIsSet_of_own h.blocking, ← h.alike.stopPending, hpending,
            ← h.alike.spanUntil]
          simp only [Bool.false_eq_true, if_false]
          -- From here on the two only have to agree on what the steps of the tick lead to.
          generalize s.spanUntil next = span at hticked hanswers ⊢
          generalize performAll steps ((s.pass span).addDelay seconds) = x at hticked hanswers ⊢
          generalize performAll steps ((t.pass span).addDelay seconds) = y at hticked hanswers ⊢
          rw [← hanswers, tokenIsSet_of_own hticked.blocking, ← hticked.alike.stopPending]
          cases hcalm : x.2.pollerIs place (·.stopPending) with
          | true =>
              rw [if_pos rfl, if_pos rfl]
              -- The coroutine may be cancelled in its wait or see the stop after it.
              have hcancelled : Alike .contentAndTime serials place x.2 y.2.sayCancelled :=
                hticked.alike.emit_aside [] _ (by simp [Record.of])
              split
              · exact ⟨rfl, rfl, rfl, hcancelled⟩
              · exact ⟨rfl, rfl, rfl, hticked.alike.relax⟩
          | false =>
              -- Nobody cancels it but a stop, so that without one it polls like the other.
              have hnotRequested : y.2.pollerIs place Poller.cancelRequested = false := by
                by_contra hrequested
                have := hticked.stopPending_of_cancelRequested (by simpa using hrequested)
                rw [hcalm] at this
                exact Bool.noConfusion this
              rw [hnotRequested, if_neg (by simp), if_neg (by simp), if_neg (by simp)]
              obtain ⟨hnext, hevents, _⟩ := hticked.alike.pollInLoop place receiver
              have hmatching := ih hrest (x.2.pollInLoop place receiver).1
                (hticked.pollInLoop hcalm receiver)
              rw [hticked.stopPending_pollInLoop hcalm] at hmatching
              rw [← hnext, ← hevents]
              refine ⟨?_, ?_, ?_, hmatching.alike⟩
              · exact congrArg ((x.2.pollInLoop place receiver).2.1 ++ ·) hmatching.events
              · exact congrArg (x.1 :: ·) hmatching.ticks
              · refine Waited.cons ?_ span
                rw [Bool.false_or]
                refine Eq.mp (congrArg (Waited · _ _) ?_) hmatching.waits
                exact List.any_append.symm

/-! ## How the two loops begin and end -/

theorem inStep_enter {s : Session τ} {p : Poller} (h : s.pollerAt? place = some p) :
    InStep s.journal.fileSerials place (s.make (.enter place (some .own)))
      (s.make (.enter place none)) := by
  have hblocking : s.make (.enter place (some .own)) =
      (s.emit (Poller.enterBlocking .own p).records).setPoller place
        { p with loop := .blocking .own } := changePoller_of_some h _
  have hcoroutine : s.make (.enter place none) =
      (s.emit p.enterCoroutine.records).setPoller place { p with loop := .coroutine false } :=
    changePoller_of_some h _
  have hentered := fun (rs : List Record) (q : Poller) =>
    pollerAt?_setPoller_self (s := s.emit rs) h q
  rw [hblocking, hcoroutine]
  refine ⟨.of_emit h rfl rfl rfl (Poller.seenAt_eq_of_veil_eq rfl),
    kindAt?_eq_some_iff.mpr ⟨_, hentered _ _, rfl⟩,
    kindAt?_eq_some_iff.mpr ⟨_, hentered _ _, rfl⟩, ?_⟩
  intro q hq hrequested
  obtain rfl := Option.some.inj ((hentered _ _).symm.trans hq)
  simp [Poller.cancelRequested] at hrequested

theorem endBlocking_fst_of_own {s : Session τ} {p : Poller} (h : s.pollerAt? place = some p)
    (own : p.loop = .blocking .own) : (s.endBlocking place).1 = false := by
  have hcalm : (s.endBlocking place).2.pollerIs place (·.stopPending) = false :=
    pollerIs_of_some (pollerAt?_endBlocking h) _
  rw [endBlocking] at hcalm ⊢
  dsimp only at hcalm ⊢
  rw [hcalm, h, Option.map_some, own]
  rfl

omit [Timeline τ] in
theorem Alike.owe {e : Erasure} {s t : Session τ} (h : Alike e serials place s t)
    (task : Option String) : Alike e serials place s (t.owe task) :=
  { h with }

theorem alike_end {s t : Session τ} (h : Alike .contentAndTime serials place s t) {p q : Poller}
    (hp : s.pollerAt? place = some p) (hq : t.pollerAt? place = some q) (trace : Trace τ)
    (task : Option String) :
    Alike .contentAndTime serials place (s.endBlocking place).2 (t.endCoroutine place trace task) ∧
      (s.endBlocking place).2.pollers = (t.endCoroutine place trace task).pollers := by
  have hsame : p.leave = q.leave := Poller.leave_congr (h.seenAt_eq hp hq)
  have hleft : Alike .contentAndTime serials place
      (s.changePoller place fun p => pure p.leave) (t.endCoroutine place trace task) := by
    have hboth : Alike .contentAndTime serials place (s.changePoller place fun p => pure p.leave)
        (t.changePoller place fun p => pure p.leave) :=
      (h.changePoller place fun p q hseen => ⟨rfl, congrArg _ (Poller.leave_congr hseen)⟩).1
    unfold endCoroutine
    dsimp only
    split
    · exact hboth.owe task
    · exact hboth
  have hended : Alike .contentAndTime serials place (s.endBlocking place).2
      (t.endCoroutine place trace task) := by
    have hsaid : (s.endBlocking place).2 =
        (s.changePoller place fun p => pure p.leave).emit p.leave.sayStopped.records :=
      changePoller_eq_emit (pollerAt?_changePoller_self hp _) rfl
    rw [hsaid]
    exact hleft.emit_aside _ [] (by simp [Poller.sayStopped, Poller.say, Reported.say, Record.of])
  refine ⟨hended, List.ext_getElem? fun i => ?_⟩
  by_cases hi : i = place
  · subst hi
    exact (pollerAt?_endBlocking hp).trans
      ((congrArg some hsame).trans (pollerAt?_endCoroutine hq trace task).symm)
  · have hat := hended.pollers i
    have hplain : Poller.seenAt place i = id := funext fun r => if_neg hi
    rwa [hplain, Option.map_id_apply, Option.map_id_apply] at hat

/-! ## One loop -/

/-- The session as if its log held no lines, neither kept ones nor those in the files of some serial
numbers, which have no times either, and as if no cancellation were to come. -/
def muted (serials : List Nat) (s : Session τ) : Session τ :=
  { s with
    world := s.world.blank .contentAndTime serials
    journal := s.journal.muted
    cancelled := [] }

omit [Timeline τ] in
theorem Alike.muted_eq {s t : Session τ} (h : Alike .contentAndTime serials place s t)
    (pollers : s.pollers = t.pollers) : s.muted serials = t.muted serials := by
  obtain ⟨world, journal, cached, nextNumber, ps, names, held, clock, delay, cancelled⟩ := s
  obtain ⟨world', journal', cached', nextNumber', ps', names', held', clock', delay',
    cancelled'⟩ := t
  obtain ⟨hlog, _, _, _, rfl, rfl, rfl, rfl, rfl, rfl⟩ := h
  obtain rfl : ps = ps' := pollers
  simp only [muted, mk.injEq, and_true]
  exact ⟨hlog.world, hlog.journal⟩

/-- A blocking loop with its own token and a coroutine that is stopped when the script ends do the
same, as long as the one can wait and the other is not told of a cancellation that its task has
left over. From one session they hand on the same events, the same answers are given while they
wait, and the sessions that they leave differ in nothing but the lines of the log and in what the
coroutine leaves to its task. The blocking loop waits once more at the end if a stop was pending at
its start or is asked for by its receiver. -/
theorem run_agrees_with_coroutine {s : Session τ} {id : String} {p : Poller} {ticks : List Tick}
    {task : Option String} (named : s.named? id = some (place, p)) (idle : p.isRunning = false)
    (canWait : p.cannotBegin s.world .own = false)
    (untold : s.owes task = true → p.stopPending = true)
    (watching : ticks.all Tick.isWatching = true) (receiver : Receiver) :
    ∃ waits waits' events answers,
      (perform (.run id .own receiver ticks) s).1 =
        .ok (.loop waits events answers false (some false) false) ∧
      (perform (.runCoroutine id false receiver ticks task) s).1 =
        .ok (.loop waits' events answers false none false) ∧
      Waited (p.stopPending || events.any (receiver.stopsOn.contains ·.path)) waits waits' ∧
      (perform (.run id .own receiver ticks) s).2.muted s.journal.fileSerials =
        (perform (.runCoroutine id false receiver ticks task) s).2.muted s.journal.fileSerials ∧
      (s.journal.fileSerials = [] → (perform (.run id .own receiver ticks) s).2.world =
        (perform (.runCoroutine id false receiver ticks task) s).2.world) := by
  have hp := pollerAt?_of_named? named
  have hentered := inStep_enter hp
  have hpending : (s.make (.enter place (some .own))).pollerIs place (·.stopPending) =
      p.stopPending := pollerIs_of_some (pollerAt?_changePoller_self hp _) _
  have hcan := (cannotWait_make_enter hp .own).trans canWait
  have huntold : (s.make (.enter place none)).inherits place task = false := by
    rw [inherits_make_enter hp]
    cases howes : s.owes task with
    | true => simp [untold howes]
    | false => rfl
  have hnext := hentered.alike.nextStart place
  rw [perform_run named idle, perform_runCoroutine named idle]
  dsimp only
  rw [hcan, huntold, if_neg Bool.false_ne_true, if_neg Bool.false_ne_true, ← hnext]
  generalize s.make (.enter place (some .own)) = a at hentered hpending hnext ⊢
  generalize s.make (.enter place none) = b at hentered hnext ⊢
  generalize a.nextStart place = next
  have hmatching := matching_loops receiver watching next hentered
  rw [hpending] at hmatching
  have hblocking := (course_loopMoves ticks place receiver next a ⟨_, hentered.blocking⟩).kindAt?_eq
    hentered.blocking (by simp)
  have hcoroutine := (course_coroutineMoves ticks place false receiver next b
    hentered.coroutine).kindAt?_eq hentered.coroutine (by simp)
  generalize loop place receiver ticks next a = x at hmatching hblocking ⊢
  generalize coroutine place false receiver ticks next b = y at hmatching hcoroutine ⊢
  obtain ⟨q, hq, hkind⟩ := kindAt?_eq_some_iff.mp hblocking
  obtain ⟨r, hr, _⟩ := kindAt?_eq_some_iff.mp hcoroutine
  obtain ⟨halike, hpollers⟩ := alike_end hmatching.alike hq hr y.1 task
  have hmuted := halike.muted_eq hpollers
  refine ⟨x.1.waits, y.1.waits, x.1.events, x.1.ticks, ?_, ?_, hmatching.waits, hmuted, ?_⟩
  · rw [endBlocking_fst_of_own hq (Poller.loop_eq_own hkind),
      reply_of_left (pollerAt?_endBlocking hq)]
  · rw [reply_of_left (pollerAt?_endCoroutine hr y.1 task), ← hmatching.events, ← hmatching.ticks]
  · intro hnone
    have hworld := halike.log.world
    rwa [hnone, World.blank_nil, World.blank_nil] at hworld

def rootPoller : Poller :=
  { spec := ⟨.absolute [], {}, 1.0⟩ }

/-- A world with a file to which every line gives a later time. -/
def stampedWorld : World :=
  { root := .directory { name := "" } [.file { name := "log" } 0 []]
    nextSerial := 1
    stamps := fun _ k => some k }

def loggedSession : Session Float :=
  { (ofWorld stampedWorld : Session Float) with
    journal := { handlers := [⟨.file 0, Level.info⟩] }
    pollers := [rootPoller]
    names := [("p", 0)] }

def watchingTicks : List Tick :=
  [.mk [.act (.poll "p"), .act (.edit (.touch ["log"] 5))] 0.0 false false]

theorem run_agrees_with_coroutine_loggedSession :
    loggedSession.named? "p" = some (0, rootPoller) ∧ rootPoller.isRunning = false ∧
      rootPoller.cannotBegin loggedSession.world .own = false ∧
      loggedSession.owes (some "t") = false ∧ watchingTicks.all Tick.isWatching = true ∧
      ∃ waits waits' events answers,
        (perform (.run "p" .own { stopsOn := ["log"] } watchingTicks) loggedSession).1 =
          .ok (.loop waits events answers false (some false) false) ∧
        (perform (.runCoroutine "p" false { stopsOn := ["log"] } watchingTicks (some "t"))
            loggedSession).1 =
          .ok (.loop waits' events answers false none false) ∧
        Waited (events.any fun e => ["log"].contains e.path) waits waits' := by
  have hnamed : loggedSession.named? "p" = some (0, rootPoller) := rfl
  have hcan : rootPoller.cannotBegin loggedSession.world .own = false := rfl
  have howes : loggedSession.owes (some "t") = false := rfl
  have hwatching : watchingTicks.all Tick.isWatching = true := rfl
  obtain ⟨waits, waits', events, answers, hrun, hcoroutine, hwaited, _⟩ :=
    run_agrees_with_coroutine hnamed rfl hcan
      (fun h : loggedSession.owes (some "t") = true => absurd h (by simp [howes])) hwatching
      { stopsOn := ["log"] }
  exact ⟨hnamed, rfl, hcan, howes, hwatching, waits, waits', events, answers, hrun, hcoroutine,
    hwaited⟩

/-- The lines that the two forms write to a log file differ, so that they do not leave the same
world. -/
theorem not_forall_world_eq :
    ¬∀ (s : Session Float) (id : String) (place : Nat) (p : Poller) (ticks : List Tick),
      s.named? id = some (place, p) → p.isRunning = false → ticks.all Tick.isWatching = true →
        ∀ receiver, (perform (.run id .own receiver ticks) s).2.world =
          (perform (.runCoroutine id false receiver ticks) s).2.world := by
  intro h
  have hworld := h loggedSession "p" 0 rootPoller [] rfl rfl rfl {}
  have hlength := congrArg
    (fun w : World => (w.readFile (.absolute ["log"])).toOption.map List.length) hworld
  revert hlength
  decide +kernel

end Session

end TreeWatch
