import TreeWatch.Proofs.Session.Calls
import TreeWatch.Proofs.Session.Evenness
import TreeWatch.Proofs.Session.Refusals
import TreeWatch.Proofs.Session.Stopping

/-!
# Scripts without the calls that are refused

The calls that are refused can be left out of the ticks of a loop, at any depth: the loop waits,
hands on and ends as it did with them. Only the log has fewer lines, so nothing may read settings
from a file that the log went to when a call was refused, nor look at where such a file is seen.
-/

namespace TreeWatch

namespace Session

open Log

variable {τ : Type} [Timeline τ]

/-! ## Scripts -/

/-- Whether a step that enters the loop at a place ends at its first wait, in which it fails or is
told of an earlier cancellation. -/
def endsAtOnce (s : Session τ) (place : Nat) : Step → Bool
  | .act _ => false
  | .run _ token _ _ => (s.make (.enter place (some token))).cannotWait place
  | .runCoroutine _ _ _ _ task => (s.make (.enter place none)).inherits place task

/-- The place of the loop that a step takes through its ticks. -/
def ticksAt? (s : Session τ) (step : Step) : Option Nat :=
  (s.enters? step).filter fun place => !s.endsAtOnce place step

mutual

/-- The second step is the first without some calls that are refused in the ticks of its loop. The
serial numbers are those of the files in which the logs differ, before the step and after it. -/
inductive Omits : List Nat → Session τ → Step → Step → List Nat → Prop
  | act {serials : List Nat} {s : Session τ} {a : Action}
      (spared : Settings.Spared serials s.world (s.filesRead a))
      (apart : ∀ x ∈ s.sights a, x.IsApart serials) : Omits serials s (.act a) (.act a) serials
  /-- A call that takes no loop through its ticks. -/
  | idle {serials : List Nat} {s : Session τ} {step : Step} (called : step.loopId?.isSome = true)
      (unticked : s.ticksAt? step = none) : Omits serials s step step serials
  | run {serials serials' : List Nat} {s : Session τ} {id : String} {place : Nat} {token : Token}
      {receiver : Receiver} {ticks ticks' : List Tick}
      (entered : s.ticksAt? (.run id token receiver ticks) = some place)
      (inner : TicksOmit .blocking place receiver serials
        ((s.make (.enter place (some token))).nextStart place) (s.make (.enter place (some token)))
        ticks ticks' serials') :
      Omits serials s (.run id token receiver ticks) (.run id token receiver ticks') serials'
  | runCoroutine {serials serials' : List Nat} {s : Session τ} {id : String} {place : Nat}
      {cancelAtEnd : Bool} {task : Option String} {receiver : Receiver} {ticks ticks' : List Tick}
      (entered : s.ticksAt? (.runCoroutine id cancelAtEnd receiver ticks task) = some place)
      (inner : TicksOmit (.coroutine cancelAtEnd task) place receiver serials
        ((s.make (.enter place none)).nextStart place) (s.make (.enter place none))
        ticks ticks' serials') :
      Omits serials s (.runCoroutine id cancelAtEnd receiver ticks task)
        (.runCoroutine id cancelAtEnd receiver ticks' task) serials'

inductive AllOmit : List Nat → Session τ → List Step → List Step → List Nat → Prop
  | done {serials : List Nat} {s : Session τ} : AllOmit serials s [] [] serials
  /-- A call that is refused is left out. Its warning goes to the files of the log. -/
  | leave {serials serials' : List Nat} {s : Session τ} {step : Step} {steps steps' : List Step}
      (refused : s.refuses step = true)
      (rest : AllOmit (serials ++ s.journal.fileSerials) (perform step s).2 steps steps' serials') :
      AllOmit serials s (step :: steps) steps' serials'
  | keep {serials more serials' : List Nat} {s : Session τ} {step step' : Step}
      {steps steps' : List Step} (first : Omits serials s step step' more)
      (rest : AllOmit more (perform step s).2 steps steps' serials') :
      AllOmit serials s (step :: steps) (step' :: steps') serials'

inductive TicksOmit : LoopForm → Nat → Receiver → List Nat → τ → Session τ → List Tick →
    List Tick → List Nat → Prop
  | finish {form : LoopForm} {place : Nat} {receiver : Receiver} {serials : List Nat} {next : τ}
      {s : Session τ} {ticks : List Tick} (ends : ticks = [] ∨ s.endsBefore form place = true) :
      TicksOmit form place receiver serials next s ticks ticks serials
  | last {form : LoopForm} {place : Nat} {receiver : Receiver} {serials serials' : List Nat}
      {next : τ} {s t : Session τ} {answers : List (Answer τ)} {steps steps' : List Step}
      {seconds : Float} {cancel late : Bool} {ticks : List Tick}
      (begun : s.endsBefore form place = false)
      (inner : AllOmit serials (s.waiting next seconds) steps steps' serials')
      (done : performAll steps (s.waiting next seconds) = (answers, t))
      (ends : (t.ticked form place cancel).endsAfter form place late = true) :
      TicksOmit form place receiver serials next s (.mk steps seconds cancel late :: ticks)
        (.mk steps' seconds cancel late :: ticks) serials'
  | next {form : LoopForm} {place : Nat} {receiver : Receiver} {serials more serials' : List Nat}
      {next next' : τ} {s t u : Session τ} {answers : List (Answer τ)} {steps steps' : List Step}
      {seconds : Float} {cancel late : Bool} {ticks ticks' : List Tick} {events : List Event}
      (begun : s.endsBefore form place = false)
      (inner : AllOmit serials (s.waiting next seconds) steps steps' more)
      (done : performAll steps (s.waiting next seconds) = (answers, t))
      (goesOn : (t.ticked form place cancel).endsAfter form place late = false)
      (polled : (t.ticked form place cancel).pollInLoop place receiver = (next', events, u))
      (apart : ∀ x ∈ (t.ticked form place cancel).sightAt? place, x.IsApart more)
      (rest : TicksOmit form place receiver more next' u ticks ticks' serials') :
      TicksOmit form place receiver serials next s (.mk steps seconds cancel late :: ticks)
        (.mk steps' seconds cancel late :: ticks') serials'

end

/-! ## Loops that go on alike -/

/-- What the loops did outside of their ticks is the same, and they leave sessions that are even. -/
structure SameTrace (serials : List Nat) (x y : Trace τ × Session τ) : Prop where
  waits : x.1.waits = y.1.waits
  events : x.1.events = y.1.events
  isCut : x.1.isCut = y.1.isCut
  even : Even serials x.2 y.2

namespace Even

variable {form : LoopForm} {place : Nat} {serials : List Nat} {s t : Session τ}

theorem waiting (h : Even serials s t) (next : τ) (seconds : Float) :
    Even serials (s.waiting next seconds) (t.waiting next seconds) := by
  unfold Session.waiting
  rw [h.spanUntil]
  exact (h.pass _).addDelay seconds

omit [Timeline τ] in
theorem endsBefore (h : Even serials s t) (form : LoopForm) (place : Nat) :
    t.endsBefore form place = s.endsBefore form place := by
  cases form <;> exact h.pollerIs place _

omit [Timeline τ] in
theorem ticked (h : Even serials s t) (form : LoopForm) (place : Nat) (cancel : Bool) :
    Even serials (s.ticked form place cancel) (t.ticked form place cancel) := by
  cases form with
  | blocking => exact h
  | coroutine cancelAtEnd task =>
      unfold Session.ticked
      dsimp only
      split
      · exact h.changePoller place _
      · exact h

omit [Timeline τ] in
theorem endsAfter (h : Even serials s t) (form : LoopForm) (place : Nat) (late : Bool) :
    t.endsAfter form place late = s.endsAfter form place late := by
  unfold Session.endsAfter
  simp only [h.pollerIs]

omit [Timeline τ] in
theorem endsCut (h : Even serials s t) (form : LoopForm) (place : Nat) (late : Bool) :
    t.endsCut form place late = s.endsCut form place late := by
  unfold Session.endsCut
  simp only [h.pollerIs]

omit [Timeline τ] in
theorem sayCancelled (h : Even serials s t) : Even serials s.sayCancelled t.sayCancelled :=
  h.emit [.of .info "poller" "DirectoryPoller cancelled"]

omit [Timeline τ] in
theorem ended (h : Even serials s t) (form : LoopForm) (place : Nat) (late : Bool) :
    Even serials (s.ended form place late) (t.ended form place late) := by
  unfold Session.ended
  rw [h.pollerIs]
  cases form with
  | blocking => exact h
  | coroutine cancelAtEnd task =>
      dsimp only
      split
      · exact h.sayCancelled
      · exact h

theorem enter (h : Even serials s t) (place : Nat) (token? : Option Token) :
    Even serials (s.make (.enter place token?)) (t.make (.enter place token?)) := by
  cases token? with
  | none => exact h.changePoller place Poller.enterCoroutine
  | some token => exact h.changePoller place (Poller.enterBlocking token)

theorem runLoop (h : Even serials s t) {ticks : List Tick}
    (ends : ticks = [] ∨ s.endsBefore form place = true) (receiver : Receiver) (next : τ) :
    SameTrace serials (runLoop form place receiver ticks next s)
      (runLoop form place receiver ticks next t) := by
  have hspan := h.spanUntil next
  cases hs : s.endsBefore form place with
  | true =>
      have ht := (h.endsBefore form place).trans hs
      cases form with
      | blocking =>
          unfold Session.runLoop
          dsimp only
          rw [loop_of_set hs, loop_of_set ht, hspan]
          exact ⟨rfl, rfl, rfl, h⟩
      | coroutine cancelAtEnd task =>
          unfold Session.runLoop
          dsimp only
          rw [coroutine_of_pending hs, coroutine_of_pending ht]
          exact ⟨rfl, rfl, rfl, h⟩
  | false =>
      have ht := (h.endsBefore form place).trans hs
      obtain rfl : ticks = [] := ends.resolve_right (by simp [hs])
      have hpassed := h.pass (s.spanUntil next)
      cases form with
      | blocking =>
          simp only [Session.endsBefore] at hs ht
          simp only [Session.runLoop, loop, hs, ht, hspan, Bool.false_eq_true, if_false]
          exact ⟨rfl, rfl, rfl, hpassed.changePoller place _⟩
      | coroutine cancelAtEnd task =>
          simp only [Session.endsBefore] at hs ht
          simp only [Session.runLoop, coroutine, hs, ht, hspan, Bool.false_eq_true, if_false]
          refine ⟨rfl, rfl, rfl, Even.sayCancelled ?_⟩
          split <;> exact hpassed.changePoller place _

end Even

/-! ## Calls -/

theorem snd_perform_of_running {s : Session τ} {step : Step} {place : Nat} {p : Poller}
    (called : s.calls? step = some (place, p)) (running : p.isRunning = true) :
    (perform step s).2 = s.emit [p.refusal] := by
  cases step with
  | act a => simp [calls?, Step.loopId?] at called
  | run id token receiver ticks =>
      rw [((refused_of_running called running).run token receiver ticks).2]
  | runCoroutine id cancelAtEnd receiver ticks task =>
      rw [((refused_of_running called running).runCoroutine cancelAtEnd receiver ticks task).2]

theorem snd_perform_of_unknown {s : Session τ} {step : Step} (call : step.loopId?.isSome = true)
    (unknown : s.calls? step = none) : (perform step s).2 = s := by
  cases step with
  | act a => simp [Step.loopId?] at call
  | run id token receiver ticks =>
      have hnamed : s.named? id = none := unknown
      rw [perform, forPoller_of_none hnamed]
  | runCoroutine id cancelAtEnd receiver ticks task =>
      have hnamed : s.named? id = none := unknown
      rw [perform, forPoller_of_none hnamed]

namespace Even

variable {serials : List Nat} {s t : Session τ}

omit [Timeline τ] in
theorem calls? (h : Even serials s t) (step : Step) : t.calls? step = s.calls? step := by
  unfold Session.calls?
  rw [funext h.named?]

/-- A call that is refused may be made in one of the sessions alone. -/
theorem perform_of_refused (h : Even serials s t) {step : Step}
    (refused : s.refuses step = true) :
    Even (serials ++ s.journal.fileSerials) (perform step s).2 t := by
  obtain ⟨⟨place, p⟩, hcalls, hrunning⟩ := Option.any_eq_true _ _ |>.mp refused
  rw [snd_perform_of_running hcalls hrunning]
  exact h.emit_aside rfl

end Even

/-! ## Loops that are entered -/

def withoutTicks : Outcome τ → Outcome τ
  | .ok (.loop waits events _ running token? stopPending) =>
    .ok (.loop waits events [] running token? stopPending)
  | outcome => outcome

def SameLoop (x y : Outcome τ) : Prop :=
  withoutTicks x = withoutTicks y

def callEnded (form : LoopForm) (place : Nat) (x : Trace τ × Session τ) : Outcome τ × Session τ :=
  match form with
  | .blocking =>
      let (isSet, s) := x.2.endBlocking place
      (.ok (x.1.reply (some isSet) s place), s)
  | .coroutine _ task =>
      let s := x.2.endCoroutine place x.1 task
      (.ok (x.1.reply none s place), s)

section Entered

variable {serials : List Nat} {s t : Session τ} {id : String} {place : Nat} {p : Poller}

theorem perform_run_eq_callEnded (named : s.named? id = some (place, p))
    (idle : p.isRunning = false) {token : Token}
    (waits : (s.make (.enter place (some token))).cannotWait place = false) (receiver : Receiver)
    (ticks : List Tick) :
    perform (.run id token receiver ticks) s =
      let entered := s.make (.enter place (some token))
      callEnded .blocking place
        (runLoop .blocking place receiver ticks (entered.nextStart place) entered) := by
  rw [perform_run named idle]
  dsimp only
  rw [if_neg (by simp [waits])]
  rfl

theorem perform_runCoroutine_eq_callEnded (named : s.named? id = some (place, p))
    (idle : p.isRunning = false) {task : Option String}
    (untold : (s.make (.enter place none)).inherits place task = false) (cancelAtEnd : Bool)
    (receiver : Receiver) (ticks : List Tick) :
    perform (.runCoroutine id cancelAtEnd receiver ticks task) s =
      let entered := s.make (.enter place none)
      let form := .coroutine cancelAtEnd task
      callEnded form place
        (runLoop form place receiver ticks (entered.nextStart place) entered) := by
  rw [perform_runCoroutine named idle]
  dsimp only
  rw [if_neg (by simp [untold])]
  rfl

omit [Timeline τ] in
theorem sameLoop_reply {x y : Trace τ} (waits : x.waits = y.waits) (events : x.events = y.events)
    (h : Even serials s t) (token? : Option Bool) (place : Nat) :
    SameLoop (.ok (x.reply token? s place)) (.ok (y.reply token? t place)) := by
  rw [SameLoop, Trace.reply, Trace.reply, waits, events, h.pollerIs, h.pollerIs]
  rfl

omit [Timeline τ] in
theorem Even.endBlocking (h : Even serials s t) (place : Nat) :
    Ends serials (s.endBlocking place) (t.endBlocking place) := by
  have hleft := h.changePoller place fun p => pure p.leave
  have hended := hleft.changePoller place fun p => do
    p.sayStopped
    pure p
  refine ⟨_, _, _, rfl, ?_, hended⟩
  unfold Session.endBlocking
  dsimp only
  rw [h.pollerAt?, hended.pollerIs]

omit [Timeline τ] in
theorem Even.endCoroutine (h : Even serials s t) {trace trace' : Trace τ}
    (isCut : trace.isCut = trace'.isCut) (place : Nat) (task : Option String) :
    Even serials (s.endCoroutine place trace task) (t.endCoroutine place trace' task) := by
  have hleft := h.changePoller place fun p => pure p.leave
  have howing : t.leavesOwing place trace' = s.leavesOwing place trace := by
    rw [leavesOwing, leavesOwing, isCut, h.pollerIs]
  unfold Session.endCoroutine
  rw [howing]
  dsimp only
  split
  · exact { hleft with cancelled := congrArg (task.toList ++ ·) hleft.cancelled }
  · exact hleft

theorem Even.inherit (h : Even serials s t) (place : Nat) (task : Option String) :
    SameTrace serials (s.inherit place task) (t.inherit place task) := by
  have hsettled : Even serials (s.settle task) (t.settle task) :=
    { h with cancelled := congrArg (List.filter _) h.cancelled }
  have hspan : s.spanUntil (s.nextStart place) = t.spanUntil (t.nextStart place) := by
    rw [h.nextStart, h.spanUntil]
  exact ⟨congrArg (fun span => [span]) hspan, rfl, rfl, hsettled.sayCancelled⟩

omit [Timeline τ] in
theorem SameTrace.callEnded {x y : Trace τ × Session τ} (same : SameTrace serials x y)
    (form : LoopForm) (place : Nat) :
    SameLoop (callEnded form place x).1 (callEnded form place y).1 ∧
      Even serials (callEnded form place x).2 (callEnded form place y).2 := by
  cases form with
  | blocking =>
      obtain ⟨isSet, s, t, hs, ht, hended⟩ := same.even.endBlocking place
      unfold Session.callEnded
      dsimp only
      rw [hs, ht]
      exact ⟨sameLoop_reply same.waits same.events hended (some isSet) place, hended⟩
  | coroutine cancelAtEnd task =>
      have hended := same.even.endCoroutine same.isCut place task
      exact ⟨sameLoop_reply same.waits same.events hended none place, hended⟩

/-- A loop that ends at its first wait ends alike in sessions that are even when it is entered. -/
theorem sameLoop_of_endsAtOnce {step : Step} (called : s.calls? step = some (place, p))
    (called' : t.calls? step = some (place, p)) (idle : p.isRunning = false)
    (entered : ∀ token?, Even serials (s.make (.enter place token?)) (t.make (.enter place token?)))
    (ends : s.endsAtOnce place step = true) :
    SameLoop (perform step s).1 (perform step t).1 ∧
      Even serials (perform step s).2 (perform step t).2 := by
  cases step with
  | act a => simp [endsAtOnce] at ends
  | run id token receiver ticks =>
      have hs : (s.make (.enter place (some token))).cannotWait place = true := ends
      have ht := ((entered (some token)).linked.cannotWait (bond_evenLogs serials) place).trans hs
      obtain ⟨isSet, u, v, hu, hv, hended⟩ := (entered (some token)).endBlocking place
      rw [perform_run called idle, perform_run called' idle]
      dsimp only
      rw [if_pos hs, if_pos ht, hu, hv]
      exact ⟨rfl, hended⟩
  | runCoroutine id cancelAtEnd receiver ticks task =>
      have hs : (s.make (.enter place none)).inherits place task = true := ends
      have ht := ((entered none).linked.inherits place task).trans hs
      rw [perform_runCoroutine called idle, perform_runCoroutine called' idle]
      dsimp only
      rw [if_pos hs, if_pos ht]
      exact ((entered none).inherit place task).callEnded (.coroutine cancelAtEnd task) place

omit [Timeline τ] in
theorem exists_of_ticksAt? [Timeline τ] {step : Step} (h : s.ticksAt? step = some place) :
    ∃ p, s.calls? step = some (place, p) ∧ p.isRunning = false ∧
      s.endsAtOnce place step = false := by
  obtain ⟨hentered, hgoes⟩ := Option.filter_eq_some_iff.mp h
  obtain ⟨p, hcalls, hidle⟩ := exists_of_enters? hentered
  exact ⟨p, hcalls, hidle, by simpa using hgoes⟩

theorem Even.perform_of_idle (h : Even serials s t) {step : Step}
    (call : step.loopId?.isSome = true) (unticked : s.ticksAt? step = none) :
    Even serials (perform step s).2 (perform step t).2 := by
  have hcalls := h.calls? step
  cases hs : s.calls? step with
  | none =>
      rw [snd_perform_of_unknown call hs, snd_perform_of_unknown call (hcalls.trans hs)]
      exact h
  | some called =>
      obtain ⟨place, p⟩ := called
      cases hrunning : p.isRunning with
      | true =>
          rw [snd_perform_of_running hs hrunning,
            snd_perform_of_running (hcalls.trans hs) hrunning]
          exact h.emit _
      | false =>
          have hends : s.endsAtOnce place step = true := by
            simpa [ticksAt?, enters?, hs, hrunning, Option.filter] using unticked
          exact (sameLoop_of_endsAtOnce hs (hcalls.trans hs) hrunning (h.enter place) hends).2

end Entered

/-! ## Without the calls that are refused -/

-- The recursion is on the longer script. Evenness carries it, and each call that is left out adds
-- the files of its warning to those in which the sessions may differ.
mutual

theorem even_of_omits : ∀ (step : Step) {step' : Step} {serials serials' : List Nat}
    {s t : Session τ}, Omits serials s step step' serials' → Even serials s t →
    Even serials' (perform step s).2 (perform step' t).2
  | .act a, _, _, _, _, _, omits, h => by
    cases omits with
    | act spared apart =>
        rw [perform, perform]
        exact h.act spared apart
    | idle called => simp [Step.loopId?] at called
  | .run id token receiver ticks, _, _, _, s, t, omits, h => by
    cases omits with
    | idle called unticked => exact h.perform_of_idle called unticked
    | run entered inner =>
        obtain ⟨p, hnamed, hidle, hwaits⟩ := exists_of_ticksAt? entered
        have hentered := fun i => h.enter i (some token)
        have hwaits' := ((hentered _).linked.cannotWait (bond_evenLogs _) _).trans hwaits
        have hinner := sameTrace_of_omit ticks inner (hentered _)
        rw [perform_run_eq_callEnded hnamed hidle hwaits,
          perform_run_eq_callEnded ((h.named? id).trans hnamed) hidle hwaits']
        dsimp only
        rw [(hentered _).nextStart]
        exact (hinner.callEnded .blocking _).2
  | .runCoroutine id cancelAtEnd receiver ticks task, _, _, _, s, t, omits, h => by
    cases omits with
    | idle called unticked => exact h.perform_of_idle called unticked
    | runCoroutine entered inner =>
        obtain ⟨p, hnamed, hidle, huntold⟩ := exists_of_ticksAt? entered
        have hentered := fun i => h.enter i none
        have huntold' := ((hentered _).linked.inherits _ task).trans huntold
        have hinner := sameTrace_of_omit ticks inner (hentered _)
        rw [perform_runCoroutine_eq_callEnded hnamed hidle huntold,
          perform_runCoroutine_eq_callEnded ((h.named? id).trans hnamed) hidle huntold']
        dsimp only
        rw [(hentered _).nextStart]
        exact (hinner.callEnded (.coroutine cancelAtEnd task) _).2
termination_by structural step => step

theorem even_of_allOmit : ∀ (steps : List Step) {steps' : List Step} {serials serials' : List Nat}
    {s t : Session τ}, AllOmit serials s steps steps' serials' → Even serials s t →
    Even serials' (performAll steps s).2 (performAll steps' t).2
  | [], _, _, _, _, _, omits, h => by
    cases omits
    exact h
  | step :: rest, _, _, _, _, _, omits, h => by
    rw [performAll]
    cases omits with
    | leave refused others => exact even_of_allOmit rest others (h.perform_of_refused refused)
    | keep first others =>
        have hfirst := even_of_omits step first h
        rw [performAll]
        exact even_of_allOmit rest others hfirst
termination_by structural steps => steps

theorem sameTrace_of_omit : ∀ (ticks : List Tick) {ticks' : List Tick} {form : LoopForm}
    {place : Nat} {receiver : Receiver} {next : τ} {serials serials' : List Nat}
    {s t : Session τ}, TicksOmit form place receiver serials next s ticks ticks' serials' →
    Even serials s t →
    SameTrace serials' (runLoop form place receiver ticks next s)
      (runLoop form place receiver ticks' next t)
  | [], _, _, _, _, _, _, _, _, _, omits, h => by
    cases omits with
    | finish ends => exact h.runLoop ends _ _
  | .mk steps seconds cancel late :: rest, _, form, place, receiver, next, _, _, s, t, omits,
      h => by
    cases omits with
    | finish ends => exact h.runLoop ends _ _
    | last begun inner done ends =>
        have hticked := even_of_allOmit steps inner (h.waiting next seconds)
        generalize done' : performAll _ (t.waiting next seconds) = x at hticked
        rw [done] at hticked
        have hended := hticked.ticked form place cancel
        have begun' := (h.endsBefore form place).trans begun
        have ends' := (hended.endsAfter form place late).trans ends
        rw [runLoop_of_endsAfter begun done ends, runLoop_of_endsAfter begun' done' ends',
          h.spanUntil]
        exact ⟨rfl, rfl, (hended.endsCut form place late).symm, hended.ended form place late⟩
    | next begun inner done goesOn polled apart others =>
        have hticked := even_of_allOmit steps inner (h.waiting next seconds)
        generalize done' : performAll _ (t.waiting next seconds) = x at hticked
        rw [done] at hticked
        have hended := hticked.ticked form place cancel
        have begun' := (h.endsBefore form place).trans begun
        have goesOn' := (hended.endsAfter form place late).trans goesOn
        -- What is looked at does not depend on the log, so both loops hand on the same.
        obtain ⟨next', events, u, u', hpolled, hpolled', hu⟩ :=
          hended.pollInLoop place receiver apart
        obtain ⟨rfl, rfl, rfl⟩ : _ ∧ _ ∧ _ := by simpa using hpolled.symm.trans polled
        have hrest := sameTrace_of_omit rest others hu
        rw [runLoop_of_goesOn begun done goesOn polled,
          runLoop_of_goesOn begun' done' goesOn' hpolled', h.spanUntil]
        exact ⟨congrArg (_ :: ·) hrest.waits, congrArg (_ ++ ·) hrest.events, hrest.isCut,
          hrest.even⟩
termination_by structural ticks => ticks

end

/-- The logger of pollers is used when a loop is entered, whatever was said before. -/
theorem even_enter {s : Session τ} {place : Nat} {p : Poller} (h : s.pollerAt? place = some p)
    (token? : Option Token) :
    Even [] (s.make (.enter place token?)) (s.make (.enter place token?)) := by
  have hsaid : ∀ r : Record, (s.emit [r]).journal.HasMet r.logger := by
    intro r
    obtain ⟨_, hmuted, _⟩ := Journal.emitAll_spec s.world s.journal [r] fun _ hmem => hmem
    exact (Journal.hasMet_meetLogger_self s.journal r.logger).of_muted_eq hmuted
  refine Even.refl ?_
  cases token? with
  | none =>
      rw [make, changePoller_of_some h]
      exact hsaid (.of .info "poller" _)
  | some token =>
      rw [make, changePoller_of_some h]
      exact hsaid (.of .info "poller" _)

/-- From one session, a call goes on as it does without the calls that are refused in its ticks. -/
theorem sameLoop_of_omits {s : Session τ} {step step' : Step} {serials : List Nat}
    (enters : (s.enters? step).isSome = true) (omits : Omits [] s step step' serials) :
    SameLoop (perform step s).1 (perform step' s).1 ∧
      Even serials (perform step s).2 (perform step' s).2 := by
  cases omits with
  | act spared => simp [enters?, calls?, Step.loopId?] at enters
  | idle called unticked =>
      obtain ⟨place, hplace⟩ := Option.isSome_iff_exists.mp enters
      obtain ⟨p, hcalls, hidle⟩ := exists_of_enters? hplace
      have hends : s.endsAtOnce place step = true := by
        simpa [ticksAt?, hplace, Option.filter] using unticked
      have hp : s.pollerAt? place = some p := by
        obtain ⟨id, -, hnamed⟩ := Option.bind_eq_some_iff.mp hcalls
        exact pollerAt?_of_named? hnamed
      exact sameLoop_of_endsAtOnce hcalls hcalls hidle (even_enter hp) hends
  | run entered inner =>
      obtain ⟨p, hnamed, hidle, hwaits⟩ := exists_of_ticksAt? entered
      have hentered := even_enter (pollerAt?_of_named? hnamed)
      rw [perform_run_eq_callEnded hnamed hidle hwaits,
        perform_run_eq_callEnded hnamed hidle hwaits]
      exact (sameTrace_of_omit _ inner (hentered _)).callEnded .blocking _
  | runCoroutine entered inner =>
      obtain ⟨p, hnamed, hidle, huntold⟩ := exists_of_ticksAt? entered
      have hentered := even_enter (pollerAt?_of_named? hnamed)
      rw [perform_runCoroutine_eq_callEnded hnamed hidle huntold,
        perform_runCoroutine_eq_callEnded hnamed hidle huntold]
      exact (sameTrace_of_omit _ inner (hentered _)).callEnded (.coroutine _ _) _

/-! ## One loop at a time -/

/-- No poller is in two loops at once, and the calls that are refused for this reason do no harm. -/
structure OneAtATime (τ : Type) [Timeline τ] (w : World) (steps : List Step) : Prop where
  /-- At every moment the pollers that are running are those of the loops in progress. -/
  running : ∀ before after, allMoves steps (ofWorld w : Session τ) = before ++ after →
    ((ofWorld w : Session τ).makeAll before).RunsAt (inProgress before)
  /-- The loop of a call that is accepted is in progress until the call is over. -/
  accepted : ∀ (s : Session τ) step place, s.enters? step = some place →
    ∃ token? inner rest, moves step s = .enter place token? :: (inner ++ .leave place :: rest) ∧
      .leave place ∉ inner ∧ ∀ m ∈ rest, m = .sayStopped place ∨ ∃ tasks, m = .owe tasks
  asked : ∀ (s : Session τ) id place p, s.named? id = some (place, p) →
    (perform (.act (.isRunning id)) s).1 = .ok (.truth p.isRunning)
  refused : ∀ (s : Session τ) id place p, s.named? id = some (place, p) → p.isRunning = true →
    Refused s id place p
  unheard : ∀ (s : Session τ) step step' serials, (s.enters? step).isSome = true →
    Omits [] s step step' serials → SameLoop (perform step s).1 (perform step' s).1 ∧
      Even serials (perform step s).2 (perform step' s).2

theorem oneAtATime_of_world (w : World) (steps : List Step) : OneAtATime τ w steps := by
  have hfits := (course_allMoves steps (ofWorld w : Session τ)).fitsAll
  refine ⟨?_, ?_, ?_, fun s id place p => refused_of_running, fun s step step' serials =>
    sameLoop_of_omits⟩
  · intro before after hsplit
    rw [hsplit, fitsAll_append] at hfits
    have hnone : (ofWorld w : Session τ).RunsAt [] :=
      ⟨List.nodup_nil, fun place => by simp [pollerIs, pollerAt?, ofWorld]⟩
    exact hnone.makeAll hfits.1
  · exact fun s step place => moves_of_enters?
  · intro s id place p hnamed
    rw [perform, act, forPoller_of_some hnamed]

def idlePoller : Poller :=
  { spec := ⟨.absolute ["w"], {}, 1.0⟩ }

def idleWorld : World :=
  { root := .directory { name := "" } [
      .directory { name := "w" } [.file { name := "new" } 0 []], .file { name := "log" } 1 []],
    nextSerial := 2 }

/-- A session with the poller in which the log goes to the file elsewhere. -/
def idleSession : Session Float :=
  { (ofWorld idleWorld : Session Float) with
    journal := { handlers := [⟨.file 1, Level.info⟩] }
    pollers := [idlePoller]
    names := [("p", 0)] }

def nestedRun : Step :=
  .run "p" .own {} [.mk [.run "p" (.external true) {} [], .act (.poll "p")] 0.0 false false]

def plainRun : Step :=
  .run "p" .own {} [.mk [.act (.poll "p")] 0.0 false false]

theorem oneAtATime_idleSession :
    OneAtATime Float {} [nestedRun] ∧
      SameLoop (perform nestedRun idleSession).1 (perform plainRun idleSession).1 := by
  have hapart : OneAtATime Float {} [nestedRun] := oneAtATime_of_world {} [nestedRun]
  have hentered : idleSession.ticksAt? nestedRun = some 0 := by decide +kernel
  have homits : ∃ serials, Omits [] idleSession nestedRun plainRun serials := by
    refine ⟨_, .run hentered
      (.next ?_ (.leave ?_ (.keep (.act ?_ ?_) .done)) rfl ?_ rfl ?_ (.finish (.inl rfl)))⟩
    · decide +kernel
    · decide +kernel
    · exact fun _ hmem => absurd hmem List.not_mem_nil
    · exact fun x hx => Sight.isApart_of_avoids (List.all_eq_true.mp (by decide +kernel) x hx)
    · decide +kernel
    · exact fun x hx => Sight.isApart_of_avoids
        (List.all_eq_true.mp (by decide +kernel) x (Option.mem_toList.mpr hx))
  obtain ⟨serials, homits⟩ := homits
  have henters : (idleSession.enters? nestedRun).isSome = true := by decide +kernel
  exact ⟨hapart, (hapart.unheard idleSession nestedRun plainRun serials henters homits).1⟩

def handedOn : Outcome τ → List Event
  | .ok (.loop _ events _ _ _ _) => events
  | _ => []

omit [Timeline τ] in
theorem SameLoop.handedOn_eq {x y : Outcome τ} (h : SameLoop x y) : handedOn x = handedOn y := by
  have hforget : ∀ z : Outcome τ, handedOn (withoutTicks z) = handedOn z := by
    intro z
    unfold withoutTicks
    split <;> rfl
  rw [← hforget x, h, hforget]

def settledWorld : World :=
  { root := .directory { name := "" } [.directory { name := "w" } [],
      .directory { name := "etc" } [.directory { name := "dirpoll" } [
        .file { name := "config.yaml" } 0 (Bytes.ofText "logging: \x7bfile: /w/x\x7d")]]],
    nextSerial := 1
    environment := [("HOME", "/home/u")] }

def openingSteps : List Step := [
  .act (.setupLogging (.given (some
    { level := .text "WARNING", file := .text "/etc/dirpoll/config.yaml" }))),
  .act (.create "p" ⟨.absolute ["w"], {}, .truth true⟩)]

def reloadingSteps : List Step :=
  [.act .resetLogging, .act (.setupLogging .loaded)]

/-- The warning that a call is refused may spoil a file of settings, and then other files are made
while the loop waits. -/
theorem not_forall_sameLoop :
    ¬∀ (w : World) (opening steps : List Step),
      let s := (performAll opening (ofWorld w : Session Float)).2
      let entered := s.make (.enter 0 (some .own))
      s.enters? (.run "p" .own {} []) = some 0 →
        (entered.waiting (entered.nextStart 0) 0.0).refuses (.run "p" .own {} []) = true →
          SameLoop
            (perform (.run "p" .own {} [.mk (.run "p" .own {} [] :: steps) 0.0 false false]) s).1
            (perform (.run "p" .own {} [.mk steps 0.0 false false]) s).1 := by
  intro h
  -- The warning spoils the settings, so the log file in the directory is not made.
  have hsame := (h settledWorld openingSteps reloadingSteps (by decide +kernel)
    (by decide +kernel)).handedOn_eq
  revert hsame
  decide +kernel

end Session

end TreeWatch
