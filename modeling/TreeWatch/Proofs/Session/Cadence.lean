import Mathlib
import TreeWatch.Proofs.Session.Listing
import TreeWatch.Proofs.Session.Spacing

/-!
# How loops keep time

After each of its polls, and after its beginning, a loop waits for what is left of its interval and
for no longer. Then it polls, at the very moment at which the next poll is due or its last one is
done with, unless the steps that are done in the meantime take time themselves.
-/

namespace TreeWatch.Session

/-! ## Stretches of time -/

theorem add_length_mul_le {readings : List ℚ} {distance first last : ℚ}
    (apart : readings.Pairwise fun a b => a + distance ≤ b)
    (within : ∀ x ∈ readings, first ≤ x ∧ x ≤ last) (some : readings ≠ []) :
    first + ((readings.length : ℚ) - 1) * distance ≤ last := by
  induction readings generalizing first with
  | nil => exact absurd rfl some
  | cons x rest ih =>
      obtain ⟨hfirst, hrest⟩ := List.pairwise_cons.mp apart
      obtain ⟨hx, hlast⟩ := within x List.mem_cons_self
      cases rest with
      | nil => simpa using hx.trans hlast
      | cons y others =>
          have hwithin : ∀ z ∈ y :: others, first + distance ≤ z ∧ z ≤ last := fun z hz =>
            ⟨(add_le_add_left hx distance).trans (hfirst z hz),
              (within z (List.mem_cons_of_mem x hz)).2⟩
          have hshifted := ih hrest hwithin (List.cons_ne_nil y others)
          have hlength : (((x :: y :: others).length : ℚ) - 1) =
              ((y :: others).length : ℚ) - 1 + 1 := by
            push_cast [List.length_cons]
            ring
          rw [hlength]
          linarith

theorem length_filter_le_div {readings : List ℚ} {distance : ℚ} (positive : 0 < distance)
    (apart : readings.Pairwise fun a b => a + distance ≤ b) (first : ℚ) {span : ℚ}
    (nonneg : 0 ≤ span) :
    ((readings.filter fun x => first ≤ x ∧ x ≤ first + span).length : ℚ) ≤ span / distance + 1 := by
  generalize hinside : (readings.filter fun x => first ≤ x ∧ x ≤ first + span) = inside
  by_cases hnone : inside = []
  · rw [hnone]
    have := div_nonneg nonneg positive.le
    simpa using add_nonneg this zero_le_one
  · have hwithin : ∀ x ∈ inside, first ≤ x ∧ x ≤ first + span := by
      intro x hx
      rw [← hinside] at hx
      simpa using (List.mem_filter.mp hx).2
    have hroom := add_length_mul_le (hinside ▸ apart.filter _) hwithin hnone
    have hspan : ((inside.length : ℚ) - 1) * distance ≤ span := by linarith
    linarith [(le_div_iff₀ positive).mpr hspan]

theorem length_filter_le_one {readings : List ℚ} {distance : ℚ}
    (apart : readings.Pairwise fun a b => a + distance ≤ b) (first : ℚ) :
    (readings.filter fun x => first ≤ x ∧ x < first + distance).length ≤ 1 := by
  generalize hinside : (readings.filter fun x => first ≤ x ∧ x < first + distance) = inside
  have hmem : ∀ x ∈ inside, first ≤ x ∧ x < first + distance := by
    intro x hx
    rw [← hinside] at hx
    simpa using (List.mem_filter.mp hx).2
  have hapart : inside.Pairwise fun a b => a + distance ≤ b := hinside ▸ apart.filter _
  match inside, hmem, hapart with
  | [], _, _ => exact Nat.zero_le 1
  | [_], _, _ => exact le_rfl
  | x :: y :: others, hmem, hapart =>
    have hxy := (List.pairwise_cons.mp hapart).1 y List.mem_cons_self
    have hx := (hmem x List.mem_cons_self).1
    have hy := (hmem y (by simp)).2
    linarith

/-! ## From one poll to the next -/

/-- The wait that a loop asks for whose last poll started, or which itself began, at a reading. -/
def waitSince (interval start : ℚ) (s : Session ℚ) : ℚ :=
  max 0 (start + interval - s.clock)

/-- How the loop at a place goes on at a moment, when its last poll started, or it began itself, at
a reading. -/
inductive GoesOn (place : Nat) (interval start : ℚ) (s : Session ℚ) : List (Move ℚ) → Prop
  | left {rest : List (Move ℚ)} : GoesOn place interval start s (.leave place :: rest)
  | dismissed {rest : List (Move ℚ)} : GoesOn place interval start s
      (.ask place (waitSince interval start s) :: .leave place :: rest)
  /-- It is told that its task was cancelled before. -/
  | cut {tasks : List String} {rest : List (Move ℚ)} : GoesOn place interval start s
      (.ask place (waitSince interval start s) :: .owe tasks :: .sayCancelled :: .leave place ::
        rest)
  | abandoned {waiting rest : List (Move ℚ)} (others : ∀ m ∈ waiting, m.isOwn place = false) :
      GoesOn place interval start s (.ask place (waitSince interval start s) ::
        .pass (waitSince interval start s) :: (waiting ++ .leave place :: rest))
  /-- The next poll starts an interval after the last one and after all that came of it, and just
  then if what is done during the wait takes no time. -/
  | polls {waiting rest : List (Move ℚ)} {receiver : Receiver} {waited ready : Session ℚ}
      (others : ∀ m ∈ waiting, m.isOwn place = false)
      (isWaited : waited = s.pass (waitSince interval start s))
      (isReady : ready = waited.makeAll waiting) (apart : start + interval ≤ ready.clock)
      (afterwards : s.clock ≤ ready.clock)
      (atOnce : ready.clock = waited.clock → ready.clock = max (start + interval) s.clock) :
      GoesOn place interval start s (.ask place (waitSince interval start s) ::
        .pass (waitSince interval start s) :: (waiting ++ .poll place (some receiver) :: rest))

theorem GoesOn.append {place : Nat} {interval start : ℚ} {s : Session ℚ} {ms : List (Move ℚ)}
    (h : GoesOn place interval start s ms) (ns : List (Move ℚ)) :
    GoesOn place interval start s (ms ++ ns) := by
  cases h with
  | left => exact .left
  | dismissed => exact .dismissed
  | cut => exact .cut
  | abandoned others =>
      rw [List.cons_append, List.cons_append, List.append_assoc]
      exact .abandoned others
  | polls others isWaited isReady apart afterwards atOnce =>
      rw [List.cons_append, List.cons_append, List.append_assoc]
      exact .polls others isWaited isReady apart afterwards atOnce

theorem Rhythm.goesOn {place : Nat} {interval start : ℚ} {s t : Session ℚ} {ms : List (Move ℚ)}
    (h : Rhythm (some (place, start + interval)) s ms t) (steady : s.SteadyAll place interval ms)
    (active : ∃ k, s.kindAt? place = some k ∧ k ≠ .idle) : GoesOn place interval start s ms := by
  obtain ⟨k, hk, hnotIdle⟩ := active
  have hspan : s.spanUntil (start + interval) = waitSince interval start s := spanUntil_eq s _
  have hown : ∀ {u : Session ℚ} {waiting : List (Move ℚ)},
      Rhythm none (s.pass (s.spanUntil (start + interval))) waiting u →
        ∀ m ∈ waiting, m.isOwn place = false := fun wait =>
    wait.isOwn_eq_false (s := s.pass _) hk hnotIdle (by simp)
  cases h with
  | leave fits rest => exact .left
  | dismiss fits rest =>
      rw [hspan]
      exact .dismissed
  | cut fits rest =>
      rw [hspan]
      exact .cut
  | abandon wait fits rest =>
      have hothers := hown wait
      rw [hspan]
      exact .abandoned hothers
  | @poll _ receiver _ _ _ u waiting ms wait fits rest =>
      have hothers := hown wait
      have hlater := (steady.wait wait).1.later
      have hclock := clock_pass_spanUntil s (start + interval)
      rw [wait.makeAll_eq] at hlater
      have hmade := wait.makeAll_eq
      rw [hspan] at hclock hlater hmade ⊢
      have hready := hclock.ge.trans hlater.clock
      exact .polls hothers rfl hmade.symm ((le_max_left _ _).trans hready)
        ((le_max_right _ _).trans hready) fun heq => heq.trans hclock

/-- After every beginning of a loop at a place and after every poll of it with the handing of its
events, the loop goes on as it has to. -/
def Sustained (place : Nat) (interval : ℚ) : Session ℚ → List (Move ℚ) → Prop
  | _, [] => True
  | s, m :: ms =>
    (∀ token?, m = .enter place token? → GoesOn place interval s.clock (s.make m) ms) ∧
      (∀ receiver, m = .poll place (some receiver) →
        ∃ handing rest, handing = (s.pollAt place).1.flatMap (handMoves place receiver) ∧
          ms = handing ++ rest ∧
          GoesOn place interval s.clock ((s.make m).makeAll handing) rest) ∧
      Sustained place interval (s.make m) ms

section Sustained

variable {place : Nat} {interval : ℚ} {s : Session ℚ} {ms ns : List (Move ℚ)}

theorem sustained_append (first : Sustained place interval s ms)
    (second : Sustained place interval (s.makeAll ms) ns) :
    Sustained place interval s (ms ++ ns) := by
  induction ms generalizing s with
  | nil => exact second
  | cons m ms ih =>
      refine ⟨fun token? hm => (first.1 token? hm).append ns, fun receiver hm => ?_,
        ih first.2.2 second⟩
      obtain ⟨handing, rest, hhanding, rfl, hgoesOn⟩ := first.2.1 receiver hm
      exact ⟨handing, rest ++ ns, hhanding, List.append_assoc _ _ _, hgoesOn.append ns⟩

theorem sustained_handing (i : Nat) (receiver : Receiver) (es : List Event) (s : Session ℚ) :
    Sustained place interval s (es.flatMap (handMoves i receiver)) := by
  induction es generalizing s with
  | nil => trivial
  | cons e rest ih =>
      rw [List.flatMap_cons]
      refine sustained_append ?_ (ih _)
      rw [handMoves]
      cases receiver.failure? e <;> cases receiver.stopsOn.contains e.path <;> simp [Sustained]

theorem Sustained.of_append (h : Sustained place interval s (ms ++ ns)) :
    Sustained place interval (s.makeAll ms) ns := by
  induction ms generalizing s with
  | nil => exact h
  | cons m ms ih => exact ih h.2.2

end Sustained

theorem Rhythm.sustained {owner : Option (Nat × ℚ)} {s t : Session ℚ} {ms : List (Move ℚ)}
    (h : Rhythm owner s ms t) {place : Nat} {interval : ℚ}
    (steady : s.SteadyAll place interval ms) : Sustained place interval s ms := by
  induction h with
  | done => trivial
  | @step s t m ms aside fits rest ih =>
      refine ⟨?_, ?_, ih steady.2.2⟩
      · rintro token? rfl
        simp [Move.isAside] at aside
      · rintro receiver rfl
        simp [Move.isAside] at aside
  | @enter i token? s t ms fits rest ih =>
      refine ⟨fun other? heq => ?_, by simp, ih steady.2.2⟩
      obtain ⟨rfl, rfl⟩ := Move.enter.inj heq
      rw [(steady.nextStart_make_enter fits).2] at rest
      exact rest.goesOn steady.2.2 (kindAt?_make_enter fits)
  | leave fits rest ih => exact ⟨by simp, by simp, ih steady.2.2⟩
  | dismiss fits rest ih => exact ⟨by simp, by simp, by simp, by simp, ih steady.2.2.2.2⟩
  | cut fits rest ih =>
      exact ⟨by simp, by simp, by simp, by simp, by simp, by simp, by simp, by simp,
        ih steady.2.2.2.2.2.2.2.2⟩
  | @abandon i next s t u waiting ms wait fits rest ihWait ihRest =>
      obtain ⟨hwait, hrest⟩ := steady.wait wait
      refine ⟨by simp, by simp, by simp, by simp, sustained_append (ihWait hwait) ?_⟩
      change Sustained place interval ((s.pass (s.spanUntil next)).makeAll waiting) _
      rw [wait.makeAll_eq]
      exact ⟨by simp, by simp, ihRest hrest.2.2⟩
  | @poll i receiver next s t u waiting ms wait fits rest ihWait ihRest =>
      obtain ⟨hwait, hpolled⟩ := steady.wait wait
      obtain ⟨hpoll, hrest⟩ := steadyAll_append.mp hpolled
      refine ⟨by simp, by simp, by simp, by simp, sustained_append (ihWait hwait) ?_⟩
      change Sustained place interval ((s.pass (s.spanUntil next)).makeAll waiting) _
      rw [wait.makeAll_eq, pollMoves, List.cons_append]
      refine ⟨by simp, fun receiver' heq => ?_, ?_⟩
      · obtain ⟨rfl, hreceiver⟩ := Move.poll.inj heq
        obtain rfl := Option.some.inj hreceiver
        obtain ⟨p, hp, hrunning, -⟩ := id fits
        have hactive := Poller.isRunning_iff_kind.mp hrunning
        rw [hpoll.first.nextStart_eq hp] at rest
        exact ⟨_, ms, rfl, rfl, rest.goesOn hrest
          ⟨_, kindAt?_pollMoves fits (kindAt?_eq_some_iff.mpr ⟨p, hp, rfl⟩) hactive, hactive⟩⟩
      · exact sustained_append (sustained_handing i receiver _ _) (ihRest hrest)

/-! ## Sessions -/

/-- While steps are done in a session, the loops of the poller at a place keep its interval. -/
structure Spaced (s : Session ℚ) (steps : List Step) (place : Nat) (interval : ℚ) : Prop where
  made : (performAll steps s).2 = s.makeAll (allMoves steps s)
  begins : ∀ before after token?, allMoves steps s = before ++ .enter place token? :: after →
    GoesOn place interval (s.makeAll before).clock (s.makeAll (before ++ [.enter place token?]))
      after
  goesOn : ∀ before after receiver,
    allMoves steps s = before ++ .poll place (some receiver) :: after →
      ∃ handing rest,
        handing = ((s.makeAll before).pollAt place).1.flatMap (handMoves place receiver) ∧
        after = handing ++ rest ∧
        GoesOn place interval (s.makeAll before).clock
          (s.makeAll (before ++ .poll place (some receiver) :: handing)) rest
  waits : ∀ span, .ask place span ∈ allMoves steps s → 0 ≤ span ∧ span ≤ interval
  /-- Whichever loops they belong to, polls start an interval apart. -/
  apart : (starts place s (allMoves steps s)).Pairwise fun a b => a + interval ≤ b
  /-- At any reading, such as the one at which a slow poll is done with, at most one poll starts
  within an interval. -/
  noBurst : ∀ reading, ((starts place s (allMoves steps s)).filter fun x =>
    reading ≤ x ∧ x < reading + interval).length ≤ 1
  window : ∀ reading span, 0 ≤ span →
    (((starts place s (allMoves steps s)).filter fun x =>
      reading ≤ x ∧ x ≤ reading + span).length : ℚ) ≤ span / interval + 1

/-- A loop replies with the waits that it asked for. One whose interval no thread can wait for fails
at its first wait and asks for none. -/
structure TellsWaits (s : Session ℚ) (id : String) (place : Nat) (p : Poller) : Prop where
  run : p.isRunning = false → ∀ token, p.cannotBegin s.world token = false →
    ∀ receiver ticks, ∃ events answers isSet,
      (perform (.run id token receiver ticks) s).1 =
        .ok (.loop (asked place (moves (.run id token receiver ticks) s)) events answers false
          (some isSet) false)
  runTooLong : p.isRunning = false → ∀ token, p.cannotBegin s.world token = true →
    ∀ receiver ticks, (perform (.run id token receiver ticks) s).1 = .error .tooLarge ∧
      asked place (moves (.run id token receiver ticks) s) = []
  runCoroutine : p.isRunning = false → ∀ cancelAtEnd receiver ticks task, ∃ events answers,
    (perform (.runCoroutine id cancelAtEnd receiver ticks task) s).1 =
      .ok (.loop (asked place (moves (.runCoroutine id cancelAtEnd receiver ticks task) s)) events
        answers false none false)

theorem tellsWaits_of_named {s : Session ℚ} {id : String} {place : Nat} {p : Poller}
    (named : s.named? id = some (place, p)) : TellsWaits s id place p where
  run idle token waits receiver ticks := by
    obtain ⟨trace, isSet, hlists⟩ := exists_lists_of_run named idle token receiver ticks waits
    refine ⟨trace.events, trace.ticks, isSet, ?_⟩
    rw [hlists.reply, hlists.read (reads_asked place)]
    rfl
  runTooLong idle token cannot receiver ticks := by
    obtain ⟨hfailed, hmoves⟩ := run_of_cannotBegin named idle cannot receiver ticks
    refine ⟨hfailed, ?_⟩
    rw [hmoves]
    rfl
  runCoroutine idle cancelAtEnd receiver ticks task := by
    obtain ⟨trace, hlists⟩ :=
      exists_lists_of_runCoroutine named idle cancelAtEnd receiver ticks task
    refine ⟨trace.events, trace.ticks, ?_⟩
    rw [hlists.reply, hlists.read (reads_asked place)]
    rfl

/-- Whatever is done in a session and whatever its listings take, the polls of a poller whose
interval is positive keep to it, and its loops tell how long they waited. -/
theorem spaced_of_positive {s : Session ℚ} {steps : List Step} (delay : 0 ≤ s.delay)
    (forward : ∀ seconds, .slow seconds ∈ allMoves steps s →
      0 ≤ (Timeline.ofSeconds seconds : ℚ)) {place : Nat} {p : Poller}
    (h : (performAll steps s).2.pollerAt? place = some p)
    (positive : 0 < (Timeline.ofSeconds p.spec.interval : ℚ)) :
    Spaced s steps place (Timeline.ofSeconds p.spec.interval) ∧
      ∀ (s : Session ℚ) id place p, s.named? id = some (place, p) → TellsWaits s id place p := by
  have hrhythm := rhythm_allMoves steps s
  have hfits := hrhythm.fitsAll
  have hsteady : s.SteadyAll place (Timeline.ofSeconds p.spec.interval) (allMoves steps s) := by
    refine steadyAll_of_fitsAll hfits (hrhythm.isForward forward) delay fun q hq => ?_
    rw [hrhythm.makeAll_eq] at hq
    rw [Option.some.inj (h.symm.trans hq)]
  have hsustained := hrhythm.sustained hsteady
  have hapart := hrhythm.pairwise_starts hsteady (by simp)
  refine ⟨⟨hrhythm.makeAll_eq.symm, ?_, ?_, hrhythm.span_le positive.le hsteady (by simp), hapart,
    length_filter_le_one hapart, fun reading span => length_filter_le_div positive hapart
      reading⟩, fun s id place p => tellsWaits_of_named⟩
  · intro before after token? hsplit
    rw [hsplit] at hsustained
    rw [makeAll_append]
    exact hsustained.of_append.1 token? rfl
  · intro before after receiver hsplit
    rw [hsplit] at hsustained
    obtain ⟨handing, rest, hhanding, hafter, hgoesOn⟩ := hsustained.of_append.2.1 receiver rfl
    refine ⟨handing, rest, hhanding, hafter, ?_⟩
    rw [makeAll_append]
    exact hgoesOn

def punctualPoller : Poller :=
  { spec := ⟨.absolute ["w"], {}, 1.0⟩ }

def punctualSession : Session ℚ :=
  { (ofWorld {} : Session ℚ) with pollers := [punctualPoller], names := [("p", 0)] }

def slowSteps : List Step :=
  [.run "p" .own {} [.mk [] 2.5 false false, .mk [] 0.0 false false, .mk [] 0.0 false false]]

theorem spaced_slowSteps :
    Spaced punctualSession slowSteps 0 1 ∧ TellsWaits punctualSession "p" 0 punctualPoller := by
  have hforward : ∀ seconds, .slow seconds ∈ allMoves slowSteps punctualSession →
      0 ≤ (Timeline.ofSeconds seconds : ℚ) := by
    have hall : (allMoves slowSteps punctualSession).all (fun
        | .slow seconds => decide (0 ≤ (Timeline.ofSeconds seconds : ℚ))
        | _ => true) = true := by decide +kernel
    intro seconds hm
    simpa using List.all_eq_true.mp hall _ hm
  have hlast : ((performAll slowSteps punctualSession).2.pollerAt? 0).any
      (fun p => decide ((Timeline.ofSeconds p.spec.interval : ℚ) = 1)) = true := by decide +kernel
  obtain ⟨p, hp, hinterval⟩ := (Option.any_eq_true _ _).mp hlast
  rw [decide_eq_true_eq] at hinterval
  have hspaced := spaced_of_positive le_rfl hforward hp (hinterval ▸ zero_lt_one)
  rw [hinterval] at hspaced
  exact ⟨hspaced.1, hspaced.2 punctualSession "p" 0 punctualPoller rfl⟩

example : starts 0 punctualSession (allMoves slowSteps punctualSession) = [1, 7 / 2, 9 / 2] := by
  decide +kernel

end TreeWatch.Session
