import Mathlib
import TreeWatch.Proofs.Session.ExactTime
import TreeWatch.Proofs.Session.Rhythm

/-!
# The spacing of polls

The polls of a poller start an interval apart at least, whatever they take and whatever is done in
between. A poll that takes longer than the interval is followed by the next one at once, but what
was missed is not made up for: in any stretch of time no more polls start than there is room for.
-/

namespace TreeWatch

theorem Poller.spec_after {τ : Type} (place : Nat) (w : World) (p : Poller) (m : Move τ) :
    (p.after place w m).spec = p.spec := by
  have hknown := congrArg (·.1) (known_after place w p m)
  cases m with
  | poll i receiver? =>
      dsimp only at hknown
      split at hknown <;> exact hknown
  | _ => exact hknown

namespace Session

/-! ## Sessions whose clock runs forward -/

/-- The exact interval of the poller at a place, if there is one, and a next listing that takes no
negative time. -/
structure Steady (place : Nat) (interval : ℚ) (s : Session ℚ) : Prop where
  interval : ∀ p, s.pollerAt? place = some p → Timeline.ofSeconds p.spec.interval = interval
  delay : 0 ≤ s.delay

def SteadyAll (place : Nat) (interval : ℚ) : Session ℚ → List (Move ℚ) → Prop
  | s, [] => s.Steady place interval
  | s, m :: ms => s.Steady place interval ∧ m.IsForward ∧ (s.make m).SteadyAll place interval ms

section Steady

variable {place : Nat} {interval : ℚ} {s : Session ℚ} {ms ns : List (Move ℚ)}

theorem SteadyAll.first (h : s.SteadyAll place interval ms) : s.Steady place interval := by
  cases ms with
  | nil => exact h
  | cons m ms => exact h.1

theorem steadyAll_append :
    s.SteadyAll place interval (ms ++ ns) ↔
      s.SteadyAll place interval ms ∧ (s.makeAll ms).SteadyAll place interval ns := by
  induction ms generalizing s with
  | nil => exact ⟨fun h => ⟨h.first, h⟩, And.right⟩
  | cons m ms ih => simp [SteadyAll, ih, and_assoc]

theorem SteadyAll.later (h : s.SteadyAll place interval ms) : Later s (s.makeAll ms) := by
  induction ms generalizing s with
  | nil => exact ⟨le_rfl, h.delay⟩
  | cons m ms ih => exact (later_make h.1.delay h.2.1).trans (ih h.2.2)

/-- The interval of a poller never changes, so that it is known from the last session. -/
theorem steadyAll_of_fitsAll (fits : s.FitsAll ms) (forward : ∀ m ∈ ms, m.IsForward)
    (delay : 0 ≤ s.delay)
    (known : ∀ p, (s.makeAll ms).pollerAt? place = some p →
      Timeline.ofSeconds p.spec.interval = interval) : s.SteadyAll place interval ms := by
  induction ms generalizing s with
  | nil => exact ⟨known, delay⟩
  | cons m ms ih =>
      rw [List.forall_mem_cons] at forward
      have hrest := ih fits.2 forward.2 (later_make delay forward.1).delay known
      refine ⟨⟨fun p hp => ?_, delay⟩, forward.1, hrest⟩
      have hnext := hrest.first.interval _ (pollerAt?_make fits.1 hp)
      rwa [Poller.spec_after] at hnext

theorem Steady.nextStart_eq (h : s.Steady place interval) {p : Poller}
    (hp : s.pollerAt? place = some p) : s.nextStart place = s.clock + interval := by
  rw [nextStart, hp, ← h.interval p hp]
  rfl

theorem SteadyAll.nextStart_make_enter {token? : Option Token}
    (h : s.SteadyAll place interval (.enter place token? :: ms))
    (fits : s.Fits (.enter place token?)) :
    (s.make (.enter place token?)).clock = s.clock ∧
      (s.make (.enter place token?)).nextStart place = s.clock + interval := by
  obtain ⟨p, hp, _⟩ := id fits
  have hclock : (s.make (.enter place token?)).clock = s.clock := by
    cases token? <;> rw [make, changePoller_of_some hp] <;> rfl
  exact ⟨hclock, (h.2.2.first.nextStart_eq (pollerAt?_make fits hp)).trans (by rw [hclock])⟩

theorem SteadyAll.wait {u : Session ℚ} {i : Nat} {due : ℚ} {waiting : List (Move ℚ)}
    (h : s.SteadyAll place interval
      (.ask i (s.spanUntil due) :: .pass (s.spanUntil due) :: (waiting ++ ms)))
    (wait : Rhythm none (s.pass (s.spanUntil due)) waiting u) :
    (s.pass (s.spanUntil due)).SteadyAll place interval waiting ∧
      u.SteadyAll place interval ms := by
  rw [← wait.makeAll_eq]
  exact steadyAll_append.mp h.2.2.2.2

end Steady

/-! ## Waits -/

theorem spanUntil_eq (s : Session ℚ) (due : ℚ) : s.spanUntil due = max 0 (due - s.clock) :=
  Timeline.remaining_eq due s.clock

theorem clock_pass_spanUntil (s : Session ℚ) (due : ℚ) :
    (s.pass (s.spanUntil due)).clock = max due s.clock := by
  have h : (s.pass (s.spanUntil due)).clock = s.clock + max 0 (due - s.clock) := by
    rw [← spanUntil_eq]
    rfl
  rw [h, add_max, add_zero, add_sub_cancel, max_comm]

/-- Loops wait for spans that are not negative, so that no time is taken back as long as listings
take none. -/
theorem Rhythm.isForward {owner : Option (Nat × ℚ)} {s t : Session ℚ} {ms : List (Move ℚ)}
    (h : Rhythm owner s ms t)
    (slow : ∀ seconds, .slow seconds ∈ ms → 0 ≤ (Timeline.ofSeconds seconds : ℚ)) :
    ∀ m ∈ ms, m.IsForward := by
  have hspan : ∀ (s : Session ℚ) due, Move.IsForward (.pass (s.spanUntil due)) := by
    intro s due
    rw [Move.IsForward, spanUntil_eq]
    exact le_max_left _ _
  have hpolled : ∀ (s : Session ℚ) place receiver, ∀ m ∈ s.pollMoves place receiver,
      m.IsForward := by
    intro s place receiver m hm
    obtain rfl | ⟨e, rfl⟩ | rfl | ⟨e, text, rfl⟩ := mem_pollMoves hm <;> trivial
  induction h with
  | done => simp
  | @step s t m ms aside fits rest ih =>
      rw [List.forall_mem_cons]
      refine ⟨?_, ih fun seconds hm => slow seconds (List.mem_cons_of_mem m hm)⟩
      cases m with
      | slow seconds => exact slow seconds List.mem_cons_self
      | pass span => simp [Move.isAside] at aside
      | _ => trivial
  | enter fits rest ih | leave fits rest ih =>
      rw [List.forall_mem_cons]
      exact ⟨trivial, ih fun seconds hm => slow seconds (List.mem_cons_of_mem _ hm)⟩
  | dismiss fits rest ih =>
      rw [List.forall_mem_cons, List.forall_mem_cons]
      exact ⟨trivial, trivial, ih fun seconds hm => slow seconds (by simp [hm])⟩
  | cut fits rest ih =>
      rw [List.forall_mem_cons, List.forall_mem_cons, List.forall_mem_cons, List.forall_mem_cons]
      exact ⟨trivial, trivial, trivial, trivial, ih fun seconds hm => slow seconds (by simp [hm])⟩
  | abandon wait fits rest ihWait ihRest =>
      rw [List.forall_mem_cons, List.forall_mem_cons, List.forall_mem_append, List.forall_mem_cons]
      exact ⟨trivial, hspan _ _, ihWait fun seconds hm => slow seconds (by simp [hm]), trivial,
        ihRest fun seconds hm => slow seconds (by simp [hm])⟩
  | poll wait fits rest ihWait ihRest =>
      rw [List.forall_mem_cons, List.forall_mem_cons, List.forall_mem_append,
        List.forall_mem_append]
      exact ⟨trivial, hspan _ _, ihWait fun seconds hm => slow seconds (by simp [hm]),
        hpolled _ _ _, ihRest fun seconds hm => slow seconds (by simp [hm])⟩

/-- Every wait of a loop is no longer than its interval. -/
theorem Rhythm.span_le {owner : Option (Nat × ℚ)} {s t : Session ℚ} {ms : List (Move ℚ)}
    (h : Rhythm owner s ms t) {place : Nat} {interval : ℚ} (nonneg : 0 ≤ interval)
    (steady : s.SteadyAll place interval ms)
    (due : ∀ due, owner = some (place, due) → due ≤ s.clock + interval) :
    ∀ span, .ask place span ∈ ms → 0 ≤ span ∧ span ≤ interval := by
  have asked : ∀ {s : Session ℚ} {i : Nat} {next span : ℚ},
      (∀ due, some (i, next) = some (place, due) → due ≤ s.clock + interval) →
        (.ask place span : Move ℚ) = .ask i (s.spanUntil next) → 0 ≤ span ∧ span ≤ interval := by
    intro s i next span hdue heq
    obtain ⟨rfl, rfl⟩ := Move.ask.inj heq
    have hle := hdue next rfl
    rw [spanUntil_eq]
    exact ⟨le_max_left _ _, max_le nonneg (by linarith)⟩
  induction h with
  | done => simp
  | @step s t m ms aside fits rest ih =>
      intro span hspan
      rcases List.mem_cons.mp hspan with rfl | hspan
      · simp [Move.isAside] at aside
      · exact ih steady.2.2 (by simp) span hspan
  | @enter i token? s t ms fits rest ih =>
      intro span hspan
      simp only [List.mem_cons, reduceCtorEq, false_or] at hspan
      refine ih steady.2.2 (fun due heq => ?_) span hspan
      obtain ⟨rfl, rfl⟩ := Prod.mk.inj (Option.some.inj heq)
      obtain ⟨hclock, hnext⟩ := steady.nextStart_make_enter fits
      rw [hnext, hclock]
  | leave fits rest ih =>
      intro span hspan
      simp only [List.mem_cons, reduceCtorEq, false_or] at hspan
      exact ih steady.2.2 (by simp) span hspan
  | dismiss fits rest ih =>
      intro span hspan
      rcases List.mem_cons.mp hspan with heq | hspan
      · exact asked due heq
      · simp only [List.mem_cons, reduceCtorEq, false_or] at hspan
        exact ih steady.2.2.2.2 (by simp) span hspan
  | cut fits rest ih =>
      intro span hspan
      rcases List.mem_cons.mp hspan with heq | hspan
      · exact asked due heq
      · simp only [List.mem_cons, reduceCtorEq, false_or] at hspan
        exact ih steady.2.2.2.2.2.2.2.2 (by simp) span hspan
  | abandon wait fits rest ihWait ihRest =>
      obtain ⟨hwait, hrest⟩ := steady.wait wait
      intro span hspan
      rcases List.mem_cons.mp hspan with heq | hspan
      · exact asked due heq
      · simp only [List.mem_cons, List.mem_append, reduceCtorEq, false_or] at hspan
        rcases hspan with hspan | hspan
        · exact ihWait hwait (by simp) span hspan
        · exact ihRest hrest.2.2 (by simp) span hspan
  | @poll i receiver next s t u waiting ms wait fits rest ihWait ihRest =>
      obtain ⟨hwait, hpolled⟩ := steady.wait wait
      obtain ⟨hpoll, hrest⟩ := steadyAll_append.mp hpolled
      intro span hspan
      rcases List.mem_cons.mp hspan with heq | hspan
      · exact asked due heq
      · simp only [List.mem_cons, List.mem_append, reduceCtorEq, false_or] at hspan
        rcases hspan with hspan | hspan | hspan
        · exact ihWait hwait (by simp) span hspan
        · obtain heq | ⟨e, heq⟩ | heq | ⟨e, text, heq⟩ := mem_pollMoves hspan <;> simp at heq
        · refine ihRest hrest (fun due heq => ?_) span hspan
          obtain ⟨rfl, rfl⟩ := Prod.mk.inj (Option.some.inj heq)
          obtain ⟨p, hp, _⟩ := fits
          rw [hpoll.first.nextStart_eq hp]
          exact add_le_add_left hpoll.later.clock interval

/-! ## Starts of polls -/

/-- The reading at which a move starts a poll of the loop at a place, if it starts one. -/
def started (place : Nat) (s : Session ℚ) : Move ℚ → List ℚ
  | .poll i (some _) => if i = place then [s.clock] else []
  | _ => []

def starts (place : Nat) : Session ℚ → List (Move ℚ) → List ℚ
  | _, [] => []
  | s, m :: ms => started place s m ++ starts place (s.make m) ms

theorem starts_append (place : Nat) (s : Session ℚ) (ms ns : List (Move ℚ)) :
    starts place s (ms ++ ns) = starts place s ms ++ starts place (s.makeAll ms) ns := by
  induction ms generalizing s with
  | nil => rfl
  | cons m ms ih => rw [List.cons_append, starts, ih, starts, List.append_assoc, makeAll_cons]

theorem starts_eq_nil {place : Nat} {s : Session ℚ} {ms : List (Move ℚ)}
    (h : ∀ m ∈ ms, m.isOwn place = false) : starts place s ms = [] := by
  induction ms generalizing s with
  | nil => rfl
  | cons m ms ih =>
      rw [List.forall_mem_cons] at h
      rw [starts, ih h.2, List.append_nil]
      cases m with
      | poll i receiver? => cases receiver? <;> simp_all [started, Move.isOwn]
      | _ => rfl

theorem starts_pollMoves (place : Nat) (s : Session ℚ) (i : Nat) (receiver : Receiver) :
    starts place s (s.pollMoves i receiver) = if i = place then [s.clock] else [] := by
  have hhanding : ∀ (es : List Event) (t : Session ℚ),
      starts place t (es.flatMap (handMoves i receiver)) = [] := by
    intro es
    induction es with
    | nil => exact fun _ => rfl
    | cons e rest ih =>
        intro t
        rw [List.flatMap_cons, starts_append, ih, handMoves]
        cases receiver.failure? e <;> cases receiver.stopsOn.contains e.path <;> rfl
  rw [pollMoves, starts, hhanding, List.append_nil]
  rfl

theorem starts_wait {place i : Nat} {due : ℚ} {s u : Session ℚ} {waiting : List (Move ℚ)}
    (wait : Rhythm none (s.pass (s.spanUntil due)) waiting u) (ms : List (Move ℚ)) :
    starts place s (.ask i (s.spanUntil due) :: .pass (s.spanUntil due) :: (waiting ++ ms)) =
      starts place (s.pass (s.spanUntil due)) waiting ++ starts place u ms := by
  rw [← wait.makeAll_eq]
  exact starts_append place (s.pass (s.spanUntil due)) waiting ms

theorem SteadyAll.starts_le {place : Nat} {interval : ℚ} {s : Session ℚ} {ms : List (Move ℚ)}
    (h : s.SteadyAll place interval ms) (other : Nat) :
    ∀ x ∈ starts other s ms, x ≤ (s.makeAll ms).clock := by
  induction ms generalizing s with
  | nil => simp [starts]
  | cons m ms ih =>
      intro x hx
      rcases List.mem_append.mp hx with hx | hx
      · have hstart : x = s.clock := by
          cases m with
          | poll i receiver? => cases receiver? <;> simp_all [started]
          | _ => simp [started] at hx
        rw [hstart]
        exact h.later.clock
      · exact ih h.2.2 x hx

/-- Nothing starts before a reading that is at most an interval away, if the next poll of an active
loop is not due before it. -/
theorem Rhythm.le_starts {owner : Option (Nat × ℚ)} {s t : Session ℚ} {ms : List (Move ℚ)}
    (h : Rhythm owner s ms t) {place : Nat} {interval : ℚ}
    (steady : s.SteadyAll place interval ms) {reading : ℚ}
    (near : reading ≤ s.clock + interval)
    (due : ∀ due, owner = some (place, due) → reading ≤ due) :
    ∀ x ∈ starts place s ms, reading ≤ x := by
  have later : ∀ {s u : Session ℚ}, reading ≤ s.clock + interval → Later s u →
      reading ≤ u.clock + interval := fun h hu => h.trans (add_le_add_left hu.clock interval)
  induction h with
  | done => simp [starts]
  | @step s t m ms aside fits rest ih =>
      have hnone : started place s m = [] := by
        cases m with
        | poll i receiver? => cases receiver? <;> simp_all [Move.isAside, started]
        | _ => rfl
      rw [starts, hnone]
      exact ih steady.2.2 (later near (later_make steady.1.delay steady.2.1)) (by simp)
  | @enter i token? s t ms fits rest ih =>
      refine ih steady.2.2 (later near (later_make steady.1.delay steady.2.1)) fun due heq => ?_
      obtain ⟨rfl, rfl⟩ := Prod.mk.inj (Option.some.inj heq)
      rw [(steady.nextStart_make_enter fits).2]
      exact near
  | leave fits rest ih =>
      exact ih steady.2.2 (later near (later_make steady.1.delay steady.2.1)) (by simp)
  | dismiss fits rest ih =>
      exact ih steady.2.2.2.2 (later near (later_make steady.2.2.1.delay steady.2.2.2.1)) (by simp)
  | @cut i next tasks s t ms fits rest ih =>
      have htold := steady.2.2.2.2.2.2
      exact ih htold.2.2 (later (s := s.makeAll [.owe tasks, .sayCancelled]) near
        (later_make htold.1.delay htold.2.1)) (by simp)
  | abandon wait fits rest ihWait ihRest =>
      obtain ⟨hwait, hrest⟩ := steady.wait wait
      have hpassed := later near (later_make steady.2.2.1.delay steady.2.2.2.1)
      have hwaited := later hpassed (wait.makeAll_eq ▸ hwait.later)
      rw [starts_wait wait, List.forall_mem_append]
      exact ⟨ihWait hwait hpassed (by simp),
        ihRest hrest.2.2 (later hwaited (later_make hrest.1.delay hrest.2.1)) (by simp)⟩
  | @poll i receiver next s t u waiting ms wait fits rest ihWait ihRest =>
      obtain ⟨hwait, hpolled⟩ := steady.wait wait
      obtain ⟨hpoll, hrest⟩ := steadyAll_append.mp hpolled
      have hpassed := later near (later_make steady.2.2.1.delay steady.2.2.2.1)
      have hlater := wait.makeAll_eq ▸ hwait.later
      have hwaited := later hpassed hlater
      rw [starts_wait wait, starts_append, starts_pollMoves, List.forall_mem_append,
        List.forall_mem_append]
      refine ⟨ihWait hwait hpassed (by simp), ?_,
        ihRest hrest (later hwaited hpoll.later) fun due' heq => ?_⟩
      · split
        · next hi =>
            rw [List.forall_mem_singleton]
            have hdue := due next (by rw [hi])
            have hready := (clock_pass_spanUntil s next).ge
            exact hdue.trans ((le_max_left _ _).trans (hready.trans hlater.clock))
        · simp
      · obtain ⟨rfl, rfl⟩ := Prod.mk.inj (Option.some.inj heq)
        obtain ⟨p, hp, _⟩ := fits
        rw [hpoll.first.nextStart_eq hp]
        exact hwaited

theorem Rhythm.pairwise_starts {owner : Option (Nat × ℚ)} {s t : Session ℚ} {ms : List (Move ℚ)}
    (h : Rhythm owner s ms t) {place : Nat} {interval : ℚ}
    (steady : s.SteadyAll place interval ms)
    (active : ∀ due, owner = some (place, due) → ∃ k, s.kindAt? place = some k ∧ k ≠ .idle) :
    (starts place s ms).Pairwise fun a b => a + interval ≤ b := by
  induction h with
  | done => exact List.Pairwise.nil
  | @step s t m ms aside fits rest ih =>
      have hnone : started place s m = [] := by
        cases m with
        | poll i receiver? => cases receiver? <;> simp_all [Move.isAside, started]
        | _ => rfl
      rw [starts, hnone]
      exact ih steady.2.2 (by simp)
  | @enter i token? s t ms fits rest ih =>
      refine ih steady.2.2 fun due heq => ?_
      obtain ⟨rfl, -⟩ := Prod.mk.inj (Option.some.inj heq)
      exact kindAt?_make_enter fits
  | leave fits rest ih => exact ih steady.2.2 (by simp)
  | dismiss fits rest ih => exact ih steady.2.2.2.2 (by simp)
  | cut fits rest ih => exact ih steady.2.2.2.2.2.2.2.2 (by simp)
  | abandon wait fits rest ihWait ihRest =>
      obtain ⟨hwait, hrest⟩ := steady.wait wait
      rw [starts_wait wait, List.pairwise_append]
      refine ⟨ihWait hwait (by simp), ihRest hrest.2.2 (by simp), fun x hx => ?_⟩
      have hbefore := wait.makeAll_eq ▸ hwait.starts_le place x hx
      have hleft := (later_make hrest.1.delay hrest.2.1).clock
      exact rest.le_starts hrest.2.2 (add_le_add_left (hbefore.trans hleft) interval) (by simp)
  | @poll i receiver next s t u waiting ms wait fits rest ihWait ihRest =>
      obtain ⟨hwait, hpolled⟩ := steady.wait wait
      obtain ⟨hpoll, hrest⟩ := steadyAll_append.mp hpolled
      obtain ⟨p, hp, hrunning, -⟩ := id fits
      have hkind := kindAt?_pollMoves fits (kindAt?_eq_some_iff.mpr ⟨p, hp, rfl⟩)
        (Poller.isRunning_iff_kind.mp hrunning)
      have hactive : ∀ due, some (i, u.nextStart i) = some (place, due) →
          ∃ k, (u.makeAll (u.pollMoves i receiver)).kindAt? place = some k ∧ k ≠ .idle := by
        intro due heq
        obtain ⟨rfl, -⟩ := Prod.mk.inj (Option.some.inj heq)
        exact ⟨_, hkind, Poller.isRunning_iff_kind.mp hrunning⟩
      rw [starts_wait wait, starts_append, starts_pollMoves]
      by_cases hi : i = place
      · -- While the loop waits nothing of its own starts, so that this poll is the first one.
        subst hi
        obtain ⟨k, hk, hnotIdle⟩ := active next rfl
        have hown : ∀ m ∈ waiting, m.isOwn i = false :=
          wait.isOwn_eq_false (s := s.pass (s.spanUntil next)) hk hnotIdle (by simp)
        rw [starts_eq_nil hown, if_pos rfl, List.nil_append, List.singleton_append,
          List.pairwise_cons]
        refine ⟨?_, ihRest hrest hactive⟩
        refine rest.le_starts hrest (add_le_add_left hpoll.later.clock interval) fun due heq => ?_
        obtain ⟨-, rfl⟩ := Prod.mk.inj (Option.some.inj heq)
        exact (hpoll.first.nextStart_eq hp).ge
      · rw [if_neg hi, List.nil_append, List.pairwise_append]
        refine ⟨ihWait hwait (by simp), ihRest hrest hactive, fun x hx => ?_⟩
        have hbefore := wait.makeAll_eq ▸ hwait.starts_le place x hx
        refine rest.le_starts hrest
          (add_le_add_left (hbefore.trans hpoll.later.clock) interval) fun due heq => ?_
        exact absurd (Prod.mk.inj (Option.some.inj heq)).1 hi

end Session

end TreeWatch
