import TreeWatch.Proofs.Session.Fitting

/-!
# The course of a session

The moves of a session are more than a line that fits: what a loop does stands between its beginning
and its end, and each of its polls is followed at once by the handing of its events. Every step
takes such a course.
-/

namespace TreeWatch

/-- A move that is neither an end of a loop nor part of one of its polls. -/
def Move.isSimple {τ : Type} : Move τ → Bool
  | .enter _ _ | .leave _ | .hand _ _ | .fail _ _ | .poll _ (some _) => false
  | _ => true

namespace Session

variable {τ : Type} [Timeline τ]

/-! ## Courses -/

/-- From one session to another by moves that take their course. The first argument is the loop
that the moves are part of, if there is one: its place and its receiver. -/
inductive Course : Option (Nat × Receiver) → Session τ → List (Move τ) → Session τ → Prop
  | done {owner : Option (Nat × Receiver)} {s : Session τ} : Course owner s [] s
  | step {owner : Option (Nat × Receiver)} {s t : Session τ} {m : Move τ} {ms : List (Move τ)}
      (simple : m.isSimple = true) (fits : s.Fits m) (rest : Course owner (s.make m) ms t) :
      Course owner s (m :: ms) t
  | poll {place : Nat} {receiver : Receiver} {s t : Session τ} {ms : List (Move τ)}
      (fits : s.Fits (.poll place (some receiver)))
      (rest : Course (some (place, receiver)) (s.makeAll (s.pollMoves place receiver)) ms t) :
      Course (some (place, receiver)) s (s.pollMoves place receiver ++ ms) t
  | loop {owner : Option (Nat × Receiver)} {place : Nat} {receiver : Receiver}
      {token? : Option Token} {s t u : Session τ} {inner ms : List (Move τ)}
      (fits : s.Fits (.enter place token?))
      (body : Course (some (place, receiver)) (s.make (.enter place token?)) inner u)
      (rest : Course owner (u.make (.leave place)) ms t) :
      Course owner s (.enter place token? :: (inner ++ .leave place :: ms)) t

namespace Course

variable {owner : Option (Nat × Receiver)} {s t u : Session τ} {ms ns : List (Move τ)}

theorem makeAll_eq (h : Course owner s ms t) : s.makeAll ms = t := by
  induction h with
  | done => rfl
  | step simple fits rest ih => exact ih
  | poll fits rest ih => rw [makeAll_append, ih]
  | loop fits body rest ihBody ihRest =>
      rw [makeAll_cons, makeAll_append, ihBody, makeAll_cons, ihRest]

theorem append (first : Course owner s ms t) (second : Course owner t ns u) :
    Course owner s (ms ++ ns) u := by
  induction first with
  | done => exact second
  | step simple fits rest ih => exact .step simple fits (ih second)
  | poll fits rest ih =>
      rw [List.append_assoc]
      exact .poll fits (ih second)
  | loop fits body rest ihBody ihRest =>
      rw [List.cons_append, List.append_assoc, List.cons_append]
      exact .loop fits body (ihRest second)

theorem single {m : Move τ} (simple : m.isSimple = true) (fits : s.Fits m) :
    Course owner s [m] (s.make m) :=
  .step simple fits .done

/-- Every move of a course fits, and none of them ends a loop that was active before. -/
theorem fitsAll_and_not_left (h : Course owner s ms t) :
    s.FitsAll ms ∧ ∀ place k, s.kindAt? place = some k → k ≠ .idle →
      ∀ m ∈ ms, m ≠ .leave place := by
  induction h with
  | done => exact ⟨trivial, by simp⟩
  | @step owner s t m ms simple fits rest ih =>
      refine ⟨⟨fits, ih.1⟩, ?_⟩
      intro place k hkind hactive n hn
      have hnotLeft : m ≠ .leave place := by
        rintro rfl
        simp [Move.isSimple] at simple
      rcases List.mem_cons.mp hn with rfl | hn
      · exact hnotLeft
      · have hnext := kindAt?_make fits hkind (ne_enter_of_fits fits hkind hactive) hnotLeft
        exact ih.2 place k hnext hactive n hn
  | @poll place receiver s t ms fits rest ih =>
      have hpoll := fitsAll_pollMoves fits
      refine ⟨fitsAll_append.mpr ⟨hpoll, ih.1⟩, ?_⟩
      intro other k hkind hactive n hn
      rcases List.mem_append.mp hn with hn | hn
      · exact ne_leave_of_mem_pollMoves hn
      · have hnext := kindAt?_makeAll hpoll hkind hactive fun m hm => ne_leave_of_mem_pollMoves hm
        exact ih.2 other k hnext hactive n hn
  | @loop owner place receiver token? s t u inner ms fits body rest ihBody ihRest =>
      have hbody : (s.make (.enter place token?)).makeAll inner = u := body.makeAll_eq
      obtain ⟨entered, hentered, hactive⟩ := kindAt?_make_enter fits
      have hended : u.kindAt? place = some entered := by
        rw [← hbody]
        exact kindAt?_makeAll ihBody.1 hentered hactive (ihBody.2 place _ hentered hactive)
      have hleave : u.Fits (.leave place) := exists_isRunning hended hactive
      refine ⟨⟨fits, fitsAll_append.mpr ⟨ihBody.1, ?_⟩⟩, ?_⟩
      · rw [hbody]
        exact ⟨hleave, ihRest.1⟩
      · intro other k hkind hother n hn
        -- The loop that is entered is another one, since none was active at its place.
        have hne : place ≠ other := by
          rintro rfl
          exact ne_enter_of_fits fits hkind hother token? rfl
        have hfirst : (s.make (.enter place token?)).kindAt? other = some k :=
          kindAt?_make fits hkind (ne_enter_of_fits fits hkind hother) (by simp)
        have hinner := ihBody.2 other k hfirst hother
        have hsecond : u.kindAt? other = some k := by
          rw [← hbody]
          exact kindAt?_makeAll ihBody.1 hfirst hother hinner
        have hthird : (u.make (.leave place)).kindAt? other = some k :=
          kindAt?_make hleave hsecond (by simp) (by simpa using hne)
        rw [List.mem_cons, List.mem_append, List.mem_cons] at hn
        rcases hn with rfl | hn | rfl | hn
        · simp
        · exact hinner n hn
        · simpa using hne
        · exact ihRest.2 other k hthird hother n hn

theorem fitsAll (h : Course owner s ms t) : s.FitsAll ms :=
  h.fitsAll_and_not_left.1

/-- While a loop of the poller at a place is active, a course neither ends it nor begins another. -/
theorem kindAt?_eq (h : Course owner s ms t) {place : Nat} {k : Loop}
    (found : s.kindAt? place = some k) (active : k ≠ .idle) : t.kindAt? place = some k := by
  rw [← h.makeAll_eq]
  exact kindAt?_makeAll h.fitsAll found active (h.fitsAll_and_not_left.2 place k found active)

theorem fits_leave {place : Nat} {token? : Option Token}
    (fits : s.Fits (.enter place token?))
    (body : Course owner (s.make (.enter place token?)) ms t) : t.Fits (.leave place) := by
  obtain ⟨k, hk, hactive⟩ := kindAt?_make_enter fits
  exact exists_isRunning (body.kindAt?_eq hk hactive) hactive

/-- Moves that are part of no loop can stand within one. -/
theorem of_none (h : Course none s ms t) (owner : Option (Nat × Receiver)) :
    Course owner s ms t := by
  generalize hnone : (none : Option (Nat × Receiver)) = o at h
  induction h with
  | done => exact .done
  | step simple fits rest ih => exact .step simple fits (ih hnone)
  | poll => simp at hnone
  | loop fits body rest ihBody ihRest => exact .loop fits body (ihRest hnone)

end Course

/-! ## Every step takes its course -/

omit [Timeline τ] in
theorem fits_poll_of_blocking {s : Session τ} {place : Nat} {token : Token} {receiver : Receiver}
    (active : s.kindAt? place = some (.blocking token))
    (goes : s.pollerIs place Poller.tokenIsSet = false) :
    s.Fits (.poll place (some receiver)) := by
  obtain ⟨p, hp, hk⟩ := kindAt?_eq_some_iff.mp active
  rw [pollerIs_of_some hp] at goes
  refine ⟨p, hp, Poller.isRunning_iff_kind.mpr (by simp [hk]), ?_⟩
  unfold Poller.mustEnd
  cases hloop : p.loop with
  | coroutine => simp [hloop, Loop.kind] at hk
  | idle | blocking => exact goes

omit [Timeline τ] in
theorem fits_poll_of_coroutine {s : Session τ} {place : Nat} {receiver : Receiver}
    (active : s.kindAt? place = some (.coroutine false))
    (goes : s.pollerIs place (·.stopPending) = false) :
    s.Fits (.poll place (some receiver)) := by
  obtain ⟨p, hp, hk⟩ := kindAt?_eq_some_iff.mp active
  rw [pollerIs_of_some hp] at goes
  refine ⟨p, hp, Poller.isRunning_iff_kind.mpr (by simp [hk]), ?_⟩
  unfold Poller.mustEnd
  cases hloop : p.loop with
  | coroutine => exact goes
  | idle => simp [hloop, Loop.kind] at hk
  | blocking token => cases token <;> simp [hloop, Loop.kind] at hk

theorem kindAt?_pollMoves {s : Session τ} {place other : Nat} {receiver : Receiver} {k : Loop}
    (fits : s.Fits (.poll place (some receiver))) (h : s.kindAt? other = some k)
    (active : k ≠ .idle) : (s.makeAll (s.pollMoves place receiver)).kindAt? other = some k :=
  kindAt?_makeAll (fitsAll_pollMoves fits) h active fun _ hm => ne_leave_of_mem_pollMoves hm

theorem course_actMoves (s : Session τ) (action : Action) :
    Course none s (s.actMoves action) (s.act action).2 := by
  cases action
  case poll id =>
    cases hnamed : s.named? id with
    | none =>
        simp only [actMoves, hnamed, act, forPoller_of_none hnamed]
        exact .done
    | some named =>
        simp only [actMoves, hnamed, act, forPoller_of_some hnamed]
        exact .single rfl trivial
  case stop id =>
    cases hnamed : s.named? id with
    | none =>
        simp only [actMoves, hnamed, act, forPoller_of_none hnamed]
        exact .done
    | some named =>
        simp only [actMoves, hnamed, act, forPoller_of_some hnamed]
        exact .single rfl trivial
  all_goals exact .single rfl rfl

theorem kindAt?_make_blocking {s : Session τ} {place : Nat} {token : Token}
    (fits : s.Fits (.enter place (some token))) :
    ∃ t, (s.make (.enter place (some token))).kindAt? place = some (.blocking t) := by
  obtain ⟨p, hp, _⟩ := id fits
  have h := pollerAt?_make fits hp
  cases token with
  | own =>
      refine ⟨.own, kindAt?_eq_some_iff.mpr ⟨_, h, ?_⟩⟩
      simp [Poller.after, Poller.enterBlocking, Loop.kind]
  | external isSet =>
      refine ⟨.external false, kindAt?_eq_some_iff.mpr ⟨_, h, ?_⟩⟩
      simp [Poller.after, Poller.enterBlocking, Loop.kind]

theorem kindAt?_make_coroutine {s : Session τ} {place : Nat} (fits : s.Fits (.enter place none)) :
    (s.make (.enter place none)).kindAt? place = some (.coroutine false) := by
  obtain ⟨p, hp, _⟩ := id fits
  refine kindAt?_eq_some_iff.mpr ⟨_, pollerAt?_make fits hp, ?_⟩
  simp [Poller.after, Poller.enterCoroutine, Loop.kind]

theorem cannotWait_make_enter {s : Session τ} {place : Nat} {p : Poller}
    (h : s.pollerAt? place = some p) (token : Token) :
    (s.make (.enter place (some token))).cannotWait place = p.cannotBegin s.world token := by
  have hlong : (s.make (.enter place (some token))).world.isTooLong = s.world.isTooLong :=
    World.isTooLong_congr (host_changePoller s place _)
  have hentered : (s.make (.enter place (some token))).pollerAt? place =
      some (p.enterBlocking token).outcome := pollerAt?_changePoller_self h _
  rw [cannotWait, pollerIs_of_some hentered, hlong]
  cases token <;>
    simp [Poller.cannotBegin, Poller.enterBlocking, Poller.tokenIsSet, Bool.and_comm]

/-- A blocking loop that cannot wait is left at once, and what failed is its wait. -/
theorem run_of_cannotBegin {s : Session τ} {id : String} {place : Nat} {p : Poller}
    (named : s.named? id = some (place, p)) (idle : p.isRunning = false) {token : Token}
    (cannot : p.cannotBegin s.world token = true) (receiver : Receiver) (ticks : List Tick) :
    (perform (.run id token receiver ticks) s).1 = .error .tooLarge ∧
      moves (.run id token receiver ticks) s =
        [.enter place (some token), .leave place, .sayStopped place] := by
  have hcannot := (cannotWait_make_enter (pollerAt?_of_named? named) token).trans cannot
  rw [perform_run named idle, moves_run named idle]
  simp [hcannot]

/-- Whether a coroutine is told of an earlier cancellation is settled when it begins. -/
theorem inherits_make_enter {s : Session τ} {place : Nat} {p : Poller}
    (h : s.pollerAt? place = some p) (task : Option String) :
    (s.make (.enter place none)).inherits place task = (s.owes task && !p.stopPending) := by
  have hentered : (s.make (.enter place none)).pollerAt? place =
      some p.enterCoroutine.outcome := pollerAt?_changePoller_self h _
  have hcancelled : (s.make (.enter place none)).cancelled = s.cancelled :=
    cancelled_changePoller s place Poller.enterCoroutine
  rw [inherits, pollerIs_of_some hentered, owes, hcancelled]
  simp [Poller.enterCoroutine, owes]

theorem course_inheritMoves (s : Session τ) (place : Nat) (receiver : Receiver)
    (task : Option String) :
    Course (some (place, receiver)) s (s.inheritMoves place task) (s.inherit place task).2 :=
  .step rfl trivial (.step rfl trivial (.step rfl trivial .done))

theorem course_oweMoves (s t : Session τ) (place : Nat) (trace : Trace τ)
    (task : Option String) :
    Course none t (s.oweMoves place trace task) (t.makeAll (s.oweMoves place trace task)) := by
  unfold oweMoves
  split
  · exact .single rfl trivial
  · exact .done

mutual

/-- What a step does move by move takes its course to where the step leads. -/
theorem course_moves : ∀ (step : Step) (s : Session τ),
    Course none s (moves step s) (perform step s).2
  | .act action, s => by
    rw [moves, perform]
    exact course_actMoves s action
  | .run id token receiver ticks, s => by
    cases hnamed : s.named? id with
    | none =>
        rw [moves, perform, hnamed, forPoller_of_none hnamed]
        exact .done
    | some named =>
        obtain ⟨place, p⟩ := named
        have hp := pollerAt?_of_named? hnamed
        cases hrunning : p.isRunning with
        | true =>
            rw [moves, perform, hnamed, forPoller_of_some hnamed]
            dsimp only
            rw [if_pos hrunning, if_pos hrunning]
            exact .single rfl ⟨p, hp, hrunning⟩
        | false =>
            have hfits : s.Fits (.enter place (some token)) := ⟨p, hp, hrunning⟩
            have hbody := course_loopMoves ticks place receiver
              ((s.make (.enter place (some token))).nextStart place)
              (s.make (.enter place (some token))) (kindAt?_make_blocking hfits)
            rw [moves_run hnamed hrunning, perform_run hnamed hrunning]
            dsimp only
            split
            · have hended : Course (some (place, receiver)) (s.make (.enter place (some token))) []
                  (s.make (.enter place (some token))) := .done
              exact .loop hfits hended (.single rfl trivial)
            · exact .loop hfits hbody (.single rfl trivial)
  | .runCoroutine id cancelAtEnd receiver ticks task, s => by
    cases hnamed : s.named? id with
    | none =>
        rw [moves, perform, hnamed, forPoller_of_none hnamed]
        exact .done
    | some named =>
        obtain ⟨place, p⟩ := named
        have hp := pollerAt?_of_named? hnamed
        cases hrunning : p.isRunning with
        | true =>
            rw [moves, perform, hnamed, forPoller_of_some hnamed]
            dsimp only
            rw [if_pos hrunning, if_pos hrunning]
            exact .single rfl ⟨p, hp, hrunning⟩
        | false =>
            have hfits : s.Fits (.enter place none) := ⟨p, hp, hrunning⟩
            have hbody := course_coroutineMoves ticks place cancelAtEnd receiver
              ((s.make (.enter place none)).nextStart place) (s.make (.enter place none))
              (kindAt?_make_coroutine hfits)
            rw [moves_runCoroutine hnamed hrunning, perform_runCoroutine hnamed hrunning]
            dsimp only
            split
            · exact .loop hfits (course_inheritMoves _ place receiver task) .done
            · rw [endCoroutine_eq]
              exact .loop hfits hbody (course_oweMoves _ _ place _ task)
termination_by structural step => step

theorem course_allMoves : ∀ (steps : List Step) (s : Session τ),
    Course none s (allMoves steps s) (performAll steps s).2
  | [], s => .done
  | step :: rest, s => by
    rw [allMoves, performAll]
    exact (course_moves step s).append (course_allMoves rest (perform step s).2)
termination_by structural steps => steps

theorem course_loopMoves : ∀ (ticks : List Tick) (place : Nat) (receiver : Receiver) (next : τ)
    (s : Session τ), (∃ t, s.kindAt? place = some (.blocking t)) →
    Course (some (place, receiver)) s (loopMoves place receiver ticks next s)
      (loop place receiver ticks next s).2
  | [], place, receiver, next, s, ⟨token, active⟩ => by
    rw [loopMoves, loop]
    dsimp only
    split
    · exact .step rfl trivial .done
    · have hfits : (s.pass (s.spanUntil next)).Fits (.setToken place) :=
        exists_isRunning (s := s.pass _) active (by simp)
      exact .step rfl trivial (.step rfl trivial (.step rfl hfits .done))
  | .mk steps seconds _ _ :: rest, place, receiver, next, s, ⟨token, active⟩ => by
    rw [loopMoves, loop]
    by_cases hset : s.pollerIs place Poller.tokenIsSet = true
    · simp only [if_pos hset]
      exact .step rfl trivial .done
    · simp only [if_neg hset]
      have hnested := course_allMoves steps ((s.pass (s.spanUntil next)).addDelay seconds)
      cases hticked : performAll steps ((s.pass (s.spanUntil next)).addDelay seconds) with
      | mk answers waited =>
      rw [hticked] at hnested
      have hactive : waited.kindAt? place = some (.blocking token) :=
        hnested.kindAt?_eq (s := (s.pass _).addDelay seconds) active (by simp)
      refine .step rfl trivial (.step rfl trivial (.step rfl trivial ?_))
      refine (hnested.of_none (some (place, receiver))).append ?_
      dsimp only
      by_cases hended : waited.pollerIs place Poller.tokenIsSet = true
      · rw [if_pos hended, if_pos hended]
        exact .done
      · rw [if_neg hended, if_neg hended]
        have hfits : waited.Fits (.poll place (some receiver)) :=
          fits_poll_of_blocking hactive (by simpa using hended)
        have hpolled := makeAll_pollMoves waited place receiver
        have hafter := kindAt?_pollMoves hfits hactive (by simp)
        rw [hpolled] at hafter
        refine .poll hfits ?_
        rw [hpolled]
        exact course_loopMoves rest place receiver _ _ ⟨token, hafter⟩
termination_by structural ticks => ticks

theorem course_coroutineMoves : ∀ (ticks : List Tick) (place : Nat) (cancelAtEnd : Bool)
    (receiver : Receiver) (next : τ) (s : Session τ),
    s.kindAt? place = some (.coroutine false) →
    Course (some (place, receiver)) s (coroutineMoves place cancelAtEnd receiver ticks next s)
      (coroutine place cancelAtEnd receiver ticks next s).2
  | [], place, cancelAtEnd, receiver, next, s, active => by
    rw [coroutineMoves, coroutine]
    dsimp only
    split
    · exact .done
    · have hfits : (s.pass (s.spanUntil next)).Fits
          (if cancelAtEnd then .cancel place else .stop place) := by
        cases cancelAtEnd
        · exact trivial
        · exact exists_isRunning (s := s.pass _) active (by simp)
      have hend : Course (some (place, receiver)) (s.pass (s.spanUntil next))
          [if cancelAtEnd then .cancel place else .stop place, .sayCancelled]
          (((s.pass (s.spanUntil next)).make
            (if cancelAtEnd then .cancel place else .stop place)).make .sayCancelled) :=
        .step (by cases cancelAtEnd <;> rfl) hfits (.step rfl trivial .done)
      cases cancelAtEnd <;> exact .step rfl trivial (.step rfl trivial hend)
  | .mk steps seconds cancel late :: rest, place, cancelAtEnd, receiver, next, s, active => by
    rw [coroutineMoves, coroutine]
    by_cases hset : s.pollerIs place (·.stopPending) = true
    · simp only [if_pos hset]
      exact .done
    · simp only [if_neg hset]
      have hnested := course_allMoves steps ((s.pass (s.spanUntil next)).addDelay seconds)
      cases hticked : performAll steps ((s.pass (s.spanUntil next)).addDelay seconds) with
      | mk answers ticked =>
      rw [hticked] at hnested
      have hactive : ticked.kindAt? place = some (.coroutine false) :=
        hnested.kindAt?_eq (s := (s.pass _).addDelay seconds) active (by simp)
      refine .step rfl trivial (.step rfl trivial (.step rfl trivial ?_))
      refine (hnested.of_none (some (place, receiver))).append ?_
      dsimp only
      have hcancel : Course (some (place, receiver)) ticked
          (if cancel then [.cancel place] else [])
          (if cancel then ticked.make (.cancel place) else ticked) := by
        cases cancel
        · exact .done
        · exact .single rfl (exists_isRunning hactive (by simp))
      have hstill := hcancel.kindAt?_eq hactive (by simp)
      refine hcancel.append ?_
      generalize hwaited : (if cancel then ticked.make (.cancel place) else ticked) = waited at *
      have hmodel : (if cancel then ticked.changePoller place fun p => pure p.requestCancel
          else ticked) = waited := hwaited
      simp only [hmodel]
      by_cases hcancelled : (!late && waited.pollerIs place Poller.cancelRequested) = true
      · rw [if_pos hcancelled, if_pos hcancelled]
        exact .single rfl trivial
      · rw [if_neg hcancelled, if_neg hcancelled]
        by_cases hended : waited.pollerIs place (·.stopPending) = true
        · rw [if_pos hended, if_pos hended]
          exact .done
        · rw [if_neg hended, if_neg hended]
          have hfits : waited.Fits (.poll place (some receiver)) :=
            fits_poll_of_coroutine hstill (by simpa using hended)
          have hpolled := makeAll_pollMoves waited place receiver
          have hafter := kindAt?_pollMoves hfits hstill (by simp)
          rw [hpolled] at hafter
          refine .poll hfits ?_
          rw [hpolled]
          exact course_coroutineMoves rest place cancelAtEnd receiver _ _ hafter
termination_by structural ticks => ticks

end

theorem makeAll_allMoves (steps : List Step) (s : Session τ) :
    s.makeAll (allMoves steps s) = (performAll steps s).2 :=
  (course_allMoves steps s).makeAll_eq

end Session

end TreeWatch
