import TreeWatch.Proofs.Session.Course

/-!
# The rhythm of loops

A loop asks for a wait until its next poll is due, lets the time pass, and while it does so other
things happen that are none of its business; then it polls or is left. When a poll is due is settled
at the moment at which the one before it started, or at which the loop began.
-/

namespace TreeWatch

/-- A move that belongs to the loop of the poller at a place. -/
def Move.isOwn {τ : Type} (place : Nat) : Move τ → Bool
  | .enter i _ | .leave i | .ask i _ | .poll i (some _) | .hand i _ => i = place
  | _ => false

/-- A move that belongs to no loop. -/
def Move.isAside {τ : Type} : Move τ → Bool
  | .enter _ _ | .leave _ | .ask _ _ | .poll _ (some _) | .hand _ _ | .fail _ _ | .pass _ => false
  | _ => true

namespace Session

variable {τ : Type} [Timeline τ]

/-- From one session to another by moves that keep the rhythm. The first argument is the loop whose
next poll is awaited, if there is one: its place, and the reading at which the poll is due. -/
inductive Rhythm : Option (Nat × τ) → Session τ → List (Move τ) → Session τ → Prop
  | done {s : Session τ} : Rhythm none s [] s
  | step {s t : Session τ} {m : Move τ} {ms : List (Move τ)} (aside : m.isAside = true)
      (fits : s.Fits m) (rest : Rhythm none (s.make m) ms t) : Rhythm none s (m :: ms) t
  | enter {place : Nat} {token? : Option Token} {s t : Session τ} {ms : List (Move τ)}
      (fits : s.Fits (.enter place token?))
      (rest : Rhythm (some (place, (s.make (.enter place token?)).nextStart place))
        (s.make (.enter place token?)) ms t) :
      Rhythm none s (.enter place token? :: ms) t
  | leave {place : Nat} {due : τ} {s t : Session τ} {ms : List (Move τ)}
      (fits : s.Fits (.leave place)) (rest : Rhythm none (s.make (.leave place)) ms t) :
      Rhythm (some (place, due)) s (.leave place :: ms) t
  /-- The loop is left as soon as it has asked for a wait. -/
  | dismiss {place : Nat} {due : τ} {s t : Session τ} {ms : List (Move τ)}
      (fits : s.Fits (.leave place)) (rest : Rhythm none (s.make (.leave place)) ms t) :
      Rhythm (some (place, due)) s (.ask place (s.spanUntil due) :: .leave place :: ms) t
  /-- The loop is left as soon as it has asked for a wait, being told that its task was cancelled
  before. -/
  | cut {place : Nat} {due : τ} {tasks : List String} {s t : Session τ} {ms : List (Move τ)}
      (fits : s.Fits (.leave place))
      (rest : Rhythm none ((s.makeAll [.owe tasks, .sayCancelled]).make (.leave place)) ms t) :
      Rhythm (some (place, due)) s
        (.ask place (s.spanUntil due) :: .owe tasks :: .sayCancelled :: .leave place :: ms) t
  | abandon {place : Nat} {due : τ} {s t u : Session τ} {waiting ms : List (Move τ)}
      (wait : Rhythm none (s.pass (s.spanUntil due)) waiting u) (fits : u.Fits (.leave place))
      (rest : Rhythm none (u.make (.leave place)) ms t) :
      Rhythm (some (place, due)) s (.ask place (s.spanUntil due) :: .pass (s.spanUntil due) ::
        (waiting ++ .leave place :: ms)) t
  | poll {place : Nat} {receiver : Receiver} {due : τ} {s t u : Session τ}
      {waiting ms : List (Move τ)} (wait : Rhythm none (s.pass (s.spanUntil due)) waiting u)
      (fits : u.Fits (.poll place (some receiver)))
      (rest : Rhythm (some (place, u.nextStart place)) (u.makeAll (u.pollMoves place receiver))
        ms t) :
      Rhythm (some (place, due)) s (.ask place (s.spanUntil due) :: .pass (s.spanUntil due) ::
        (waiting ++ (u.pollMoves place receiver ++ ms))) t

namespace Rhythm

variable {owner : Option (Nat × τ)} {s t u : Session τ} {ms ns : List (Move τ)}

theorem makeAll_eq (h : Rhythm owner s ms t) : s.makeAll ms = t := by
  induction h with
  | done => rfl
  | step aside fits rest ih => exact ih
  | enter fits rest ih => exact ih
  | leave fits rest ih => exact ih
  | dismiss fits rest ih => exact ih
  | cut fits rest ih => exact ih
  | @abandon place due s t u waiting ms wait fits rest ihWait ihRest =>
      change (s.pass (s.spanUntil due)).makeAll (waiting ++ _) = t
      rw [makeAll_append, ihWait, makeAll_cons, ihRest]
  | @poll place receiver due s t u waiting ms wait fits rest ihWait ihRest =>
      change (s.pass (s.spanUntil due)).makeAll (waiting ++ _) = t
      rw [makeAll_append, ihWait, makeAll_append, ihRest]

theorem fitsAll (h : Rhythm owner s ms t) : s.FitsAll ms := by
  induction h with
  | done => trivial
  | step aside fits rest ih => exact ⟨fits, ih⟩
  | enter fits rest ih => exact ⟨fits, ih⟩
  | leave fits rest ih => exact ⟨fits, ih⟩
  | dismiss fits rest ih => exact ⟨trivial, fits, ih⟩
  | cut fits rest ih => exact ⟨trivial, trivial, trivial, fits, ih⟩
  | @abandon place due s t u waiting ms wait fits rest ihWait ihRest =>
      refine ⟨trivial, trivial, fitsAll_append.mpr ⟨ihWait, ?_⟩⟩
      change ((s.pass (s.spanUntil due)).makeAll waiting).FitsAll _
      rw [wait.makeAll_eq]
      exact ⟨fits, ihRest⟩
  | @poll place receiver due s t u waiting ms wait fits rest ihWait ihRest =>
      refine ⟨trivial, trivial, fitsAll_append.mpr ⟨ihWait, ?_⟩⟩
      change ((s.pass (s.spanUntil due)).makeAll waiting).FitsAll _
      rw [wait.makeAll_eq]
      exact fitsAll_append.mpr ⟨fitsAll_pollMoves fits, ihRest⟩

theorem append (first : Rhythm owner s ms t) (second : Rhythm none t ns u) :
    Rhythm owner s (ms ++ ns) u := by
  induction first with
  | done => exact second
  | step aside fits rest ih => exact .step aside fits (ih second)
  | enter fits rest ih => exact .enter fits (ih second)
  | leave fits rest ih => exact .leave fits (ih second)
  | dismiss fits rest ih => exact .dismiss fits (ih second)
  | cut fits rest ih => exact .cut fits (ih second)
  | abandon wait fits rest ihWait ihRest =>
      rw [List.cons_append, List.cons_append, List.append_assoc, List.cons_append]
      exact .abandon wait fits (ihRest second)
  | poll wait fits rest ihWait ihRest =>
      rw [List.cons_append, List.cons_append, List.append_assoc, List.append_assoc]
      exact .poll wait fits (ihRest second)

theorem single {m : Move τ} (aside : m.isAside = true) (fits : s.Fits m) :
    Rhythm none s [m] (s.make m) :=
  .step aside fits .done

end Rhythm

/-! ## Whose moves they are -/

omit [Timeline τ] in
theorem isOwn_of_isAside {m : Move τ} (aside : m.isAside = true) (place : Nat) :
    m.isOwn place = false := by
  cases m with
  | poll i receiver? => cases receiver? <;> simp_all [Move.isAside, Move.isOwn]
  | enter | leave | ask | hand => simp [Move.isAside] at aside
  | _ => rfl

omit [Timeline τ] in
theorem ne_leave_of_isOwn {m : Move τ} {place : Nat} (h : m.isOwn place = false) :
    m ≠ .leave place := by
  rintro rfl
  simp [Move.isOwn] at h

omit [Timeline τ] in
theorem isOwn_of_mem_handMoves {place other : Nat} {receiver : Receiver} {es : List Event}
    {m : Move τ} (hm : m ∈ es.flatMap (handMoves place receiver)) (hne : place ≠ other) :
    m.isOwn other = false := by
  obtain ⟨e, rfl⟩ | rfl | ⟨e, text, rfl⟩ := mem_handMoves hm
  · simpa [Move.isOwn] using hne
  · rfl
  · rfl

theorem isOwn_of_mem_pollMoves {s : Session τ} {place other : Nat} {receiver : Receiver}
    {m : Move τ} (hm : m ∈ s.pollMoves place receiver) (hne : place ≠ other) :
    m.isOwn other = false := by
  rcases List.mem_cons.mp hm with rfl | hm
  · simpa [Move.isOwn] using hne
  · exact isOwn_of_mem_handMoves hm hne

/-- While a loop of the poller at a place is active, no move of others belongs to it. -/
theorem Rhythm.isOwn_eq_false {owner : Option (Nat × τ)} {s t : Session τ} {ms : List (Move τ)}
    (h : Rhythm owner s ms t) {place : Nat} {k : Loop} (active : s.kindAt? place = some k)
    (notIdle : k ≠ .idle) (other : ∀ due, owner ≠ some (place, due)) :
    ∀ m ∈ ms, m.isOwn place = false := by
  have goesOn : ∀ {s u : Session τ} {waiting : List (Move τ)}, Rhythm none s waiting u →
      s.kindAt? place = some k → (∀ m ∈ waiting, m.isOwn place = false) →
      u.kindAt? place = some k := by
    intro s u waiting wait hkind hown
    rw [← wait.makeAll_eq]
    exact kindAt?_makeAll wait.fitsAll hkind notIdle fun m hm => ne_leave_of_isOwn (hown m hm)
  have away : ∀ {i : Nat} {due : τ}, (∀ due', some (i, due) ≠ some (place, due')) → i ≠ place := by
    rintro i due hother rfl
    exact hother due rfl
  have left : ∀ {i : Nat} {u : Session τ} {ms : List (Move τ)}, i ≠ place →
      u.Fits (.leave i) → u.kindAt? place = some k →
      ((u.make (.leave i)).kindAt? place = some k → (∀ due : τ, none ≠ some (place, due)) →
        ∀ m ∈ ms, m.isOwn place = false) → ∀ m ∈ .leave i :: ms, m.isOwn place = false := by
    intro i u ms hi fits hkind ih
    rw [List.forall_mem_cons]
    refine ⟨by simpa [Move.isOwn] using hi, ih ?_ (by simp)⟩
    exact kindAt?_make fits hkind (by simp) (by simpa using hi)
  induction h with
  | done => simp
  | step aside fits rest ih =>
      have hown := isOwn_of_isAside aside place
      rw [List.forall_mem_cons]
      refine ⟨hown, ih ?_ (by simp)⟩
      exact kindAt?_make fits active (ne_enter_of_fits fits active notIdle) (ne_leave_of_isOwn hown)
  | @enter i token? s t ms fits rest ih =>
      have hi : i ≠ place := by
        rintro rfl
        exact ne_enter_of_fits fits active notIdle token? rfl
      rw [List.forall_mem_cons]
      refine ⟨by simpa [Move.isOwn] using hi, ih ?_ ?_⟩
      · exact kindAt?_make fits active (ne_enter_of_fits fits active notIdle) (by simp)
      · intro due heq
        exact hi (Prod.mk.inj (Option.some.inj heq)).1
  | leave fits rest ih => exact left (away other) fits active ih
  | dismiss fits rest ih =>
      rw [List.forall_mem_cons]
      exact ⟨by simpa [Move.isOwn] using away other, left (away other) fits active ih⟩
  | @cut i due tasks s t ms fits rest ih =>
      rw [List.forall_mem_cons, List.forall_mem_cons, List.forall_mem_cons]
      exact ⟨by simpa [Move.isOwn] using away other, rfl, rfl,
        left (u := s.makeAll [.owe tasks, .sayCancelled]) (away other) fits active ih⟩
  | abandon wait fits rest ihWait ihRest =>
      have hwaiting := ihWait active (by simp)
      rw [List.forall_mem_cons, List.forall_mem_cons, List.forall_mem_append]
      exact ⟨by simpa [Move.isOwn] using away other, rfl, hwaiting,
        left (away other) fits (goesOn wait active hwaiting) ihRest⟩
  | @poll i receiver due s t u waiting ms wait fits rest ihWait ihRest =>
      have hi : i ≠ place := away other
      have hwaiting := ihWait active (by simp)
      have hnext := kindAt?_pollMoves fits (goesOn wait active hwaiting) notIdle
      rw [List.forall_mem_cons, List.forall_mem_cons, List.forall_mem_append,
        List.forall_mem_append]
      refine ⟨by simpa [Move.isOwn] using hi, rfl, hwaiting,
        fun m hm => isOwn_of_mem_pollMoves hm hi, ihRest hnext ?_⟩
      intro due' heq
      exact hi (Prod.mk.inj (Option.some.inj heq)).1

/-! ## Every step keeps the rhythm -/

theorem rhythm_actMoves (s : Session τ) (action : Action) :
    Rhythm none s (s.actMoves action) (s.act action).2 := by
  cases action
  case poll id | stop id =>
    cases hnamed : s.named? id with
    | none =>
        simp only [actMoves, hnamed, act, forPoller_of_none hnamed]
        exact .done
    | some named =>
        simp only [actMoves, hnamed, act, forPoller_of_some hnamed]
        exact .single rfl trivial
  all_goals exact .single rfl rfl

theorem rhythm_oweMoves (s t : Session τ) (place : Nat) (trace : Trace τ)
    (task : Option String) :
    Rhythm none t (s.oweMoves place trace task) (t.makeAll (s.oweMoves place trace task)) := by
  unfold oweMoves
  split
  · exact .single rfl trivial
  · exact .done

mutual

theorem rhythm_moves : ∀ (step : Step) (s : Session τ),
    Rhythm none s (moves step s) (perform step s).2
  | .act action, s => by
    rw [moves, perform]
    exact rhythm_actMoves s action
  | .run id token receiver ticks, s => by
    cases hnamed : s.named? id with
    | none =>
        rw [moves, perform, forPoller_of_none hnamed, hnamed]
        exact .done
    | some named =>
        obtain ⟨place, p⟩ := named
        have hp := pollerAt?_of_named? hnamed
        by_cases hrunning : p.isRunning = true
        · rw [moves, perform, forPoller_of_some hnamed, hnamed]
          dsimp only
          rw [if_pos hrunning, if_pos hrunning]
          exact .single rfl ⟨p, hp, hrunning⟩
        · have hidle : p.isRunning = false := by simpa using hrunning
          have hfits : s.Fits (.enter place (some token)) := ⟨p, hp, hidle⟩
          have hactive := kindAt?_make_blocking hfits
          rw [moves_run hnamed hidle, perform_run hnamed hidle]
          dsimp only
          split
          · obtain ⟨t, ht⟩ := hactive
            exact .enter hfits (.leave (exists_isRunning ht (by simp)) (.single rfl trivial))
          · exact .enter hfits (rhythm_loopMoves ticks place receiver _ _ hactive
              (.single rfl trivial))
  | .runCoroutine id cancelAtEnd receiver ticks task, s => by
    cases hnamed : s.named? id with
    | none =>
        rw [moves, perform, forPoller_of_none hnamed, hnamed]
        exact .done
    | some named =>
        obtain ⟨place, p⟩ := named
        have hp := pollerAt?_of_named? hnamed
        by_cases hrunning : p.isRunning = true
        · rw [moves, perform, forPoller_of_some hnamed, hnamed]
          dsimp only
          rw [if_pos hrunning, if_pos hrunning]
          exact .single rfl ⟨p, hp, hrunning⟩
        · have hidle : p.isRunning = false := by simpa using hrunning
          have hfits : s.Fits (.enter place none) := ⟨p, hp, hidle⟩
          have hactive := kindAt?_make_coroutine hfits
          rw [moves_runCoroutine hnamed hidle, perform_runCoroutine hnamed hidle]
          dsimp only
          split
          · exact .enter hfits (.cut (exists_isRunning hactive (by simp)) .done)
          · rw [endCoroutine_eq]
            exact .enter hfits (rhythm_coroutineMoves ticks place cancelAtEnd receiver _ _ hactive
              (rhythm_oweMoves _ _ place _ task))
termination_by structural step => step

theorem rhythm_allMoves : ∀ (steps : List Step) (s : Session τ),
    Rhythm none s (allMoves steps s) (performAll steps s).2
  | [], s => .done
  | step :: rest, s => by
    rw [allMoves, performAll]
    exact (rhythm_moves step s).append (rhythm_allMoves rest (perform step s).2)
termination_by structural steps => steps

theorem rhythm_loopMoves : ∀ (ticks : List Tick) (place : Nat) (receiver : Receiver) (next : τ)
    (s : Session τ), (∃ t, s.kindAt? place = some (.blocking t)) →
    ∀ {tail : List (Move τ)} {t : Session τ},
      Rhythm none ((loop place receiver ticks next s).2.make (.leave place)) tail t →
      Rhythm (some (place, next)) s
        (loopMoves place receiver ticks next s ++ .leave place :: tail) t
  | [], place, receiver, next, s, ⟨token, active⟩, tail, t, rest => by
    have hfits : ∀ u : Session τ, u.kindAt? place = some (.blocking token) →
        u.Fits (.leave place) := fun u hu => exists_isRunning hu (by simp)
    rw [loop] at rest
    rw [loopMoves]
    dsimp only at rest
    by_cases hset : s.pollerIs place Poller.tokenIsSet = true
    · rw [if_pos hset] at rest ⊢
      exact .dismiss (hfits s active) rest
    · rw [if_neg hset] at rest ⊢
      have hwaited : (s.pass (s.spanUntil next)).kindAt? place = some (.blocking token) := active
      have hset : (s.pass (s.spanUntil next)).Fits (.setToken place) :=
        exists_isRunning hwaited (by simp)
      exact .abandon (.single rfl hset)
        (hfits _ (kindAt?_make hset hwaited (by simp) (by simp))) rest
  | .mk steps seconds _ _ :: ticks, place, receiver, next, s, ⟨token, active⟩, tail, t, rest => by
    have hfits : ∀ u : Session τ, u.kindAt? place = some (.blocking token) →
        u.Fits (.leave place) := fun u hu => exists_isRunning hu (by simp)
    rw [loop] at rest
    rw [loopMoves]
    by_cases hset : s.pollerIs place Poller.tokenIsSet = true
    · simp only [if_pos hset] at rest ⊢
      exact .dismiss (hfits s active) rest
    · simp only [if_neg hset] at rest ⊢
      have hnested := rhythm_allMoves steps ((s.pass (s.spanUntil next)).addDelay seconds)
      have hactive := (course_allMoves steps
        ((s.pass (s.spanUntil next)).addDelay seconds)).kindAt?_eq (k := .blocking token)
          active (by simp)
      cases hticked : performAll steps ((s.pass (s.spanUntil next)).addDelay seconds) with
      | mk answers waited =>
      rw [hticked] at hnested hactive rest
      have hwait : Rhythm none (s.pass (s.spanUntil next))
          (.slow seconds :: allMoves steps ((s.pass (s.spanUntil next)).addDelay seconds)) waited :=
        .step rfl trivial hnested
      dsimp only at rest ⊢
      by_cases hended : waited.pollerIs place Poller.tokenIsSet = true
      · rw [if_pos hended] at rest ⊢
        rw [List.append_nil]
        exact .abandon hwait (hfits waited hactive) rest
      · rw [if_neg hended] at rest ⊢
        have hpoll : waited.Fits (.poll place (some receiver)) :=
          fits_poll_of_blocking hactive (by simpa using hended)
        have hafter := kindAt?_pollMoves hpoll hactive (by simp)
        have hpolled := makeAll_pollMoves waited place receiver
        have hnext : (waited.pollInLoop place receiver).1 = waited.nextStart place := rfl
        rw [hpolled] at hafter
        have hgoesOn := rhythm_loopMoves ticks place receiver (waited.nextStart place) _
          ⟨token, hafter⟩ rest
        rw [← hpolled] at hgoesOn
        have hlist := Rhythm.poll hwait hpoll hgoesOn
        simpa [hpolled, hnext] using hlist
termination_by structural ticks => ticks

theorem rhythm_coroutineMoves : ∀ (ticks : List Tick) (place : Nat) (cancelAtEnd : Bool)
    (receiver : Receiver) (next : τ) (s : Session τ), s.kindAt? place = some (.coroutine false) →
    ∀ {tail : List (Move τ)} {t : Session τ},
      Rhythm none ((coroutine place cancelAtEnd receiver ticks next s).2.make (.leave place)) tail
        t →
      Rhythm (some (place, next)) s
        (coroutineMoves place cancelAtEnd receiver ticks next s ++ .leave place :: tail) t
  | [], place, cancelAtEnd, receiver, next, s, active, tail, t, rest => by
    have hfits : ∀ u : Session τ, u.kindAt? place = some (.coroutine false) →
        u.Fits (.leave place) := fun u hu => exists_isRunning hu (by simp)
    rw [coroutine] at rest
    rw [coroutineMoves]
    dsimp only at rest
    by_cases hset : s.pollerIs place (·.stopPending) = true
    · rw [if_pos hset] at rest ⊢
      exact .leave (hfits s active) rest
    · rw [if_neg hset] at rest ⊢
      have hwaited : (s.pass (s.spanUntil next)).kindAt? place = some (.coroutine false) := active
      cases cancelAtEnd with
      | false =>
          have hkind := kindAt?_make (m := .stop place) trivial hwaited (by simp) (by simp)
          exact .abandon (.step rfl trivial (.single rfl trivial))
            (hfits _ (kindAt?_make (m := .sayCancelled) trivial hkind (by simp) (by simp))) rest
      | true =>
          have hcancel : (s.pass (s.spanUntil next)).Fits (.cancel place) :=
            exists_isRunning hwaited (by simp)
          have hkind := kindAt?_make hcancel hwaited (by simp) (by simp)
          exact .abandon (.step rfl hcancel (.single rfl trivial))
            (hfits _ (kindAt?_make (m := .sayCancelled) trivial hkind (by simp) (by simp))) rest
  | .mk steps seconds cancel late :: ticks, place, cancelAtEnd, receiver, next, s, active, tail, t,
      rest => by
    have hfits : ∀ u : Session τ, u.kindAt? place = some (.coroutine false) →
        u.Fits (.leave place) := fun u hu => exists_isRunning hu (by simp)
    rw [coroutine] at rest
    rw [coroutineMoves]
    by_cases hset : s.pollerIs place (·.stopPending) = true
    · simp only [if_pos hset] at rest ⊢
      exact .leave (hfits s active) rest
    · simp only [if_neg hset] at rest ⊢
      have hnested := rhythm_allMoves steps ((s.pass (s.spanUntil next)).addDelay seconds)
      have hactive := (course_allMoves steps
        ((s.pass (s.spanUntil next)).addDelay seconds)).kindAt?_eq (k := .coroutine false)
          active (by simp)
      cases hticked : performAll steps ((s.pass (s.spanUntil next)).addDelay seconds) with
      | mk answers ticked =>
      rw [hticked] at hnested hactive rest
      dsimp only at rest ⊢
      have hcancel : Rhythm none ticked (if cancel then [.cancel place] else [])
          (if cancel then ticked.make (.cancel place) else ticked) := by
        cases cancel
        · exact .done
        · exact .single rfl (exists_isRunning hactive (by simp))
      have hstill : (if cancel then ticked.make (.cancel place) else ticked).kindAt? place =
          some (.coroutine false) := by
        cases cancel
        · exact hactive
        · exact kindAt?_make (m := .cancel place) (exists_isRunning hactive (by simp)) hactive
            (by simp) (by simp)
      generalize hwaited : (if cancel then ticked.make (.cancel place) else ticked) = waited at *
      have hmodel : (if cancel then ticked.changePoller place fun p => pure p.requestCancel
          else ticked) = waited := hwaited
      rw [hmodel] at rest
      have hwait : Rhythm none (s.pass (s.spanUntil next))
          (.slow seconds :: (allMoves steps ((s.pass (s.spanUntil next)).addDelay seconds) ++
            if cancel then [.cancel place] else [])) waited :=
        .step rfl trivial (hnested.append hcancel)
      by_cases hcancelled : (!late && waited.pollerIs place Poller.cancelRequested) = true
      · rw [if_pos hcancelled] at rest ⊢
        have hsaid := hwait.append (.single (m := .sayCancelled) rfl trivial)
        have hlist := Rhythm.abandon hsaid
          (hfits _ (kindAt?_make (m := .sayCancelled) trivial hstill (by simp) (by simp))) rest
        simpa using hlist
      · rw [if_neg hcancelled] at rest ⊢
        by_cases hended : waited.pollerIs place (·.stopPending) = true
        · rw [if_pos hended] at rest ⊢
          have hlist := Rhythm.abandon hwait (hfits waited hstill) rest
          simpa using hlist
        · rw [if_neg hended] at rest ⊢
          have hpoll : waited.Fits (.poll place (some receiver)) :=
            fits_poll_of_coroutine hstill (by simpa using hended)
          have hafter := kindAt?_pollMoves hpoll hstill (by simp)
          have hpolled := makeAll_pollMoves waited place receiver
          have hnext : (waited.pollInLoop place receiver).1 = waited.nextStart place := rfl
          rw [hpolled] at hafter
          have hgoesOn := rhythm_coroutineMoves ticks place cancelAtEnd receiver
            (waited.nextStart place) _ hafter rest
          rw [← hpolled] at hgoesOn
          have hlist := Rhythm.poll hwait hpoll hgoesOn
          simpa [hpolled, hnext] using hlist
termination_by structural ticks => ticks

end

theorem isOwn_allMoves {s : Session τ} {place : Nat} {k : Loop}
    (active : s.kindAt? place = some k) (notIdle : k ≠ .idle) (steps : List Step) :
    ∀ m ∈ allMoves steps s, m.isOwn place = false :=
  (rhythm_allMoves steps s).isOwn_eq_false active notIdle (by simp)

end Session

end TreeWatch
