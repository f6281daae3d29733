import Mathlib
import TreeWatch.Proofs.Session.Calls
import TreeWatch.Proofs.Session.Delivery
import TreeWatch.Proofs.Session.Requests

/-!
# How loops are stopped

The loop that is active when a stop is asked for polls no more, and if none is active then the next
one ends before it polls. A loop that is left takes the request with it: the next one waits and
polls unless it is asked to end as well. But a coroutine that ends before it is told of its
cancellation leaves this to its task, and the next coroutine of the task is cut short by it.
-/

namespace TreeWatch.Session

variable {τ : Type} [Timeline τ]

/-! ## How loops begin -/

/-- The loop at a place is left before anything else is done, after at most one request to wait. -/
def LeftAtOnce (place : Nat) (ms : List (Move τ)) : Prop :=
  ∃ rest, ms = .leave place :: rest ∨ ∃ span, ms = .ask place span :: .leave place :: rest

/-- The loop at a place waits, and after this wait it polls; or it is left, but then it was asked to
end in the meantime. -/
def WaitsToPoll (place : Nat) (ms : List (Move τ)) : Prop :=
  ∃ span waiting rest, ms = .ask place span :: (waiting ++ rest) ∧ .leave place ∉ waiting ∧
    ((∃ receiver tail, rest = .poll place (some receiver) :: tail) ∨
      (∃ m ∈ waiting, m.asksEnd place = true) ∧ ∃ tail, rest = .leave place :: tail)

omit [Timeline τ] in
theorem waitsToPoll_of_poll {place : Nat} {span : τ} {waiting : List (Move τ)}
    (notLeft : .leave place ∉ waiting) (receiver : Receiver) (rest : List (Move τ)) :
    WaitsToPoll place (.ask place span :: (waiting ++ .poll place (some receiver) :: rest)) :=
  ⟨span, waiting, _, rfl, notLeft, .inl ⟨receiver, rest, rfl⟩⟩

omit [Timeline τ] in
theorem waitsToPoll_of_asked {place : Nat} {span : τ} {waiting : List (Move τ)}
    (notLeft : .leave place ∉ waiting) (asked : ∃ m ∈ waiting, m.asksEnd place = true)
    (rest : List (Move τ)) :
    WaitsToPoll place (.ask place span :: (waiting ++ .leave place :: rest)) :=
  ⟨span, waiting, _, rfl, notLeft, .inr ⟨asked, rest, rfl⟩⟩

/-- The loop at a place is told at its first wait of a cancellation that was left to its task, and
is left. -/
def CutShort (place : Nat) (s : Session τ) (ms : List (Move τ)) : Prop :=
  ∃ task rest, s.owes (some task) = true ∧
    ms = .ask place (s.spanUntil (s.nextStart place)) :: .owe (s.settle (some task)).cancelled ::
      .sayCancelled :: .leave place :: rest

theorem CutShort.not_waitsToPoll {place : Nat} {s : Session τ} {ms : List (Move τ)}
    (h : CutShort place s ms) : ¬WaitsToPoll place ms := by
  obtain ⟨task, tail, -, rfl⟩ := h
  rintro ⟨span, waiting, rest, heq, hnotLeft, hends⟩
  obtain ⟨-, heq⟩ := List.cons.inj heq
  simp only [List.cons_eq_append_iff] at heq
  rcases heq with ⟨rfl, rfl⟩ | ⟨_, rfl, ⟨rfl, rfl⟩ | ⟨_, rfl, ⟨rfl, rfl⟩ | ⟨_, rfl, _⟩⟩⟩
  · simp at hends
  · simp at hends
  · simp [Move.asksEnd] at hends
  · simp at hnotLeft

/-- What comes after the moment at which a loop at a place was entered that nothing asks to end,
with a token or as a coroutine. -/
def Unasked (place : Nat) (token? : Option Token) (s : Session τ) (ms : List (Move τ)) : Prop :=
  if token?.isNone then WaitsToPoll place ms ∨ CutShort place s ms
  else if s.cannotWait place then ∃ rest, ms = .leave place :: rest
  else WaitsToPoll place ms

/-- What comes after the moment at which a loop at a place was entered. -/
def Begun (place : Nat) (token? : Option Token) (s : Session τ) (ms : List (Move τ)) : Prop :=
  if s.pollerIs place Poller.mustEnd then LeftAtOnce place ms else Unasked place token? s ms

omit [Timeline τ] in
theorem WaitsToPoll.append {place : Nat} {ms : List (Move τ)} (h : WaitsToPoll place ms)
    (ns : List (Move τ)) : WaitsToPoll place (ms ++ ns) := by
  obtain ⟨span, waiting, rest, rfl, hnotLeft, hends⟩ := h
  refine ⟨span, waiting, rest ++ ns, by simp, hnotLeft, ?_⟩
  rcases hends with ⟨receiver, tail, rfl⟩ | ⟨hasked, tail, rfl⟩
  · exact .inl ⟨receiver, tail ++ ns, rfl⟩
  · exact .inr ⟨hasked, tail ++ ns, rfl⟩

theorem Unasked.append {place : Nat} {token? : Option Token} {s : Session τ} {ms : List (Move τ)}
    (h : Unasked place token? s ms) (ns : List (Move τ)) :
    Unasked place token? s (ms ++ ns) := by
  unfold Unasked at h ⊢
  by_cases hnone : token?.isNone = true
  · rw [if_pos hnone] at h ⊢
    refine h.imp (·.append ns) ?_
    rintro ⟨task, rest, howed, rfl⟩
    exact ⟨task, rest ++ ns, howed, rfl⟩
  · rw [if_neg hnone] at h ⊢
    by_cases hcannot : s.cannotWait place = true
    · rw [if_pos hcannot] at h ⊢
      obtain ⟨rest, rfl⟩ := h
      exact ⟨rest ++ ns, rfl⟩
    · rw [if_neg hcannot] at h ⊢
      exact h.append ns

theorem begun_append {place : Nat} {token? : Option Token} {s : Session τ} {ms : List (Move τ)}
    (h : Begun place token? s ms) (ns : List (Move τ)) : Begun place token? s (ms ++ ns) := by
  unfold Begun at h ⊢
  by_cases hmust : s.pollerIs place Poller.mustEnd = true
  · rw [if_pos hmust] at h ⊢
    obtain ⟨rest, rfl | ⟨span, rfl⟩⟩ := h
    · exact ⟨rest ++ ns, .inl rfl⟩
    · exact ⟨rest ++ ns, .inr ⟨span, rfl⟩⟩
  · rw [if_neg hmust] at h ⊢
    exact h.append ns

theorem leave_not_mem_allMoves {s : Session τ} {place : Nat} {p : Poller}
    (h : s.pollerAt? place = some p) (running : p.isRunning = true) (steps : List Step) :
    .leave place ∉ allMoves steps s := by
  intro hmem
  have hkind : s.kindAt? place = some p.loop.kind := kindAt?_eq_some_iff.mpr ⟨p, h, rfl⟩
  exact (course_allMoves steps s).fitsAll_and_not_left.2 place _ hkind
    (Poller.isRunning_iff_kind.mp running) _ hmem rfl

theorem exists_asksEnd {s : Session τ} {place : Nat} {p q : Poller} {steps : List Step}
    (h : s.pollerAt? place = some p) (running : p.isRunning = true)
    (h' : (performAll steps s).2.pollerAt? place = some q)
    (changed : ¬(q.loop = p.loop ∧ q.stopPending = p.stopPending)) :
    ∃ m ∈ allMoves steps s, m.asksEnd place = true := by
  by_contra hnone
  have hcourse := course_allMoves steps s
  have hnotLeft : ∀ m ∈ allMoves steps s, m ≠ .leave place := by
    rintro m hm rfl
    exact leave_not_mem_allMoves h running steps hm
  have hnotAsked : ∀ m ∈ allMoves steps s, m.asksEnd place = false := by
    intro m hm
    by_contra hask
    exact hnone ⟨m, hm, by simpa using hask⟩
  obtain ⟨r, hr, hsame⟩ := asked_makeAll hcourse.fitsAll h running hnotLeft hnotAsked
  rw [hcourse.makeAll_eq, h'] at hr
  obtain rfl := Option.some.inj hr
  exact changed hsame

theorem begun_loopMoves {s : Session τ} {place : Nat} {p : Poller} {token : Token}
    (h : s.pollerAt? place = some p) (active : p.loop = .blocking token)
    (waits : s.cannotWait place = false) (entered : Token) (receiver : Receiver)
    (ticks : List Tick) (next : τ) (tail : List (Move τ)) :
    Begun place (some entered) s
      (loopMoves place receiver ticks next s ++ .leave place :: tail) := by
  have hrunning : p.isRunning = true := by simp [Poller.isRunning, active]
  have hmust : s.pollerIs place Poller.mustEnd = s.pollerIs place Poller.tokenIsSet := by
    simp [pollerIs_of_some h, Poller.mustEnd, active]
  unfold Begun Unasked
  by_cases hset : s.pollerIs place Poller.tokenIsSet = true
  · rw [if_pos (hmust.trans hset)]
    obtain _ | ⟨⟨steps, seconds, cancel, late⟩, rest⟩ := ticks
    · rw [loopMoves, if_pos hset]
      exact ⟨tail, .inr ⟨_, rfl⟩⟩
    · rw [loopMoves, if_pos hset]
      exact ⟨tail, .inr ⟨_, rfl⟩⟩
  · rw [if_neg (hmust ▸ hset), if_neg (by simp), if_neg (by simp [waits])]
    obtain _ | ⟨⟨steps, seconds, cancel, late⟩, rest⟩ := ticks
    · rw [loopMoves, if_neg hset]
      have hnotLeft : .leave place ∉
          ([.pass (s.spanUntil next), .setToken place] : List (Move τ)) := by
        simp
      exact waitsToPoll_of_asked hnotLeft ⟨.setToken place, by simp, by simp [Move.asksEnd]⟩ tail
    · rw [loopMoves, if_neg hset]
      generalize hspan : s.spanUntil next = span
      generalize htick : (s.pass span).addDelay seconds = waiting
      have hwaiting : waiting.pollerAt? place = some p := htick ▸ h
      have hnotLeft : .leave place ∉
          (.pass span :: .slow seconds :: allMoves steps waiting : List (Move τ)) := by
        simpa using leave_not_mem_allMoves hwaiting hrunning steps
      have hlist : ∀ ms : List (Move τ),
          (.ask place span :: .pass span :: .slow seconds :: (allMoves steps waiting ++ ms)) ++
              .leave place :: tail =
            .ask place span :: ((.pass span :: .slow seconds :: allMoves steps waiting) ++
              (ms ++ .leave place :: tail)) := by
        simp
      dsimp only
      rw [hlist]
      by_cases hended : (performAll steps waiting).2.pollerIs place Poller.tokenIsSet = true
      · rw [if_pos hended]
        refine waitsToPoll_of_asked hnotLeft ?_ tail
        obtain ⟨q, hq, hqset⟩ := pollerIs_eq_true_iff.mp hended
        obtain ⟨m, hm, hasks⟩ := exists_asksEnd hwaiting hrunning hq (by
          rintro ⟨hqloop, hqpending⟩
          rw [Poller.tokenIsSet, hqloop, hqpending] at hqset
          exact hset (pollerIs_eq_true_iff.mpr ⟨p, h, hqset⟩))
        exact ⟨m, by simp [hm], hasks⟩
      · rw [if_neg hended]
        exact waitsToPoll_of_poll hnotLeft receiver _

theorem begun_coroutineMoves {s : Session τ} {place : Nat} {p : Poller}
    (h : s.pollerAt? place = some p) (active : p.loop = .coroutine false) (cancelAtEnd : Bool)
    (receiver : Receiver) (ticks : List Tick) (next : τ) (tail : List (Move τ)) :
    Begun place none s
      (coroutineMoves place cancelAtEnd receiver ticks next s ++ .leave place :: tail) := by
  have hrunning : p.isRunning = true := by simp [Poller.isRunning, active]
  have hmust : s.pollerIs place Poller.mustEnd = s.pollerIs place (·.stopPending) := by
    simp [pollerIs_of_some h, Poller.mustEnd, active]
  unfold Begun Unasked
  by_cases hset : s.pollerIs place (·.stopPending) = true
  · rw [if_pos (hmust.trans hset)]
    obtain _ | ⟨⟨steps, seconds, cancel, late⟩, rest⟩ := ticks
    · rw [coroutineMoves, if_pos hset]
      exact ⟨tail, .inl rfl⟩
    · rw [coroutineMoves, if_pos hset]
      exact ⟨tail, .inl rfl⟩
  · rw [if_neg (hmust ▸ hset), if_pos Option.isNone_none]
    refine .inl ?_
    obtain _ | ⟨⟨steps, seconds, cancel, late⟩, rest⟩ := ticks
    · rw [coroutineMoves, if_neg hset]
      have hnotLeft : .leave place ∉ ([.pass (s.spanUntil next),
          if cancelAtEnd then .cancel place else .stop place, .sayCancelled] : List (Move τ)) := by
        cases cancelAtEnd <;> simp
      refine waitsToPoll_of_asked hnotLeft
        ⟨if cancelAtEnd then .cancel place else .stop place, by simp, ?_⟩ tail
      cases cancelAtEnd <;> simp [Move.asksEnd]
    · rw [coroutineMoves, if_neg hset]
      generalize hspan : s.spanUntil next = span
      generalize htick : (s.pass span).addDelay seconds = waiting
      have hwaiting : waiting.pollerAt? place = some p := htick ▸ h
      dsimp only
      generalize hcancelled : (if cancel then (performAll steps waiting).2.make (.cancel place)
        else (performAll steps waiting).2) = waited
      generalize hcancel : (if cancel then [.cancel place] else [] : List (Move τ)) = cancels
      have hnotCancels : .leave place ∉ cancels := by
        subst hcancel
        cases cancel <;> simp
      obtain ⟨wait, hwait⟩ : ∃ wait : List (Move τ),
          wait = .pass span :: .slow seconds :: (allMoves steps waiting ++ cancels) := ⟨_, rfl⟩
      have hnotLeft : .leave place ∉ wait := by
        simpa [hwait] using ⟨leave_not_mem_allMoves hwaiting hrunning steps, hnotCancels⟩
      have hlist : ∀ ms : List (Move τ), (.ask place span :: .pass span :: .slow seconds ::
          (allMoves steps waiting ++ (cancels ++ ms))) ++ .leave place :: tail =
            .ask place span :: (wait ++ (ms ++ .leave place :: tail)) := by
        simp [hwait]
      -- What ends the wait without a poll is the cancellation or one of the steps.
      have hasked : ∀ q, waited.pollerAt? place = some q →
          q.loop ≠ p.loop ∨ q.stopPending ≠ p.stopPending →
          ∃ m ∈ wait, m.asksEnd place = true := by
        intro q hq hchanged
        subst hwait hcancelled hcancel
        cases cancel with
        | true => exact ⟨.cancel place, by simp, by simp [Move.asksEnd]⟩
        | false =>
            obtain ⟨m, hm, hasks⟩ :=
              exists_asksEnd hwaiting hrunning hq (not_and_or.mpr hchanged)
            exact ⟨m, by simp [hm], hasks⟩
      rw [hlist]
      by_cases hends : (!late && waited.pollerIs place Poller.cancelRequested) = true
      · rw [if_pos hends, ← List.append_assoc]
        have hrequested := (Bool.and_eq_true_iff.mp hends).2
        obtain ⟨q, hq, hqloop⟩ := pollerIs_eq_true_iff.mp hrequested
        rw [Poller.cancelRequested, decide_eq_true_eq] at hqloop
        obtain ⟨m, hm, hasks⟩ := hasked q hq (.inl (by simp [hqloop, active]))
        have hnotLeft' : .leave place ∉ wait ++ [.sayCancelled] := by simpa using hnotLeft
        exact waitsToPoll_of_asked hnotLeft' ⟨m, List.mem_append_left _ hm, hasks⟩ tail
      · rw [if_neg hends]
        by_cases hended : waited.pollerIs place (·.stopPending) = true
        · rw [if_pos hended]
          obtain ⟨q, hq, hqpending⟩ := pollerIs_eq_true_iff.mp hended
          refine waitsToPoll_of_asked hnotLeft (hasked q hq (.inr fun heq => hset ?_)) tail
          exact pollerIs_eq_true_iff.mpr ⟨p, h, heq ▸ hqpending⟩
        · rw [if_neg hended]
          exact waitsToPoll_of_poll hnotLeft receiver _

/-- A loop that cannot wait is left before it asks for a wait. -/
theorem begun_of_cannotWait {s : Session τ} {place : Nat} {p : Poller} {token : Token}
    (h : s.pollerAt? place = some p) (active : p.loop = .blocking token)
    (cannot : s.cannotWait place = true) (entered : Token) (tail : List (Move τ)) :
    Begun place (some entered) s (.leave place :: tail) := by
  have hgoes : ¬s.pollerIs place Poller.mustEnd = true := by
    rw [cannotWait, pollerIs_of_some h, Bool.and_eq_true, Bool.not_eq_true'] at cannot
    simp [pollerIs_of_some h, Poller.mustEnd, active, cannot.1]
  unfold Begun Unasked
  rw [if_neg hgoes, if_neg (by simp), if_pos cannot]
  exact ⟨tail, rfl⟩

theorem begun_of_inherits {s : Session τ} {place : Nat} {p : Poller} {task : Option String}
    (h : s.pollerAt? place = some p) (active : p.loop = .coroutine false)
    (inherits : s.inherits place task = true) :
    Begun place none s (s.inheritMoves place task ++ [.leave place]) := by
  rw [Session.inherits, Bool.and_eq_true, Bool.not_eq_true'] at inherits
  obtain ⟨howed, hcalm⟩ := inherits
  have hgoes : ¬s.pollerIs place Poller.mustEnd = true := by
    rw [pollerIs_of_some h] at hcalm
    simp [pollerIs_of_some h, Poller.mustEnd, active, hcalm]
  unfold Begun Unasked
  rw [if_neg hgoes, if_pos Option.isNone_none]
  cases task with
  | none => simp [owes] at howed
  | some task => exact .inr ⟨task, [], howed, rfl⟩

/-! ## Every loop begins so -/

/-- Every loop that is entered in a line of moves begins as it has to. -/
def Begins : Session τ → List (Move τ) → Prop
  | _, [] => True
  | s, m :: ms =>
    (∀ place token?, m = .enter place token? → Begun place token? (s.make m) ms) ∧
      Begins (s.make m) ms

theorem begins_append {s : Session τ} {ms ns : List (Move τ)} (first : Begins s ms)
    (second : Begins (s.makeAll ms) ns) : Begins s (ms ++ ns) := by
  induction ms generalizing s with
  | nil => exact second
  | cons m ms ih =>
      refine ⟨?_, ih first.2 second⟩
      intro place token? hm
      exact begun_append (first.1 place token? hm) ns

theorem begins_of_ne {s : Session τ} {ms : List (Move τ)}
    (h : ∀ m ∈ ms, ∀ place token?, m ≠ .enter place token?) : Begins s ms := by
  induction ms generalizing s with
  | nil => trivial
  | cons m ms ih =>
      refine ⟨fun place token? hm => absurd hm (h m List.mem_cons_self place token?), ?_⟩
      exact ih fun n hn => h n (List.mem_cons_of_mem m hn)

theorem begins_pollMoves (s : Session τ) (place : Nat) (receiver : Receiver) :
    Begins s (s.pollMoves place receiver) := by
  refine begins_of_ne ?_
  intro m hm other token?
  obtain rfl | ⟨e, rfl⟩ | rfl | ⟨e, text, rfl⟩ := mem_pollMoves hm <;> simp

theorem Begins.of_append {s : Session τ} {ms ns : List (Move τ)} (h : Begins s (ms ++ ns)) :
    Begins (s.makeAll ms) ns := by
  induction ms generalizing s with
  | nil => exact h
  | cons m ms ih => exact ih h.2

mutual

theorem begins_moves : ∀ (step : Step) (s : Session τ), Begins s (moves step s)
  | .act action, s => by
    rw [moves]
    refine begins_of_ne ?_
    intro m hm place token?
    cases action
    case poll id | stop id =>
      obtain ⟨named, _, rfl⟩ := Option.map_eq_some_iff.mp (Option.mem_toList.mp hm)
      simp
    all_goals
      obtain rfl := List.mem_singleton.mp hm
      simp
  | .run id token receiver ticks, s => by
    rw [moves]
    cases hnamed : s.named? id with
    | none => trivial
    | some named =>
        obtain ⟨place, p⟩ := named
        have hp := pollerAt?_of_named? hnamed
        dsimp only
        by_cases hrunning : p.isRunning = true
        · rw [if_pos hrunning]
          exact begins_of_ne (by simp)
        · rw [if_neg hrunning]
          have hfits : s.Fits (.enter place (some token)) := ⟨p, hp, by simpa using hrunning⟩
          have hentered := pollerAt?_make hfits hp
          obtain ⟨entered, hloop⟩ : ∃ t, (p.after place s.world
              (.enter place (some token) : Move τ)).loop = .blocking t := by
            cases token <;> exact ⟨_, by simp [Poller.after, Poller.enterBlocking]; rfl⟩
          by_cases hcannot : (s.make (.enter place (some token))).cannotWait place = true
          · rw [if_pos hcannot]
            refine ⟨?_, begins_of_ne (by simp)⟩
            intro other token? heq
            obtain ⟨rfl, rfl⟩ := Move.enter.inj heq
            exact begun_of_cannotWait hentered hloop hcannot token _
          · rw [if_neg hcannot]
            refine ⟨?_, begins_append (begins_loopMoves ticks place receiver _ _)
              (begins_of_ne (by simp))⟩
            intro other token? heq
            obtain ⟨rfl, rfl⟩ := Move.enter.inj heq
            exact begun_loopMoves hentered hloop (by simpa using hcannot) token receiver ticks _ _
  | .runCoroutine id cancelAtEnd receiver ticks task, s => by
    rw [moves]
    cases hnamed : s.named? id with
    | none => trivial
    | some named =>
        obtain ⟨place, p⟩ := named
        have hp := pollerAt?_of_named? hnamed
        dsimp only
        by_cases hrunning : p.isRunning = true
        · rw [if_pos hrunning]
          exact begins_of_ne (by simp)
        · rw [if_neg hrunning]
          have hfits : s.Fits (.enter place none) := ⟨p, hp, by simpa using hrunning⟩
          have hentered := pollerAt?_make hfits hp
          have hloop : (p.after place s.world (.enter place none : Move τ)).loop =
              .coroutine false := by
            simp [Poller.after, Poller.enterCoroutine]
          by_cases hinherits : (s.make (.enter place none)).inherits place task = true
          · rw [if_pos hinherits]
            refine ⟨?_, begins_of_ne (by simp [inheritMoves])⟩
            intro other token? heq
            obtain ⟨rfl, rfl⟩ := Move.enter.inj heq
            exact begun_of_inherits hentered hloop hinherits
          · rw [if_neg hinherits]
            refine ⟨?_, begins_append (begins_coroutineMoves ticks place cancelAtEnd receiver _ _)
              (begins_of_ne ?_)⟩
            · intro other token? heq
              obtain ⟨rfl, rfl⟩ := Move.enter.inj heq
              exact begun_coroutineMoves hentered hloop cancelAtEnd receiver ticks _ _
            · intro m hm
              rcases List.mem_cons.mp hm with rfl | hm
              · simp
              · simp [mem_oweMoves hm]
termination_by structural step => step

theorem begins_allMoves : ∀ (steps : List Step) (s : Session τ), Begins s (allMoves steps s)
  | [], _ => trivial
  | step :: rest, s => by
    rw [allMoves]
    refine begins_append (begins_moves step s) ?_
    rw [(course_moves step s).makeAll_eq]
    exact begins_allMoves rest _
termination_by structural steps => steps

theorem begins_loopMoves : ∀ (ticks : List Tick) (place : Nat) (receiver : Receiver) (next : τ)
    (s : Session τ), Begins s (loopMoves place receiver ticks next s)
  | [], place, receiver, next, s => by
    rw [loopMoves]
    split <;> exact begins_of_ne (by simp)
  | .mk steps seconds _ _ :: rest, place, receiver, next, s => by
    rw [loopMoves]
    dsimp only
    split
    · exact begins_of_ne (by simp)
    · refine ⟨by simp, by simp, by simp, begins_append (begins_allMoves steps _) ?_⟩
      change Begins (((s.pass (s.spanUntil next)).addDelay seconds).makeAll _) _
      rw [makeAll_allMoves]
      split
      · trivial
      · refine begins_append (begins_pollMoves _ place receiver) ?_
        rw [makeAll_pollMoves]
        exact begins_loopMoves rest place receiver _ _
termination_by structural ticks => ticks

theorem begins_coroutineMoves : ∀ (ticks : List Tick) (place : Nat) (cancelAtEnd : Bool)
    (receiver : Receiver) (next : τ) (s : Session τ),
    Begins s (coroutineMoves place cancelAtEnd receiver ticks next s)
  | [], place, cancelAtEnd, receiver, next, s => by
    rw [coroutineMoves]
    split
    · trivial
    · cases cancelAtEnd <;> exact begins_of_ne (by simp)
  | .mk steps seconds cancel late :: rest, place, cancelAtEnd, receiver, next, s => by
    rw [coroutineMoves]
    split
    · trivial
    · dsimp only
      refine ⟨by simp, by simp, by simp, begins_append (begins_allMoves steps _) ?_⟩
      change Begins (((s.pass (s.spanUntil next)).addDelay seconds).makeAll _) _
      rw [makeAll_allMoves]
      generalize performAll steps ((s.pass (s.spanUntil next)).addDelay seconds) = ticked
      have hcancel : ∀ t : Session τ, t.makeAll (if cancel then [.cancel place] else []) =
          if cancel then t.make (.cancel place) else t := by
        intro t
        cases cancel <;> rfl
      refine begins_append (begins_of_ne (by cases cancel <;> simp)) ?_
      rw [hcancel]
      generalize (if cancel then ticked.2.make (.cancel place) else ticked.2) = waited
      split
      · exact begins_of_ne (by simp)
      · split
        · trivial
        · refine begins_append (begins_pollMoves _ place receiver) ?_
          rw [makeAll_pollMoves]
          exact begins_coroutineMoves rest place cancelAtEnd receiver _ _
termination_by structural ticks => ticks

end

/-! ## Loops that have to end at once -/

theorem loop_of_set {s : Session τ} {place : Nat} (set : s.pollerIs place Poller.tokenIsSet = true)
    (receiver : Receiver) (ticks : List Tick) (next : τ) :
    loop place receiver ticks next s = (({} : Trace τ).waited (s.spanUntil next), s) := by
  obtain _ | ⟨⟨steps, seconds, cancel, late⟩, rest⟩ := ticks <;> simp [loop, set]

theorem coroutine_of_pending {s : Session τ} {place : Nat}
    (pending : s.pollerIs place (·.stopPending) = true) (cancelAtEnd : Bool) (receiver : Receiver)
    (ticks : List Tick) (next : τ) :
    coroutine place cancelAtEnd receiver ticks next s = ({}, s) := by
  obtain _ | ⟨⟨steps, seconds, cancel, late⟩, rest⟩ := ticks <;> simp [coroutine, pending]

/-- Loops that a pending stop keeps from polling: no tick of theirs comes to pass, nothing is handed
on, and the stop is not pending any more. A token from outside is set by it. -/
structure Dismissed (s : Session τ) (id : String) : Prop where
  run : ∀ token receiver ticks, ∃ span,
    (perform (.run id token receiver ticks) s).1 =
      .ok (.loop [span] [] [] false (some (decide (token ≠ .own))) false)
  runCoroutine : ∀ cancelAtEnd receiver ticks task,
    (perform (.runCoroutine id cancelAtEnd receiver ticks task) s).1 =
      .ok (.loop [] [] [] false none false)

theorem dismissed_of_pending {s : Session τ} {id : String} {place : Nat} {p : Poller}
    (named : s.named? id = some (place, p)) (idle : p.isRunning = false)
    (pending : p.stopPending = true) : Dismissed s id where
  run token receiver ticks := by
    have hp := pollerAt?_of_named? named
    have hfits : s.Fits (.enter place (some token)) := ⟨p, hp, idle⟩
    have hentered := pollerAt?_make hfits hp
    have hset : (s.make (.enter place (some token))).pollerIs place Poller.tokenIsSet = true := by
      rw [pollerIs_of_some hentered]
      cases token <;> simp [Poller.after, Poller.enterBlocking, Poller.tokenIsSet, pending]
    have hwaits : (s.make (.enter place (some token))).cannotWait place = false := by
      rw [cannotWait_make_enter hp, Poller.cannotBegin, pending]
      rfl
    have hleft := pollerAt?_endBlocking hentered
    have hvalue : ((s.make (.enter place (some token))).endBlocking place).1 =
        decide (token ≠ .own) := by
      have hcalm : (((s.make (.enter place (some token))).endBlocking place).2.pollerIs place
          (·.stopPending)) = false := pollerIs_of_some hleft _
      rw [endBlocking] at hcalm ⊢
      dsimp only at hcalm ⊢
      rw [hcalm, hentered]
      cases token <;> simp [Poller.after, Poller.enterBlocking, pending]
    rw [perform_run named idle]
    dsimp only
    rw [if_neg (by simp [hwaits]), loop_of_set hset]
    dsimp only
    rw [hvalue, reply_of_left hleft]
    exact ⟨_, rfl⟩
  runCoroutine cancelAtEnd receiver ticks task := by
    have hp := pollerAt?_of_named? named
    have hfits : s.Fits (.enter place none) := ⟨p, hp, idle⟩
    have hentered := pollerAt?_make hfits hp
    have hset : (s.make (.enter place none)).pollerIs place (·.stopPending) = true := by
      rw [pollerIs_of_some hentered]
      simpa [Poller.after, Poller.enterCoroutine] using pending
    have htold : (s.make (.enter place none)).inherits place task = false := by
      rw [inherits_make_enter hp, pending, Bool.not_true, Bool.and_false]
    rw [perform_runCoroutine named idle]
    dsimp only
    rw [if_neg (by simp [htold]), coroutine_of_pending hset]
    exact congrArg Except.ok (reply_of_left (pollerAt?_endCoroutine hentered _ task))

/-! ## Cancellations that are left to tasks -/

omit [Timeline τ] in
/-- Of the requests to stop that a receiver makes while events are handed to it, the first one does
all that they do. -/
theorem pollerAt?_dispatch {s : Session τ} {place : Nat} {p : Poller}
    (h : s.pollerAt? place = some p) (receiver : Receiver) (es : List Event) :
    (s.dispatch place receiver es).pollerAt? place =
      some (if es.any (receiver.stopsOn.contains ·.path) then p.stop.outcome else p) := by
  induction es generalizing s p with
  | nil => exact h
  | cons e rest ih =>
      have hstopped : (if receiver.stopsOn.contains e.path then s.changePoller place Poller.stop
          else s).pollerAt? place =
          some (if receiver.stopsOn.contains e.path then p.stop.outcome else p) := by
        split
        · exact pollerAt?_changePoller_self h _
        · exact h
      have hdelivered : (s.deliver place receiver e).pollerAt? place =
          some (if receiver.stopsOn.contains e.path then p.stop.outcome else p) := by
        unfold deliver
        dsimp only
        split <;> exact hstopped
      refine (ih hdelivered).trans (congrArg some ?_)
      rw [List.any_cons]
      cases receiver.stopsOn.contains e.path with
      | true => simp [Poller.outcome_stop]
      | false => simp

theorem pollerAt?_pollInLoop {s : Session τ} {place : Nat} {p : Poller}
    (h : s.pollerAt? place = some p) (receiver : Receiver) :
    (s.pollInLoop place receiver).2.2.pollerAt? place =
      some (if (s.pollInLoop place receiver).2.1.any (receiver.stopsOn.contains ·.path)
        then (p.poll s.world).outcome.2.stop.outcome else (p.poll s.world).outcome.2) := by
  have hpolled : (s.pollAt place).2.pollerAt? place = some (p.poll s.world).outcome.2 := by
    rw [pollAt_of_some h]
    exact pollerAt?_setPoller_self (s := s.passListing.emit _) h _
  exact pollerAt?_dispatch hpolled receiver _

/-- What is done in a tick, and a cancellation at its end, leave a coroutine what it is. -/
theorem kindAt?_ticked {s t : Session τ} {place : Nat} {steps : List Step}
    {answers : List (Answer τ)} (active : s.kindAt? place = some (.coroutine false))
    (done : performAll steps s = (answers, t)) (cancelAtEnd : Bool) (task : Option String)
    (cancel : Bool) :
    (t.ticked (.coroutine cancelAtEnd task) place cancel).kindAt? place =
      some (.coroutine false) := by
  have hdone := (course_allMoves steps s).kindAt?_eq active (by simp)
  rw [done] at hdone
  cases cancel
  · exact hdone
  · exact kindAt?_make (m := .cancel place) (exists_isRunning hdone (by simp)) hdone (by simp)
      (by simp)

/-- A stop that the receiver of a coroutine asks for is seen through the flag, before the next
wait. -/
theorem coroutine_of_stopsOn {s t : Session τ} {place : Nat} {receiver : Receiver} {next : τ}
    {events : List Event} (active : s.kindAt? place = some (.coroutine false))
    (polled : s.pollInLoop place receiver = (next, events, t))
    (asked : events.any (receiver.stopsOn.contains ·.path) = true) (cancelAtEnd : Bool)
    (ticks : List Tick) :
    coroutine place cancelAtEnd receiver ticks next t = ({}, t) ∧
      t.pollerIs place Poller.cancelRequested = true := by
  obtain ⟨p, hp, hkind⟩ := kindAt?_eq_some_iff.mp active
  obtain ⟨requested, hloop⟩ := Poller.exists_loop_eq_coroutine hkind
  have hpolled := pollerAt?_pollInLoop hp receiver
  rw [polled, if_pos asked, Poller.outcome_stop] at hpolled
  refine ⟨coroutine_of_pending (pollerIs_of_some hpolled _) cancelAtEnd receiver ticks next, ?_⟩
  rw [pollerIs_of_some hpolled, Poller.outcome_poll_snd]
  simp [Poller.cancelRequested, Poller.stoppedLoop, hloop]

/-- A coroutine whose receiver asks for a stop ends before it is told of its cancellation. -/
theorem leavesOwing_of_stopsOn {place : Nat} {receiver : Receiver} (cancelAtEnd : Bool)
    (ticks : List Tick) (next : τ) {s : Session τ}
    (active : s.kindAt? place = some (.coroutine false))
    (asked : (coroutine place cancelAtEnd receiver ticks next s).1.events.any
      (receiver.stopsOn.contains ·.path) = true) :
    (coroutine place cancelAtEnd receiver ticks next s).2.leavesOwing place
      (coroutine place cancelAtEnd receiver ticks next s).1 = true := by
  induction ticks generalizing next s with
  | nil =>
      rw [coroutine] at asked
      dsimp only at asked
      split at asked <;> simp [Trace.waited] at asked
  | cons tick rest ih =>
      obtain ⟨steps, seconds, cancel, late⟩ := tick
      let form := LoopForm.coroutine cancelAtEnd none
      change (runLoop form place receiver _ next s).2.leavesOwing place
        (runLoop form place receiver _ next s).1 = true
      change (runLoop form place receiver _ next s).1.events.any _ = true at asked
      cases hbegun : s.endsBefore form place with
      | true =>
          have hloop : runLoop form place receiver (.mk steps seconds cancel late :: rest) next s =
            ({}, s) := coroutine_of_pending hbegun cancelAtEnd receiver _ next
          rw [hloop] at asked
          simp at asked
      | false =>
          cases hdone : performAll steps (s.waiting next seconds) with
          | mk answers t =>
          have hactive := kindAt?_ticked (s := s.waiting next seconds) active hdone cancelAtEnd none
            cancel
          cases hends : (t.ticked form place cancel).endsAfter form place late with
          | true =>
              rw [runLoop_of_endsAfter hbegun hdone hends] at asked
              simp [Trace.waited, Trace.ticked] at asked
          | false =>
              cases hpolled : (t.ticked form place cancel).pollInLoop place receiver with
              | mk next' polled =>
              obtain ⟨events, u⟩ := polled
              rw [runLoop_of_goesOn hbegun hdone hends hpolled] at asked ⊢
              cases hasked : events.any (receiver.stopsOn.contains ·.path) with
              | true =>
                  obtain ⟨hrest, hrequested⟩ := coroutine_of_stopsOn hactive hpolled hasked
                    cancelAtEnd rest
                  have hloop : runLoop form place receiver rest next' u = ({}, u) := hrest
                  rw [hloop]
                  exact hrequested
              | false =>
                  have hfits : (t.ticked form place cancel).Fits (.poll place (some receiver)) :=
                    fits_poll_of_coroutine hactive (Bool.or_eq_false_iff.mp hends).2
                  have hnext := kindAt?_pollMoves hfits hactive (by simp)
                  rw [makeAll_pollMoves, hpolled] at hnext
                  refine ih next' hnext ?_
                  change (events ++ _).any _ = true at asked
                  rwa [List.any_append, hasked, Bool.false_or] at asked

/-- What comes of calls of which no stop is pending. -/
structure Unstopped (s : Session τ) (id : String) (place : Nat) (p : Poller) : Prop where
  tooLong : ∀ token, p.cannotBegin s.world token = true → ∀ receiver ticks,
    (perform (.run id token receiver ticks) s).1 = .error .tooLarge ∧
      moves (.run id token receiver ticks) s =
        [.enter place (some token), .leave place, .sayStopped place]
  /-- A coroutine of a task to which a cancellation was left ends at its first wait, and the task is
  told of it. -/
  cutShort : ∀ task, s.owes (some task) = true → ∀ cancelAtEnd receiver ticks, ∃ span,
    (perform (.runCoroutine id cancelAtEnd receiver ticks (some task)) s).1 =
        .ok (.loop [span] [] [] false none false) ∧
      (perform (.runCoroutine id cancelAtEnd receiver ticks (some task)) s).2.owes (some task) =
        false
  /-- A coroutine whose receiver asks for a stop leaves a cancellation to its task. -/
  leavesOwing : ∀ cancelAtEnd receiver ticks task waits events answers,
    (perform (.runCoroutine id cancelAtEnd receiver ticks (some task)) s).1 =
        .ok (.loop waits events answers false none false) →
      events.any (receiver.stopsOn.contains ·.path) = true →
        (perform (.runCoroutine id cancelAtEnd receiver ticks (some task)) s).2.owes (some task) =
          true

theorem cutShort_of_owes {s : Session τ} {id : String} {place : Nat} {p : Poller}
    (named : s.named? id = some (place, p)) (idle : p.isRunning = false)
    (calm : p.stopPending = false) {task : String} (owed : s.owes (some task) = true)
    (cancelAtEnd : Bool) (receiver : Receiver) (ticks : List Tick) :
    ∃ span, (perform (.runCoroutine id cancelAtEnd receiver ticks (some task)) s).1 =
        .ok (.loop [span] [] [] false none false) ∧
      (perform (.runCoroutine id cancelAtEnd receiver ticks (some task)) s).2.owes (some task) =
        false := by
  have hp := pollerAt?_of_named? named
  have hfits : s.Fits (.enter place none) := ⟨p, hp, idle⟩
  have hentered := pollerAt?_make hfits hp
  have htold : (s.make (.enter place none)).inherits place (some task) = true := by
    rw [inherits_make_enter hp, owed, calm]
    rfl
  rw [perform_runCoroutine named idle]
  dsimp only
  rw [if_pos htold, endCoroutine_inherit]
  have hleft : (((s.make (.enter place none)).inherit place (some task)).2.make
      (.leave place)).pollerAt? place =
        some (p.after place s.world (.enter place none : Move τ)).leave :=
    pollerAt?_changePoller_self (s := ((s.make (.enter place none)).inherit place _).2) hentered _
  refine ⟨_, congrArg Except.ok (reply_of_left hleft), ?_⟩
  have hsettled : (((s.make (.enter place none)).inherit place (some task)).2.make
      (.leave place)).cancelled = ((s.make (.enter place none)).settle (some task)).cancelled :=
    cancelled_changePoller _ place _
  simp [owes, hsettled, settle]

omit [Timeline τ] in
theorem events_of_reply {trace : Trace τ} {token? token?' : Option Bool} {s : Session τ}
    {place : Nat} {waits : List τ} {events : List Event} {answers : List (List (Answer τ))}
    {running stopPending : Bool}
    (replied : (.ok (trace.reply token? s place) : Outcome τ) =
      .ok (.loop waits events answers running token?' stopPending)) : trace.events = events := by
  simp only [Except.ok.injEq, Trace.reply, Reply.loop.injEq] at replied
  exact replied.2.1

theorem owes_of_stopsOn {s : Session τ} {id : String} {place : Nat} {p : Poller}
    (named : s.named? id = some (place, p)) (idle : p.isRunning = false) {cancelAtEnd : Bool}
    {receiver : Receiver} {ticks : List Tick} {task : String} {waits : List τ}
    {events : List Event} {answers : List (List (Answer τ))}
    (replied : (perform (.runCoroutine id cancelAtEnd receiver ticks (some task)) s).1 =
      .ok (.loop waits events answers false none false))
    (asked : events.any (receiver.stopsOn.contains ·.path) = true) :
    (perform (.runCoroutine id cancelAtEnd receiver ticks (some task)) s).2.owes (some task) =
      true := by
  have hentered := kindAt?_make_coroutine ⟨p, pollerAt?_of_named? named, idle⟩
  rw [perform_runCoroutine named idle] at replied ⊢
  dsimp only at replied ⊢
  by_cases htold : (s.make (.enter place none)).inherits place (some task) = true
  · -- A coroutine that is cut short hands nothing on.
    rw [if_pos htold] at replied
    rw [← events_of_reply replied] at asked
    exact absurd asked Bool.false_ne_true
  · rw [if_neg htold] at replied ⊢
    rw [← events_of_reply replied] at asked
    rw [endCoroutine, if_pos (leavesOwing_of_stopsOn cancelAtEnd ticks _ hentered asked)]
    simp [owes, owe]

theorem unstopped_of_calm {s : Session τ} {id : String} {place : Nat} {p : Poller}
    (named : s.named? id = some (place, p)) (idle : p.isRunning = false)
    (calm : p.stopPending = false) : Unstopped s id place p where
  tooLong _ cannot := run_of_cannotBegin named idle cannot
  cutShort _ owed := cutShort_of_owes named idle calm owed
  leavesOwing _ _ _ _ _ _ _ replied asked := owes_of_stopsOn named idle replied asked

/-! ## Requests to stop from the first to the last moment -/

/-- A stop that finds no active loop ends the next one. -/
theorem leftAtOnce_of_stop {s : Session τ} {between after : List (Move τ)} {place : Nat}
    {token? : Option Token}
    (fits : s.FitsAll (.stop place :: (between ++ .enter place token? :: after)))
    (begins : Begins s (.stop place :: (between ++ .enter place token? :: after))) {p : Poller}
    (h : s.pollerAt? place = some p) (idle : p.isRunning = false)
    (notEntered : ∀ other?, .enter place other? ∉ between) : LeftAtOnce place after := by
  obtain ⟨hstop, hrest⟩ := fits
  obtain ⟨hbetween, henter, _⟩ := fitsAll_append.mp hrest
  have hstopped := pollerAt?_make hstop h
  have hkind : (s.make (.stop place)).kindAt? place = some .idle := by
    refine kindAt?_make hstop (kindAt?_eq_some_iff.mpr ⟨p, h, ?_⟩) (by simp) (by simp)
    by_contra hactive
    rw [Poller.isRunning_iff_kind.mpr hactive] at idle
    exact Bool.noConfusion idle
  obtain ⟨q, hq, hpending⟩ := stopPending_makeAll hbetween hstopped
    (by simp [Poller.after, Poller.outcome_stop]) (idle_makeAll hbetween hkind notEntered).2
  have hmust : (((s.make (.stop place)).makeAll between).make (.enter place token?)).pollerIs place
      Poller.mustEnd = true := by
    rw [pollerIs_of_some (pollerAt?_make henter hq), Poller.mustEnd_after_enter, hpending,
      Bool.true_or]
  have hbegun := begins.2.of_append.1 place token? rfl
  rwa [Begun, if_pos hmust] at hbegun

/-- A loop that is active when a stop is asked for starts no further poll. -/
theorem not_mem_poll_of_stop {s : Session τ} {during after : List (Move τ)} {place : Nat}
    (fits : s.FitsAll (.stop place :: (during ++ after))) {p : Poller}
    (h : s.pollerAt? place = some p) (running : p.isRunning = true)
    (notLeft : .leave place ∉ during) (receiver : Receiver) :
    .poll place (some receiver) ∉ during := by
  have hstopped := pollerAt?_make fits.1 h
  have hafter : p.after place s.world (.stop place : Move τ) = p.stop.outcome := by
    simp [Poller.after]
  rw [hafter] at hstopped
  refine not_mem_poll_of_mustEnd (fitsAll_append.mp fits.2).1 hstopped ?_
    (Poller.mustEnd_stop p running) notLeft receiver
  rw [Poller.isRunning_iff_kind, Poller.outcome_stop, Poller.kind_stoppedLoop]
  exact Poller.isRunning_iff_kind.mp running

theorem pollerAt?_make_leave {s : Session τ} {place : Nat} (fits : s.Fits (.leave place)) :
    ∃ p : Poller, (s.make (.leave place)).pollerAt? place = some p.leave := by
  obtain ⟨p, hp, _⟩ := id fits
  exact ⟨p, (pollerAt?_make fits hp).trans (by simp [Poller.after])⟩

/-- Nothing asks the loop after one that was left to end, if there is no new stop. -/
theorem unasked_of_leave {s : Session τ} {between after : List (Move τ)} {place : Nat}
    {token? : Option Token}
    (fits : s.FitsAll (.leave place :: (between ++ .enter place token? :: after)))
    (begins : Begins s (.leave place :: (between ++ .enter place token? :: after)))
    (notEntered : ∀ other?, .enter place other? ∉ between) (notStopped : .stop place ∉ between)
    (notSet : token? ≠ some (.external true)) :
    Unasked place token?
      (s.makeAll (.leave place :: (between ++ [.enter place token?]))) after := by
  obtain ⟨hleave, hrest⟩ := fits
  obtain ⟨hbetween, henter, _⟩ := fitsAll_append.mp hrest
  obtain ⟨p, hp⟩ := pollerAt?_make_leave hleave
  obtain ⟨q, hq, _, hcalm⟩ := calm_makeAll hbetween hp rfl rfl notEntered notStopped
  have hmust : (((s.make (.leave place)).makeAll between).make
      (.enter place token?)).pollerIs place Poller.mustEnd = false := by
    rw [pollerIs_of_some (pollerAt?_make henter hq), Poller.mustEnd_after_enter, hcalm,
      Bool.false_or]
    exact decide_eq_false notSet
  have hbegun := begins.2.of_append.1 place token? rfl
  rw [Begun, if_neg (by simp [hmust])] at hbegun
  rw [makeAll_cons, makeAll_append]
  exact hbegun

/-- While steps are done in a session, every request to stop ends one loop of its poller, and no
request is left over when a loop is. -/
structure StopsHeeded (s : Session τ) (steps : List Step) : Prop where
  made : (performAll steps s).2 = s.makeAll (allMoves steps s)
  /-- A stop that finds no active loop ends the next one, with whatever token it is entered, before
  it polls or hands anything to its receiver. -/
  endsNext : ∀ before between after place token?,
    allMoves steps s = before ++ .stop place :: (between ++ .enter place token? :: after) →
      (∃ p, (s.makeAll before).pollerAt? place = some p ∧ p.isRunning = false) →
      (∀ other?, .enter place other? ∉ between) → LeftAtOnce place after
  /-- After a stop that finds an active loop, whoever asks for it and when, this loop starts no
  further poll. -/
  endsActive : ∀ before during after place,
    allMoves steps s = before ++ .stop place :: (during ++ after) →
      (∃ p, (s.makeAll before).pollerAt? place = some p ∧ p.isRunning = true) →
      .leave place ∉ during → ∀ receiver, .poll place (some receiver) ∉ during
  /-- The events of a poll are all handed on, also after a stop that the receiver asks for. -/
  handsRest : ∀ before after place receiver,
    allMoves steps s = before ++ .poll place (some receiver) :: after →
      ∃ rest, after =
        ((s.makeAll before).pollAt place).1.flatMap (handMoves place receiver) ++ rest
  /-- When a loop is left, for whatever reason, its poller is in none and no stop is pending. -/
  leavesNone : ∀ before after place, allMoves steps s = before ++ .leave place :: after →
    ∃ p, (s.makeAll (before ++ [.leave place])).pollerAt? place = some p ∧
      p.isRunning = false ∧ p.stopPending = false
  /-- Unless there is a new stop or its token is set from the start, nothing asks the loop after it
  to end: it polls, if a thread can wait for its interval and no cancellation was left to its
  task. -/
  goesOn : ∀ before between after place token?,
    allMoves steps s = before ++ .leave place :: (between ++ .enter place token? :: after) →
      (∀ other?, .enter place other? ∉ between) → .stop place ∉ between →
      token? ≠ some (.external true) →
      Unasked place token?
        (s.makeAll (before ++ .leave place :: (between ++ [.enter place token?]))) after

/-- Whatever is done in a session, and at whatever moment a stop is asked for, it is heeded by one
loop: by the active one, and otherwise by the next. What it leaves behind is the cancellation of a
coroutine that ended before it was told: the next coroutine of the same task gets it. -/
theorem stopsHeeded (s : Session τ) (steps : List Step) :
    StopsHeeded s steps ∧
      ∀ (s : Session τ) id place p, s.named? id = some (place, p) → p.isRunning = false →
        (p.stopPending = true → Dismissed s id) ∧
          (p.stopPending = false → Unstopped s id place p) := by
  have hfits := (course_allMoves steps s).fitsAll
  have hbegins := begins_allMoves steps s
  refine ⟨⟨(makeAll_allMoves steps s).symm, ?_, ?_, ?_, ?_, ?_⟩,
    fun s id place p named idle => ⟨dismissed_of_pending named idle, unstopped_of_calm named idle⟩⟩
  · intro before between after place token? hsplit ⟨p, hp, hidle⟩ hnotEntered
    rw [hsplit] at hfits hbegins
    exact leftAtOnce_of_stop (fitsAll_append.mp hfits).2 hbegins.of_append hp hidle hnotEntered
  · intro before during after place hsplit ⟨p, hp, hrunning⟩ hnotLeft
    rw [hsplit] at hfits
    exact not_mem_poll_of_stop (fitsAll_append.mp hfits).2 hp hrunning hnotLeft
  · intro before after place receiver hsplit
    have hfollowed := (course_allMoves steps s).followed
    rw [hsplit] at hfollowed
    exact hfollowed.exists_rest
  · intro before after place hsplit
    rw [hsplit] at hfits
    obtain ⟨p, hp⟩ := pollerAt?_make_leave (fitsAll_append.mp hfits).2.1
    refine ⟨p.leave, ?_, rfl, rfl⟩
    rw [makeAll_append]
    exact hp
  · intro before between after place token? hsplit hnotEntered hnotStopped hnotSet
    rw [hsplit] at hfits hbegins
    rw [makeAll_append]
    exact unasked_of_leave (fitsAll_append.mp hfits).2 hbegins.of_append hnotEntered hnotStopped
      hnotSet

def stoppedPoller : Poller :=
  { spec := ⟨.absolute ["w"], {}, 1.0⟩, stopPending := true }

def stoppedSession : Session Float :=
  { (ofWorld {} : Session Float) with pollers := [stoppedPoller], names := [("p", 0)] }

theorem stopsHeeded_stoppedSession :
    (∃ after, allMoves [.act (.stop "p"), .run "p" (.external false) {} [.mk [] 0.0 false false]]
        stoppedSession = .stop 0 :: .enter 0 (some (.external false)) :: after ∧
      LeftAtOnce 0 after) ∧
    stoppedSession.named? "p" = some (0, stoppedPoller) ∧
    ∃ span, (perform (.run "p" (.external false) {} [.mk [] 0.0 false false]) stoppedSession).1 =
      .ok (.loop [span] [] [] false (some true) false) := by
  have hnamed : stoppedSession.named? "p" = some (0, stoppedPoller) := rfl
  obtain ⟨hheeded, hcalls⟩ := stopsHeeded stoppedSession
    [.act (.stop "p"), .run "p" (.external false) {} [.mk [] 0.0 false false]]
  have hends := hheeded.endsNext [] [] _ 0 _ rfl ⟨stoppedPoller, rfl, rfl⟩ (by simp)
  have hdismissed := (hcalls stoppedSession "p" 0 stoppedPoller hnamed rfl).1 rfl
  exact ⟨⟨_, rfl, hends⟩, hnamed, hdismissed.run (.external false) {} _⟩

def vacantWorld : World :=
  { root := .directory { name := "" } [.directory { name := "w" } []] }

def creation : Step :=
  .act (.create "p" ⟨.absolute ["w"], {}, .seconds 1.0⟩)

/-- A coroutine of it in a task, whose receiver asks for a stop on what the first poll finds. -/
def stoppedCoroutine : Step :=
  .runCoroutine "p" false { stopsOn := ["a"] }
    [.mk [.act (.edit (.write ["w", "a"] [] 5))] 0.0 false false] (some "t")

/-- Another coroutine in the same task. -/
def nextCoroutine : Step :=
  .runCoroutine "p" false {} [] (some "t")

/-- Without a new stop the loop after one that was left need not poll. -/
theorem not_forall_waitsToPoll :
    ¬∀ (w : World) (steps : List Step) (before between after : List (Move Float)) (place : Nat)
      (token? : Option Token), allMoves steps (ofWorld w) =
          before ++ .leave place :: (between ++ .enter place token? :: after) →
        (∀ other?, .enter place other? ∉ between) → .stop place ∉ between →
        token? ≠ some (.external true) → WaitsToPoll place after := by
  intro h
  obtain ⟨s, hs⟩ : ∃ s : Session Float, s = (perform creation (ofWorld vacantWorld)).2 := ⟨_, rfl⟩
  obtain ⟨t, ht⟩ : ∃ t : Session Float, t = (perform stoppedCoroutine s).2 := ⟨_, rfl⟩
  have hstopped : s.enters? stoppedCoroutine = some 0 := by subst hs; decide +kernel
  have hentered : t.enters? nextCoroutine = some 0 := by subst ht hs; decide +kernel
  have htold : (t.make (.enter 0 none)).inherits 0 (some "t") = true := by
    subst ht hs
    decide +kernel
  obtain ⟨first?, inner, rest, hmoves, -, hrest⟩ := moves_of_enters? hstopped
  obtain ⟨p, hcalls, hidle⟩ := exists_of_enters? hentered
  have hcut : moves nextCoroutine t = .enter 0 none ::
      ((t.make (.enter 0 none)).inheritMoves 0 (some "t") ++ [.leave 0]) := by
    rw [nextCoroutine, moves_runCoroutine hcalls hidle]
    exact if_pos htold
  have hall : allMoves [creation, stoppedCoroutine, nextCoroutine] (ofWorld vacantWorld) =
      (moves creation (ofWorld vacantWorld) ++ .enter 0 first? :: inner) ++
        .leave 0 :: (rest ++ .enter 0 none ::
          ((t.make (.enter 0 none)).inheritMoves 0 (some "t") ++ [.leave 0])) := by
    have hsteps : allMoves [creation, stoppedCoroutine, nextCoroutine] (ofWorld vacantWorld) =
        moves creation (ofWorld vacantWorld) ++ (moves stoppedCoroutine s ++
          (moves nextCoroutine t ++ [])) := by
      subst ht hs
      rfl
    rw [hsteps, hmoves, hcut]
    simp
  have hnot : ∀ m ∈ rest, (∀ token?, m ≠ .enter 0 token?) ∧ m ≠ .stop 0 := by
    intro m hm
    obtain rfl | ⟨tasks, rfl⟩ := hrest m hm <;> simp
  exact CutShort.not_waitsToPoll ⟨"t", [], (Bool.and_eq_true_iff.mp htold).1, rfl⟩
    (h vacantWorld _ _ _ _ 0 none hall (fun other? hm => (hnot _ hm).1 other? rfl)
      (fun hm => (hnot _ hm).2 rfl) (by simp))

end TreeWatch.Session
