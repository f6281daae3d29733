import TreeWatch.Proofs.Session.Course

/-!
# Calls of loops

A loop goes through its ticks in one of two forms: it blocks, or it is a coroutine. Both end before
a tick, end after it or poll and go on, and a call that is accepted is such a loop from its
beginning to its end.
-/

namespace TreeWatch

/-- The forms of a loop; a coroutine is cancelled or stopped when its ticks are used up, and belongs
to a task. -/
inductive LoopForm where
  | blocking
  | coroutine (cancelAtEnd : Bool) (task : Option String)

def Step.loopId? : Step → Option String
  | .run id _ _ _ | .runCoroutine id _ _ _ _ => some id
  | .act _ => none

namespace Session

variable {τ : Type} [Timeline τ]

/-! ## Ticks of either form -/

def runLoop (form : LoopForm) (place : Nat) (receiver : Receiver) (ticks : List Tick) (next : τ)
    (s : Session τ) : Trace τ × Session τ :=
  match form with
  | .blocking => loop place receiver ticks next s
  | .coroutine cancelAtEnd _ => coroutine place cancelAtEnd receiver ticks next s

/-- Whether a loop ends at the look that it takes before a tick. -/
def endsBefore (form : LoopForm) (place : Nat) (s : Session τ) : Bool :=
  match form with
  | .blocking => s.pollerIs place Poller.tokenIsSet
  | .coroutine _ _ => s.pollerIs place (·.stopPending)

/-- The session in which the steps of a tick are begun. -/
def waiting (s : Session τ) (next : τ) (seconds : Float) : Session τ :=
  (s.pass (s.spanUntil next)).addDelay seconds

def ticked (form : LoopForm) (place : Nat) (cancel : Bool) (s : Session τ) : Session τ :=
  match form with
  | .blocking => s
  | .coroutine _ _ => if cancel then s.changePoller place fun p => pure p.requestCancel else s

def endsAfter (form : LoopForm) (place : Nat) (late : Bool) (s : Session τ) : Bool :=
  match form with
  | .blocking => s.pollerIs place Poller.tokenIsSet
  | .coroutine _ _ =>
    !late && s.pollerIs place Poller.cancelRequested || s.pollerIs place (·.stopPending)

/-- Whether a loop that ends after a tick was told of a cancellation. -/
def endsCut (form : LoopForm) (place : Nat) (late : Bool) (s : Session τ) : Bool :=
  match form with
  | .blocking => false
  | .coroutine _ _ => !late && s.pollerIs place Poller.cancelRequested

def ended (form : LoopForm) (place : Nat) (late : Bool) (s : Session τ) : Session τ :=
  match form with
  | .blocking => s
  | .coroutine _ _ =>
    if !late && s.pollerIs place Poller.cancelRequested then s.sayCancelled else s

section Ticks

variable {form : LoopForm} {place : Nat} {receiver : Receiver} {next : τ} {s t : Session τ}
  {answers : List (Answer τ)} {steps : List Step} {seconds : Float} {cancel late : Bool}
  {ticks : List Tick}

theorem runLoop_of_endsAfter (begun : s.endsBefore form place = false)
    (done : performAll steps (s.waiting next seconds) = (answers, t))
    (ends : (t.ticked form place cancel).endsAfter form place late = true) :
    runLoop form place receiver (.mk steps seconds cancel late :: ticks) next s =
      ({ (({} : Trace τ).ticked answers).waited (s.spanUntil next) with
          isCut := (t.ticked form place cancel).endsCut form place late },
        (t.ticked form place cancel).ended form place late) := by
  cases form with
  | blocking =>
      have hbegun : s.pollerIs place Poller.tokenIsSet = false := begun
      have hends : t.pollerIs place Poller.tokenIsSet = true := ends
      unfold waiting at done
      simp only [runLoop, loop, hbegun, done, hends, ticked, ended, if_true, if_false,
        Bool.false_eq_true]
      rfl
  | coroutine cancelAtEnd task =>
      have hbegun : s.pollerIs place (·.stopPending) = false := begun
      obtain ⟨u, hu⟩ : ∃ u, t.ticked (.coroutine cancelAtEnd task) place cancel = u := ⟨_, rfl⟩
      have hcancel :
          (if cancel then t.changePoller place fun p => pure p.requestCancel else t) = u := hu
      rw [hu] at ends ⊢
      unfold waiting at done
      simp only [endsAfter, Bool.or_eq_true] at ends
      simp only [runLoop, coroutine, hbegun, done, hcancel, ended, endsCut, if_false,
        Bool.false_eq_true]
      -- A task that is cancelled says so before it ends, and one that is stopped does not.
      by_cases hcancelled : (!late && u.pollerIs place Poller.cancelRequested) = true
      · rw [if_pos hcancelled, if_pos hcancelled, hcancelled]
      · rw [if_neg hcancelled, if_pos (ends.resolve_left hcancelled), if_neg hcancelled,
          Bool.eq_false_iff.mpr hcancelled]
        rfl

theorem runLoop_of_goesOn (begun : s.endsBefore form place = false)
    (done : performAll steps (s.waiting next seconds) = (answers, t))
    (goesOn : (t.ticked form place cancel).endsAfter form place late = false) {next' : τ}
    {events : List Event} {u : Session τ}
    (polled : (t.ticked form place cancel).pollInLoop place receiver = (next', events, u)) :
    runLoop form place receiver (.mk steps seconds cancel late :: ticks) next s =
      let (trace, v) := runLoop form place receiver ticks next' u
      (((trace.delivered events).ticked answers).waited (s.spanUntil next), v) := by
  cases form with
  | blocking =>
      have hbegun : s.pollerIs place Poller.tokenIsSet = false := begun
      have hgoes : t.pollerIs place Poller.tokenIsSet = false := goesOn
      have hpolled : t.pollInLoop place receiver = (next', events, u) := polled
      unfold waiting at done
      simp only [runLoop, loop, hbegun, done, hgoes, hpolled, if_false, Bool.false_eq_true]
  | coroutine cancelAtEnd task =>
      have hbegun : s.pollerIs place (·.stopPending) = false := begun
      unfold waiting at done
      simp only [endsAfter, ticked, Bool.or_eq_false_iff] at goesOn
      simp only [ticked] at polled
      simp only [runLoop, coroutine, hbegun, done, goesOn, polled, if_false, Bool.false_eq_true]

end Ticks

/-! ## Calls -/

def calls? (s : Session τ) (step : Step) : Option (Nat × Poller) :=
  step.loopId?.bind s.named?

def refuses (s : Session τ) (step : Step) : Bool :=
  (s.calls? step).any (·.2.isRunning)

def enters? (s : Session τ) (step : Step) : Option Nat :=
  ((s.calls? step).filter fun named => !named.2.isRunning).map (·.1)

omit [Timeline τ] in
theorem exists_of_enters? {s : Session τ} {step : Step} {place : Nat}
    (h : s.enters? step = some place) :
    ∃ p, s.calls? step = some (place, p) ∧ p.isRunning = false := by
  obtain ⟨⟨i, p⟩, hfound, rfl⟩ := Option.map_eq_some_iff.mp h
  obtain ⟨hcalls, hidle⟩ := Option.filter_eq_some_iff.mp hfound
  exact ⟨p, hcalls, by simpa using hidle⟩

theorem moves_of_enters? {s : Session τ} {step : Step} {place : Nat}
    (h : s.enters? step = some place) :
    ∃ token? inner rest, moves step s = .enter place token? :: (inner ++ .leave place :: rest) ∧
      .leave place ∉ inner ∧ ∀ m ∈ rest, m = .sayStopped place ∨ ∃ tasks, m = .owe tasks := by
  obtain ⟨p, hcalls, hidle⟩ := exists_of_enters? h
  obtain ⟨id, -, hnamed⟩ := Option.bind_eq_some_iff.mp hcalls
  have hfits : ∀ token?, s.Fits (.enter place token?) := fun _ =>
    ⟨p, pollerAt?_of_named? hnamed, hidle⟩
  cases step with
  | act a => simp [enters?, calls?, Step.loopId?] at h
  | run id token receiver ticks =>
      obtain ⟨t, hkind⟩ := kindAt?_make_blocking (hfits (some token))
      -- Inside its loop a poller keeps its kind, so nothing there leaves the loop.
      have hbody := course_loopMoves ticks place receiver
        ((s.make (.enter place (some token))).nextStart place) _ ⟨t, hkind⟩
      have hnotLeft := hbody.fitsAll_and_not_left.2 place _ hkind (by simp)
      refine ⟨some token, _, [.sayStopped place], moves_run hcalls hidle token receiver ticks, ?_,
        fun m hm => .inl (List.mem_singleton.mp hm)⟩
      split
      · exact List.not_mem_nil
      · exact fun hmem => hnotLeft _ hmem rfl
  | runCoroutine id cancelAtEnd receiver ticks task =>
      have hkind : (s.make (.enter place none)).kindAt? place = some (.coroutine false) :=
        kindAt?_make_coroutine (hfits none)
      have hbody := course_coroutineMoves ticks place cancelAtEnd receiver
        ((s.make (.enter place none)).nextStart place) _ hkind
      have hnotLeft := hbody.fitsAll_and_not_left.2 place _ hkind (by simp)
      rw [moves_runCoroutine hcalls hidle]
      dsimp only
      split
      · exact ⟨none, _, [], rfl, by simp [inheritMoves], by simp⟩
      · exact ⟨none, _, _, rfl, fun hmem => hnotLeft _ hmem rfl,
          fun m hm => .inr ⟨_, mem_oweMoves hm⟩⟩

end Session

end TreeWatch
