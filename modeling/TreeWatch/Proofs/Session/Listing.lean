import TreeWatch.Proofs.Session.Rhythm

/-!
# What loops list

A loop lists how long it waited and which events it handed on. Both can be read off its moves: the
steps of its ticks make no move that belongs to it, so that whatever is read off such moves alone
comes from the loop itself.
-/

namespace TreeWatch.Session

variable {τ : Type} [Timeline τ]

/-- What a loop at a place lists is read off the moves that belong to it. -/
structure Reads {β : Type} (place : Nat) (listed : Trace τ → List β) (read : Move τ → Option β) :
    Prop where
  empty : listed {} = []
  cut : ∀ t, listed { t with isCut := true } = listed t
  waited : ∀ t span, listed (t.waited span) = (read (.ask place span)).toList ++ listed t
  ticked : ∀ t answers, listed (t.ticked answers) = listed t
  delivered : ∀ t receiver es, listed (t.delivered es) =
    (es.flatMap (handMoves place receiver)).filterMap read ++ listed t
  polled : ∀ receiver, read (.poll place (some receiver)) = none
  entered : ∀ token?, read (.enter place token?) = none
  left : read (.leave place) = none
  others : ∀ m, m.isOwn place = false → read m = none

namespace Reads

variable {β : Type} {place : Nat} {listed : Trace τ → List β} {read : Move τ → Option β}

omit [Timeline τ] in
theorem cut_empty (h : Reads place listed read) : listed { isCut := true } = [] :=
  (h.cut {}).trans h.empty

omit [Timeline τ] in
theorem filterMap_others (h : Reads place listed read) {ms : List (Move τ)}
    (others : ∀ m ∈ ms, m.isOwn place = false) : ms.filterMap read = [] := by
  rw [List.filterMap_eq_nil_iff]
  exact fun m hm => h.others m (others m hm)

theorem filterMap_pollMoves (h : Reads place listed read) (s : Session τ) (receiver : Receiver)
    (t : Trace τ) :
    listed (t.delivered (s.pollAt place).1) =
      (s.pollMoves place receiver).filterMap read ++ listed t := by
  rw [h.delivered t receiver, pollMoves, List.filterMap_cons_none (h.polled receiver)]

omit [Timeline τ] in
theorem filterMap_ask (h : Reads place listed read) (span : τ) (ms : List (Move τ))
    (t : Trace τ) (same : listed t = ms.filterMap read) :
    listed (t.waited span) = (.ask place span :: ms).filterMap read := by
  rw [h.waited, same, List.filterMap_cons]
  cases read (.ask place span) <;> rfl

theorem loop (h : Reads place listed read) (receiver : Receiver) (ticks : List Tick) (next : τ)
    (s : Session τ) {token : Token} (active : s.kindAt? place = some (.blocking token)) :
    listed (loop place receiver ticks next s).1 =
      (loopMoves place receiver ticks next s).filterMap read := by
  induction ticks generalizing next s with
  | nil =>
      rw [Session.loop, loopMoves]
      dsimp only
      split
      · exact h.filterMap_ask _ _ _ h.empty
      · refine h.filterMap_ask _ _ _ (h.empty.trans (h.filterMap_others ?_).symm)
        simp [Move.isOwn]
  | cons tick rest ih =>
      obtain ⟨steps, seconds, cancel, late⟩ := tick
      rw [Session.loop, loopMoves]
      by_cases hset : s.pollerIs place Poller.tokenIsSet = true
      · simp only [if_pos hset]
        exact h.filterMap_ask _ _ _ h.empty
      · simp only [if_neg hset]
        have hsilent := isOwn_allMoves (s := (s.pass (s.spanUntil next)).addDelay seconds)
          active (by simp) steps
        have hactive := (course_allMoves steps
          ((s.pass (s.spanUntil next)).addDelay seconds)).kindAt?_eq (k := .blocking token)
            active (by simp)
        cases hticked : performAll steps ((s.pass (s.spanUntil next)).addDelay seconds) with
        | mk answers waited =>
        rw [hticked] at hactive
        have hread : ∀ ms : List (Move τ), (.pass (s.spanUntil next) :: .slow seconds ::
            (allMoves steps ((s.pass (s.spanUntil next)).addDelay seconds) ++ ms)).filterMap read =
            ms.filterMap read := by
          intro ms
          rw [List.filterMap_cons_none (h.others _ rfl), List.filterMap_cons_none (h.others _ rfl),
            List.filterMap_append, h.filterMap_others hsilent, List.nil_append]
        dsimp only
        by_cases hended : waited.pollerIs place Poller.tokenIsSet = true
        · rw [if_pos hended, if_pos hended]
          refine h.filterMap_ask _ _ _ ?_
          rw [hread, h.ticked, h.empty]
          rfl
        · rw [if_neg hended, if_neg hended]
          have hfits : waited.Fits (.poll place (some receiver)) :=
            fits_poll_of_blocking hactive (by simpa using hended)
          have hnext := kindAt?_pollMoves hfits hactive (by simp)
          rw [makeAll_pollMoves] at hnext
          refine h.filterMap_ask _ _ _ ?_
          rw [hread, List.filterMap_append, ← ih _ _ hnext, ← h.filterMap_pollMoves]
          exact h.ticked _ _

theorem coroutine (h : Reads place listed read) (cancelAtEnd : Bool) (receiver : Receiver)
    (ticks : List Tick) (next : τ) (s : Session τ)
    (active : s.kindAt? place = some (.coroutine false)) :
    listed (coroutine place cancelAtEnd receiver ticks next s).1 =
      (coroutineMoves place cancelAtEnd receiver ticks next s).filterMap read := by
  induction ticks generalizing next s with
  | nil =>
      rw [Session.coroutine, coroutineMoves]
      dsimp only
      split
      · exact h.empty
      · refine h.filterMap_ask _ _ _ ?_
        rw [h.cut_empty, h.filterMap_others (by cases cancelAtEnd <;> simp [Move.isOwn])]
  | cons tick rest ih =>
      obtain ⟨steps, seconds, cancel, late⟩ := tick
      rw [Session.coroutine, coroutineMoves]
      by_cases hset : s.pollerIs place (·.stopPending) = true
      · simp only [if_pos hset]
        exact h.empty
      · simp only [if_neg hset]
        have hsilent := isOwn_allMoves (s := (s.pass (s.spanUntil next)).addDelay seconds)
          active (by simp) steps
        have hticked := (course_allMoves steps
          ((s.pass (s.spanUntil next)).addDelay seconds)).kindAt?_eq (k := .coroutine false)
            active (by simp)
        cases hperformed : performAll steps ((s.pass (s.spanUntil next)).addDelay seconds) with
        | mk answers ticked =>
        rw [hperformed] at hticked
        have hread : ∀ ms : List (Move τ), (.pass (s.spanUntil next) :: .slow seconds ::
            (allMoves steps ((s.pass (s.spanUntil next)).addDelay seconds) ++
              ((if cancel then [.cancel place] else []) ++ ms))).filterMap read =
            ms.filterMap read := by
          intro ms
          rw [List.filterMap_cons_none (h.others _ rfl), List.filterMap_cons_none (h.others _ rfl),
            List.filterMap_append, h.filterMap_others hsilent, List.nil_append,
            List.filterMap_append, h.filterMap_others (by cases cancel <;> simp [Move.isOwn]),
            List.nil_append]
        have hactive : (if cancel then ticked.make (.cancel place) else ticked).kindAt? place =
            some (.coroutine false) := by
          cases cancel
          · exact hticked
          · exact kindAt?_make (m := .cancel place) (exists_isRunning hticked (by simp)) hticked
              (by simp) (by simp)
        dsimp only
        generalize hwaited : (if cancel then ticked.make (.cancel place) else ticked) = waited at *
        have hmodel : (if cancel then ticked.changePoller place fun p => pure p.requestCancel
            else ticked) = waited := hwaited
        rw [hmodel]
        by_cases hcancelled : (!late && waited.pollerIs place Poller.cancelRequested) = true
        · rw [if_pos hcancelled, if_pos hcancelled]
          refine (h.cut _).trans (h.filterMap_ask _ _ _ ?_)
          rw [hread, h.ticked, h.empty, h.filterMap_others (by simp [Move.isOwn])]
        · rw [if_neg hcancelled, if_neg hcancelled]
          by_cases hended : waited.pollerIs place (·.stopPending) = true
          · rw [if_pos hended, if_pos hended]
            refine h.filterMap_ask _ _ _ ?_
            rw [hread, h.ticked, h.empty]
            rfl
          · rw [if_neg hended, if_neg hended]
            have hfits : waited.Fits (.poll place (some receiver)) :=
              fits_poll_of_coroutine hactive (by simpa using hended)
            have hnext := kindAt?_pollMoves hfits hactive (by simp)
            rw [makeAll_pollMoves] at hnext
            refine h.filterMap_ask _ _ _ ?_
            rw [hread, List.filterMap_append, ← ih _ _ hnext, ← h.filterMap_pollMoves]
            exact h.ticked _ _

end Reads

/-! ## Replies -/

/-- A loop that is accepted replies with what it lists, and after it the poller is in no loop and
has no stop pending. -/
structure Lists (s : Session τ) (place : Nat) (step : Step) (trace : Trace τ)
    (token? : Option Bool) : Prop where
  reply : (perform step s).1 =
    .ok (.loop trace.waits trace.events trace.ticks false token? false)
  read : ∀ {β : Type} {listed : Trace τ → List β} {read : Move τ → Option β},
    Reads place listed read → listed trace = (moves step s).filterMap read

section Accepted

variable {s : Session τ} {id : String} {place : Nat} {p : Poller}

theorem exists_lists_of_run (named : s.named? id = some (place, p)) (idle : p.isRunning = false)
    (token : Token) (receiver : Receiver) (ticks : List Tick)
    (waits : p.cannotBegin s.world token = false) :
    ∃ trace isSet, s.Lists place (.run id token receiver ticks) trace (some isSet) := by
  have hp := pollerAt?_of_named? named
  have hfits : s.Fits (.enter place (some token)) := ⟨p, hp, idle⟩
  have hwaits := (cannotWait_make_enter hp token).trans waits
  obtain ⟨entered, hentered⟩ := kindAt?_make_blocking hfits
  have hbody := course_loopMoves ticks place receiver
    ((s.make (.enter place (some token))).nextStart place) _ ⟨entered, hentered⟩
  cases hloop : Session.loop place receiver ticks
    ((s.make (.enter place (some token))).nextStart place) (s.make (.enter place (some token))) with
  | mk trace t =>
  rw [hloop] at hbody
  obtain ⟨q, hq, _⟩ := hbody.fits_leave hfits
  refine ⟨trace, (t.endBlocking place).1, ?_, fun h => ?_⟩
  · rw [perform_run named idle]
    simp only [hwaits, Bool.false_eq_true, ↓reduceIte, hloop]
    exact congrArg Except.ok (reply_of_left (pollerAt?_endBlocking hq))
  · have hlisted := h.loop receiver ticks
      ((s.make (.enter place (some token))).nextStart place) _ hentered
    rw [hloop] at hlisted
    rw [moves_run named idle]
    simp only [hwaits, Bool.false_eq_true, ↓reduceIte]
    rw [List.filterMap_cons_none (h.entered _), List.filterMap_append,
      List.filterMap_cons_none h.left, List.filterMap_cons_none (h.others _ rfl), ← hlisted]
    exact (List.append_nil _).symm

theorem exists_lists_of_runCoroutine (named : s.named? id = some (place, p))
    (idle : p.isRunning = false) (cancelAtEnd : Bool) (receiver : Receiver) (ticks : List Tick)
    (task : Option String) :
    ∃ trace, s.Lists place (.runCoroutine id cancelAtEnd receiver ticks task) trace none := by
  have hfits : s.Fits (.enter place none) := ⟨p, pollerAt?_of_named? named, idle⟩
  have hentered := kindAt?_make_coroutine hfits
  by_cases hinherits : (s.make (.enter place none)).inherits place task = true
  · have hbody := course_inheritMoves (s.make (.enter place none)) place receiver task
    obtain ⟨q, hq, _⟩ := hbody.fits_leave hfits
    refine ⟨((s.make (.enter place none)).inherit place task).1, ?_, fun h => ?_⟩
    · rw [perform_runCoroutine named idle]
      simp only [hinherits, ↓reduceIte]
      exact congrArg Except.ok (reply_of_left (pollerAt?_endCoroutine hq _ task))
    · rw [moves_runCoroutine named idle]
      simp only [hinherits, ↓reduceIte]
      rw [List.filterMap_cons_none (h.entered _), List.filterMap_append,
        List.filterMap_cons_none h.left, List.filterMap_nil, List.append_nil]
      refine h.filterMap_ask _ _ _ ?_
      rw [h.cut_empty, h.filterMap_others (by simp [Move.isOwn])]
  · have hbody := course_coroutineMoves ticks place cancelAtEnd receiver
      ((s.make (.enter place none)).nextStart place) _ hentered
    cases hloop : Session.coroutine place cancelAtEnd receiver ticks
      ((s.make (.enter place none)).nextStart place) (s.make (.enter place none)) with
    | mk trace t =>
    rw [hloop] at hbody
    obtain ⟨q, hq, _⟩ := hbody.fits_leave hfits
    refine ⟨trace, ?_, fun {β listed read} h => ?_⟩
    · rw [perform_runCoroutine named idle]
      simp only [hinherits, Bool.false_eq_true, ↓reduceIte, hloop]
      exact congrArg Except.ok (reply_of_left (pollerAt?_endCoroutine hq trace task))
    · have hlisted := h.coroutine cancelAtEnd receiver ticks
        ((s.make (.enter place none)).nextStart place) _ hentered
      have howed : (t.oweMoves place trace task).filterMap read = [] := by
        refine h.filterMap_others fun m hm => ?_
        rw [mem_oweMoves hm]
        rfl
      rw [hloop] at hlisted
      rw [moves_runCoroutine named idle]
      simp only [hinherits, Bool.false_eq_true, ↓reduceIte, hloop]
      rw [List.filterMap_cons_none (h.entered _), List.filterMap_append,
        List.filterMap_cons_none h.left, howed, ← hlisted, List.append_nil]

end Accepted

/-! ## Waits -/

def asked (place : Nat) (ms : List (Move τ)) : List τ :=
  ms.filterMap fun
    | .ask i span => if i = place then some span else none
    | _ => none

omit [Timeline τ] in
theorem asked_handMoves (place : Nat) (receiver : Receiver) (es : List Event) :
    asked place (es.flatMap (handMoves place receiver) : List (Move τ)) = [] := by
  rw [asked, List.filterMap_eq_nil_iff]
  intro m hm
  obtain ⟨e, rfl⟩ | rfl | ⟨e, text, rfl⟩ := mem_handMoves hm <;> rfl

omit [Timeline τ] in
theorem reads_asked (place : Nat) :
    Reads place (Trace.waits (τ := τ)) fun
      | .ask i span => if i = place then some span else none
      | _ => none where
  empty := rfl
  cut _ := rfl
  waited t span := by simp [Trace.waited]
  ticked _ _ := rfl
  delivered t receiver es := (congrArg (· ++ t.waits) (asked_handMoves place receiver es)).symm
  polled _ := rfl
  entered _ := rfl
  left := rfl
  others m hm := by
    cases m <;> simp_all [Move.isOwn]

end TreeWatch.Session
