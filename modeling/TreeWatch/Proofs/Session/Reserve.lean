import TreeWatch.Proofs.Session.Course

/-!
# Pollers without a name

Steps get at pollers by their names, and a name is given to a poller that is made at that moment. So
the pollers that are there from the start and have no name are out of reach: whatever steps are
done, no move of theirs is about such a poller.
-/

namespace TreeWatch

variable {τ : Type}

def Move.place? : Move τ → Option Nat
  | .poll place _ | .hand place _ | .stop place | .enter place _ | .reject place | .ask place _
  | .setToken place | .cancel place | .leave place | .sayStopped place => some place
  | .act _ | .fail _ _ | .pass _ | .slow _ | .sayCancelled | .owe _ => none

/-- A move that is about none of the first so many pollers. -/
def Move.Spares (count : Nat) (m : Move τ) : Prop :=
  ∀ place ∈ m.place?, count ≤ place

/-- A move changes no poller but the one that it is about. -/
theorem Poller.after_of_place?_ne {place : Nat} {m : Move τ} (h : m.place? ≠ some place) (w : World)
    (p : Poller) : p.after place w m = p := by
  have hne : ∀ i, m.place? = some i → i ≠ place := fun i hi heq => h (heq ▸ hi)
  cases m with
  | enter i token? => cases token? <;> exact if_neg (hne i rfl)
  | poll i | stop i | setToken i | cancel i | leave i => exact if_neg (hne i rfl)
  | act | hand | fail | reject | ask | pass | slow | sayCancelled | owe | sayStopped => rfl

namespace Session

/-- The first so many pollers are there and have no names. -/
structure Reserved (count : Nat) (s : Session τ) : Prop where
  there : count ≤ s.pollers.length
  unnamed : ∀ entry ∈ s.names, count ≤ entry.2

variable {count : Nat} {s : Session τ}

theorem Reserved.le_of_named? (h : Reserved count s) {id : String} {place : Nat} {p : Poller}
    (named : s.named? id = some (place, p)) : count ≤ place := by
  obtain ⟨i, hi, hmap⟩ := Option.bind_eq_some_iff.mp named
  obtain ⟨q, -, heq⟩ := Option.map_eq_some_iff.mp hmap
  obtain ⟨rfl, rfl⟩ := Prod.mk.inj heq
  obtain ⟨entry, hentry, rfl⟩ := Option.map_eq_some_iff.mp hi
  exact h.unnamed entry (List.mem_of_find?_eq_some hentry)

theorem Reserved.of_eq (h : Reserved count s) {t : Session τ} (pollers : t.pollers = s.pollers)
    (names : t.names = s.names) : Reserved count t :=
  ⟨pollers ▸ h.there, names ▸ h.unnamed⟩

theorem Reserved.aside (h : Reserved count s) {t : Session τ} (aside : Aside s t) :
    Reserved count t :=
  h.of_eq aside.pollers aside.names

theorem Reserved.setPoller (h : Reserved count s) (place : Nat) (p : Poller) :
    Reserved count (s.setPoller place p) :=
  ⟨by simpa [Session.setPoller] using h.there, h.unnamed⟩

theorem Reserved.changePoller (h : Reserved count s) (place : Nat)
    (change : Poller → Log.Reported Poller) : Reserved count (s.changePoller place change) := by
  cases hp : s.pollerAt? place with
  | none => rwa [changePoller_of_none hp]
  | some p =>
      rw [changePoller_of_some hp]
      exact (h.of_eq rfl rfl : Reserved count (s.emit _)).setPoller place _

theorem Reserved.forPoller (h : Reserved count s) {id : String}
    {work : Nat → Poller → Outcome τ × Session τ}
    (kept : ∀ place p, Reserved count (work place p).2) :
    Reserved count (s.forPoller id work).2 := by
  cases hnamed : s.named? id with
  | none => rwa [forPoller_of_none hnamed]
  | some named =>
      rw [forPoller_of_some hnamed]
      exact kept named.1 named.2

variable [Timeline τ]

theorem Reserved.pollAt (h : Reserved count s) (place : Nat) :
    Reserved count (s.pollAt place).2 := by
  cases hp : s.pollerAt? place with
  | none =>
      rw [pollAt_of_none hp]
      exact h.of_eq rfl rfl
  | some p =>
      rw [pollAt_of_some hp]
      exact (h.of_eq rfl rfl : Reserved count (s.passListing.emit _)).setPoller place _

theorem Reserved.create (h : Reserved count s) (id : String) (request : Request) :
    Reserved count (s.create id request).2 := by
  unfold Session.create createPoller
  cases request.validate s.world with
  | error e => exact h
  | ok spec =>
      refine ⟨?_, ?_⟩
      · exact Nat.le_trans h.there (by simp [addPoller, report, emit, passListing, pass])
      · exact List.forall_mem_cons.mpr ⟨h.there, h.unnamed⟩

theorem Reserved.act (h : Reserved count s) (a : Action) : Reserved count (s.act a).2 := by
  cases a
  case create id request => exact h.create id request
  case createFromSettings id root given =>
    have haside := aside_pollerSettings s given
    simp only [Session.act]
    split
    · next heq =>
        rw [heq] at haside
        exact h.aside haside
    · next heq =>
        rw [heq] at haside
        exact (h.aside haside).create id _
  case poll id => exact h.forPoller fun place _ => h.pollAt place
  case stop id => exact h.forPoller fun place _ => h.changePoller place Poller.stop
  case hold id name => exact h.forPoller fun _ _ => h.of_eq rfl rfl
  case snapshot | isRunning => exact h.forPoller fun _ _ => h
  case resolve =>
    refine h.forPoller fun _ _ => ?_
    split <;> exact h
  case held | diffHeld | fileContent =>
    simp only [Session.act]
    split <;> exact h
  case loadSettings project named reload =>
    exact h.aside (aside_giveSettings s project named reload)
  case getSettings => exact h.aside (aside_giveSettings s none none false)
  case setupLogging source =>
    cases source with
    | given settings => exact h.aside (aside_setupLogging s settings)
    | loaded =>
        have hload := aside_loadSettings s none none false
        simp only [Session.act, globalSettings]
        split
        · next heq =>
            rw [heq] at hload
            exact h.aside hload
        · next heq =>
            rw [heq] at hload
            exact (h.aside hload).aside (aside_setupLogging _ _)
  all_goals exact h.of_eq rfl rfl

theorem Reserved.make (h : Reserved count s) (m : Move τ) : Reserved count (s.make m) := by
  cases m with
  | act action => exact h.act action
  | poll place receiver? => exact h.pollAt place
  | enter place token? => cases token? <;> exact h.changePoller place _
  | stop place | reject place | setToken place | cancel place | leave place | sayStopped place =>
    exact h.changePoller place _
  | hand | fail | ask | pass | slow | sayCancelled | owe => exact h.of_eq rfl rfl

theorem Reserved.makeAll (h : Reserved count s) (ms : List (Move τ)) :
    Reserved count (s.makeAll ms) := by
  induction ms generalizing s with
  | nil => exact h
  | cons m ms ih => exact ih (h.make m)

theorem Reserved.perform (h : Reserved count s) (step : Step) :
    Reserved count (perform step s).2 := by
  rw [← (course_moves step s).makeAll_eq]
  exact h.makeAll _

theorem Reserved.performAll (h : Reserved count s) (steps : List Step) :
    Reserved count (performAll steps s).2 := by
  rw [← makeAll_allMoves]
  exact h.makeAll _

theorem Reserved.pollInLoop (h : Reserved count s) (place : Nat) (receiver : Receiver) :
    Reserved count (s.pollInLoop place receiver).2.2 := by
  rw [← makeAll_pollMoves]
  exact h.makeAll _

/-! ## Steps spare them -/

omit [Timeline τ] in
theorem spares_of_place? {m : Move τ} {place : Nat} (about : m.place? = some place)
    (h : count ≤ place) : m.Spares count := by
  intro other hother
  obtain rfl : place = other := Option.some.inj (about.symm.trans hother)
  exact h

omit [Timeline τ] in
theorem spares_of_none {m : Move τ} (about : m.place? = none) : m.Spares count := by
  intro place hplace
  simp [about] at hplace

omit [Timeline τ] in
theorem spares_actMoves (h : Reserved count s) (a : Action) :
    ∀ m ∈ s.actMoves a, m.Spares count := by
  intro m hm
  cases a
  case poll | stop =>
    obtain ⟨⟨place, p⟩, hnamed, rfl⟩ := Option.map_eq_some_iff.mp (Option.mem_toList.mp hm)
    exact spares_of_place? rfl (h.le_of_named? hnamed)
  all_goals
    obtain rfl := List.mem_singleton.mp hm
    exact spares_of_none rfl

theorem spares_pollMoves (s : Session τ) {place : Nat} (h : count ≤ place) (receiver : Receiver) :
    ∀ m ∈ s.pollMoves place receiver, m.Spares count := by
  intro m hm
  obtain rfl | ⟨e, rfl⟩ | rfl | ⟨e, text, rfl⟩ := mem_pollMoves hm
  · exact spares_of_place? rfl h
  · exact spares_of_place? rfl h
  · exact spares_of_place? rfl h
  · exact spares_of_none rfl

mutual

/-- A step makes no move that is about a reserved poller. -/
theorem spares_moves : ∀ (step : Step) (s : Session τ), Reserved count s →
    ∀ m ∈ moves step s, m.Spares count
  | .act action, s, h => by
    rw [moves]
    exact spares_actMoves h action
  | .run id token receiver ticks, s, h => by
    rw [moves]
    cases hnamed : s.named? id with
    | none => simp
    | some named =>
        have hplace := h.le_of_named? hnamed
        have hloop := spares_loopMoves ticks named.1 receiver hplace
          ((s.make (.enter named.1 (some token))).nextStart named.1) _
          (h.make (.enter named.1 (some token)))
        dsimp only
        split
        · simpa using spares_of_place? rfl hplace
        · simp only [List.forall_mem_cons, List.forall_mem_append]
          refine ⟨spares_of_place? rfl hplace, ?_, spares_of_place? rfl hplace,
            spares_of_place? rfl hplace, by simp⟩
          split
          · simp
          · exact hloop
  | .runCoroutine id cancelAtEnd receiver ticks task, s, h => by
    rw [moves]
    cases hnamed : s.named? id with
    | none => simp
    | some named =>
        have hplace := h.le_of_named? hnamed
        have hloop := spares_coroutineMoves ticks named.1 cancelAtEnd receiver hplace
          ((s.make (.enter named.1 none)).nextStart named.1) _ (h.make (.enter named.1 none))
        dsimp only
        split
        · simpa using spares_of_place? rfl hplace
        · split
          · simp only [inheritMoves, List.forall_mem_cons, List.forall_mem_append]
            exact ⟨spares_of_place? rfl hplace,
              ⟨spares_of_place? rfl hplace, spares_of_none rfl, spares_of_none rfl, by simp⟩,
              spares_of_place? rfl hplace, by simp⟩
          · simp only [List.forall_mem_cons, List.forall_mem_append]
            refine ⟨spares_of_place? rfl hplace, hloop, spares_of_place? rfl hplace, fun m hm => ?_⟩
            exact mem_oweMoves hm ▸ spares_of_none rfl
termination_by structural step => step

theorem spares_allMoves : ∀ (steps : List Step) (s : Session τ), Reserved count s →
    ∀ m ∈ allMoves steps s, m.Spares count
  | [], s, h => by simp [allMoves]
  | step :: rest, s, h => by
    rw [allMoves, List.forall_mem_append]
    exact ⟨spares_moves step s h, spares_allMoves rest _ (h.perform step)⟩
termination_by structural steps => steps

theorem spares_loopMoves : ∀ (ticks : List Tick) (place : Nat) (receiver : Receiver),
    count ≤ place → ∀ (next : τ) (s : Session τ), Reserved count s →
      ∀ m ∈ loopMoves place receiver ticks next s, m.Spares count
  | [], place, receiver, hplace, next, s, h => by
    rw [loopMoves, List.forall_mem_cons]
    refine ⟨spares_of_place? rfl hplace, ?_⟩
    split
    · simp
    · simp only [List.forall_mem_cons]
      exact ⟨spares_of_none rfl, spares_of_place? rfl hplace, by simp⟩
  | .mk steps seconds _ _ :: rest, place, receiver, hplace, next, s, h => by
    have hwaiting : Reserved count ((s.pass (s.spanUntil next)).addDelay seconds) := h.of_eq rfl rfl
    have hticked := hwaiting.performAll steps
    rw [loopMoves, List.forall_mem_cons]
    refine ⟨spares_of_place? rfl hplace, ?_⟩
    split
    · simp
    · simp only [List.forall_mem_cons, List.forall_mem_append]
      refine ⟨spares_of_none rfl, spares_of_none rfl, spares_allMoves steps _ hwaiting, ?_⟩
      split
      · simp
      · rw [List.forall_mem_append]
        exact ⟨spares_pollMoves _ hplace receiver,
          spares_loopMoves rest place receiver hplace _ _ (hticked.pollInLoop place receiver)⟩
termination_by structural ticks => ticks

theorem spares_coroutineMoves : ∀ (ticks : List Tick) (place : Nat) (cancelAtEnd : Bool)
    (receiver : Receiver), count ≤ place → ∀ (next : τ) (s : Session τ), Reserved count s →
      ∀ m ∈ coroutineMoves place cancelAtEnd receiver ticks next s, m.Spares count
  | [], place, cancelAtEnd, receiver, hplace, next, s, h => by
    rw [coroutineMoves]
    split
    · simp
    · simp only [List.forall_mem_cons]
      refine ⟨spares_of_place? rfl hplace, spares_of_none rfl, ?_, spares_of_none rfl, by simp⟩
      cases cancelAtEnd <;> exact spares_of_place? rfl hplace
  | .mk steps seconds cancel late :: rest, place, cancelAtEnd, receiver, hplace, next, s, h => by
    have hwaiting : Reserved count ((s.pass (s.spanUntil next)).addDelay seconds) := h.of_eq rfl rfl
    have hticked := hwaiting.performAll steps
    rw [coroutineMoves]
    split
    · simp
    · simp only [List.forall_mem_cons, List.forall_mem_append]
      refine ⟨spares_of_place? rfl hplace, spares_of_none rfl, spares_of_none rfl,
        spares_allMoves steps _ hwaiting, ?_, ?_⟩
      · cases cancel
        · simp
        · simpa using spares_of_place? rfl hplace
      · generalize hwaited : (if cancel = true then
          (performAll steps ((s.pass (s.spanUntil next)).addDelay seconds)).2.make (.cancel place)
          else (performAll steps ((s.pass (s.spanUntil next)).addDelay seconds)).2) = waited
        have hreserved : Reserved count waited := by
          rw [← hwaited]
          split
          · exact hticked.make _
          · exact hticked
        split
        · simpa using spares_of_none rfl
        · split
          · simp
          · rw [List.forall_mem_append]
            exact ⟨spares_pollMoves _ hplace receiver,
              spares_coroutineMoves rest place cancelAtEnd receiver hplace _ _
                (hreserved.pollInLoop place receiver)⟩
termination_by structural ticks => ticks

end

end Session

end TreeWatch
