import TreeWatch.Proofs.Session.Moves
import TreeWatch.Proofs.Watch.Polling

/-!
# Moves that fit

Not every line of moves is one that a session makes. A loop is entered while none of its poller is
active, refused, ended and left while one is, and it polls while nothing has asked it to end. What a
move that fits does to the pollers is said once, and every property of pollers that their operations
keep holds at every moment.
-/

namespace TreeWatch

namespace Poller

/-- The poller at a place after a move, given the world in which the move is made. -/
def after {τ : Type} (place : Nat) (w : World) (p : Poller) : Move τ → Poller
  | .poll i _ => if i = place then (p.poll w).outcome.2 else p
  | .stop i => if i = place then p.stop.outcome else p
  | .enter i (some token) => if i = place then (p.enterBlocking token).outcome else p
  | .enter i none => if i = place then p.enterCoroutine.outcome else p
  | .setToken i => if i = place then p.setToken else p
  | .cancel i => if i = place then p.requestCancel else p
  | .leave i => if i = place then p.leave else p
  | _ => p

/-- Only entering and leaving change what kind of loop a poller is in. -/
theorem kind_after {τ : Type} {place : Nat} {m : Move τ} (w : World) (p : Poller)
    (notEntered : ∀ token?, m ≠ .enter place token?) (notLeft : m ≠ .leave place) :
    (p.after place w m).loop.kind = p.loop.kind := by
  cases m with
  | poll i receiver? =>
      simp only [after]
      split
      · rw [outcome_poll_snd]
      · rfl
  | stop i =>
      simp only [after]
      split
      · rw [outcome_stop, kind_stoppedLoop]
      · rfl
  | enter i token? =>
      have hi : i ≠ place := fun h => notEntered token? (by rw [h])
      cases token? <;> simp [after, hi]
  | setToken i =>
      simp only [after]
      split
      · exact kind_setToken p
      · rfl
  | cancel i =>
      simp only [after]
      split
      · exact kind_requestCancel p
      · rfl
  | leave i =>
      have hi : i ≠ place := fun h => notLeft (by rw [h])
      simp [after, hi]
  | act | hand | fail | reject | ask | pass | slow | sayCancelled | owe | sayStopped => rfl

/-- What a poller knows of its directory. -/
def known (p : Poller) : Spec × Snapshot × Bool :=
  (p.spec, p.snapshot, p.rootMissing)

/-- Only a poll of the place itself makes a poller know anything else. -/
theorem known_after {τ : Type} (place : Nat) (w : World) (p : Poller) (m : Move τ) :
    (p.after place w m).known =
      match m with
      | .poll i _ =>
        if i = place then (p.spec, (p.spec.look? w).getD [], (p.spec.look? w).isNone) else p.known
      | _ => p.known := by
  cases m with
  | poll i receiver? =>
      simp only [after]
      split
      · rw [outcome_poll_snd]
        rfl
      · rfl
  | stop i =>
      simp only [after]
      split
      · rw [outcome_stop]
        rfl
      · rfl
  | enter i token? => cases token? <;> simp only [after] <;> split <;> rfl
  | setToken i =>
      simp only [after]
      split
      · unfold setToken
        split <;> rfl
      · rfl
  | cancel i =>
      simp only [after]
      split
      · unfold requestCancel
        split <;> rfl
      · rfl
  | leave i =>
      simp only [after]
      split <;> rfl
  | act | hand | fail | reject | ask | pass | slow | sayCancelled | owe | sayStopped => rfl

theorem snapshot_after {τ : Type} (place : Nat) (w : World) (p : Poller) (m : Move τ) :
    (p.after place w m).snapshot =
      match m with
      | .poll i _ => if i = place then (p.spec.look? w).getD [] else p.snapshot
      | _ => p.snapshot := by
  have hknown := congrArg (·.2.1) (known_after place w p m)
  cases m with
  | poll i receiver? =>
      dsimp only at hknown ⊢
      split at hknown <;> simp_all [known]
  | _ => exact hknown

theorem kind_after_enter (τ : Type) (w : World) (p : Poller) (place : Nat) (token? : Option Token) :
    (p.after place w (.enter place token? : Move τ)).loop.kind ≠ .idle := by
  cases token? with
  | none => simp [after, enterCoroutine, Loop.kind]
  | some token => cases token <;> simp [after, enterBlocking, Loop.kind]

end Poller

namespace Session

variable {τ : Type} [Timeline τ]

/-! ## Moves that fit -/

/-- What has to hold for a move to be made. -/
def Fits (s : Session τ) : Move τ → Prop
  | .act action => action.isPlain = true
  | .poll place (some _) =>
    ∃ p, s.pollerAt? place = some p ∧ p.isRunning = true ∧ p.mustEnd = false
  | .enter place _ => ∃ p, s.pollerAt? place = some p ∧ p.isRunning = false
  | .hand place _ | .reject place | .setToken place | .cancel place | .leave place =>
    ∃ p, s.pollerAt? place = some p ∧ p.isRunning = true
  | _ => True

theorem pollerAt?_make {s : Session τ} {m : Move τ} (fits : s.Fits m) {place : Nat} {p : Poller}
    (h : s.pollerAt? place = some p) :
    (s.make m).pollerAt? place = some (p.after place s.world m) := by
  have changed : ∀ (i : Nat) (change : Poller → Log.Reported Poller),
      (s.changePoller i change).pollerAt? place =
        some (if i = place then (change p).outcome else p) := by
    intro i change
    by_cases hi : i = place
    · subst hi
      rw [pollerAt?_changePoller_self h, if_pos rfl]
    · rw [pollerAt?_changePoller_of_ne s hi, h, if_neg hi]
  cases m with
  | act action => exact pollerAt?_act fits h
  | poll i receiver? =>
      by_cases hi : i = place
      · subst hi
        simp only [make, pollAt_of_some h, Poller.after, if_pos]
        exact pollerAt?_setPoller_self (s := s.passListing.emit _) h _
      · simp only [make, Poller.after, if_neg hi]
        cases hp : s.pollerAt? i with
        | none => rw [pollAt_of_none hp, pollerAt?_passListing, h]
        | some q =>
            rw [pollAt_of_some hp, pollerAt?_setPoller_of_ne _ hi, pollerAt?_emit,
              pollerAt?_passListing, h]
  | enter i token? => cases token? <;> exact changed i _
  | stop i | setToken i | cancel i | leave i => exact changed i _
  | reject i | sayStopped i =>
      refine (changed i _).trans ?_
      simp [Poller.after]
  | hand | fail | ask | pass | slow | sayCancelled | owe => exact h

def kindAt? (s : Session τ) (place : Nat) : Option Loop :=
  (s.pollerAt? place).map (·.loop.kind)

omit [Timeline τ] in
theorem kindAt?_eq_some_iff {s : Session τ} {place : Nat} {k : Loop} :
    s.kindAt? place = some k ↔ ∃ p, s.pollerAt? place = some p ∧ p.loop.kind = k :=
  Option.map_eq_some_iff

omit [Timeline τ] in
theorem exists_isRunning {s : Session τ} {place : Nat} {k : Loop} (h : s.kindAt? place = some k)
    (active : k ≠ .idle) : ∃ p, s.pollerAt? place = some p ∧ p.isRunning = true := by
  obtain ⟨p, hp, hk⟩ := kindAt?_eq_some_iff.mp h
  exact ⟨p, hp, Poller.isRunning_iff_kind.mpr (hk ▸ active)⟩

theorem kindAt?_make {s : Session τ} {m : Move τ} (fits : s.Fits m) {place : Nat} {k : Loop}
    (h : s.kindAt? place = some k) (notEntered : ∀ token?, m ≠ .enter place token?)
    (notLeft : m ≠ .leave place) : (s.make m).kindAt? place = some k := by
  obtain ⟨p, hp, hk⟩ := kindAt?_eq_some_iff.mp h
  refine kindAt?_eq_some_iff.mpr ⟨_, pollerAt?_make fits hp, ?_⟩
  rw [Poller.kind_after s.world p notEntered notLeft, hk]

theorem kindAt?_make_enter {s : Session τ} {place : Nat} {token? : Option Token}
    (fits : s.Fits (.enter place token?)) :
    ∃ k, (s.make (.enter place token?)).kindAt? place = some k ∧ k ≠ .idle := by
  obtain ⟨p, hp, _⟩ := id fits
  exact ⟨_, kindAt?_eq_some_iff.mpr ⟨_, pollerAt?_make fits hp, rfl⟩,
    Poller.kind_after_enter τ s.world p place token?⟩

omit [Timeline τ] in
theorem ne_enter_of_fits {s : Session τ} {m : Move τ} (fits : s.Fits m) {place : Nat} {k : Loop}
    (h : s.kindAt? place = some k) (running : k ≠ .idle) (token? : Option Token) :
    m ≠ .enter place token? := by
  rintro rfl
  obtain ⟨p, hp, hk⟩ := kindAt?_eq_some_iff.mp h
  obtain ⟨q, hq, hidle⟩ := fits
  have hpq : q = p := Option.some.inj (hq.symm.trans hp)
  subst hpq
  have : q.isRunning = true := Poller.isRunning_iff_kind.mpr (hk ▸ running)
  rw [this] at hidle
  exact Bool.noConfusion hidle

def FitsAll (s : Session τ) : List (Move τ) → Prop
  | [] => True
  | m :: ms => s.Fits m ∧ (s.make m).FitsAll ms

theorem fitsAll_append {s : Session τ} {ms ns : List (Move τ)} :
    s.FitsAll (ms ++ ns) ↔ s.FitsAll ms ∧ (s.makeAll ms).FitsAll ns := by
  induction ms generalizing s with
  | nil => simp [FitsAll]
  | cons m ms ih => simp [FitsAll, ih, and_assoc]

/-- As long as nothing leaves it, a loop of the poller at a place goes on. -/
theorem kindAt?_makeAll {s : Session τ} {ms : List (Move τ)} (fits : s.FitsAll ms) {place : Nat}
    {k : Loop} (h : s.kindAt? place = some k) (running : k ≠ .idle)
    (notLeft : ∀ m ∈ ms, m ≠ .leave place) : (s.makeAll ms).kindAt? place = some k := by
  induction ms generalizing s with
  | nil => exact h
  | cons m ms ih =>
      have hnext : (s.make m).kindAt? place = some k :=
        kindAt?_make fits.1 h (ne_enter_of_fits fits.1 h running) (notLeft m List.mem_cons_self)
      exact ih fits.2 hnext fun n hn => notLeft n (List.mem_cons_of_mem m hn)

/-! ## The moves of a poll -/

omit [Timeline τ] in
theorem mem_handMoves {place : Nat} {receiver : Receiver} {es : List Event} {m : Move τ}
    (h : m ∈ es.flatMap (handMoves place receiver)) :
    (∃ e, m = .hand place e) ∨ m = .stop place ∨ ∃ e text, m = .fail e text := by
  obtain ⟨e, _, hm⟩ := List.mem_flatMap.mp h
  rw [handMoves, List.mem_cons, List.mem_append] at hm
  rcases hm with hm | hm | hm
  · exact .inl ⟨e, hm⟩
  · split at hm
    · exact .inr (.inl (List.mem_singleton.mp hm))
    · simp at hm
  · rw [Option.mem_toList, Option.map_eq_some_iff] at hm
    obtain ⟨text, _, rfl⟩ := hm
    exact .inr (.inr ⟨e, text, rfl⟩)

omit [Timeline τ] in
theorem ne_poll_of_mem_handMoves {place : Nat} {receiver : Receiver} {es : List Event} {m : Move τ}
    (h : m ∈ es.flatMap (handMoves place receiver)) (other : Nat) (receiver' : Receiver) :
    m ≠ .poll other (some receiver') := by
  obtain ⟨e, rfl⟩ | rfl | ⟨e, text, rfl⟩ := mem_handMoves h <;> simp

theorem mem_pollMoves {s : Session τ} {place : Nat} {receiver : Receiver} {m : Move τ}
    (h : m ∈ s.pollMoves place receiver) :
    m = .poll place (some receiver) ∨ (∃ e, m = .hand place e) ∨ m = .stop place ∨
      ∃ e text, m = .fail e text := by
  rcases List.mem_cons.mp h with rfl | hm
  · exact .inl rfl
  · exact .inr (mem_handMoves hm)

/-- Events can be handed on, with all that becomes of them, as long as the loop is active. -/
theorem fitsAll_of_handing {s : Session τ} {place : Nat} {k : Loop} (h : s.kindAt? place = some k)
    (running : k ≠ .idle) {ms : List (Move τ)}
    (handing : ∀ m ∈ ms, (∃ e, m = .hand place e) ∨ m = .stop place ∨ ∃ e text, m = .fail e text) :
    s.FitsAll ms := by
  induction ms generalizing s with
  | nil => trivial
  | cons m ms ih =>
      rw [List.forall_mem_cons] at handing
      obtain ⟨hm, hrest⟩ := handing
      have hfits : s.Fits m := by
        obtain ⟨e, rfl⟩ | rfl | ⟨e, text, rfl⟩ := hm
        · exact exists_isRunning h running
        · trivial
        · trivial
      have hkind : (s.make m).kindAt? place = some k := by
        refine kindAt?_make hfits h ?_ ?_
        all_goals obtain ⟨e, rfl⟩ | rfl | ⟨e, text, rfl⟩ := hm <;> simp
      exact ⟨hfits, ih hkind hrest⟩

theorem fitsAll_pollMoves {s : Session τ} {place : Nat} {receiver : Receiver}
    (fits : s.Fits (.poll place (some receiver))) : s.FitsAll (s.pollMoves place receiver) := by
  refine ⟨fits, ?_⟩
  obtain ⟨p, hp, hrunning, _⟩ := id fits
  have hkind : s.kindAt? place = some p.loop.kind := kindAt?_eq_some_iff.mpr ⟨p, hp, rfl⟩
  exact fitsAll_of_handing (kindAt?_make fits hkind (by simp) (by simp))
    (Poller.isRunning_iff_kind.mp hrunning) fun m => mem_handMoves

theorem ne_leave_of_mem_pollMoves {s : Session τ} {place other : Nat} {receiver : Receiver}
    {m : Move τ} (h : m ∈ s.pollMoves place receiver) : m ≠ .leave other := by
  obtain rfl | ⟨e, rfl⟩ | rfl | ⟨e, text, rfl⟩ := mem_pollMoves h <;> simp

/-! ## Properties that all pollers keep -/

theorem pollerAt?_make_of_none {s : Session τ} {m : Move τ} (notAct : ∀ a, m ≠ .act a) {place : Nat}
    (h : s.pollerAt? place = none) : (s.make m).pollerAt? place = none := by
  have changed : ∀ (i : Nat) (change : Poller → Log.Reported Poller),
      (s.changePoller i change).pollerAt? place = none := by
    intro i change
    by_cases hi : i = place
    · subst hi
      rw [changePoller_of_none h, h]
    · rw [pollerAt?_changePoller_of_ne s hi, h]
  cases m with
  | act a => exact absurd rfl (notAct a)
  | poll i receiver? =>
      simp only [make]
      cases hp : s.pollerAt? i with
      | none => rw [pollAt_of_none hp, pollerAt?_passListing, h]
      | some q =>
          have hi : i ≠ place := by
            rintro rfl
            exact absurd (h.symm.trans hp) (by simp)
          rw [pollAt_of_some hp, pollerAt?_setPoller_of_ne _ hi, pollerAt?_emit,
            pollerAt?_passListing, h]
  | enter i token? => cases token? <;> exact changed i _
  | stop i | setToken i | cancel i | leave i | reject i | sayStopped i => exact changed i _
  | hand | fail | ask | pass | slow | sayCancelled | owe => exact h

/-- A property of all pollers goes on to hold if new ones have it and the move keeps it. -/
theorem forall_pollers_make {P : Poller → Prop} {s : Session τ} {m : Move τ} (fits : s.Fits m)
    (created : ∀ a l, m = .act a → s.firstLook? a = some l → P l.poller)
    (kept : ∀ place p, P p → P (p.after place s.world m)) (h : ∀ p ∈ s.pollers, P p) :
    ∀ p ∈ (s.make m).pollers, P p := by
  intro q hq
  obtain ⟨place, hplace⟩ := List.mem_iff_getElem?.mp hq
  cases hp : s.pollerAt? place with
  | some p =>
      have hmade := pollerAt?_make fits hp
      obtain rfl : p.after place s.world m = q := Option.some.inj (hmade.symm.trans hplace)
      exact kept place p (h p (List.mem_of_getElem? hp))
  | none =>
      by_cases hact : ∃ a, m = .act a
      · obtain ⟨a, rfl⟩ := hact
        have hlen : s.pollers.length ≤ place := List.getElem?_eq_none_iff.mp hp
        have hnew : (s.pollers ++ ((s.firstLook? a).map Look.poller).toList)[place]? = some q := by
          rw [← pollers_act fits s]
          exact hplace
        rw [List.getElem?_append_right hlen] at hnew
        obtain ⟨l, hl, rfl⟩ :=
          Option.map_eq_some_iff.mp (Option.mem_toList.mp (List.mem_of_getElem? hnew))
        exact created a l rfl hl
      · have := pollerAt?_make_of_none (fun a ha => hact ⟨a, ha⟩) hp
        exact absurd (this.symm.trans hplace) (by simp)

/-- What new pollers have and every operation of a poller keeps holds of all pollers at every
moment. -/
theorem forall_pollers_makeAll {P : Poller → Prop} {s : Session τ} {ms : List (Move τ)}
    (fits : s.FitsAll ms) (created : ∀ w spec, P (Poller.ofSpec w spec).outcome)
    (kept : ∀ place w p (m : Move τ), P p → P (p.after place w m)) (h : ∀ p ∈ s.pollers, P p) :
    ∀ p ∈ (s.makeAll ms).pollers, P p := by
  induction ms generalizing s with
  | nil => exact h
  | cons m ms ih =>
      refine ih fits.2 (forall_pollers_make fits.1 ?_ (fun place p => kept place s.world p m) h)
      exact fun _ l _ _ => created l.session.world l.spec

end Session

end TreeWatch
