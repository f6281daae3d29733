import TreeWatch.Proofs.Session.Course
import TreeWatch.Proofs.Session.Linking

/-!
# Sessions that make the same moves

Where related worlds hold the same settings too, nothing that is done in sessions side by side tells
them apart: the same steps make the same moves in both, through all loops and their ticks.
-/

namespace TreeWatch.Session

open Log

variable {τ : Type}

/-- A relation that is kept, in which settings are read alike and watching sees the same. -/
structure Unison (allowed : Action → Prop) (R : World × Journal → World × Journal → Prop) : Prop
    extends Bond allowed R where
  entriesOfFile : ∀ {w v j k}, R (w, j) (v, k) → ∀ p,
    Settings.entriesOfFile v p = Settings.entriesOfFile w p
  findings : ∀ {w v j k}, R (w, j) (v, k) → ∀ scope root,
    Walk.findings v scope root = Walk.findings w scope root

theorem Unison.isShared {allowed : Action → Prop} {R : World × Journal → World × Journal → Prop}
    (unison : Unison allowed R) (x : Sight) : x.IsShared R :=
  fun h => unison.findings h x.scope x.root

namespace Linked

variable {allowed : Action → Prop} {R : World × Journal → World × Journal → Prop}
  {s t : Session τ} [Timeline τ]

/-! ## Move by move -/

theorem make (unison : Unison allowed R) (h : Linked R s t) {m : Move τ}
    (permitted : ∀ a, m = .act a → allowed a) : Linked R (s.make m) (t.make m) := by
  have bond := unison.toBond
  cases m with
  | act a =>
      exact h.act bond (permitted a rfl) (fun p _ => unison.entriesOfFile h.log p)
        fun x _ => unison.isShared x
  | poll place receiver? => exact (h.pollAt bond place fun x _ => unison.isShared x).linked
  | hand | ask => exact h
  | fail e text => exact h.emit bond [failureRecord e text]
  | enter place token? => cases token? <;> exact h.changePoller bond place _
  | stop place | reject place | setToken place | cancel place | leave place | sayStopped place =>
      exact h.changePoller bond place _
  | pass span => exact h.pass span
  | slow seconds => exact h.addDelay seconds
  | sayCancelled => exact h.emit bond [.of .info "poller" "DirectoryPoller cancelled"]
  | owe tasks => exact { h with cancelled := rfl }

theorem makeAll (unison : Unison allowed R) (h : Linked R s t) {ms : List (Move τ)}
    (permitted : ∀ a, .act a ∈ ms → allowed a) : Linked R (s.makeAll ms) (t.makeAll ms) := by
  induction ms generalizing s t with
  | nil => exact h
  | cons m ms ih =>
      have hfirst := h.make unison (m := m) fun a ha => permitted a (ha ▸ List.mem_cons_self)
      exact ih hfirst fun a ha => permitted a (List.mem_cons_of_mem m ha)

/-! ## Step by step -/

omit [Timeline τ] in
theorem actMoves_eq (h : Linked R s t) (a : Action) : t.actMoves a = s.actMoves a := by
  cases a <;> simp only [actMoves, h.named?]

theorem pollMoves_eq (unison : Unison allowed R) (h : Linked R s t) (place : Nat)
    (receiver : Receiver) : t.pollMoves place receiver = s.pollMoves place receiver := by
  obtain ⟨events, s', t', hs, ht, _⟩ := h.pollAt unison.toBond place fun x _ => unison.isShared x
  rw [pollMoves, pollMoves, hs, ht]

theorem inheritMoves_eq (h : Linked R s t) (place : Nat) (task : Option String) :
    t.inheritMoves place task = s.inheritMoves place task := by
  rw [inheritMoves, inheritMoves, settle, settle, h.nextStart, h.spanUntil, h.cancelled]

omit [Timeline τ] in
theorem oweMoves_eq (h : Linked R s t) {trace trace' : Trace τ} (isCut : trace'.isCut = trace.isCut)
    (place : Nat) (task : Option String) :
    t.oweMoves place trace' task = s.oweMoves place trace task := by
  rw [oweMoves, oweMoves, leavesOwing, leavesOwing, owe, owe, isCut, h.pollerIs, h.cancelled]

theorem performAll (unison : Unison (fun _ => True) R) (h : Linked R s t) {steps : List Step}
    (same : allMoves steps t = allMoves steps s) :
    Linked R (performAll steps s).2 (performAll steps t).2 := by
  rw [← makeAll_allMoves, ← makeAll_allMoves, same]
  exact h.makeAll unison fun _ _ => trivial

mutual

theorem moves_eq (unison : Unison (fun _ => True) R) : ∀ (step : Step) {s t : Session τ},
    Linked R s t → moves step t = moves step s
  | .act a, s, t, h => by
    rw [moves, moves, h.actMoves_eq]
  | .run id token receiver ticks, s, t, h => by
    rw [moves, moves, h.named?]
    cases s.named? id with
    | none => rfl
    | some named =>
        dsimp only
        have hentered : Linked R (s.make (.enter named.1 (some token)))
            (t.make (.enter named.1 (some token))) := h.make unison fun _ _ => trivial
        rw [hentered.cannotWait unison.toBond, hentered.nextStart,
          loopMoves_eq unison ticks named.1 receiver _ hentered]
  | .runCoroutine id cancelAtEnd receiver ticks task, s, t, h => by
    rw [moves, moves, h.named?]
    cases s.named? id with
    | none => rfl
    | some named =>
        dsimp only
        have hentered : Linked R (s.make (.enter named.1 none)) (t.make (.enter named.1 none)) :=
          h.make unison fun _ _ => trivial
        obtain ⟨hmoves, hcut, hleft⟩ := coroutineMoves_eq unison ticks named.1 cancelAtEnd receiver
          ((s.make (.enter named.1 none)).nextStart named.1) hentered
        rw [hentered.nextStart, hentered.inherits, hentered.inheritMoves_eq, hmoves,
          hleft.oweMoves_eq hcut]
termination_by structural step => step

theorem allMoves_eq (unison : Unison (fun _ => True) R) : ∀ (steps : List Step) {s t : Session τ},
    Linked R s t → allMoves steps t = allMoves steps s
  | [], s, t, h => rfl
  | step :: rest, s, t, h => by
    have hstep := moves_eq unison step h
    have hperformed : Linked R (perform step s).2 (perform step t).2 := by
      rw [← (course_moves step s).makeAll_eq, ← (course_moves step t).makeAll_eq, hstep]
      exact h.makeAll unison fun _ _ => trivial
    rw [allMoves, allMoves, hstep, allMoves_eq unison rest hperformed]
termination_by structural steps => steps

theorem loopMoves_eq (unison : Unison (fun _ => True) R) : ∀ (ticks : List Tick) (place : Nat)
    (receiver : Receiver) (next : τ) {s t : Session τ}, Linked R s t →
    loopMoves place receiver ticks next t = loopMoves place receiver ticks next s
  | [], place, receiver, next, s, t, h => by
    rw [loopMoves, loopMoves, h.spanUntil, h.pollerIs]
  | .mk steps seconds _ _ :: rest, place, receiver, next, s, t, h => by
    rw [loopMoves, loopMoves, h.spanUntil, h.pollerIs]
    have hwaiting := (h.pass (s.spanUntil next)).addDelay seconds
    have hnested := allMoves_eq unison steps hwaiting
    have hwaited := hwaiting.performAll unison hnested
    obtain ⟨next', events, s', t', hs, ht, hpolled⟩ :=
      hwaited.pollInLoop unison.toBond place receiver fun x _ => unison.isShared x
    dsimp only
    rw [hnested, hwaited.pollerIs, hwaited.pollMoves_eq unison, hs, ht]
    dsimp only
    rw [loopMoves_eq unison rest place receiver next' hpolled]
termination_by structural ticks => ticks

theorem coroutineMoves_eq (unison : Unison (fun _ => True) R) : ∀ (ticks : List Tick) (place : Nat)
    (cancelAtEnd : Bool) (receiver : Receiver) (next : τ) {s t : Session τ}, Linked R s t →
    coroutineMoves place cancelAtEnd receiver ticks next t =
        coroutineMoves place cancelAtEnd receiver ticks next s ∧
      (coroutine place cancelAtEnd receiver ticks next t).1.isCut =
        (coroutine place cancelAtEnd receiver ticks next s).1.isCut ∧
      Linked R (coroutine place cancelAtEnd receiver ticks next s).2
        (coroutine place cancelAtEnd receiver ticks next t).2
  | [], place, cancelAtEnd, receiver, next, s, t, h => by
    rw [coroutineMoves, coroutineMoves, coroutine, coroutine, h.spanUntil, h.pollerIs]
    refine ⟨rfl, ?_⟩
    split
    · exact ⟨rfl, h⟩
    · have hpassed := h.pass (s.spanUntil next)
      refine ⟨rfl, make unison (m := .sayCancelled) ?_ fun _ _ => trivial⟩
      split <;> exact hpassed.changePoller unison.toBond place _
  | .mk steps seconds cancel late :: rest, place, cancelAtEnd, receiver, next, s, t, h => by
    rw [coroutineMoves, coroutineMoves, coroutine, coroutine, h.spanUntil, h.pollerIs]
    have hwaiting := (h.pass (s.spanUntil next)).addDelay seconds
    have hnested := allMoves_eq unison steps hwaiting
    have hticked := hwaiting.performAll unison hnested
    dsimp only
    rw [hnested]
    generalize Session.performAll steps
      ((s.pass (s.spanUntil next)).addDelay seconds) = x at hticked ⊢
    generalize Session.performAll steps
      ((t.pass (s.spanUntil next)).addDelay seconds) = y at hticked ⊢
    have hwaited : Linked R (if cancel then x.2.make (.cancel place) else x.2)
        (if cancel then y.2.make (.cancel place) else y.2) := by
      split
      · exact hticked.make unison fun _ _ => trivial
      · exact hticked
    have hmodel : ∀ u : Session τ, (if cancel then u.changePoller place fun p =>
        pure p.requestCancel else u) = if cancel then u.make (.cancel place) else u := fun _ => rfl
    rw [hmodel, hmodel]
    generalize (if cancel then x.2.make (.cancel place) else x.2) = u at hwaited ⊢
    generalize (if cancel then y.2.make (.cancel place) else y.2) = v at hwaited ⊢
    obtain ⟨next', events, u', v', hu, hv, hpolled⟩ :=
      hwaited.pollInLoop unison.toBond place receiver fun x _ => unison.isShared x
    obtain ⟨hmoves, hcut, hleft⟩ :=
      coroutineMoves_eq unison rest place cancelAtEnd receiver next' hpolled
    rw [hwaited.pollerIs, hwaited.pollerIs, hwaited.pollMoves_eq unison, hu, hv]
    dsimp only
    rw [hmoves]
    refine ⟨rfl, ?_⟩
    split
    · exact ⟨rfl, h⟩
    · split
      · exact ⟨rfl, hwaited.make unison (m := .sayCancelled) fun _ _ => trivial⟩
      · split
        · exact ⟨rfl, hwaited⟩
        · exact ⟨hcut, hleft⟩
termination_by structural ticks => ticks

end

end Linked

/-! ## What lasts in one session -/

/-- A property of a world with its log that is kept by whatever an allowed action does to them. -/
structure Lasting (allowed : Action → Prop) (I : World → Journal → Prop) : Prop where
  emitAll : ∀ {w j}, I w j → ∀ rs, I (j.emitAll w rs).1 (j.emitAll w rs).2
  setup : ∀ {w j source}, allowed (.setupLogging source) → I w j → ∀ settings,
    I (j.setup w settings).2.1 (j.setup w settings).2.2
  reset : ∀ {w j}, allowed .resetLogging → I w j → I w j.reset
  edit : ∀ {w j change}, allowed (.edit change) → I w j → I (w.edit change) j
  changeDirectory : ∀ {w j path}, allowed (.changeDirectory path) → I w j →
    I { w with directory := path } j
  setVariable : ∀ {w j}, I w j → ∀ name value, I (w.setVariable name value) j

namespace Lasting

variable {allowed : Action → Prop} {I : World → Journal → Prop}

/-- A session is beside itself, and the property holds of both. -/
theorem unison (h : Lasting allowed I) : Unison allowed fun x y => y = x ∧ I x.1 x.2 where
  emitAll | ⟨rfl, hI⟩, rs => ⟨rfl, h.emitAll hI rs⟩
  setup | permitted, ⟨rfl, hI⟩, settings => ⟨rfl, h.setup permitted hI settings⟩
  reset | permitted, ⟨rfl, hI⟩ => ⟨rfl, h.reset permitted hI⟩
  edit | permitted, ⟨rfl, hI⟩ => ⟨rfl, h.edit permitted hI⟩
  changeDirectory | permitted, ⟨rfl, hI⟩ => ⟨rfl, h.changeDirectory permitted hI⟩
  setVariable | ⟨rfl, hI⟩, name, value => ⟨rfl, h.setVariable hI name value⟩
  validate | ⟨rfl, _⟩, _ => rfl
  allFiles | ⟨rfl, _⟩, _, _ => rfl
  environment | ⟨rfl, _⟩ => rfl
  host | ⟨rfl, _⟩ => rfl
  entriesOfFile | ⟨rfl, _⟩, _ => rfl
  findings | ⟨rfl, _⟩, _, _ => rfl

theorem makeAll [Timeline τ] (h : Lasting allowed I) {s : Session τ}
    (start : I s.world s.journal) {ms : List (Move τ)} (permitted : ∀ a, .act a ∈ ms → allowed a) :
    I (s.makeAll ms).world (s.makeAll ms).journal := by
  have hself : Linked (fun x y => y = x ∧ I x.1 x.2) s s :=
    ⟨⟨rfl, start⟩, rfl, rfl, rfl, rfl, rfl, rfl, rfl, rfl⟩
  exact (hself.makeAll h.unison permitted).log.2

end Lasting

end TreeWatch.Session
