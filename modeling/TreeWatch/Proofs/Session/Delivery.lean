import Mathlib
import TreeWatch.Proofs.Session.Course
import TreeWatch.Proofs.Watch.Replay

/-!
# Who gets which changes

The events of all polls of a poller, whoever asked for them, follow each other without a gap: at
every moment they lead from the paths that the poller knew at an earlier moment to those it knows
now. The events of a poll that a loop made all go to the receiver of the loop, once and in order,
whatever becomes of them there.
-/

namespace TreeWatch.Session

variable {τ : Type} [Timeline τ]

/-! ## The events of a poller -/

/-- The events that a move finds at a place. -/
def found (place : Nat) (s : Session τ) : Move τ → List Event
  | .poll i _ => if i = place then (s.pollAt place).1 else []
  | _ => []

/-- The events of all polls of the poller at a place, in time order. -/
def polled (place : Nat) : Session τ → List (Move τ) → List Event
  | _, [] => []
  | s, m :: ms => found place s m ++ polled place (s.make m) ms

/-- Every poller knows each path once, at every moment of a session. -/
theorem nodup_snapshot_makeAll {s : Session τ} {ms : List (Move τ)} (fits : s.FitsAll ms)
    (h : ∀ p ∈ s.pollers, p.snapshot.paths.Nodup) :
    ∀ p ∈ (s.makeAll ms).pollers, p.snapshot.paths.Nodup := by
  have hlook : ∀ w (spec : Spec), ((spec.look? w).getD []).paths.Nodup := by
    intro w spec
    unfold Spec.look?
    cases Walk.findings w spec.scope spec.root with
    | error e => exact List.nodup_nil
    | ok fs => exact Snapshot.nodup_paths_ofList _
  refine forall_pollers_makeAll fits ?_ ?_ h
  · intro w spec
    simp only [Poller.ofSpec, Log.Reported.outcome_bind, Log.Reported.outcome_pure,
      Poller.outcome_refresh]
    exact hlook w spec
  · intro place w p m hp
    rw [Poller.snapshot_after]
    split
    · split
      · exact hlook w p.spec
      · exact hp
    · exact hp

theorem replay?_found {s : Session τ} {m : Move τ} {place : Nat} {p : Poller}
    (h : s.pollerAt? place = some p) (nodup : p.snapshot.paths.Nodup)
    (nodup' : (p.after place s.world m).snapshot.paths.Nodup) :
    replay? p.snapshot.pathSet (found place s m) =
      some (p.after place s.world m).snapshot.pathSet := by
  rw [Poller.snapshot_after] at nodup' ⊢
  cases m with
  | poll i receiver? =>
      simp only [found] at nodup' ⊢
      by_cases hi : i = place
      · subst hi
        rw [if_pos rfl] at nodup' ⊢
        rw [if_pos rfl, pollAt_of_some h, Poller.outcome_poll_fst]
        exact Snapshot.replay?_diff nodup nodup'
      · rw [if_neg hi, if_neg hi, replay?_nil]
  | _ => rfl

/-- Between any two moments the events of a poller lead from the paths that it knew to those that it
knows. -/
theorem replay?_polled {s : Session τ} {ms : List (Move τ)} (fits : s.FitsAll ms)
    (nodup : ∀ p ∈ s.pollers, p.snapshot.paths.Nodup) {place : Nat} {p : Poller}
    (h : s.pollerAt? place = some p) :
    ∃ q, (s.makeAll ms).pollerAt? place = some q ∧
      replay? p.snapshot.pathSet (polled place s ms) = some q.snapshot.pathSet := by
  induction ms generalizing s p with
  | nil => exact ⟨p, h, rfl⟩
  | cons m ms ih =>
      have hnext := pollerAt?_make fits.1 h
      have hone : s.FitsAll [m] := ⟨fits.1, trivial⟩
      have hnodup : ∀ q ∈ (s.make m).pollers, q.snapshot.paths.Nodup :=
        nodup_snapshot_makeAll hone nodup
      obtain ⟨q, hq, hreplay⟩ := ih fits.2 hnodup hnext
      refine ⟨q, hq, ?_⟩
      rw [polled, replay?_append, replay?_found h (nodup p (List.mem_of_getElem? h))
        (hnodup _ (List.mem_of_getElem? hnext)), Option.bind_some, hreplay]

/-! ## The events of loops -/

/-- What the polls of loops bring together, each from its place, its receiver and its events. -/
def gathered {β : Type} (what : Nat → Receiver → List Event → List β) :
    Session τ → List (Move τ) → List β
  | _, [] => []
  | s, .poll place (some receiver) :: ms =>
    what place receiver (s.pollAt place).1 ++
      gathered what (s.make (.poll place (some receiver))) ms
  | s, m :: ms => gathered what (s.make m) ms

/-- What receivers get, each event with the place of its loop. -/
def handed (ms : List (Move τ)) : List (Nat × Event) :=
  ms.filterMap fun
    | .hand place e => some (place, e)
    | _ => none

def complaints (ms : List (Move τ)) : List Log.Record :=
  ms.filterMap fun
    | .fail e text => some (failureRecord e text)
    | _ => none

theorem gathered_cons_of_ne {β : Type} (what : Nat → Receiver → List Event → List β)
    (s : Session τ) {m : Move τ} (h : ∀ place receiver, m ≠ .poll place (some receiver))
    (ms : List (Move τ)) : gathered what s (m :: ms) = gathered what (s.make m) ms := by
  cases m with
  | poll place receiver? =>
      cases receiver? with
      | none => rfl
      | some receiver => exact absurd rfl (h place receiver)
  | _ => rfl

theorem gathered_append {β : Type} (what : Nat → Receiver → List Event → List β) (s : Session τ)
    (ms ns : List (Move τ)) :
    gathered what s (ms ++ ns) = gathered what s ms ++ gathered what (s.makeAll ms) ns := by
  induction ms generalizing s with
  | nil => rfl
  | cons m ms ih =>
      by_cases hpoll : ∃ place receiver, m = .poll place (some receiver)
      · obtain ⟨place, receiver, rfl⟩ := hpoll
        simp only [List.cons_append, gathered, ih, List.append_assoc, makeAll_cons]
      · have hne : ∀ place receiver, m ≠ .poll place (some receiver) :=
          fun place receiver h => hpoll ⟨place, receiver, h⟩
        rw [List.cons_append, gathered_cons_of_ne what s hne, gathered_cons_of_ne what s hne, ih,
          makeAll_cons]

theorem gathered_eq_nil {β : Type} (what : Nat → Receiver → List Event → List β) (s : Session τ)
    {ms : List (Move τ)} (h : ∀ m ∈ ms, ∀ place receiver, m ≠ .poll place (some receiver)) :
    gathered what s ms = [] := by
  induction ms generalizing s with
  | nil => rfl
  | cons m ms ih =>
      rw [List.forall_mem_cons] at h
      rw [gathered_cons_of_ne what s h.1, ih (s.make m) h.2]

theorem gathered_pollMoves {β : Type} (what : Nat → Receiver → List Event → List β)
    (s : Session τ) (place : Nat) (receiver : Receiver) :
    gathered what s (s.pollMoves place receiver) = what place receiver (s.pollAt place).1 := by
  rw [pollMoves, gathered, gathered_eq_nil what _ fun m => ne_poll_of_mem_handMoves,
    List.append_nil]

/-- What is read off the moves by which events are handed is what the polls bring together. -/
theorem Course.filterMap_eq_gathered {β : Type} {what : Nat → Receiver → List Event → List β}
    {read : Move τ → Option β} (ends : ∀ place token?, read (.enter place token?) = none)
    (left : ∀ place, read (.leave place) = none)
    (simple : ∀ m, m.isSimple = true → read m = none)
    (poll : ∀ place receiver es, ((.poll place (some receiver) ::
      es.flatMap (handMoves place receiver)).filterMap read) = what place receiver es)
    {owner : Option (Nat × Receiver)} {s t : Session τ} {ms : List (Move τ)}
    (h : Course owner s ms t) : ms.filterMap read = gathered what s ms := by
  induction h with
  | done => rfl
  | @step owner s t m ms hsimple fits rest ih =>
      have hne : ∀ place receiver, m ≠ .poll place (some receiver) := by
        rintro place receiver rfl
        simp [Move.isSimple] at hsimple
      rw [List.filterMap_cons_none (simple m hsimple), gathered_cons_of_ne what s hne, ih]
  | @poll place receiver s t ms fits rest ih =>
      have hpoll : (s.pollMoves place receiver).filterMap read =
          what place receiver (s.pollAt place).1 := poll place receiver _
      rw [List.filterMap_append, gathered_append, hpoll, gathered_pollMoves, ih]
  | @loop owner place receiver token? s t u inner ms fits body rest ihBody ihRest =>
      rw [List.filterMap_cons_none (ends place token?), List.filterMap_append,
        List.filterMap_cons_none (left place), gathered_cons_of_ne what s (by simp),
        gathered_append, gathered_cons_of_ne what _ (by simp), body.makeAll_eq, ihBody, ihRest]

theorem Course.handed_eq {owner : Option (Nat × Receiver)} {s t : Session τ} {ms : List (Move τ)}
    (h : Course owner s ms t) :
    handed ms = gathered (fun place _ es => es.map fun e => (place, e)) s ms := by
  refine h.filterMap_eq_gathered (fun _ _ => rfl) (fun _ => rfl) ?_ ?_
  · intro m hm
    cases m <;> first | rfl | simp [Move.isSimple] at hm
  · intro place receiver es
    rw [List.filterMap_cons_none rfl]
    induction es with
    | nil => rfl
    | cons e rest ih =>
        rw [List.flatMap_cons, List.filterMap_append, ih, handMoves]
        cases receiver.failure? e <;> split <;> rfl

theorem Course.complaints_eq {owner : Option (Nat × Receiver)} {s t : Session τ}
    {ms : List (Move τ)} (h : Course owner s ms t) :
    complaints ms = gathered (fun _ receiver es =>
      es.filterMap fun e => (receiver.failure? e).map (failureRecord e)) s ms := by
  refine h.filterMap_eq_gathered (fun _ _ => rfl) (fun _ => rfl) ?_ ?_
  · intro m hm
    cases m <;> first | rfl | simp [Move.isSimple] at hm
  · intro place receiver es
    rw [List.filterMap_cons_none rfl]
    induction es with
    | nil => rfl
    | cons e rest ih =>
        rw [List.flatMap_cons, List.filterMap_append, ih]
        cases hfailure : receiver.failure? e <;>
          cases hstops : receiver.stopsOn.contains e.path <;>
            simp only [handMoves, hfailure, hstops] <;>
              simp [hfailure]

/-- After every poll of a loop come the moves that hand its events. -/
def Followed : Session τ → List (Move τ) → Prop
  | _, [] => True
  | s, m :: ms =>
    (∀ place receiver, m = .poll place (some receiver) →
      ∃ rest, ms = (s.pollAt place).1.flatMap (handMoves place receiver) ++ rest) ∧
      Followed (s.make m) ms

theorem followed_append {s : Session τ} {ms ns : List (Move τ)} (first : Followed s ms)
    (second : Followed (s.makeAll ms) ns) : Followed s (ms ++ ns) := by
  induction ms generalizing s with
  | nil => exact second
  | cons m ms ih =>
      refine ⟨?_, ih first.2 second⟩
      intro place receiver hm
      obtain ⟨rest, hrest⟩ := first.1 place receiver hm
      exact ⟨rest ++ ns, by rw [hrest]; exact List.append_assoc _ _ _⟩

theorem followed_of_ne {s : Session τ} {ms : List (Move τ)}
    (h : ∀ m ∈ ms, ∀ place receiver, m ≠ .poll place (some receiver)) : Followed s ms := by
  induction ms generalizing s with
  | nil => trivial
  | cons m ms ih =>
      refine ⟨fun place receiver hm => absurd hm (h m List.mem_cons_self place receiver), ?_⟩
      exact ih fun n hn => h n (List.mem_cons_of_mem m hn)

theorem followed_pollMoves (s : Session τ) (place : Nat) (receiver : Receiver) :
    Followed s (s.pollMoves place receiver) := by
  refine ⟨?_, followed_of_ne fun m => ne_poll_of_mem_handMoves⟩
  intro other receiver' heq
  obtain ⟨rfl, hreceiver⟩ := Move.poll.inj heq
  obtain rfl := Option.some.inj hreceiver
  exact ⟨[], (List.append_nil _).symm⟩

theorem Course.followed {owner : Option (Nat × Receiver)} {s t : Session τ} {ms : List (Move τ)}
    (h : Course owner s ms t) : Followed s ms := by
  induction h with
  | done => trivial
  | @step owner s t m ms hsimple fits rest ih =>
      refine ⟨?_, ih⟩
      rintro place receiver rfl
      simp [Move.isSimple] at hsimple
  | poll fits rest ih => exact followed_append (followed_pollMoves _ _ _) ih
  | loop fits body rest ihBody ihRest =>
      refine ⟨by simp, followed_append ihBody ⟨by simp, ?_⟩⟩
      rw [body.makeAll_eq]
      exact ihRest

theorem Followed.exists_rest {s : Session τ} {before after : List (Move τ)} {place : Nat}
    {receiver : Receiver}
    (h : Followed s (before ++ .poll place (some receiver) :: after)) :
    ∃ rest, after =
      ((s.makeAll before).pollAt place).1.flatMap (handMoves place receiver) ++ rest := by
  induction before generalizing s with
  | nil => exact h.1 place receiver rfl
  | cons m before ih => exact ih h.2

end TreeWatch.Session
