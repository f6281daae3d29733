import TreeWatch.Proofs.Command.Plan
import TreeWatch.Proofs.Session.Delivery
import TreeWatch.Proofs.Session.Reserve

/-!
# The rounds of a run

A run is a line of moves: those of the steps, which are about other pollers, and one poll of each of
its own in every round. What it prints is a line for every event that these polls find, so that for
each poller the lines are those of all events that it ever finds.
-/

namespace TreeWatch.Command

open Session

variable {τ : Type} [Timeline τ]

/-! ## The run as moves -/

/-- The polls of a round: those of the first so many pollers that are in their loops. -/
def roundMoves (count : Nat) (s : Session τ) : List (Move τ) :=
  ((List.range count).filter fun place => s.pollerIs place Poller.isRunning).map fun place =>
    .poll place none

/-- What happens in a run, move by move, up to its end. -/
def roundsMoves (count : Nat) : List (List Step) → Session τ → List (Move τ)
  | [], _ => []
  | steps :: rest, s =>
    let ms := allMoves steps s ++ roundMoves count (performAll steps s).2
    ms ++ roundsMoves count rest (s.makeAll ms)

/-- A run of some specifications is going on in a world: their pollers come first, each in its loop
unless its interval is too long to wait for, no stop is pending, and no name leads to one of them.
-/
structure IsOn (w : World) (specs : List Spec) (s : Session τ) : Prop where
  watching : ∀ place spec, specs[place]? = some spec →
    ∃ p, s.pollerAt? place = some p ∧ p.spec = spec ∧
      p.isRunning = (!w.isTooLong spec.interval) ∧ p.stopPending = false
  unnamed : ∀ entry ∈ s.names, specs.length ≤ entry.2

variable {w : World} {specs : List Spec} {s : Session τ}

omit [Timeline τ] in
theorem IsStarted.isOn (h : IsStarted w specs s) : IsOn w specs s := by
  refine ⟨fun place spec hspec => ?_, by simp [h.names]⟩
  rw [← h.specs, List.getElem?_map] at hspec
  obtain ⟨p, hp, rfl⟩ := Option.map_eq_some_iff.mp hspec
  have hmem := List.mem_of_getElem? hp
  exact ⟨p, hp, rfl, h.running p hmem, h.calm p hmem⟩

omit [Timeline τ] in
theorem IsOn.reserved (h : IsOn w specs s) : Reserved specs.length s := by
  refine ⟨?_, h.unnamed⟩
  by_contra hlt
  obtain ⟨p, hp, -⟩ := h.watching s.pollers.length _ (List.getElem?_eq_getElem (by omega))
  simp [pollerAt?] at hp

/-- A run goes on when its pollers are left alone or polled. -/
theorem IsOn.make (h : IsOn w specs s) {m : Move τ} (fits : s.Fits m)
    (apart : m.Spares specs.length ∨ ∃ place, m = .poll place none) : IsOn w specs (s.make m) := by
  refine ⟨fun place spec hspec => ?_, (h.reserved.make m).unnamed⟩
  obtain ⟨p, hp, rfl, hrunning, hcalm⟩ := h.watching place spec hspec
  have hlt : place < specs.length := (List.getElem?_eq_some_iff.mp hspec).choose
  refine ⟨_, pollerAt?_make fits hp, ?_⟩
  rcases apart with hspares | ⟨i, rfl⟩
  · have hne : m.place? ≠ some place := fun heq => by
      have := hspares place heq
      omega
    rw [Poller.after_of_place?_ne hne]
    exact ⟨rfl, hrunning, hcalm⟩
  · -- A poll leaves all but what is known of the directory as it is.
    simp only [Poller.after]
    split
    · rw [Poller.outcome_poll_snd]
      exact ⟨rfl, hrunning, hcalm⟩
    · exact ⟨rfl, hrunning, hcalm⟩

theorem IsOn.makeAll (h : IsOn w specs s) {ms : List (Move τ)} (fits : s.FitsAll ms)
    (apart : ∀ m ∈ ms, m.Spares specs.length ∨ ∃ place, m = .poll place none) :
    IsOn w specs (s.makeAll ms) := by
  induction ms generalizing s with
  | nil => exact h
  | cons m ms ih =>
      obtain ⟨hm, hrest⟩ := List.forall_mem_cons.mp apart
      exact ih (h.make fits.1 hm) fits.2 hrest

theorem IsOn.allMoves (h : IsOn w specs s) (steps : List Step) :
    IsOn w specs (s.makeAll (allMoves steps s)) :=
  h.makeAll (course_allMoves steps s).fitsAll fun m hm =>
    .inl (spares_allMoves steps s h.reserved m hm)

theorem fitsAll_polls (places : List Nat) (s : Session τ) :
    s.FitsAll (places.map fun place => .poll place none) := by
  induction places generalizing s with
  | nil => trivial
  | cons place places ih => exact ⟨trivial, ih _⟩

theorem IsOn.polls (h : IsOn w specs s) (places : List Nat) :
    IsOn w specs (s.makeAll (places.map fun place => .poll place none)) := by
  refine h.makeAll (fitsAll_polls places s) fun m hm => ?_
  obtain ⟨place, -, rfl⟩ := List.mem_map.mp hm
  exact .inr ⟨place, rfl⟩

/-- A run goes on from one round to the next. -/
theorem IsOn.round (h : IsOn w specs s) (steps : List Step) (count : Nat) :
    IsOn w specs (s.makeAll (Session.allMoves steps s ++
      roundMoves count (performAll steps s).2)) := by
  rw [makeAll_append]
  exact (h.allMoves steps).polls _

theorem IsOn.rounds (h : IsOn w specs s) (steps : List (List Step)) (count : Nat) :
    IsOn w specs (s.makeAll (roundsMoves count steps s)) := by
  induction steps generalizing s with
  | nil => exact h
  | cons first rest ih =>
      rw [roundsMoves, makeAll_append]
      exact ih (h.round first count)

/-! ## What a run sees -/

def seenBy (count : Nat) (s : Session τ) : Move τ → List (Nat × Event)
  | .poll place _ => if place < count then (s.pollAt place).1.map fun e => (place, e) else []
  | _ => []

def seen (count : Nat) : Session τ → List (Move τ) → List (Nat × Event)
  | _, [] => []
  | s, m :: ms => seenBy count s m ++ seen count (s.make m) ms

theorem seen_append (count : Nat) (s : Session τ) (ms ns : List (Move τ)) :
    seen count s (ms ++ ns) = seen count s ms ++ seen count (s.makeAll ms) ns := by
  induction ms generalizing s with
  | nil => rfl
  | cons m ms ih => rw [List.cons_append, seen, seen, ih, List.append_assoc, makeAll_cons]

theorem seen_of_spares {count : Nat} {s : Session τ} {ms : List (Move τ)}
    (h : ∀ m ∈ ms, m.Spares count) : seen count s ms = [] := by
  induction ms generalizing s with
  | nil => rfl
  | cons m ms ih =>
      obtain ⟨hm, hrest⟩ := List.forall_mem_cons.mp h
      have hnone : seenBy count s m = [] := by
        cases m with
        | poll place receiver? => exact if_neg (Nat.not_lt.mpr (hm place rfl))
        | _ => rfl
      rw [seen, hnone, ih hrest, List.nil_append]

theorem place_lt_of_mem_seen {count : Nat} {s : Session τ} {ms : List (Move τ)} {place : Nat}
    {e : Event} (h : (place, e) ∈ seen count s ms) : place < count := by
  induction ms generalizing s with
  | nil => simp [seen] at h
  | cons m ms ih =>
      rcases List.mem_append.mp h with hm | hrest
      · cases m with
        | poll i receiver? =>
            simp only [seenBy] at hm
            split at hm
            · next hlt =>
                obtain ⟨_, _, heq⟩ := List.mem_map.mp hm
                exact (Prod.mk.inj heq).1 ▸ hlt
            · simp at hm
        | _ => simp [seenBy] at hm
      · exact ih hrest

/-- Of all that a run sees, what belongs to one poller is what this poller ever finds. -/
theorem filter_seen {count place : Nat} (h : place < count) (s : Session τ) (ms : List (Move τ)) :
    ((seen count s ms).filter (·.1 = place)).map (·.2) = polled place s ms := by
  have hone : ∀ (s : Session τ) (m : Move τ),
      ((seenBy count s m).filter (·.1 = place)).map (·.2) = found place s m := by
    intro s m
    cases m with
    | poll i receiver? =>
        by_cases hi : i = place
        · subst hi
          simp [seenBy, found, h, List.filter_map, Function.comp_def]
        · simp only [seenBy, found, if_neg hi]
          split <;> simp [List.filter_map, Function.comp_def, hi]
    | _ => rfl
  induction ms generalizing s with
  | nil => rfl
  | cons m ms ih => rw [seen, polled, List.filter_append, List.map_append, hone, ih]

/-! ## What a run prints -/

def lineAt (style : LineStyle) (specs : List Spec) (sighting : Nat × Event) : String :=
  (specs[sighting.1]?).elim "" fun spec => style.line { spec } sighting.2

omit [Timeline τ] in
/-- Of a poller only what it watches shows in its lines. -/
theorem lineAt_eq (style : LineStyle) {place : Nat} {p : Poller}
    (h : specs[place]? = some p.spec) (e : Event) :
    lineAt style specs (place, e) = style.line p e := by
  unfold lineAt
  rw [h]
  rfl

def pollMove (s : Session τ) (place : Nat) : List (Move τ) :=
  if s.pollerIs place Poller.isRunning then [.poll place none] else []

theorem pollPlace_eq (h : IsOn w specs s) (style : LineStyle) {place : Nat}
    (hlt : place < specs.length) :
    pollPlace style s place =
      (String.join ((seen specs.length s (pollMove s place)).map (lineAt style specs)),
        s.makeAll (pollMove s place)) := by
  obtain ⟨p, hp, hspec, -⟩ := h.watching place _ (List.getElem?_eq_getElem hlt)
  have hline : (fun e => lineAt style specs (place, e)) = style.line p :=
    funext (lineAt_eq style (by rw [hspec, List.getElem?_eq_getElem hlt]))
  unfold pollPlace pollMove
  rw [hp, pollerIs_of_some hp]
  dsimp only
  cases p.isRunning with
  | true =>
      simp only [if_true, seen, seenBy, if_pos hlt, List.append_nil, List.map_map,
        Function.comp_def, hline]
      rfl
  | false => rfl

omit [Timeline τ] in
/-- Which pollers of a run are in their loops does not change while it is going on. -/
theorem IsOn.pollerIs_eq (h : IsOn w specs s) {t : Session τ} (later : IsOn w specs t) {place : Nat}
    (hlt : place < specs.length) :
    t.pollerIs place Poller.isRunning = s.pollerIs place Poller.isRunning := by
  obtain ⟨p, hp, -, hrunning, -⟩ := h.watching place _ (List.getElem?_eq_getElem hlt)
  obtain ⟨q, hq, -, hrunning', -⟩ := later.watching place _ (List.getElem?_eq_getElem hlt)
  rw [pollerIs_of_some hp, pollerIs_of_some hq, hrunning, hrunning']

/-- A round prints a line for every event that its polls find. -/
theorem pollRound_eq (h : IsOn w specs s) (style : LineStyle) :
    pollRound style specs.length s =
      (String.join ((seen specs.length s (roundMoves specs.length s)).map (lineAt style specs)),
        s.makeAll (roundMoves specs.length s)) := by
  have hfold : ∀ count ≤ specs.length,
      (List.range count).foldl (fun (ts : String × Session τ) place =>
        (ts.1 ++ (pollPlace style ts.2 place).1, (pollPlace style ts.2 place).2)) ("", s) =
      (String.join ((seen specs.length s (roundMoves count s)).map (lineAt style specs)),
        s.makeAll (roundMoves count s)) := by
    intro count
    induction count with
    | zero => exact fun _ => rfl
    | succ count ih =>
        intro hle
        have hlt : count < specs.length := by omega
        have hpolled : IsOn w specs (s.makeAll (roundMoves count s)) := h.polls _
        have hmoves : roundMoves (count + 1) s =
            roundMoves count s ++ pollMove (s.makeAll (roundMoves count s)) count := by
          have hsame := h.pollerIs_eq hpolled hlt
          rw [pollMove, hsame, roundMoves, roundMoves, List.range_succ, List.filter_append,
            List.map_append]
          cases hrunning : s.pollerIs count Poller.isRunning <;> simp [hrunning]
        have hplace := pollPlace_eq hpolled style hlt
        rw [List.range_succ, List.foldl_append, ih (by omega), hmoves]
        simp only [List.foldl_cons, List.foldl_nil, hplace, seen_append, makeAll_append,
          List.map_append, String.join_append]
  exact hfold specs.length (Nat.le_refl _)

/-- A run prints a line for every event that it sees, and goes through all of its moves. -/
theorem rounds_eq (h : IsOn w specs s) (style : LineStyle) (steps : List (List Step)) :
    (rounds style specs.length steps s).1 =
        String.join ((seen specs.length s (roundsMoves specs.length steps s)).map
          (lineAt style specs)) ∧
      (rounds style specs.length steps s).2.2 =
        s.makeAll (roundsMoves specs.length steps s) := by
  induction steps generalizing s with
  | nil => exact ⟨rfl, rfl⟩
  | cons first rest ih =>
      obtain ⟨htext, hend⟩ := ih (h.round first specs.length)
      have hmade := makeAll_allMoves first s
      have hround := pollRound_eq (h.allMoves first) style
      rw [hmade] at hround
      rw [makeAll_append, hmade] at htext hend
      have hseen : seen specs.length s (Session.allMoves first s) = [] :=
        seen_of_spares (spares_allMoves first s h.reserved)
      have hmoves : roundsMoves specs.length (first :: rest) s =
          (Session.allMoves first s ++ roundMoves specs.length (performAll first s).2) ++
            roundsMoves specs.length rest ((performAll first s).2.makeAll
              (roundMoves specs.length (performAll first s).2)) := by
        rw [roundsMoves, makeAll_append, hmade]
      rw [hmoves]
      simp only [rounds, hround, seen_append, makeAll_append, hseen, hmade, htext, hend,
        List.nil_append, List.map_append, String.join_append, and_self]

end TreeWatch.Command
