import TreeWatch.Proofs.Session.Course

/-!
# Loops in progress

A poller is running while a loop of it is in progress and at no other time, and no second one begins
meanwhile. A call that is refused for this reason says so once and changes nothing else.
-/

namespace TreeWatch

/-- The places of the loops that are in progress after a move, given those before it. -/
def Move.progress {τ : Type} (places : List Nat) : Move τ → List Nat
  | .enter place _ => place :: places
  | .leave place => places.erase place
  | _ => places

/-- The places of the loops that were entered and not left. -/
def inProgress {τ : Type} (ms : List (Move τ)) : List Nat :=
  ms.foldl Move.progress []

def Poller.refusal (p : Poller) : Log.Record :=
  .of .warning "poller" ("DirectoryPoller already running for " ++ p.rootText)

/-- Whether the token of a call is set when the loop of a poller is refused to it. -/
def Token.isSetFor (p : Poller) : Token → Bool
  | .external isSet => isSet
  | .own => p.stopPending

namespace Session

open Log

variable {τ : Type} [Timeline τ]

/-! ## Running -/

theorem isRunning_make {s : Session τ} {m : Move τ} (fits : s.Fits m) {place : Nat}
    (notEntered : ∀ token?, m ≠ .enter place token?) (notLeft : m ≠ .leave place) :
    (s.make m).pollerIs place Poller.isRunning = s.pollerIs place Poller.isRunning := by
  cases hp : s.pollerAt? place with
  | some p =>
      have hkind := Poller.kind_after s.world p notEntered notLeft
      rw [pollerIs_of_some (pollerAt?_make fits hp), pollerIs_of_some hp, Bool.eq_iff_iff,
        Poller.isRunning_iff_kind, Poller.isRunning_iff_kind, hkind]
  | none =>
      have hbefore : s.pollerIs place Poller.isRunning = false := by simp [pollerIs, hp]
      rw [hbefore]
      -- Only an action puts a poller where none was, and a new poller is in no loop.
      by_cases hact : ∃ a, m = .act a
      · obtain ⟨a, rfl⟩ := hact
        have hlen : s.pollers.length ≤ place := List.getElem?_eq_none_iff.mp hp
        have hmade : (s.make (.act a)).pollerAt? place =
            ((s.firstLook? a).map Look.poller).toList[place - s.pollers.length]? := by
          rw [make, Session.pollerAt?, pollers_act fits, List.getElem?_append_right hlen]
        rw [pollerIs, hmade, Bool.eq_false_iff]
        intro hrunning
        obtain ⟨q, hq, hrunning⟩ := Option.any_eq_true _ _ |>.mp hrunning
        obtain ⟨l, -, rfl⟩ :=
          Option.map_eq_some_iff.mp (Option.mem_toList.mp (List.mem_of_getElem? hq))
        rw [Look.poller, Poller.outcome_ofSpec] at hrunning
        simp [Poller.isRunning] at hrunning
      · have hnone := pollerAt?_make_of_none (fun a ha => hact ⟨a, ha⟩) hp
        rw [pollerIs, hnone, Option.any_none]

/-- The pollers that are running are those at some places, of which none stands twice. -/
structure RunsAt (s : Session τ) (places : List Nat) : Prop where
  nodup : places.Nodup
  running : ∀ place, s.pollerIs place Poller.isRunning = true ↔ place ∈ places

theorem RunsAt.make {s : Session τ} {places : List Nat} (h : s.RunsAt places) {m : Move τ}
    (fits : s.Fits m) : (s.make m).RunsAt (m.progress places) := by
  by_cases hother : (∀ place token?, m ≠ .enter place token?) ∧ ∀ place, m ≠ .leave place
  · have hsame : m.progress places = places := by
      cases m with
      | enter place token? => exact absurd rfl (hother.1 place token?)
      | leave place => exact absurd rfl (hother.2 place)
      | _ => rfl
    rw [hsame]
    refine ⟨h.nodup, fun place => ?_⟩
    rw [isRunning_make fits (hother.1 place) (hother.2 place)]
    exact h.running place
  · cases m with
    | enter i token? =>
        obtain ⟨p, hp, hidle⟩ := id fits
        have hnew : i ∉ places := by
          rw [← h.running, pollerIs_of_some hp, hidle]
          exact Bool.false_ne_true
        refine ⟨List.nodup_cons.mpr ⟨hnew, h.nodup⟩, fun place => ?_⟩
        rw [Move.progress, List.mem_cons, ← h.running]
        by_cases hi : place = i
        · subst hi
          have hrunning : (p.after place s.world (.enter place token? : Move τ)).isRunning = true :=
            Poller.isRunning_iff_kind.mpr (Poller.kind_after_enter τ s.world p place token?)
          rw [pollerIs_of_some (pollerAt?_make fits hp), hrunning]
          simp
        · rw [isRunning_make fits (fun _ heq => hi (Move.enter.inj heq).1.symm) (by simp)]
          simp [hi]
    | leave i =>
        obtain ⟨p, hp, hrunning⟩ := id fits
        refine ⟨h.nodup.erase i, fun place => ?_⟩
        rw [Move.progress, h.nodup.mem_erase_iff, ← h.running]
        by_cases hi : place = i
        · subst hi
          have hidle : (p.after place s.world (.leave place : Move τ)).isRunning = false := by
            simp [Poller.after, Poller.leave, Poller.isRunning]
          rw [pollerIs_of_some (pollerAt?_make fits hp), hidle]
          simp
        · rw [isRunning_make fits (by simp) (fun heq => hi (Move.leave.inj heq).symm)]
          simp [hi]
    | _ => simp at hother

theorem RunsAt.makeAll {s : Session τ} {places : List Nat} (h : s.RunsAt places)
    {ms : List (Move τ)} (fits : s.FitsAll ms) :
    (s.makeAll ms).RunsAt (ms.foldl Move.progress places) := by
  induction ms generalizing s places with
  | nil => exact h
  | cons m ms ih => exact ih (h.make fits.1) fits.2

/-! ## Calls that are refused -/

/-- What becomes of a call that is made while a loop of the poller is active: it returns at once,
having polled nothing and said one thing, and no poller knows of it. -/
structure Refused (s : Session τ) (id : String) (place : Nat) (p : Poller) : Prop where
  run : ∀ token receiver ticks,
    moves (.run id token receiver ticks) s = [.reject place] ∧
      perform (.run id token receiver ticks) s =
        (.ok (.loop [] [] [] true (some (token.isSetFor p)) p.stopPending), s.emit [p.refusal])
  runCoroutine : ∀ cancelAtEnd receiver ticks task,
    moves (.runCoroutine id cancelAtEnd receiver ticks task) s = [.reject place] ∧
      perform (.runCoroutine id cancelAtEnd receiver ticks task) s =
        (.ok (.loop [] [] [] true none p.stopPending), s.emit [p.refusal])
  /-- The warning is all that is new. -/
  aside : Aside s (s.emit [p.refusal])
  said : (s.emit [p.refusal]).recordsFrom s.recordCount = s.journal.kept [p.refusal]

theorem refused_of_running {s : Session τ} {id : String} {place : Nat} {p : Poller}
    (named : s.named? id = some (place, p)) (running : p.isRunning = true) :
    Refused s id place p := by
  have hp := pollerAt?_of_named? named
  have hrejected : (s.changePoller place fun p => do
      p.reject
      pure p) = s.emit [p.refusal] := changePoller_eq_emit hp rfl
  have hreply : ∀ token?, ({} : Trace τ).reply token? (s.emit [p.refusal]) place =
      .loop [] [] [] true token? p.stopPending := by
    intro token?
    have hp' : (s.emit [p.refusal]).pollerAt? place = some p := hp
    rw [Trace.reply, pollerIs_of_some hp', pollerIs_of_some hp', running]
  refine ⟨?_, ?_, ⟨rfl, rfl, rfl, rfl, rfl, rfl⟩, recordsFrom_emit s _⟩
  · intro token receiver ticks
    refine ⟨by simp [moves, named, running], ?_⟩
    have htoken : untouched token (s.emit [p.refusal]) place = token.isSetFor p := by
      cases token with
      | own => exact pollerIs_of_some (s := s.emit [p.refusal]) hp _
      | external isSet => rfl
    rw [perform, forPoller_of_some named, if_pos running]
    dsimp only
    rw [hrejected, htoken, hreply]
  · intro cancelAtEnd receiver ticks task
    refine ⟨by simp [moves, named, running], ?_⟩
    rw [perform, forPoller_of_some named, if_pos running]
    dsimp only
    rw [hrejected, hreply]

end Session

end TreeWatch
