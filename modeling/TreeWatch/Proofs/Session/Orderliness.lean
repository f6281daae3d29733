import TreeWatch.Proofs.Log.Muting
import TreeWatch.Proofs.Log.Setup
import TreeWatch.Proofs.Session.Unison
import TreeWatch.Proofs.Tree.Orderly
import TreeWatch.Proofs.Watch.Order

/-!
# Sessions in orderly worlds

Where all paths that are given have proper parts, the world stays orderly whatever is done in a
session, its own log files included. So at every moment every poller has a snapshot in order.
-/

namespace TreeWatch

/-- An action that gives no path with an improper part. -/
def Action.IsProper : Action → Prop
  | .edit change => change.IsProper
  | .changeDirectory path => ∀ part ∈ path, IsPart part
  | _ => True

instance (a : Action) : Decidable a.IsProper := by
  cases a <;> unfold Action.IsProper <;> infer_instance

mutual

/-- The actions of a step; those of a loop are what is done in its ticks. -/
def Step.actions : Step → List Action
  | .act action => [action]
  | .run _ _ _ ticks | .runCoroutine _ _ _ ticks _ => ticksActions ticks
termination_by structural step => step

def Step.allActions : List Step → List Action
  | [] => []
  | step :: rest => step.actions ++ allActions rest
termination_by structural steps => steps

def Step.ticksActions : List Tick → List Action
  | [] => []
  | .mk steps _ _ _ :: rest => allActions steps ++ ticksActions rest
termination_by structural ticks => ticks

end

/-! ## Logs in orderly worlds -/

namespace World

theorem Orderly.of_blank_eq {e : Erasure} {serials : List Nat} {w v : World} (h : w.Orderly)
    (same : v.blank e serials = w.blank e serials) : v.Orderly := by
  have hroot : v.root.blank e serials = w.root.blank e serials := congrArg (·.root) same
  have hdirectory : v.directory = w.directory := congrArg (·.directory) same
  refine ⟨?_, hdirectory ▸ h.directory⟩
  rw [← Node.entrywise_blank.orderly_iff v.root, hroot, Node.entrywise_blank.orderly_iff]
  exact h.root

end World

namespace Log.Journal

theorem isProper_filePath {w : World} (h : w.Orderly) (file : String) :
    (filePath w file).IsProper := by
  have habsolute : (Path.absolute w.directory).IsProper := h.directory
  exact (habsolute.join (Path.isProper_ofText _)).normal

theorem orderly_emitAll {w : World} (h : w.Orderly) (j : Journal) (rs : List Record) :
    (j.emitAll w rs).1.Orderly :=
  h.of_blank_eq (emitAll_spec w j rs fun _ hmem => hmem).1

theorem orderly_setup {w : World} (h : w.Orderly) (j : Journal)
    (settings : Option LoggingSettings) : (j.setup w settings).2.1.Orderly := by
  refine setup_cases w j settings (fun _ => h) (fun _ _ _ _ => h) ?_
  intro level v k _ _ opened
  cases opened with
  | nothing | terminal => exact h
  | file opened => exact h.openAppend (isProper_filePath h _) opened

end Log.Journal

namespace Session

open Log

variable {τ : Type}

inductive InOrder : World × Journal → World × Journal → Prop
  | same (x : World × Journal) (orderly : x.1.Orderly) : InOrder x x

/-- Proper actions keep a world orderly. -/
theorem unison_inOrder : Unison Action.IsProper InOrder where
  emitAll | .same _ h, rs => .same _ (Journal.orderly_emitAll h _ rs)
  setup | _, .same _ h, settings => .same _ (Journal.orderly_setup h _ settings)
  reset | _, .same _ h => .same _ h
  edit | proper, .same _ h => .same _ (h.edit proper)
  changeDirectory | proper, .same _ h => .same _ ⟨h.root, proper⟩
  setVariable | .same _ h, _, _ => .same _ ⟨h.root, h.directory⟩
  findings | .same _ _, _, _ => rfl
  validate | .same _ _, _ => rfl
  allFiles | .same _ _, _, _ => rfl
  environment | .same _ _ => rfl
  host | .same _ _ => rfl
  entriesOfFile | .same _ _, _ => rfl

theorem InOrder.orderly {x y : World × Journal} : InOrder x y → x.1.Orderly
  | .same _ h => h

theorem linked_of_orderly {s : Session τ} (h : s.world.Orderly) : Linked InOrder s s :=
  ⟨.same _ h, rfl, rfl, rfl, rfl, rfl, rfl, rfl, rfl⟩

variable [Timeline τ]

theorem orderly_make {s : Session τ} (h : s.world.Orderly) {m : Move τ}
    (proper : ∀ a, m = .act a → a.IsProper) : (s.make m).world.Orderly :=
  ((linked_of_orderly h).make unison_inOrder proper).log.orderly

/-! ## Actions as moves -/

omit [Timeline τ] in
theorem act_mem_actMoves {s : Session τ} {a b : Action} (h : .act a ∈ s.actMoves b) : a = b := by
  cases b
  case poll | stop =>
    obtain ⟨named, _, heq⟩ := Option.map_eq_some_iff.mp (Option.mem_toList.mp h)
    simp at heq
  all_goals simpa [actMoves] using h

theorem act_not_mem_pollMoves (s : Session τ) (place : Nat) (receiver : Receiver) (a : Action) :
    .act a ∉ s.pollMoves place receiver := by
  intro h
  obtain heq | ⟨e, heq⟩ | heq | ⟨e, text, heq⟩ := mem_pollMoves h <;> simp at heq

mutual

theorem act_mem_moves {a : Action} : ∀ (step : Step) (s : Session τ),
    .act a ∈ moves step s → a ∈ step.actions
  | .act action, s, h => by
    rw [moves] at h
    rw [Step.actions, act_mem_actMoves h]
    exact List.mem_singleton_self action
  | .run id token receiver ticks, s, h => by
    rw [moves] at h
    cases hnamed : s.named? id with
    | none => simp [hnamed] at h
    | some named =>
        simp only [hnamed] at h
        split at h
        · simp at h
        · simp only [List.mem_cons, List.mem_append, reduceCtorEq, List.not_mem_nil, false_or,
            or_false] at h
          split at h
          · simp at h
          · exact act_mem_loopMoves ticks _ receiver _ _ h
  | .runCoroutine id cancelAtEnd receiver ticks task, s, h => by
    rw [moves] at h
    cases hnamed : s.named? id with
    | none => simp [hnamed] at h
    | some named =>
        simp only [hnamed] at h
        split at h
        · simp at h
        · split at h
          · simp [inheritMoves] at h
          · simp only [List.mem_cons, List.mem_append, reduceCtorEq, false_or] at h
            rcases h with h | h
            · exact act_mem_coroutineMoves ticks _ cancelAtEnd receiver _ _ h
            · exact absurd (mem_oweMoves h) (by simp)
termination_by structural step => step

theorem act_mem_allMoves {a : Action} : ∀ (steps : List Step) (s : Session τ),
    .act a ∈ allMoves steps s → a ∈ Step.allActions steps
  | [], s, h => by simp [allMoves] at h
  | step :: rest, s, h => by
    rw [allMoves, List.mem_append] at h
    rw [Step.allActions, List.mem_append]
    exact h.imp (act_mem_moves step s) (act_mem_allMoves rest _)
termination_by structural steps => steps

theorem act_mem_loopMoves {a : Action} : ∀ (ticks : List Tick) (place : Nat)
    (receiver : Receiver) (next : τ) (s : Session τ),
    .act a ∈ loopMoves place receiver ticks next s → a ∈ Step.ticksActions ticks
  | [], place, receiver, next, s, h => by
    rw [loopMoves] at h
    split at h <;> simp at h
  | .mk steps seconds _ _ :: rest, place, receiver, next, s, h => by
    rw [loopMoves] at h
    rw [Step.ticksActions, List.mem_append]
    split at h
    · simp at h
    · simp only [List.mem_cons, List.mem_append, reduceCtorEq, false_or] at h
      rcases h with h | h
      · exact .inl (act_mem_allMoves steps _ h)
      · split at h
        · simp at h
        · rcases List.mem_append.mp h with h | h
          · exact absurd h (act_not_mem_pollMoves _ _ _ _)
          · exact .inr (act_mem_loopMoves rest place receiver _ _ h)
termination_by structural ticks => ticks

theorem act_mem_coroutineMoves {a : Action} : ∀ (ticks : List Tick) (place : Nat)
    (cancelAtEnd : Bool) (receiver : Receiver) (next : τ) (s : Session τ),
    .act a ∈ coroutineMoves place cancelAtEnd receiver ticks next s →
      a ∈ Step.ticksActions ticks
  | [], place, cancelAtEnd, receiver, next, s, h => by
    rw [coroutineMoves] at h
    split at h
    · simp at h
    · cases cancelAtEnd <;> simp at h
  | .mk steps seconds cancel late :: rest, place, cancelAtEnd, receiver, next, s, h => by
    rw [coroutineMoves] at h
    rw [Step.ticksActions, List.mem_append]
    split at h
    · simp at h
    · simp only [List.mem_cons, List.mem_append, reduceCtorEq, false_or] at h
      rcases h with h | h | h
      · exact .inl (act_mem_allMoves steps _ h)
      · cases cancel <;> simp at h
      · generalize performAll steps ((s.pass (s.spanUntil next)).addDelay seconds) = ticked at h
        generalize (if cancel = true then ticked.2.make (.cancel place) else ticked.2) = waited at h
        split at h
        · simp at h
        · split at h
          · simp at h
          · rcases List.mem_append.mp h with h | h
            · exact absurd h (act_not_mem_pollMoves _ _ _ _)
            · exact .inr (act_mem_coroutineMoves rest place cancelAtEnd receiver _ _ h)
termination_by structural ticks => ticks

end

/-! ## Snapshots -/

theorem orderly_firstLook {s : Session τ} (h : s.world.Orderly) {a : Action} {l : Look τ}
    (look : s.firstLook? a = some l) : l.session.world.Orderly := by
  obtain ⟨t, request, spec, hasks, -, rfl⟩ := firstLook?_eq_some look
  have ht : t.world.Orderly := by
    cases hasks with
    | given => exact h
    | @fromSettings given settings _ _ _ hfound =>
        have hsettings : LinkedEnds InOrder (s.pollerSettings given) (s.pollerSettings given) :=
          (linked_of_orderly h).pollerSettings unison_inOrder.toBond fun _ _ _ => rfl
        obtain ⟨outcome, u, u', hu, -, hlinked⟩ := hsettings
        obtain rfl : u = t := congrArg Prod.snd (hu.symm.trans hfound)
        exact hlinked.log.orderly
  exact ht

theorem canonical_make {s : Session τ} {m : Move τ} (fits : s.Fits m) (orderly : s.world.Orderly)
    (h : ∀ p ∈ s.pollers, p.snapshot.Canonical) :
    ∀ p ∈ (s.make m).pollers, p.snapshot.Canonical := by
  refine forall_pollers_make fits ?_ ?_ h
  · intro a l _ look
    rw [Look.poller, Poller.outcome_ofSpec]
    exact Snapshot.canonical_look (orderly_firstLook orderly look) l.spec
  · intro place p hp
    rw [Poller.snapshot_after]
    split
    · split
      · exact Snapshot.canonical_look orderly p.spec
      · exact hp
    · exact hp

/-- Worlds stay orderly and snapshots in order along a line of proper moves. -/
theorem canonical_makeAll {s : Session τ} {ms : List (Move τ)} (fits : s.FitsAll ms)
    (proper : ∀ a, .act a ∈ ms → a.IsProper) (orderly : s.world.Orderly)
    (h : ∀ p ∈ s.pollers, p.snapshot.Canonical) :
    (s.makeAll ms).world.Orderly ∧ ∀ p ∈ (s.makeAll ms).pollers, p.snapshot.Canonical := by
  induction ms generalizing s with
  | nil => exact ⟨orderly, h⟩
  | cons m ms ih =>
      have hfirst : ∀ a, m = .act a → a.IsProper := fun a ha => proper a (ha ▸ List.mem_cons_self)
      exact ih fits.2 (fun a ha => proper a (List.mem_cons_of_mem m ha))
        (orderly_make orderly hfirst) (canonical_make fits.1 orderly h)

theorem inBlocks_pollAt {s : Session τ} (orderly : s.world.Orderly)
    (h : ∀ p ∈ s.pollers, p.snapshot.Canonical) (place : Nat) :
    ∃ arrivals departures, InBlocks (s.pollAt place).1 arrivals departures := by
  cases hp : s.pollerAt? place with
  | none =>
      rw [pollAt_of_none hp]
      exact ⟨[], [], rfl, by simp, by simp, .nil, .nil, by simp⟩
  | some p =>
      rw [pollAt_of_some hp]
      dsimp only
      rw [Poller.outcome_poll_fst]
      exact ⟨_, _, Snapshot.inBlocks_diff (h p (List.mem_of_getElem? hp))
        (Snapshot.canonical_look orderly p.spec)⟩

end Session

end TreeWatch
