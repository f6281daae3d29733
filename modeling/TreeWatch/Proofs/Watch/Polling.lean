import TreeWatch.Watch.Poller

/-!
# What a poller does

Each operation of a poller by what it leaves: a look at the directory sets the snapshot and whether
the directory is missing, a poll reports the difference to it, and the rest concerns the loop that
the poller is in and the request to stop.
-/

namespace TreeWatch

/-- The snapshot of what is watched in a world, unless its directory cannot be listed. -/
def Spec.look? (w : World) (spec : Spec) : Option Snapshot :=
  match Walk.findings w spec.scope spec.root with
  | .error _ => none
  | .ok fs => some (Snapshot.ofFindings fs)

/-- The loop without what has been asked of it. -/
def Loop.kind : Loop → Loop
  | .idle => .idle
  | .blocking .own => .blocking .own
  | .blocking (.external _) => .blocking (.external false)
  | .coroutine _ => .coroutine false

theorem Snapshot.take_of_findings_eq {w w' : World} {scope : Scope} {root : Path}
    (h : Walk.findings w scope root = Walk.findings w' scope root) :
    take w scope root = take w' scope root := by
  unfold take
  rw [h]

namespace Poller

/-! ## Looking and polling -/

theorem outcome_refresh (w : World) (p : Poller) :
    (p.refresh w).outcome =
      { p with snapshot := (p.spec.look? w).getD [], rootMissing := (p.spec.look? w).isNone } := by
  unfold refresh Spec.look?
  cases Walk.findings w p.spec.scope p.spec.root with
  | error e =>
      dsimp only
      split <;> rfl
  | ok fs =>
      simp only [Log.Reported.outcome_bind]
      split <;> rfl

theorem outcome_ofSpec (w : World) (spec : Spec) :
    (Poller.ofSpec w spec).outcome =
      { spec, snapshot := (spec.look? w).getD [], rootMissing := (spec.look? w).isNone } := by
  unfold ofSpec
  simp only [Log.Reported.outcome_bind, Log.Reported.outcome_pure, outcome_refresh]

theorem outcome_poll (w : World) (p : Poller) :
    (p.poll w).outcome =
      (Snapshot.diff p.snapshot (p.refresh w).outcome.snapshot, (p.refresh w).outcome) := by
  unfold poll
  simp only [Log.Reported.outcome_bind]
  split <;> rfl

theorem outcome_poll_snd (w : World) (p : Poller) :
    (p.poll w).outcome.2 =
      { p with snapshot := (p.spec.look? w).getD [], rootMissing := (p.spec.look? w).isNone } := by
  rw [outcome_poll, outcome_refresh]

theorem outcome_poll_fst (w : World) (p : Poller) :
    (p.poll w).outcome.1 = Snapshot.diff p.snapshot ((p.spec.look? w).getD []) := by
  rw [outcome_poll, outcome_refresh]

/-! ## What it depends on -/

section Findings

variable {w w' : World} {p : Poller}

theorem refresh_of_findings_eq
    (h : Walk.findings w p.spec.scope p.spec.root = Walk.findings w' p.spec.scope p.spec.root) :
    p.refresh w = p.refresh w' := by
  unfold refresh
  rw [h]

theorem poll_of_findings_eq
    (h : Walk.findings w p.spec.scope p.spec.root = Walk.findings w' p.spec.scope p.spec.root) :
    p.poll w = p.poll w' := by
  rw [poll, poll, refresh_of_findings_eq h]

theorem ofSpec_of_findings_eq {spec : Spec}
    (h : Walk.findings w spec.scope spec.root = Walk.findings w' spec.scope spec.root) :
    ofSpec w spec = ofSpec w' spec := by
  rw [ofSpec, ofSpec, refresh_of_findings_eq (p := { spec }) h]

end Findings

/-! ## Loops -/

theorem isRunning_iff_kind {p : Poller} : p.isRunning = true ↔ p.loop.kind ≠ .idle := by
  unfold isRunning
  cases p.loop with
  | idle => simp [Loop.kind]
  | blocking token => cases token <;> simp [Loop.kind]
  | coroutine cancelRequested => simp [Loop.kind]

theorem loop_eq_own {p : Poller} (h : p.loop.kind = .blocking .own) : p.loop = .blocking .own := by
  cases hloop : p.loop with
  | blocking token => cases token <;> simp [hloop, Loop.kind] at h ⊢
  | idle | coroutine => simp [hloop, Loop.kind] at h

theorem exists_loop_eq_coroutine {p : Poller} (h : p.loop.kind = .coroutine false) :
    ∃ requested, p.loop = .coroutine requested := by
  cases hloop : p.loop with
  | coroutine requested => exact ⟨requested, rfl⟩
  | idle => simp [hloop, Loop.kind] at h
  | blocking token => cases token <;> simp [hloop, Loop.kind] at h

/-- Whether the loop that a poller is in makes no further poll. -/
def mustEnd (p : Poller) : Bool :=
  match p.loop with
  | .coroutine _ => p.stopPending
  | _ => p.tokenIsSet

/-- Whether a loop that begins on a token fails at its first wait: neither the token nor a pending
stop ends it at once, and a thread cannot wait for its interval. -/
def cannotBegin (w : World) (token : Token) (p : Poller) : Bool :=
  !(p.stopPending || decide (token = .external true)) && w.isTooLong p.spec.interval

def stoppedLoop : Loop → Loop
  | .blocking (.external _) => .blocking (.external true)
  | .coroutine _ => .coroutine true
  | loop => loop

theorem outcome_stop (p : Poller) :
    p.stop.outcome = { p with stopPending := true, loop := stoppedLoop p.loop } := by
  unfold stop stoppedLoop
  cases p.loop with
  | idle | coroutine => rfl
  | blocking token => cases token <;> rfl

@[simp] theorem stoppedLoop_stoppedLoop (loop : Loop) :
    stoppedLoop (stoppedLoop loop) = stoppedLoop loop := by
  cases loop with
  | idle | coroutine => rfl
  | blocking token => cases token <;> rfl

@[simp] theorem kind_stoppedLoop (loop : Loop) : (stoppedLoop loop).kind = loop.kind := by
  cases loop with
  | idle | coroutine => rfl
  | blocking token => cases token <;> rfl

@[simp] theorem kind_setToken (p : Poller) : p.setToken.loop.kind = p.loop.kind := by
  unfold setToken
  split
  · next h => rw [h]; rfl
  · rfl

@[simp] theorem kind_requestCancel (p : Poller) : p.requestCancel.loop.kind = p.loop.kind := by
  unfold requestCancel
  split
  · next h => rw [h]; rfl
  · rfl

theorem mustEnd_stop (p : Poller) (running : p.isRunning = true) :
    p.stop.outcome.mustEnd = true := by
  rw [outcome_stop]
  cases hloop : p.loop with
  | idle => simp [isRunning, hloop] at running
  | blocking token => cases token <;> simp [mustEnd, tokenIsSet, stoppedLoop]
  | coroutine cancelRequested => simp [mustEnd, stoppedLoop]

end Poller

end TreeWatch
