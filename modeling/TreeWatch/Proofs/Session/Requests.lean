import Mathlib
import TreeWatch.Proofs.Session.Fitting

/-!
# What is asked of loops

A loop is asked to end by a request to stop, by its token or by a cancellation. Nothing else changes
what it has been asked, and what it has been asked it stays asked until it is left. A request to
stop that finds no loop waits for the next one.
-/

namespace TreeWatch

def Move.asksEnd {τ : Type} (place : Nat) : Move τ → Bool
  | .stop i | .setToken i | .cancel i => i = place
  | _ => false

namespace Poller

/-! ## What has been asked of a poller -/

/-- Unless a move enters or leaves its loop or asks it to end, nothing more is asked of a poller. -/
theorem asked_after {τ : Type} {place : Nat} {m : Move τ} (w : World) (p : Poller)
    (notEntered : ∀ token?, m ≠ .enter place token?) (notLeft : m ≠ .leave place)
    (notAsked : m.asksEnd place = false) :
    (p.after place w m).loop = p.loop ∧ (p.after place w m).stopPending = p.stopPending := by
  cases m with
  | poll i receiver? =>
      simp only [after]
      split
      · rw [outcome_poll_snd]
        exact ⟨rfl, rfl⟩
      · exact ⟨rfl, rfl⟩
  | enter i token? =>
      have hi : i ≠ place := fun h => notEntered token? (by rw [h])
      cases token? <;> simp [after, hi]
  | stop i | setToken i | cancel i =>
      have hi : i ≠ place := by simpa [Move.asksEnd] using notAsked
      simp [after, hi]
  | leave i =>
      have hi : i ≠ place := fun h => notLeft (by rw [h])
      simp [after, hi]
  | act | hand | fail | reject | ask | pass | slow | sayCancelled | owe | sayStopped =>
      exact ⟨rfl, rfl⟩

/-- What a loop has been asked it stays asked until it is left. -/
theorem mustEnd_after {τ : Type} {place : Nat} {m : Move τ} (w : World) {p : Poller}
    (asked : p.mustEnd = true) (notEntered : ∀ token?, m ≠ .enter place token?)
    (notLeft : m ≠ .leave place) : (p.after place w m).mustEnd = true := by
  by_cases hask : m.asksEnd place = true
  · cases m with
    | stop i =>
        obtain rfl : i = place := by simpa [Move.asksEnd] using hask
        simp only [after, if_pos, outcome_stop]
        cases hloop : p.loop with
        | idle | coroutine => simp [mustEnd, tokenIsSet, stoppedLoop]
        | blocking token => cases token <;> simp [mustEnd, tokenIsSet, stoppedLoop]
    | setToken i =>
        obtain rfl : i = place := by simpa [Move.asksEnd] using hask
        simp only [after, if_pos, setToken]
        cases hloop : p.loop with
        | idle | coroutine => simp [mustEnd, tokenIsSet]
        | blocking token => cases token <;> simp [mustEnd, tokenIsSet]
    | cancel i =>
        obtain rfl : i = place := by simpa [Move.asksEnd] using hask
        simp only [after, if_pos, requestCancel]
        cases hloop : p.loop with
        | idle => simpa using asked
        | coroutine => simpa [mustEnd, hloop] using asked
        | blocking token => simpa using asked
    | _ => simp [Move.asksEnd] at hask
  · obtain ⟨hloop, hpending⟩ := asked_after w p notEntered notLeft (by simpa using hask)
    rw [mustEnd, tokenIsSet, hloop, hpending]
    exact asked

/-- A pending stop stays pending until a loop is left. -/
theorem stopPending_after {τ : Type} {place : Nat} {m : Move τ} (w : World) {p : Poller}
    (pending : p.stopPending = true) (notLeft : m ≠ .leave place) :
    (p.after place w m).stopPending = true := by
  cases m with
  | poll i receiver? =>
      simp only [after]
      split
      · rw [outcome_poll_snd]
        exact pending
      · exact pending
  | stop i =>
      simp only [after, outcome_stop]
      split
      · rfl
      · exact pending
  | enter i token? => cases token? <;> simp only [after] <;> split <;> exact pending
  | setToken i =>
      simp only [after, setToken]
      split
      · split
        · exact pending
        · rfl
      · exact pending
  | cancel i =>
      simp only [after, requestCancel]
      split
      · split <;> exact pending
      · exact pending
  | leave i =>
      have hi : i ≠ place := fun h => notLeft (by rw [h])
      simpa [after, hi] using pending
  | act | hand | fail | reject | ask | pass | slow | sayCancelled | owe | sayStopped =>
      exact pending

/-- Unless somebody else cancels it, a coroutine is cancelled by a request to stop alone. -/
theorem cancelRequested_after {τ : Type} {place : Nat} {m : Move τ} (w : World) {p : Poller}
    (owed : p.cancelRequested = true → p.stopPending = true) (notCancelled : m ≠ .cancel place) :
    (p.after place w m).cancelRequested = true → (p.after place w m).stopPending = true := by
  cases m with
  | poll i receiver? =>
      simp only [after]
      split
      · rw [outcome_poll_snd]
        exact owed
      · exact owed
  | stop i =>
      simp only [after, outcome_stop]
      split
      · exact fun _ => rfl
      · exact owed
  | enter i token? =>
      cases token? with
      | none =>
          simp only [after]
          split
          · simp [enterCoroutine, cancelRequested]
          · exact owed
      | some token =>
          simp only [after]
          split
          · cases token <;> simp [enterBlocking, cancelRequested]
          · exact owed
  | setToken i =>
      simp only [after, setToken]
      split
      · split
        · simp [cancelRequested]
        · exact fun _ => rfl
      · exact owed
  | cancel i =>
      have hi : i ≠ place := fun h => notCancelled (by rw [h])
      simpa [after, hi] using owed
  | leave i =>
      simp only [after]
      split
      · simp [leave, cancelRequested]
      · exact owed
  | act | hand | fail | reject | ask | pass | slow | sayCancelled | owe | sayStopped => exact owed

theorem mustEnd_after_enter (τ : Type) (w : World) (p : Poller) (place : Nat)
    (token? : Option Token) :
    (p.after place w (.enter place token? : Move τ)).mustEnd =
      (p.stopPending || decide (token? = some (.external true))) := by
  cases token? with
  | none => simp [after, enterCoroutine, mustEnd]
  | some token =>
      cases token with
      | own => simp [after, enterBlocking, mustEnd, tokenIsSet]
      | external isSet => cases isSet <;> simp [after, enterBlocking, mustEnd, tokenIsSet]

end Poller

namespace Session

variable {τ : Type} [Timeline τ]

/-! ## Requests along a line of moves -/

theorem idle_makeAll {s : Session τ} {ms : List (Move τ)} (fits : s.FitsAll ms) {place : Nat}
    (idle : s.kindAt? place = some .idle) (notEntered : ∀ token?, .enter place token? ∉ ms) :
    (s.makeAll ms).kindAt? place = some .idle ∧ ∀ m ∈ ms, m ≠ .leave place := by
  induction ms generalizing s with
  | nil => exact ⟨idle, by simp⟩
  | cons m ms ih =>
      have hnotLeft : m ≠ .leave place := by
        rintro rfl
        obtain ⟨p, hp, hrunning⟩ := fits.1
        obtain ⟨q, hq, hk⟩ := kindAt?_eq_some_iff.mp idle
        obtain rfl : q = p := Option.some.inj (hq.symm.trans hp)
        exact Poller.isRunning_iff_kind.mp hrunning hk
      have hnext := kindAt?_make fits.1 idle
        (fun token? heq => notEntered token? (heq ▸ List.mem_cons_self)) hnotLeft
      obtain ⟨hidle, hrest⟩ := ih fits.2 hnext
        fun token? hmem => notEntered token? (List.mem_cons_of_mem m hmem)
      exact ⟨hidle, List.forall_mem_cons.mpr ⟨hnotLeft, hrest⟩⟩

/-- A poller in no loop and without a pending stop stays so while nobody enters a loop or asks for a
stop. -/
theorem calm_makeAll {s : Session τ} {ms : List (Move τ)} (fits : s.FitsAll ms) {place : Nat}
    {p : Poller} (h : s.pollerAt? place = some p) (idle : p.isRunning = false)
    (calm : p.stopPending = false) (notEntered : ∀ token?, .enter place token? ∉ ms)
    (notStopped : .stop place ∉ ms) :
    ∃ q, (s.makeAll ms).pollerAt? place = some q ∧ q.isRunning = false ∧
      q.stopPending = false := by
  induction ms generalizing s p with
  | nil => exact ⟨p, h, idle, calm⟩
  | cons m ms ih =>
      have hunfit : ¬∃ q, s.pollerAt? place = some q ∧ q.isRunning = true := by
        rintro ⟨q, hq, hrunning⟩
        obtain rfl : q = p := Option.some.inj (hq.symm.trans h)
        rw [idle] at hrunning
        exact Bool.noConfusion hrunning
      have hnotLeft : m ≠ .leave place := by
        rintro rfl
        exact hunfit fits.1
      have hnotAsked : m.asksEnd place = false := by
        by_contra hask
        cases m with
        | stop i =>
            obtain rfl : i = place := by simpa [Move.asksEnd] using hask
            exact notStopped List.mem_cons_self
        | setToken i | cancel i =>
            obtain rfl : i = place := by simpa [Move.asksEnd] using hask
            exact hunfit fits.1
        | _ => simp [Move.asksEnd] at hask
      obtain ⟨hloop, hpending⟩ := Poller.asked_after s.world p
        (fun token? heq => notEntered token? (heq ▸ List.mem_cons_self)) hnotLeft hnotAsked
      refine ih fits.2 (pollerAt?_make fits.1 h) ?_ (hpending.trans calm)
        (fun token? hmem => notEntered token? (List.mem_cons_of_mem m hmem))
        fun hmem => notStopped (List.mem_cons_of_mem m hmem)
      rw [Poller.isRunning, hloop]
      exact idle

theorem stopPending_makeAll {s : Session τ} {ms : List (Move τ)} (fits : s.FitsAll ms)
    {place : Nat} {p : Poller} (h : s.pollerAt? place = some p) (pending : p.stopPending = true)
    (notLeft : ∀ m ∈ ms, m ≠ .leave place) :
    ∃ q, (s.makeAll ms).pollerAt? place = some q ∧ q.stopPending = true := by
  induction ms generalizing s p with
  | nil => exact ⟨p, h, pending⟩
  | cons m ms ih =>
      have hnext := pollerAt?_make fits.1 h
      have hpending := Poller.stopPending_after s.world pending (notLeft m List.mem_cons_self)
      exact ih fits.2 hnext hpending fun n hn => notLeft n (List.mem_cons_of_mem m hn)

theorem cancelRequested_makeAll {s : Session τ} {ms : List (Move τ)} (fits : s.FitsAll ms)
    {place : Nat} {p : Poller} (h : s.pollerAt? place = some p)
    (owed : p.cancelRequested = true → p.stopPending = true)
    (notCancelled : ∀ m ∈ ms, m ≠ .cancel place) :
    ∃ q, (s.makeAll ms).pollerAt? place = some q ∧
      (q.cancelRequested = true → q.stopPending = true) := by
  induction ms generalizing s p with
  | nil => exact ⟨p, h, owed⟩
  | cons m ms ih =>
      have hnext := Poller.cancelRequested_after s.world owed (notCancelled m List.mem_cons_self)
      exact ih fits.2 (pollerAt?_make fits.1 h) hnext
        fun n hn => notCancelled n (List.mem_cons_of_mem m hn)

theorem asked_makeAll {s : Session τ} {ms : List (Move τ)} (fits : s.FitsAll ms) {place : Nat}
    {p : Poller} (h : s.pollerAt? place = some p) (running : p.isRunning = true)
    (notLeft : ∀ m ∈ ms, m ≠ .leave place) (notAsked : ∀ m ∈ ms, m.asksEnd place = false) :
    ∃ q, (s.makeAll ms).pollerAt? place = some q ∧ q.loop = p.loop ∧
      q.stopPending = p.stopPending := by
  induction ms generalizing s p with
  | nil => exact ⟨p, h, rfl, rfl⟩
  | cons m ms ih =>
      have hkind : s.kindAt? place = some p.loop.kind := kindAt?_eq_some_iff.mpr ⟨p, h, rfl⟩
      have hnext := pollerAt?_make fits.1 h
      obtain ⟨hloop, hpending⟩ := Poller.asked_after s.world p
        (ne_enter_of_fits fits.1 hkind (Poller.isRunning_iff_kind.mp running))
        (notLeft m List.mem_cons_self) (notAsked m List.mem_cons_self)
      have hrunning : (p.after place s.world m).isRunning = true := by
        rw [Poller.isRunning, hloop]
        exact running
      obtain ⟨q, hq, hqloop, hqpending⟩ := ih fits.2 hnext hrunning
        (fun n hn => notLeft n (List.mem_cons_of_mem m hn))
        (fun n hn => notAsked n (List.mem_cons_of_mem m hn))
      exact ⟨q, hq, hqloop.trans hloop, hqpending.trans hpending⟩

/-- A loop that has been asked to end makes no poll before it is left. -/
theorem not_mem_poll_of_mustEnd {s : Session τ} {ms : List (Move τ)} (fits : s.FitsAll ms)
    {place : Nat} {p : Poller} (h : s.pollerAt? place = some p) (running : p.isRunning = true)
    (asked : p.mustEnd = true) (notLeft : .leave place ∉ ms) (receiver : Receiver) :
    .poll place (some receiver) ∉ ms := by
  induction ms generalizing s p with
  | nil => simp
  | cons m ms ih =>
      have hkind : s.kindAt? place = some p.loop.kind := kindAt?_eq_some_iff.mpr ⟨p, h, rfl⟩
      have hactive := Poller.isRunning_iff_kind.mp running
      have hnotEntered := ne_enter_of_fits fits.1 hkind hactive
      have hnotLeft : m ≠ .leave place := fun heq => notLeft (heq ▸ List.mem_cons_self)
      have hrunning : (p.after place s.world m).isRunning = true := by
        rw [Poller.isRunning_iff_kind, Poller.kind_after s.world p hnotEntered hnotLeft]
        exact hactive
      rw [List.mem_cons, not_or]
      refine ⟨?_, ih fits.2 (pollerAt?_make fits.1 h) hrunning
        (Poller.mustEnd_after s.world asked hnotEntered hnotLeft)
        fun hmem => notLeft (List.mem_cons_of_mem m hmem)⟩
      rintro rfl
      obtain ⟨q, hq, _, hgoes⟩ := fits.1
      obtain rfl : q = p := Option.some.inj (hq.symm.trans h)
      rw [asked] at hgoes
      exact Bool.noConfusion hgoes

end Session

end TreeWatch
