import Mathlib
import TreeWatch.Decimal.Binary
import TreeWatch.Proofs.Session.Moves

/-!
# Exact time

Readings of a clock as exact numbers, which are added and compared without rounding. The clock of a
session runs for the spans that loops wait and for what listings take. If no listing takes negative
time, it never runs backwards.
-/

namespace TreeWatch

/-- The exact value of a double that has one; others count as zero. -/
def Decimal.Binary.value : Binary → ℚ
  | .finite negative m q => (if negative then -1 else 1) * m * 2 ^ q
  | _ => 0

instance : Timeline ℚ where
  zero := 0
  after := (· + ·)
  since := (· - ·)
  before a b := decide (a < b)
  ofSeconds x := (Decimal.Binary.ofFloat x).value

namespace Timeline

theorem remaining_eq (next now : ℚ) : remaining next now = max 0 (next - now) := by
  change (if decide (0 < next - now) = true then next - now else 0) = _
  by_cases h : 0 < next - now
  · rw [if_pos (decide_eq_true h), max_eq_right h.le]
  · rw [if_neg (by simpa using h), max_eq_left (not_lt.mp h)]

end Timeline

def Move.IsForward : Move ℚ → Prop
  | .pass span => 0 ≤ span
  | .slow seconds => 0 ≤ (Timeline.ofSeconds seconds : ℚ)
  | _ => True

namespace Session

/-! ## What moves the clock -/

section Clock

variable {τ : Type} [Timeline τ]

/-- From the first session to the second nothing takes time but at most one listing, which takes
what the next listing was to take. -/
def AtMostListing (s t : Session τ) : Prop :=
  (t.clock = s.clock ∧ t.delay = s.delay) ∨
    (t.clock = Timeline.after s.clock s.delay ∧ t.delay = Timeline.zero)

theorem atMostListing_of_aside {s t : Session τ} (h : Aside s t) : AtMostListing s t :=
  .inl ⟨h.clock, h.delay⟩

theorem AtMostListing.of_aside {s t u : Session τ} (aside : Aside s t) (h : AtMostListing t u) :
    AtMostListing s u := by
  unfold AtMostListing at h ⊢
  rw [← aside.clock, ← aside.delay]
  exact h

theorem atMostListing_changePoller (s : Session τ) (place : Nat)
    (change : Poller → Log.Reported Poller) : AtMostListing s (s.changePoller place change) := by
  cases hp : s.pollerAt? place with
  | none =>
      rw [changePoller_of_none hp]
      exact .inl ⟨rfl, rfl⟩
  | some p =>
      rw [changePoller_of_some hp]
      exact .inl ⟨rfl, rfl⟩

theorem atMostListing_pollAt (s : Session τ) (place : Nat) :
    AtMostListing s (s.pollAt place).2 := by
  cases hp : s.pollerAt? place with
  | none =>
      rw [pollAt_of_none hp]
      exact .inr ⟨rfl, rfl⟩
  | some p =>
      rw [pollAt_of_some hp]
      exact .inr ⟨rfl, rfl⟩

theorem atMostListing_forPoller {s : Session τ} {id : String}
    {work : Nat → Poller → Outcome τ × Session τ}
    (h : ∀ place p, AtMostListing s (work place p).2) :
    AtMostListing s (s.forPoller id work).2 := by
  unfold forPoller
  split
  · exact .inl ⟨rfl, rfl⟩
  · split
    · exact .inl ⟨rfl, rfl⟩
    · exact h _ _

theorem atMostListing_create (s : Session τ) (id : String) (request : Request) :
    AtMostListing s (s.create id request).2 := by
  unfold create createPoller
  cases request.validate s.world with
  | error e => exact .inl ⟨rfl, rfl⟩
  | ok spec => exact .inr ⟨rfl, rfl⟩

/-- An action takes no time but that of the listing that it may make. -/
theorem atMostListing_act (s : Session τ) (a : Action) : AtMostListing s (s.act a).2 := by
  cases a
  case create id request => exact atMostListing_create s id request
  case createFromSettings id root given =>
    have haside := aside_pollerSettings s given
    simp only [act]
    split
    · next heq =>
        rw [heq] at haside
        exact atMostListing_of_aside haside
    · next heq =>
        rw [heq] at haside
        exact .of_aside haside (atMostListing_create _ id _)
  case takeSnapshot root scope => exact .inr ⟨rfl, rfl⟩
  case poll id => exact atMostListing_forPoller fun place _ => atMostListing_pollAt s place
  case stop id => exact atMostListing_forPoller fun place _ => atMostListing_changePoller s place _
  case snapshot | hold | isRunning => exact atMostListing_forPoller fun _ _ => .inl ⟨rfl, rfl⟩
  case resolve =>
    refine atMostListing_forPoller fun _ _ => ?_
    split <;> exact .inl ⟨rfl, rfl⟩
  case held | diffHeld | fileContent =>
    simp only [act]
    split <;> exact .inl ⟨rfl, rfl⟩
  case loadSettings project named reload =>
    exact atMostListing_of_aside (aside_giveSettings s project named reload)
  case getSettings => exact atMostListing_of_aside (aside_giveSettings s none none false)
  case setupLogging source =>
    cases source with
    | given settings => exact atMostListing_of_aside (aside_setupLogging s settings)
    | loaded =>
        have hload := aside_loadSettings s none none false
        simp only [act, globalSettings]
        split
        · next heq =>
            rw [heq] at hload
            exact atMostListing_of_aside hload
        · next heq =>
            rw [heq] at hload
            exact atMostListing_of_aside (hload.trans (aside_setupLogging _ _))
  all_goals exact .inl ⟨rfl, rfl⟩

theorem atMostListing_make (s : Session τ) {m : Move τ} (notPass : ∀ span, m ≠ .pass span)
    (notSlow : ∀ seconds, m ≠ .slow seconds) : AtMostListing s (s.make m) := by
  cases m with
  | act action => exact atMostListing_act s action
  | poll place receiver? => exact atMostListing_pollAt s place
  | enter place token? => cases token? <;> exact atMostListing_changePoller s place _
  | stop place | reject place | setToken place | cancel place | leave place | sayStopped place =>
      exact atMostListing_changePoller s place _
  | pass span => exact absurd rfl (notPass span)
  | slow seconds => exact absurd rfl (notSlow seconds)
  | hand | fail | ask | sayCancelled | owe => exact .inl ⟨rfl, rfl⟩

end Clock

/-! ## Clocks that run forward -/

structure Later (s t : Session ℚ) : Prop where
  clock : s.clock ≤ t.clock
  delay : 0 ≤ t.delay

theorem Later.trans {s t u : Session ℚ} (first : Later s t) (second : Later t u) : Later s u :=
  ⟨first.clock.trans second.clock, second.delay⟩

theorem later_make {s : Session ℚ} (h : 0 ≤ s.delay) {m : Move ℚ} (forward : m.IsForward) :
    Later s (s.make m) := by
  by_cases hpass : ∃ span, m = .pass span
  · obtain ⟨span, rfl⟩ := hpass
    exact ⟨le_add_of_nonneg_right forward, h⟩
  · by_cases hslow : ∃ seconds, m = .slow seconds
    · obtain ⟨seconds, rfl⟩ := hslow
      exact ⟨le_rfl, add_nonneg h forward⟩
    · obtain ⟨hclock, hdelay⟩ | ⟨hclock, hdelay⟩ := atMostListing_make s
        (fun span heq => hpass ⟨span, heq⟩) fun seconds heq => hslow ⟨seconds, heq⟩
      · exact ⟨hclock.ge, hdelay.ge.trans' h⟩
      · exact ⟨hclock.ge.trans' (le_add_of_nonneg_right h), hdelay.ge⟩

end Session

end TreeWatch
