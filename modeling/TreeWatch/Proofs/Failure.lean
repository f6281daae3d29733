import TreeWatch.Failure
import Mathlib.Data.List.Basic

/-!
# Work that may fail

Work of several steps comes to a result just when each of its steps does.
-/

namespace TreeWatch

theorem bind_eq_ok_iff {ε α β : Type} {x : Except ε α} {f : α → Except ε β} {b : β} :
    x >>= f = .ok b ↔ ∃ a, x = .ok a ∧ f a = .ok b := by
  cases x <;> simp [bind, Except.bind]

theorem mapError_eq_ok_iff {ε ε' α : Type} {x : Except ε α} {f : ε → ε'} {a : α} :
    x.mapError f = .ok a ↔ x = .ok a := by
  cases x <;> simp [Except.mapError]

theorem exists_eq_ok_of_any {ε α : Type} (x : Except ε α) (question : α → Bool)
    (h : x.toOption.any question = true) : ∃ a, x = .ok a ∧ question a = true := by
  cases x with
  | error e => simp [Except.toOption] at h
  | ok a => exact ⟨a, rfl, h⟩

theorem foldlM_ok_induction {ε σ α : Type} {f : σ → α → Except ε σ} {P : σ → Prop}
    (hstep : ∀ s a t, P s → f s a = .ok t → P t) :
    ∀ (as : List α) (s t : σ), P s → as.foldlM f s = .ok t → P t
  | [], s, t, hs, h => by
    have heq : s = t := Except.ok.inj h
    exact heq ▸ hs
  | a :: rest, s, t, hs, h => by
    rw [List.foldlM_cons, bind_eq_ok_iff] at h
    obtain ⟨u, hu, hrest⟩ := h
    exact foldlM_ok_induction hstep rest u t (hstep s a u hs hu) hrest

end TreeWatch
