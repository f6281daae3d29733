import Mathlib
import TreeWatch.Proofs.Watch.Granting

/-!
# Requests and their intervals

A request is granted if its directory is found and its interval is fit for polls, and neither of
the two questions bears on the other. A double that is not at most zero is fit, unless it is no
number at all.
-/

namespace TreeWatch

open Float.Model (UnpackedFloat)

namespace Interval

/-! ## Doubles and zero -/

theorem unpack_zero : (0 : Float).toModel.unpack = .zero .positive := rfl

theorem le_zero_iff_unpack (x : Float) : x ≤ 0 ↔ x.toModel.unpack.le (.zero .positive) = true := by
  show decide (x.toModel.le (0 : Float).toModel = true) = true ↔ _
  rw [decide_eq_true_iff, Float.Model.le, unpack_zero]

theorem zero_lt_iff_unpack (x : Float) :
    0 < x ↔ UnpackedFloat.lt (.zero .positive) x.toModel.unpack = true := by
  show decide ((0 : Float).toModel.lt x.toModel = true) = true ↔ _
  rw [decide_eq_true_iff, Float.Model.lt, unpack_zero]

/-- To turn away what is at most zero and to let in what is above zero differ on no double other
than the one that is no number. -/
theorem zero_lt_iff (x : Float) : 0 < x ↔ ¬ x ≤ 0 ∧ x.isNaN = false := by
  rw [le_zero_iff_unpack, zero_lt_iff_unpack]
  show _ ↔ _ ∧ x.toModel.unpack.isNaN = false
  cases x.toModel.unpack with
  | notANumber => decide
  | infinity sign => cases sign <;> decide
  | zero sign => cases sign <;> decide
  | finite sign mantissa exponent positive =>
      cases sign <;>
        simp [UnpackedFloat.le, UnpackedFloat.lt, UnpackedFloat.compare, UnpackedFloat.isNaN]

theorem eq_of_isNaN {x : Float} (h : x.isNaN = true) : x = 0.0 / 0.0 := by
  have hunpack : x.toModel.unpack = .notANumber := by
    change x.toModel.unpack.isNaN = true at h
    cases hu : x.toModel.unpack <;> simp [hu, UnpackedFloat.isNaN] at h ⊢
  have hbits : x.toModel.toBits.toBitVec = (0.0 / 0.0 : Float).toModel.toBits.toBitVec := by
    simp only [Float.Model.unpack, UnpackedFloat.unpack] at hunpack
    split at hunpack
    · next hexponent =>
        split at hunpack
        · simp at hunpack
        · next hmantissa =>
            rw [x.toModel.valid.eq_packedNaN hexponent hmantissa]
            decide
    · split at hunpack
      · split at hunpack <;> simp at hunpack
      · simp at hunpack
  obtain ⟨⟨bits, valid⟩⟩ := x
  obtain rfl : bits = (0.0 / 0.0 : Float).toModel.toBits := UInt64.toBitVec_inj.mp hbits
  rfl

/-! ## Intervals that are fit for polls -/

def granted (i : Interval) : Except Failure Float :=
  match i.isPositive? with
  | none => .error .wrongKind
  | some false => .error (.intervalNotPositive i.literal)
  | some true => i.toFloat?.elim (.error .tooLarge) .ok

theorem granted_seconds {x : Float} (h : ¬ x ≤ 0) :
    (seconds x).granted =
      if x.isNaN then .error (.intervalNotPositive "nan") else .ok x := by
  cases hnan : x.isNaN with
  | false =>
      have hpositive : 0 < x := (zero_lt_iff x).mpr ⟨h, hnan⟩
      simp [granted, isPositive?, toFloat?, hpositive]
  | true =>
      rw [eq_of_isNaN hnan]
      decide

end Interval

/-- The parts of the directory that a path leads to, if somebody may ask for it to be watched. -/
def World.directoryAt (w : World) (p : Path) : Except Failure (List String) := do
  let root ← w.expandHome p
  if !(← w.exists? root) then .error (.invalidRoot .missing root)
  else if !(← w.isDirectory? root) then .error (.invalidRoot .notDirectory root)
  else
    match w.find root with
    | .error e => .error (.system ⟨e, root.text⟩)
    | .ok (names, _) => .ok names

theorem World.find_of_exists? {w : World} {p : Path} (h : w.exists? p = .ok true) :
    ∃ place, w.find p = .ok place := by
  obtain ⟨n, hstat, -⟩ := stat_of_ask h
  obtain ⟨place, hfind, -⟩ := bind_eq_ok_iff.mp hstat
  exact ⟨place, hfind⟩

/-- A request is about its directory first and then about its interval. -/
theorem Request.validate_eq (w : World) (r : Request) :
    r.validate w =
      (w.directoryAt r.root).bind fun names =>
        r.interval.granted.map fun interval => ⟨.absolute names, r.scope, interval⟩ := by
  unfold Request.validate World.directoryAt
  cases w.expandHome r.root with
  | error e => rfl
  | ok root =>
      simp only [bind, Except.bind]
      cases hexists : w.exists? root with
      | error e => rfl
      | ok isThere =>
          cases isThere with
          | false => rfl
          | true =>
              obtain ⟨place, hfind⟩ := World.find_of_exists? hexists
              cases w.isDirectory? root with
              | error e => rfl
              | ok isDirectory =>
                  cases isDirectory with
                  | false => rfl
                  | true =>
                      simp only [hfind, Interval.granted, Bool.not_true, Bool.false_eq_true,
                        if_false]
                      cases r.interval.isPositive? with
                      | none => rfl
                      | some isPositive =>
                          cases isPositive with
                          | false => rfl
                          | true => cases r.interval.toFloat? <;> rfl

end TreeWatch
