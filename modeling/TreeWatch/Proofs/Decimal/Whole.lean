import Mathlib
import TreeWatch.Decimal.Read
import TreeWatch.Proofs.Watch.Intervals

/-!
# Whole numbers as doubles

Rounding keeps a number of at least one at one or above. The double nearest to a whole number above
zero is therefore above zero, although most such numbers are not doubles themselves.
-/

namespace TreeWatch.Decimal

open Float.Model
open Float.Model.UnpackedFloat (ExtendedMantissa Accuracy shiftToExponent shiftToTargetExponent)

/-! ## Binary digits -/

theorem log2_mul_two_pow {m : Nat} (hm : m ≠ 0) (k : Nat) : (m * 2 ^ k).log2 = m.log2 + k := by
  induction k with
  | zero => simp
  | succ k ih =>
      have hne : m * 2 ^ k ≠ 0 := Nat.mul_ne_zero hm (by positivity)
      rw [Nat.pow_succ, ← Nat.mul_assoc, Nat.log2_eq_log_two, Nat.log_mul_base one_lt_two hne,
        ← Nat.log2_eq_log_two, ih, Nat.add_assoc]

theorem log2_div_two_pow (m k : Nat) : (m / 2 ^ k).log2 = m.log2 - k := by
  induction k with
  | zero => simp
  | succ k ih =>
      rw [Nat.pow_succ, ← Nat.div_div_eq_div_mul, Nat.log2_eq_log_two, Nat.log_div_base,
        ← Nat.log2_eq_log_two, ih, Nat.sub_sub]

/-! ## Rounding -/

/-- The shape that a number of at least one has when it is rounded to a double: 53 binary digits,
the last of which counts `2 ^ (-52)` or more. -/
inductive AtLeastOne : UnpackedFloat → Prop where
  | infinity : AtLeastOne (.infinity .positive)
  | finite {mantissa : Nat} {exponent : Int} {positive : 0 < mantissa}
      (full : mantissa.log2 = 52) (large : -52 ≤ exponent) :
      AtLeastOne (.finite .positive mantissa exponent positive)

theorem mantissa_shiftRight (em : ExtendedMantissa) (k : Nat) :
    (em >>> k).mantissa = em.mantissa / 2 ^ k := by
  induction k with
  | zero => simp [HShiftRight.hShiftRight, Nat.repeat]
  | succ k ih =>
      have hstep : (em >>> (k + 1)).mantissa = (em >>> k).mantissa / 2 := rfl
      rw [hstep, ih, Nat.div_div_eq_div_mul, Nat.pow_succ]

theorem roundedMantissa_bounds (em : ExtendedMantissa) :
    em.mantissa ≤ em.roundedMantissa ∧ em.roundedMantissa ≤ em.mantissa + 1 := by
  obtain ⟨mantissa, roundBit, stickyBit⟩ := em
  cases roundBit <;> cases stickyBit <;>
    simp [ExtendedMantissa.roundedMantissa, ExtendedMantissa.accuracy,
      Accuracy.roundToNearestEven]
  omega

theorem shiftToTargetExponent_of_one_le {m : Nat} {e : Int} (digits : 52 ≤ m.log2)
    (large : 0 ≤ m.log2 + e) :
    (shiftToTargetExponent .binary64 m e .exact).1.mantissa = m / 2 ^ (m.log2 - 52) ∧
      (shiftToTargetExponent .binary64 m e .exact).2 = m.log2 + e - 52 := by
  have htarget : Format.binary64.targetExponent (totalExponent m e) = m.log2 + e - 52 := by
    simp only [Format.targetExponent, totalExponent, Format.mantissaBits, Format.minExponent]
    omega
  have hshift : (m.log2 + e - 52 - e).toNat = m.log2 - 52 := by omega
  unfold shiftToTargetExponent shiftToExponent
  simp only [htarget, hshift, mantissa_shiftRight]
  exact ⟨rfl, by omega⟩

/-- Rounding keeps a number of at least one there. Where it rounds up to a power of two there are
54 digits, and the last of them, a zero, is cut off. -/
theorem atLeastOne_roundWithAccuracy {m : Nat} {e : Int} (digits : 52 ≤ m.log2)
    (large : 0 ≤ m.log2 + e) :
    AtLeastOne (UnpackedFloat.roundWithAccuracy .binary64 .positive m e .exact) := by
  obtain ⟨hcut, hexponent⟩ := shiftToTargetExponent_of_one_le digits large
  unfold UnpackedFloat.roundWithAccuracy
  generalize shiftToTargetExponent .binary64 m e .exact = cut at hcut hexponent
  obtain ⟨em, e₁⟩ := cut
  dsimp only at hcut hexponent ⊢
  have hfull : em.mantissa.log2 = 52 := by
    rw [hcut, log2_div_two_pow]
    omega
  have hbounds := roundedMantissa_bounds em
  generalize em.roundedMantissa = rounded at hbounds ⊢
  have hmantissa : em.mantissa ≠ 0 := by
    intro hzero
    simp [hzero] at hfull
  have hrange := (Nat.log2_eq_iff hmantissa).mp hfull
  have hrounded : 52 ≤ rounded.log2 := (Nat.le_log2 (by omega)).mpr (by omega)
  obtain ⟨hlast, hlastExponent⟩ :=
    shiftToTargetExponent_of_one_le (m := rounded) (e := e₁) hrounded (by omega)
  have hlastFull :
      (shiftToTargetExponent .binary64 rounded e₁ .exact).1.mantissa.log2 = 52 := by
    rw [hlast, log2_div_two_pow]
    omega
  split
  · next hzero => simp [hzero] at hlastFull
  · exact .finite hlastFull (by omega)

/-! ## Packing -/

theorem unpackSign_packComponents {format : Format} {sign : UnpackedFloat.Sign}
    {exponent : BitVec format.exponentBits}
    {mantissa : BitVec format.mantissaBitsWithoutImplicit} :
    UnpackedFloat.unpackSign (UnpackedFloat.packComponents format sign exponent mantissa) =
      sign.toBitVec := by
  apply BitVec.eq_of_getLsbD_eq
  intro i hi
  obtain rfl : i = 0 := by omega
  simp [UnpackedFloat.unpackSign, UnpackedFloat.packComponents, BitVec.getLsbD_append,
    BitVec.getElem_append]

theorem toNat_leadingOne_append {mantissa : Nat} (full : mantissa.log2 = 52) :
    (1#1 ++ BitVec.ofNat 52 mantissa).toNat = mantissa := by
  have hne : mantissa ≠ 0 := by
    rintro rfl
    simp at full
  obtain ⟨hlow, hhigh⟩ := (Nat.log2_eq_iff hne).mp full
  rw [BitVec.toNat_append, ← Nat.shiftLeft_add_eq_or_of_lt (BitVec.ofNat 52 mantissa).isLt,
    BitVec.toNat_ofNat, BitVec.toNat_ofNat]
  omega

/-- An exponent between the two that mark special doubles is that of a number with 53 digits. -/
theorem unpack_packComponents {mantissa exponent : Nat} (positive : 0 < mantissa)
    (full : mantissa.log2 = 52) (above : 0 < exponent) (below : exponent < 2047) :
    UnpackedFloat.unpack .binary64 (UnpackedFloat.packComponents .binary64 .positive
        (BitVec.ofNat 11 exponent) (BitVec.ofNat 52 mantissa)) =
      .finite .positive mantissa (exponent - 1075) positive := by
  have hexponent : (BitVec.ofNat 11 exponent).toNat = exponent := by
    rw [BitVec.toNat_ofNat]
    omega
  have hones : BitVec.ofNat 11 exponent ≠ -1#11 := by
    intro heq
    rw [heq] at hexponent
    exact absurd (hexponent ▸ below) (by decide)
  have hzero : BitVec.ofNat 11 exponent ≠ 0#11 := by
    intro heq
    rw [heq] at hexponent
    exact absurd (hexponent ▸ above) (by decide)
  unfold UnpackedFloat.unpack
  simp only [UnpackedFloat.unpackExponent_packComponents,
    UnpackedFloat.unpackMantissa_packComponents, unpackSign_packComponents]
  rw [if_neg hones, if_neg hzero]
  congr 1
  · exact toNat_leadingOne_append full
  · rw [hexponent]
    rfl

theorem atLeastOne_unpack_pack {u : UnpackedFloat} (h : AtLeastOne u) :
    AtLeastOne (Float.Model.pack u).unpack := by
  show AtLeastOne (UnpackedFloat.unpack .binary64 (UnpackedFloat.pack .binary64 u))
  have hinfinity : AtLeastOne (UnpackedFloat.unpack .binary64
      (UnpackedFloat.packedInfinity .binary64 .positive)) := .infinity
  cases h with
  | infinity => exact hinfinity
  | @finite mantissa exponent positive full large =>
      have hbias : (exponent + Format.binary64.exponentBias +
          Format.binary64.mantissaBitsWithoutImplicit : Int) = exponent + 1075 := by
        simp only [Format.exponentBias]
        omega
      rw [UnpackedFloat.pack, hbias]
      split
      · exact hinfinity
      · next hfits =>
          have hsmall : (exponent + 1075).toNat + 1 < 2048 := Nat.lt_of_not_le hfits
          rw [if_pos (by rw [full]; rfl),
            unpack_packComponents positive full (by omega) (by omega)]
          exact .finite full (by omega)

theorem zero_lt_of_atLeastOne {x : Float} (h : AtLeastOne x.toModel.unpack) : 0 < x := by
  rw [Interval.zero_lt_iff_unpack]
  generalize x.toModel.unpack = u at h
  cases h <;> rfl

/-! ## Whole numbers -/

theorem atLeastOne_ofNat {n : Nat} (positive : 0 < n) (small : n < 2 ^ 53) :
    AtLeastOne (UnpackedFloat.ofNat .binary64 n) := by
  have hdigits : n.log2 < 53 := (Nat.log2_lt positive.ne').mpr small
  have htarget : Format.binary64.targetExponent (totalExponent n 0) = n.log2 - 52 := by
    simp only [Format.targetExponent, totalExponent, Format.mantissaBits, Format.minExponent]
    omega
  have hshift : (0 - (n.log2 - 52 : Int)).toNat = 52 - n.log2 := by omega
  have hfull : (n <<< (52 - n.log2)).log2 = 52 := by
    rw [Nat.shiftLeft_eq, log2_mul_two_pow positive.ne']
    omega
  have hcompare : compare (n : Int) 0 = .gt := Int.compare_eq_gt.mpr (by omega)
  unfold UnpackedFloat.ofNat UnpackedFloat.ofInt UnpackedFloat.normalize UnpackedFloat.round
  simp only [hcompare, Int.toNat_natCast, htarget, UnpackedFloat.decreaseExponent, hshift]
  exact atLeastOne_roundWithAccuracy (by omega) (by omega)

/-- A product with one is that number, rounded again. -/
theorem atLeastOne_mul_one {u : UnpackedFloat} (h : AtLeastOne u) :
    AtLeastOne (UnpackedFloat.mul .binary64 u (.finite .positive (2 ^ 52) (-52) (by decide))) := by
  cases h with
  | infinity => exact .infinity
  | @finite mantissa exponent positive full large =>
      have hdigits : (mantissa * 2 ^ 52).log2 = 104 := by
        rw [log2_mul_two_pow positive.ne', full]
      exact atLeastOne_roundWithAccuracy (by omega) (by omega)

/-- A whole number is rounded at once if it has more than 53 digits; otherwise it is exact, and the
power of ten that it is multiplied with is one. -/
theorem atLeastOne_ofScientific {n : Nat} (positive : 0 < n) :
    AtLeastOne (Float.ofScientific n false 0).toModel.unpack := by
  unfold Float.ofScientific
  split
  · next hsmall =>
      have hn : n.toUInt64.toNat = n :=
        UInt64.toNat_ofNat_of_lt' (hsmall.1.trans (by decide))
      have hofNat : AtLeastOne n.toUInt64.toFloat.toModel.unpack := by
        refine atLeastOne_unpack_pack (atLeastOne_ofNat (n := n.toUInt64.toNat) ?_ ?_)
        · rwa [hn]
        · rw [hn]
          exact hsmall.1
      have hone : Float.exactlyRepresentablePowersOfTen[0].toModel.unpack =
          .finite .positive (2 ^ 52) (-52) (by decide) := rfl
      have hproduct := atLeastOne_mul_one hofNat
      rw [← hone] at hproduct
      exact atLeastOne_unpack_pack hproduct
  · have hdigits : (n <<< 53 * 10 ^ 0).log2 = n.log2 + 53 := by
      rw [Nat.pow_zero, Nat.mul_one, Nat.shiftLeft_eq, log2_mul_two_pow positive.ne']
    have hround := atLeastOne_roundWithAccuracy (m := n <<< 53 * 10 ^ 0) (e := -53 + 0)
      (by omega) (by omega)
    refine atLeastOne_unpack_pack ?_
    unfold UnpackedFloat.ofScientific
    rw [dif_neg positive.ne', if_neg (by decide), if_neg (by simp), if_pos (by decide)]
    exact hround

theorem zero_lt_of_ofInt? {i : Int} {x : Float} (positive : 0 < i) (h : ofInt? i = some x) :
    0 < x := by
  unfold ofInt? at h
  generalize Nat.pow 2 1024 - Nat.pow 2 970 = bound at h
  split at h
  · dsimp only at h
    rw [if_neg (by omega)] at h
    obtain rfl := Option.some.inj h
    exact zero_lt_of_atLeastOne (atLeastOne_ofScientific (by omega))
  · simp at h

end TreeWatch.Decimal
