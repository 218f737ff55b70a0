import CrsText.Proofs.Number.Packed

/-! How an exact result is brought to the format. Its significand is cut to 53 bits and moved up by one
at most, so its exponent is known up to one.
-/

set_option autoImplicit false

open Float.Model (UnpackedFloat totalExponent)
open Float.Model.UnpackedFloat (Sign Accuracy ExtendedMantissa roundWithAccuracy shiftToTargetExponent
  shiftToExponent decreaseExponent)
open Float.Model.Format (binary64)

namespace CrsText

@[simp] theorem targetExponent_eq (total : ℤ) :
    binary64.targetExponent total = max (total - 53) (-1074) := rfl

theorem mantissa_shiftRight (extended : ExtendedMantissa) (count : ℕ) :
    (extended >>> count).mantissa = extended.mantissa / 2 ^ count := by
  induction count with
  | zero => simp [HShiftRight.hShiftRight, Nat.repeat]
  | succ count ih =>
    change (extended >>> count).mantissa / 2 = _
    rw [ih, Nat.div_div_eq_div_mul, pow_succ]

theorem mantissa_ofMantissaAndAccuracy (mantissa : ℕ) (accuracy : Accuracy) :
    (ExtendedMantissa.ofMantissaAndAccuracy mantissa accuracy).mantissa = mantissa := by
  rcases accuracy with _ | order
  · rfl
  · cases order <;> rfl

/-- Rounding leaves a significand or makes it larger by one. -/
theorem roundedMantissa_bounds (extended : ExtendedMantissa) :
    extended.mantissa ≤ extended.roundedMantissa ∧
      extended.roundedMantissa ≤ extended.mantissa + 1 := by
  obtain ⟨mantissa, roundBit, stickyBit⟩ := extended
  cases roundBit <;> cases stickyBit <;>
    simp only [ExtendedMantissa.roundedMantissa, ExtendedMantissa.accuracy,
      Accuracy.roundToNearestEven] <;> omega

/-- How far a significand is shifted to have 53 bits, or to have the least exponent. -/
def excess (mantissa : ℕ) (exponent : ℤ) : ℕ :=
  (binary64.targetExponent (totalExponent mantissa exponent) - exponent).toNat

theorem excess_eq (mantissa : ℕ) (exponent : ℤ) :
    excess mantissa exponent = (max (mantissa.log2 + exponent - 52) (-1074) - exponent).toNat := by
  rw [excess, targetExponent_eq, totalExponent]
  congr 2
  omega

theorem mantissa_shiftToTargetExponent (mantissa : ℕ) (exponent : ℤ) (accuracy : Accuracy) :
    (shiftToTargetExponent binary64 mantissa exponent accuracy).1.mantissa =
      mantissa / 2 ^ excess mantissa exponent := by
  change (ExtendedMantissa.ofMantissaAndAccuracy mantissa accuracy >>>
    excess mantissa exponent).mantissa = _
  rw [mantissa_shiftRight, mantissa_ofMantissaAndAccuracy]

theorem exponent_shiftToTargetExponent (mantissa : ℕ) (exponent : ℤ) (accuracy : Accuracy) :
    (shiftToTargetExponent binary64 mantissa exponent accuracy).2 =
      exponent + excess mantissa exponent := rfl

/-- What is left after the shift has 53 bits at most. -/
theorem shifted_lt (mantissa : ℕ) (exponent : ℤ) :
    mantissa / 2 ^ excess mantissa exponent < 2 ^ 53 := by
  rw [Nat.div_lt_iff_lt_mul (by positivity), ← pow_add]
  refine Nat.lt_log2_self.trans_le (Nat.pow_le_pow_right (by decide) ?_)
  rw [excess_eq]
  omega

theorem least_le_shifted (mantissa : ℕ) (exponent : ℤ) :
    -1074 ≤ exponent + excess mantissa exponent := by
  rw [excess_eq]
  omega

/-- Nothing of a number above the smallest ones is shifted out but what lies beyond 53 bits. -/
theorem shifted_normal {mantissa : ℕ} {exponent : ℤ}
    (low : exponent ≤ binary64.targetExponent (totalExponent mantissa exponent)) :
    2 ^ 52 ≤ mantissa / 2 ^ excess mantissa exponent ∨
      exponent + excess mantissa exponent = -1074 := by
  rw [targetExponent_eq, totalExponent] at low
  by_cases large : -1074 < mantissa.log2 + exponent - 52
  · have positive : mantissa ≠ 0 := by
      rintro rfl
      simp only [Nat.log2_zero] at low large
      omega
    have bits : mantissa.log2 = 52 + excess mantissa exponent := by
      rw [excess_eq]
      omega
    refine .inl ((Nat.le_div_iff_mul_le (by positivity)).mpr ?_)
    rw [← pow_add, ← bits]
    exact Nat.log2_self_le positive
  · right
    rw [excess_eq]
    omega

def unpacked (sign : Sign) (significand : ℕ) (exponent : ℤ) : UnpackedFloat :=
  if zero : significand = 0 then .zero sign
  else .finite sign significand exponent (Nat.pos_of_ne_zero zero)

/-- A rounded significand, which may be the one behind the largest of 53 bits. -/
def settled (sign : Sign) (rounded : ℕ) (exponent : ℤ) : UnpackedFloat :=
  if rounded = 2 ^ 53 then unpacked sign (2 ^ 52) (exponent + 1)
  else unpacked sign rounded exponent

/-- Only a significand that has got a bit too many is shifted once more. -/
theorem excess_rounded {rounded : ℕ} {exponent : ℤ} (bounded : rounded ≤ 2 ^ 53)
    (least : -1074 ≤ exponent) : excess rounded exponent = if rounded = 2 ^ 53 then 1 else 0 := by
  rw [excess_eq]
  split
  · next carried =>
    rw [carried, Nat.log2_two_pow]
    omega
  · next other =>
    have bits : rounded.log2 ≤ 52 := by
      by_cases zero : rounded = 0
      · simp [zero]
      · exact Nat.le_of_lt_succ ((Nat.log2_lt zero).mpr (by omega))
    omega

theorem roundWithAccuracy_eq (sign : Sign) (mantissa : ℕ) (exponent : ℤ) (accuracy : Accuracy) :
    roundWithAccuracy binary64 sign mantissa exponent accuracy =
      let first := shiftToTargetExponent binary64 mantissa exponent accuracy
      let second := shiftToTargetExponent binary64 first.1.roundedMantissa first.2 .exact
      unpacked sign second.1.mantissa second.2 := rfl

/-- The result of rounding is the shifted significand or the next one. -/
theorem exists_settled (sign : Sign) (mantissa : ℕ) (exponent : ℤ) (accuracy : Accuracy) :
    ∃ rounded, mantissa / 2 ^ excess mantissa exponent ≤ rounded ∧ rounded ≤ 2 ^ 53 ∧
      roundWithAccuracy binary64 sign mantissa exponent accuracy =
        settled sign rounded (exponent + excess mantissa exponent) := by
  have bounds := roundedMantissa_bounds
    (shiftToTargetExponent binary64 mantissa exponent accuracy).1
  rw [mantissa_shiftToTargetExponent] at bounds
  have bounded := bounds.2.trans (shifted_lt mantissa exponent)
  refine ⟨_, bounds.1, bounded, ?_⟩
  have once := excess_rounded bounded (least_le_shifted mantissa exponent)
  simp only [roundWithAccuracy_eq, mantissa_shiftToTargetExponent, exponent_shiftToTargetExponent,
    once, settled]
  split
  · next carried => simp [carried]
  · simp

/-- Division takes no more bits from a number than the divisor has. -/
theorem log2_le_of_div_le {n divisor quotient bits : ℕ} (positive : 0 < divisor)
    (small : divisor ≤ 2 ^ bits) (divided : n / divisor ≤ quotient) :
    n.log2 ≤ quotient.log2 + bits := by
  by_cases zero : n = 0
  · simp [zero]
  · refine Nat.le_of_lt_succ ((Nat.log2_lt zero).mpr ?_)
    calc n < (quotient + 1) * divisor :=
          (Nat.div_lt_iff_lt_mul positive).mp (Nat.lt_succ_of_le divided)
      _ ≤ 2 ^ (quotient.log2 + 1) * 2 ^ bits := Nat.mul_le_mul Nat.lt_log2_self small
      _ = 2 ^ (quotient.log2 + bits + 1) := by rw [← pow_add]; congr 1; omega

/-- Only a number below the smallest ones is shifted away. -/
theorem shifted_pos {mantissa : ℕ} {exponent : ℤ} (positive : 0 < mantissa)
    (least : -1074 ≤ exponent) : 0 < mantissa / 2 ^ excess mantissa exponent := by
  refine Nat.div_pos (le_trans ?_ (Nat.log2_self_le positive.ne')) (by positivity)
  refine Nat.pow_le_pow_right (by decide) ?_
  rw [excess_eq]
  omega

/-- The results of rounding a number of the given significand and exponent: zero, or a number of the
format but for the size of its exponent, with no fewer places before the point. -/
inductive Rounds (sign : Sign) (mantissa : ℕ) (exponent : ℤ) : UnpackedFloat → Prop
  | zero (vanishing : mantissa = 0 ∨ exponent < -1074) : Rounds sign mantissa exponent (.zero sign)
  | finite (x : Magnitude) (normalized : x.IsNormalized)
      (places : totalExponent mantissa exponent ≤ totalExponent x.significand x.exponent)
      (greatest : x.exponent ≤ binary64.targetExponent (totalExponent mantissa exponent) + 1) :
      Rounds sign mantissa exponent (.finite sign x.significand x.exponent normalized.positive)

theorem rounds_settled (sign : Sign) {mantissa rounded : ℕ} {exponent : ℤ}
    (low : exponent ≤ binary64.targetExponent (totalExponent mantissa exponent))
    (shifted : mantissa / 2 ^ excess mantissa exponent ≤ rounded) (bounded : rounded ≤ 2 ^ 53) :
    Rounds sign mantissa exponent
      (settled sign rounded (exponent + excess mantissa exponent)) := by
  have reached : exponent + excess mantissa exponent =
      binary64.targetExponent (totalExponent mantissa exponent) := by
    rw [excess]
    omega
  have least := least_le_shifted mantissa exponent
  have places := log2_le_of_div_le (Nat.two_pow_pos _) le_rfl shifted
  rw [settled]
  split
  · next carried =>
    have bits : rounded.log2 = 53 := by rw [carried, Nat.log2_two_pow]
    refine .finite ⟨2 ^ 52, _⟩ ⟨by positivity, by simp, by dsimp only; omega, .inl le_rfl⟩ ?_ ?_
    · simp only [totalExponent, Nat.log2_two_pow]
      omega
    · dsimp only
      omega
  · next fits =>
    rw [unpacked]
    split
    · next vanishes =>
      refine .zero ?_
      by_contra! remains
      have positive := shifted_pos (Nat.pos_of_ne_zero remains.1) remains.2
      omega
    · next remains =>
      refine .finite ⟨rounded, _⟩ ⟨Nat.pos_of_ne_zero remains, by dsimp only; omega, least, ?_⟩ ?_ ?_
      · exact (shifted_normal low).imp_left shifted.trans'
      · simp only [totalExponent]
        omega
      · dsimp only
        omega

theorem rounds_roundWithAccuracy (sign : Sign) {mantissa : ℕ} {exponent : ℤ} (accuracy : Accuracy)
    (low : exponent ≤ binary64.targetExponent (totalExponent mantissa exponent)) :
    Rounds sign mantissa exponent
      (roundWithAccuracy binary64 sign mantissa exponent accuracy) := by
  obtain ⟨rounded, shifted, bounded, result⟩ := exists_settled sign mantissa exponent accuracy
  rw [result]
  exact rounds_settled sign low shifted bounded

theorem log2_shiftLeft {mantissa : ℕ} (positive : 0 < mantissa) (count : ℕ) :
    (mantissa <<< count).log2 = mantissa.log2 + count := by
  have scaled : 0 < mantissa * 2 ^ count := by positivity
  rw [Nat.shiftLeft_eq, Nat.log2_eq_iff scaled.ne', pow_add, ← Nat.add_right_comm, pow_add]
  exact ⟨Nat.mul_le_mul_right _ (Nat.log2_self_le positive.ne'),
    Nat.mul_lt_mul_of_pos_right Nat.lt_log2_self (by positivity)⟩

/-- Before a number is rounded it is written with an exponent that is small enough. -/
theorem rounds_round (sign : Sign) {mantissa : ℕ} {exponent : ℤ} (positive : 0 < mantissa) :
    Rounds sign mantissa exponent (Float.Model.UnpackedFloat.round binary64 sign mantissa exponent) := by
  set target := binary64.targetExponent (totalExponent mantissa exponent) with target_eq
  set count := (exponent - target).toNat with count_eq
  have total : totalExponent (mantissa <<< count) (exponent - count) =
      totalExponent mantissa exponent := by
    rw [totalExponent, totalExponent, log2_shiftLeft positive]
    push_cast
    ring
  have least : -1074 ≤ target := by simp [target_eq]
  have low : exponent - count ≤
      binary64.targetExponent (totalExponent (mantissa <<< count) (exponent - count)) := by
    rw [total, ← target_eq]
    omega
  have result := rounds_roundWithAccuracy sign .exact low
  change Rounds sign mantissa exponent
    (roundWithAccuracy binary64 sign (mantissa <<< count) (exponent - count) .exact)
  generalize roundWithAccuracy binary64 sign (mantissa <<< count) (exponent - count) .exact =
    rounded at result
  cases result with
  | zero vanishing =>
    refine .zero (.inr ?_)
    have shifted : mantissa <<< count ≠ 0 := by
      rw [Nat.shiftLeft_eq]
      positivity
    have small := vanishing.resolve_left shifted
    omega
  | finite x normalized places greatest =>
    rw [total] at places greatest
    exact .finite x normalized places greatest

end CrsText
