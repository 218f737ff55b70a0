import CrsText.Proofs.Number.Digits
import CrsText.Proofs.Number.Value

/-! Rounding to a number of significant digits is rounding to a whole number, once the leading digit is
moved to its place.
-/

set_option autoImplicit false

namespace CrsText

theorem roundHalfUp_eq_floor {numerator denominator : ℕ} (positive : 0 < denominator) :
    roundHalfUp numerator denominator = ⌊(numerator / denominator : ℚ) + 1 / 2⌋₊ := by
  have nonzero : (denominator : ℚ) ≠ 0 := Nat.cast_ne_zero.mpr positive.ne'
  have shifted : (numerator / denominator : ℚ) + 1 / 2 =
      ((2 * numerator + denominator : ℕ) : ℚ) / ((2 * denominator : ℕ) : ℚ) := by
    push_cast
    field_simp
  rw [shifted, Nat.floor_div_eq_div, roundHalfUp]

namespace Decimal

theorem value_pos {d : Decimal} (nonzero : d.coefficient ≠ 0) : 0 < d.value :=
  mul_pos (Nat.cast_pos.mpr (Nat.pos_of_ne_zero nonzero)) (zpow_pos (by norm_num) _)

end Decimal

/-- The exponent of the leading digit is the only one between whose powers of ten the number lies. -/
theorem log_eq {x : ℚ} {exponent : ℤ} (least : 10 ^ exponent ≤ x) (greatest : x < 10 ^ (exponent + 1)) :
    Int.log 10 x = exponent := by
  have positive : 0 < x := lt_of_lt_of_le (zpow_pos (by norm_num) _) least
  have lower : exponent ≤ Int.log 10 x :=
    (Int.zpow_le_iff_le_log (by decide) positive).mp (by exact_mod_cast least)
  have upper : Int.log 10 x < exponent + 1 :=
    (Int.lt_zpow_iff_log_lt (by decide) positive).mp (by exact_mod_cast greatest)
  omega

theorem log_bounds {x : ℚ} (positive : 0 < x) :
    (10 : ℚ) ^ Int.log 10 x ≤ x ∧ x < (10 : ℚ) ^ (Int.log 10 x + 1) := by
  constructor
  · exact_mod_cast Int.zpow_log_le_self (b := 10) (by decide) positive
  · exact_mod_cast Int.lt_zpow_succ_log_self (b := 10) (by decide) x

theorem Decimal.log_value {d : Decimal} (nonzero : d.coefficient ≠ 0) :
    Int.log 10 d.value = d.leadingExponent := by
  obtain ⟨size, counted⟩ : ∃ size, digitCount d.coefficient = size + 1 :=
    ⟨_, digitCount_eq_log nonzero⟩
  obtain ⟨least, greatest⟩ := digitCount_eq_iff.mp counted
  have scale : (0 : ℚ) < 10 ^ d.exponent := zpow_pos (by norm_num) _
  have leading : d.leadingExponent = size + d.exponent := by
    rw [leadingExponent, counted]
    push_cast
    ring
  rw [leading]
  apply log_eq
  · rw [zpow_add₀ (by norm_num), zpow_natCast, value]
    exact mul_le_mul_of_nonneg_right (by exact_mod_cast least) scale.le
  · rw [add_right_comm, zpow_add₀ (by norm_num), value]
    exact mul_lt_mul_of_pos_right (by exact_mod_cast greatest) scale

theorem log_div_of_le {numerator denominator : ℕ} (below : 0 < denominator)
    (large : denominator ≤ numerator) :
    Int.log 10 (numerator / denominator : ℚ) = digitCount (numerator / denominator) - 1 := by
  have whole : numerator / denominator ≠ 0 := (Nat.div_pos large below).ne'
  have least : (1 : ℚ) ≤ numerator / denominator :=
    (one_le_div (by exact_mod_cast below)).mpr (by exact_mod_cast large)
  rw [Int.log_of_one_le_right 10 least, Nat.floor_div_eq_div, digitCount_eq_log whole]
  push_cast
  ring

/-- The reciprocal of a number below one is rounded down, but never reached. -/
theorem log_div_of_lt {numerator denominator : ℕ} (above : 0 < numerator)
    (small : numerator < denominator) :
    Int.log 10 (numerator / denominator : ℚ) = -digitCount ((denominator - 1) / numerator) := by
  have below : (0 : ℚ) < denominator := by exact_mod_cast above.trans small
  have several : (denominator - 1) / numerator ≠ 0 := (Nat.div_pos (by omega) above).ne'
  obtain ⟨size, counted⟩ : ∃ size, digitCount ((denominator - 1) / numerator) = size + 1 :=
    ⟨_, digitCount_eq_log several⟩
  obtain ⟨least, greatest⟩ := digitCount_eq_iff.mp counted
  rw [Nat.le_div_iff_mul_le above] at least
  rw [Nat.div_lt_iff_lt_mul above] at greatest
  have lower : denominator ≤ 10 ^ (size + 1) * numerator := by omega
  have upper : 10 ^ size * numerator < denominator := by omega
  rw [counted]
  apply log_eq
  · rw [zpow_neg, zpow_natCast, le_div_iff₀ below, inv_mul_le_iff₀ (by positivity)]
    exact_mod_cast lower
  · have exponent : -((size + 1 : ℕ) : ℤ) + 1 = -(size : ℤ) := by
      push_cast
      ring
    rw [exponent, zpow_neg, zpow_natCast, div_lt_iff₀ below, lt_inv_mul_iff₀ (by positivity)]
    exact_mod_cast upper

theorem Magnitude.decimalExponent_eq_log {x : Magnitude} (positive : 0 < x.significand) :
    x.decimalExponent = Int.log 10 x.value := by
  have above : 0 < x.numerator := Nat.mul_pos positive (Nat.pow_pos (by decide))
  rw [decimalExponent, value_eq_div]
  split
  case isTrue large => rw [log_div_of_le x.denominator_pos large]
  case isFalse small => rw [log_div_of_lt above (not_le.mp small)]

/-- The first `places + 1` digits of a positive number as a whole number, a half going up. -/
def leadingDigits (places : ℕ) (x : ℚ) : ℕ := ⌊x * 10 ^ (places - Int.log 10 x) + 1 / 2⌋₊

def Decimal.ofRat (places : ℕ) (x : ℚ) : Decimal :=
  carry (places + 1) ⟨leadingDigits places x, Int.log 10 x - places⟩

/-- One digit too many is not lost but moved into the exponent. -/
theorem Decimal.value_carry (d : Decimal) (places : ℕ) : (carry (places + 1) d).value = d.value := by
  rw [carry]
  split
  case isTrue full =>
    rw [value, value, full, zpow_add_one₀ (by norm_num)]
    simp only [tenTo_eq, Nat.add_sub_cancel]
    push_cast
    ring
  case isFalse => rfl

theorem Decimal.digitCount_carry {d : Decimal} {places : ℕ} (least : 10 ^ places ≤ d.coefficient)
    (greatest : d.coefficient ≤ 10 ^ (places + 1)) :
    digitCount (carry (places + 1) d).coefficient = places + 1 := by
  rw [carry, digitCount_eq_iff]
  split
  case isTrue => exact ⟨le_rfl, Nat.pow_lt_pow_succ (by decide)⟩
  case isFalse fewer => exact ⟨least, greatest.lt_of_ne fewer⟩

section Rounded

variable {x : ℚ} (positive : 0 < x) (places : ℕ)

include positive

theorem scaled_bounds : (10 : ℚ) ^ places ≤ x * 10 ^ (places - Int.log 10 x) ∧
    x * 10 ^ (places - Int.log 10 x) < (10 : ℚ) ^ (places + 1) := by
  have scale : (0 : ℚ) < 10 ^ (places - Int.log 10 x) := zpow_pos (by norm_num) _
  obtain ⟨below, above⟩ := log_bounds positive
  constructor
  · calc (10 : ℚ) ^ places = 10 ^ Int.log 10 x * 10 ^ (places - Int.log 10 x) := by
          rw [← zpow_add₀ (by norm_num), add_sub_cancel, zpow_natCast]
      _ ≤ _ := mul_le_mul_of_nonneg_right below scale.le
  · calc x * 10 ^ (places - Int.log 10 x)
        < 10 ^ (Int.log 10 x + 1) * 10 ^ (places - Int.log 10 x) :=
          mul_lt_mul_of_pos_right above scale
      _ = 10 ^ (places + 1) := by
          rw [← zpow_add₀ (by norm_num), ← zpow_natCast]
          congr 1
          push_cast
          ring

theorem leadingDigits_bounds :
    10 ^ places ≤ leadingDigits places x ∧ leadingDigits places x ≤ 10 ^ (places + 1) := by
  obtain ⟨least, greatest⟩ := scaled_bounds positive places
  constructor
  · refine Nat.le_floor ?_
    push_cast
    linarith
  · refine Nat.lt_succ_iff.mp ((Nat.floor_lt (by positivity)).mpr ?_)
    push_cast
    linarith

/-- Either the digits stay as many as they are, or they all carry. -/
theorem Decimal.ofRat_cases :
    leadingDigits places x < 10 ^ (places + 1) ∧
        ofRat places x = ⟨leadingDigits places x, Int.log 10 x - places⟩ ∨
      leadingDigits places x = 10 ^ (places + 1) ∧
        ofRat places x = ⟨10 ^ places, Int.log 10 x + 1 - places⟩ := by
  obtain ⟨-, greatest⟩ := leadingDigits_bounds positive places
  rcases greatest.lt_or_eq with fewer | carried
  · refine .inl ⟨fewer, ?_⟩
    rw [ofRat, carry, if_neg (by simpa using fewer.ne)]
  · refine .inr ⟨carried, ?_⟩
    rw [ofRat, carry, if_pos (by simpa using carried)]
    simp only [Nat.add_sub_cancel, tenTo_eq, Decimal.mk.injEq, true_and]
    ring

theorem Decimal.digitCount_ofRat : digitCount (ofRat places x).coefficient = places + 1 :=
  digitCount_carry (leadingDigits_bounds positive places).1 (leadingDigits_bounds positive places).2

theorem Decimal.coefficient_ofRat_ne_zero : (ofRat places x).coefficient ≠ 0 :=
  ne_zero_of_digitCount (digitCount_ofRat positive places)

theorem Decimal.leadingExponent_ofRat :
    (ofRat places x).leadingExponent = (ofRat places x).exponent + places := by
  rw [leadingExponent, digitCount_ofRat positive places]
  push_cast
  ring

end Rounded

theorem Magnitude.rounded_eq_ofRat {x : Magnitude} (positive : 0 < x.significand) (places : ℕ) :
    x.rounded (places + 1) = Decimal.ofRat places x.value := by
  have last : x.lastExponent (places + 1) = Int.log 10 x.value - places := by
    rw [lastExponent, decimalExponent_eq_log positive]
    push_cast
    ring
  have digits : roundHalfUp (x.scaled (-x.lastExponent (places + 1))).1
      (x.scaled (-x.lastExponent (places + 1))).2 = leadingDigits places x.value := by
    rw [roundHalfUp_eq_floor (x.scaled_pos _), ← scaled_eq_div, last, neg_sub, leadingDigits]
  rw [Decimal.ofRat, ← digits, ← last]
  rfl

end CrsText
