import CrsText.Proofs.Number.Rounding

/-! Numbers with few significant digits, and rounding to them. Rounding keeps the order, and does not
change a number that is close enough to one with few digits.
-/

set_option autoImplicit false

namespace CrsText

def HasDigits (size : ℕ) (y : ℚ) : Prop :=
  ∃ (coefficient : ℤ) (exponent : ℤ), coefficient.natAbs < 10 ^ size ∧ y = coefficient * 10 ^ exponent

/-- The number with `places + 1` significant digits, a half going away from zero. -/
def roundAway (places : ℕ) (y : ℚ) : ℚ :=
  SignType.sign y *
    (⌊|y| * 10 ^ (places - Int.log 10 |y|) + 1 / 2⌋₊ * 10 ^ (Int.log 10 |y| - places))

section Unit

variable (places : ℕ) (exponent : ℤ)

theorem pow_mul_unit : (10 : ℚ) ^ places * 10 ^ (exponent - places) = 10 ^ exponent := by
  rw [← zpow_natCast, ← zpow_add₀ (by norm_num), add_sub_cancel]

theorem pow_succ_mul_unit :
    (10 : ℚ) ^ (places + 1) * 10 ^ (exponent - places) = 10 ^ (exponent + 1) := by
  rw [pow_succ', mul_assoc, pow_mul_unit, zpow_add_one₀ (by norm_num), mul_comm]

theorem scaled_eq_div_unit (x : ℚ) :
    x * 10 ^ (places - exponent) = x / 10 ^ (exponent - places) := by
  rw [← neg_sub, zpow_neg, div_eq_mul_inv]

end Unit

namespace HasDigits

variable {size places : ℕ} {y : ℚ} {exponent : ℤ}

theorem mul_sign (few : HasDigits size y) (sign : SignType) : HasDigits size (sign * y) := by
  obtain ⟨coefficient, exponent, bounded, rfl⟩ := few
  refine ⟨sign * coefficient, exponent, ?_, by push_cast; ring⟩
  refine lt_of_le_of_lt ?_ bounded
  rw [Int.natAbs_mul]
  cases sign <;> simp

theorem abs (few : HasDigits size y) : HasDigits size |y| := by
  rw [← sign_mul_self]
  exact few.mul_sign _

theorem eq_zero (none : HasDigits 0 y) : y = 0 := by
  obtain ⟨coefficient, exponent, bounded, rfl⟩ := none
  have zero : coefficient = 0 := by simpa using bounded
  rw [zero, Int.cast_zero, zero_mul]

/-- A number with one digit more is a power of ten. -/
theorem of_le {count : ℕ} (fewer : count ≤ 10 ^ (places + 1)) (exponent : ℤ) :
    HasDigits (places + 1) (count * 10 ^ exponent) := by
  rcases fewer.lt_or_eq with less | same
  · exact ⟨count, exponent, by simpa using less, by simp⟩
  · refine ⟨1, (places + 1 : ℕ) + exponent, Nat.one_lt_pow places.succ_ne_zero (by decide), ?_⟩
    rw [same, zpow_add₀ (by norm_num), zpow_natCast]
    push_cast
    ring

/-- A number with `places + 1` digits that is at least `10 ^ exponent`, or almost, is a whole multiple
of the unit that many places further down. -/
theorem exists_eq_mul (few : HasDigits (places + 1) y)
    (near : (10 : ℚ) ^ exponent < y + 10 ^ (exponent - places - 1)) :
    ∃ count : ℕ, y = count * 10 ^ (exponent - places) := by
  obtain ⟨coefficient, own, bounded, rfl⟩ := few
  have scale : (0 : ℚ) < 10 ^ own := zpow_pos (by norm_num) _
  have small : (coefficient : ℚ) ≤ 10 ^ (places + 1) - 1 := by
    have whole : coefficient ≤ (10 ^ (places + 1) : ℕ) - 1 := by omega
    exact_mod_cast whole
  have coarse : exponent - places ≤ own := by
    by_contra finer
    have most : (10 : ℚ) ^ own ≤ 10 ^ (exponent - places - 1) :=
      zpow_le_zpow_right₀ (by norm_num) (by omega)
    have split := pow_succ_mul_unit places (exponent - 1)
    rw [sub_add_cancel, sub_right_comm] at split
    have unit : (1 : ℚ) ≤ 10 ^ (places + 1) := one_le_pow₀ (by norm_num)
    have below := mul_le_mul small most scale.le (by linarith)
    linarith
  have positive : 0 ≤ coefficient := by
    by_contra negative
    have below : (coefficient : ℚ) ≤ -1 := by exact_mod_cast (by omega : coefficient ≤ -1)
    have unit : (10 : ℚ) ^ (exponent - places - 1) ≤ 10 ^ exponent :=
      zpow_le_zpow_right₀ (by norm_num) (by omega)
    have scaled := mul_le_mul_of_nonneg_right below scale.le
    linarith
  obtain ⟨shift, same⟩ := Int.le.dest coarse
  refine ⟨coefficient.toNat * 10 ^ shift, ?_⟩
  have whole : ((coefficient.toNat : ℕ) : ℚ) = coefficient := by
    exact_mod_cast Int.toNat_of_nonneg positive
  rw [← same, zpow_add₀ (by norm_num), zpow_natCast]
  push_cast
  rw [whole]
  ring

end HasDigits

def keptDigits (places : ℕ) (x : ℚ) : ℕ := ⌊x * 10 ^ (places - Int.log 10 x)⌋₊

section Grid

variable {x z : ℚ} (positive : 0 < x) (places : ℕ)

include positive

theorem keptDigits_bounds : 10 ^ places ≤ keptDigits places x ∧ keptDigits places x < 10 ^ (places + 1) := by
  obtain ⟨least, greatest⟩ := scaled_bounds positive places
  constructor
  · exact Nat.le_floor (by exact_mod_cast least)
  · exact (Nat.floor_lt (by positivity)).mpr (by exact_mod_cast greatest)

theorem keptDigits_le : keptDigits places x * 10 ^ (Int.log 10 x - places) ≤ x ∧
    x < (keptDigits places x + 1) * 10 ^ (Int.log 10 x - places) := by
  have unit : (0 : ℚ) < 10 ^ (Int.log 10 x - places) := zpow_pos (by norm_num) _
  rw [← le_div_iff₀ unit, ← div_lt_iff₀ unit, ← scaled_eq_div_unit]
  exact ⟨Nat.floor_le (by positivity), Nat.lt_floor_add_one _⟩

/-- No number with as many digits lies between the cut number and the next one. -/
theorem HasDigits.le_or_le (few : HasDigits (places + 1) z) :
    z ≤ keptDigits places x * 10 ^ (Int.log 10 x - places) ∨
      (keptDigits places x + 1) * 10 ^ (Int.log 10 x - places) ≤ z := by
  have unit : (0 : ℚ) < 10 ^ (Int.log 10 x - places) := zpow_pos (by norm_num) _
  rcases lt_or_ge z (10 ^ Int.log 10 x) with less | more
  · refine .inl (less.le.trans ?_)
    rw [← pow_mul_unit places, mul_le_mul_iff_left₀ unit]
    exact_mod_cast (keptDigits_bounds positive places).1
  · have finer : (0 : ℚ) < 10 ^ (Int.log 10 x - places - 1) := zpow_pos (by norm_num) _
    obtain ⟨count, rfl⟩ := few.exists_eq_mul (by linarith : (10 : ℚ) ^ Int.log 10 x < z + _)
    rw [mul_le_mul_iff_left₀ unit, mul_le_mul_iff_left₀ unit]
    exact_mod_cast le_or_gt count (keptDigits places x)

end Grid

namespace Decimal

/-- Decimals with equally many digits are equal if their values are. -/
theorem eq_of_value_eq {d other : Decimal} {size : ℕ} (counted : digitCount d.coefficient = size + 1)
    (countedOther : digitCount other.coefficient = size + 1) (same : d.value = other.value) :
    d = other := by
  have leading := log_value (ne_zero_of_digitCount counted)
  rw [same, log_value (ne_zero_of_digitCount countedOther), leadingExponent, leadingExponent, counted,
    countedOther] at leading
  have exponent : d.exponent = other.exponent := by omega
  have scale : (10 : ℚ) ^ other.exponent ≠ 0 := zpow_ne_zero _ (by norm_num)
  rw [value, value, exponent, mul_left_inj' scale, Nat.cast_inj] at same
  cases d
  cases other
  rw [mk.injEq]
  exact ⟨same, exponent⟩

theorem value_ofRat (places : ℕ) (x : ℚ) :
    (ofRat places x).value = leadingDigits places x * 10 ^ (Int.log 10 x - places) :=
  value_carry _ _

end Decimal

section Round

variable {places : ℕ} {x y : ℚ}

theorem roundAway_eq (places : ℕ) (y : ℚ) :
    roundAway places y = SignType.sign y * (Decimal.ofRat places |y|).value := by
  rw [Decimal.value_ofRat]
  rfl

theorem roundAway_of_pos (positive : 0 < x) : roundAway places x = (Decimal.ofRat places x).value := by
  rw [roundAway_eq, sign_pos positive, abs_of_pos positive, SignType.coe_one, one_mul]

theorem roundAway_zero : roundAway places 0 = 0 := by
  rw [roundAway, sign_zero, SignType.coe_zero, zero_mul]

theorem roundAway_neg : roundAway places (-y) = -roundAway places y := by
  rw [roundAway, roundAway, abs_neg, Left.sign_neg, SignType.coe_neg, neg_mul]

theorem roundAway_pos (places : ℕ) (positive : 0 < x) : 0 < roundAway places x := by
  rw [roundAway_of_pos positive]
  exact Decimal.value_pos (Decimal.coefficient_ofRat_ne_zero positive places)

theorem sign_roundAway (places : ℕ) (y : ℚ) : SignType.sign (roundAway places y) = SignType.sign y := by
  rcases lt_trichotomy y 0 with negative | rfl | positive
  · have opposite := roundAway_pos places (neg_pos.mpr negative)
    rw [roundAway_neg, neg_pos] at opposite
    rw [sign_neg opposite, sign_neg negative]
  · rw [roundAway_zero]
  · rw [sign_pos (roundAway_pos places positive), sign_pos positive]

theorem abs_roundAway (nonzero : y ≠ 0) : |roundAway places y| = (Decimal.ofRat places |y|).value := by
  rw [← roundAway_of_pos (abs_pos.mpr nonzero)]
  rcases lt_or_gt_of_ne nonzero with negative | positive
  · have opposite := roundAway_pos places (neg_pos.mpr negative)
    rw [abs_of_neg negative, ← abs_of_pos opposite, roundAway_neg, abs_neg]
  · rw [abs_of_pos positive, abs_of_pos (roundAway_pos places positive)]

theorem hasDigits_roundAway : HasDigits (places + 1) (roundAway places y) := by
  refine HasDigits.mul_sign ?_ _
  rcases eq_or_ne y 0 with rfl | nonzero
  · rw [abs_zero, zero_mul, zero_add, Nat.floor_eq_zero.mpr (by norm_num)]
    exact .of_le (Nat.zero_le _) _
  · exact .of_le (leadingDigits_bounds (abs_pos.mpr nonzero) places).2 _

theorem abs_roundAway_sub_le (places : ℕ) (positive : 0 < x) :
    |roundAway places x - x| ≤ 10 ^ (Int.log 10 x - places) / 2 := by
  have unit : (0 : ℚ) < 10 ^ (Int.log 10 x - places) := zpow_pos (by norm_num) _
  have below : (leadingDigits places x : ℚ) ≤ x * 10 ^ (places - Int.log 10 x) + 1 / 2 :=
    Nat.floor_le (by positivity)
  have above : x * 10 ^ (places - Int.log 10 x) + 1 / 2 < leadingDigits places x + 1 :=
    Nat.lt_floor_add_one _
  rw [scaled_eq_div_unit] at below above
  have whole := div_mul_cancel₀ x unit.ne'
  have low := mul_le_mul_of_nonneg_right below unit.le
  have high := mul_le_mul_of_nonneg_right above.le unit.le
  rw [roundAway_of_pos positive, Decimal.value_ofRat, abs_le]
  constructor <;> linarith

/-- Between the powers of ten the digits grow, and at a power of ten all digits carry. -/
theorem roundAway_le_of_pos (places : ℕ) (positive : 0 < x) (order : x ≤ y) :
    roundAway places x ≤ roundAway places y := by
  have above := positive.trans_le order
  have growing : Int.log 10 x ≤ Int.log 10 y := Int.log_mono_right positive order
  rw [roundAway_of_pos positive, roundAway_of_pos above, Decimal.value_ofRat,
    Decimal.value_ofRat]
  rcases growing.eq_or_lt with same | less
  · have scale : (0 : ℚ) < 10 ^ (places - Int.log 10 y) := zpow_pos (by norm_num) _
    rw [leadingDigits, leadingDigits, same]
    gcongr
  · obtain ⟨-, greatest⟩ := leadingDigits_bounds positive places
    obtain ⟨least, -⟩ := leadingDigits_bounds above places
    calc (leadingDigits places x : ℚ) * 10 ^ (Int.log 10 x - places)
        ≤ 10 ^ (places + 1) * 10 ^ (Int.log 10 x - places) := by
          gcongr
          exact_mod_cast greatest
      _ = 10 ^ (Int.log 10 x + 1) := pow_succ_mul_unit _ _
      _ ≤ 10 ^ Int.log 10 y := zpow_le_zpow_right₀ (by norm_num) less
      _ = 10 ^ places * 10 ^ (Int.log 10 y - places) := (pow_mul_unit _ _).symm
      _ ≤ leadingDigits places y * 10 ^ (Int.log 10 y - places) := by
          gcongr
          exact_mod_cast least

theorem roundAway_mono : Monotone (roundAway places) := by
  intro x y order
  rcases lt_or_ge 0 x with positive | below
  · exact roundAway_le_of_pos places positive order
  · rcases lt_or_ge y 0 with negative | above
    · have opposite := roundAway_le_of_pos places (neg_pos.mpr negative) (neg_le_neg order)
      rw [roundAway_neg, roundAway_neg] at opposite
      exact neg_le_neg_iff.mp opposite
    · have nonpositive : roundAway places x ≤ 0 := by
        rw [← sign_nonpos_iff, sign_roundAway, sign_nonpos_iff]
        exact below
      have nonnegative : 0 ≤ roundAway places y := by
        rw [← sign_nonneg_iff, sign_roundAway, sign_nonneg_iff]
        exact above
      exact nonpositive.trans nonnegative

/-- A small part of a number with `places + 1` digits is less than half a unit, and less than a tenth of
it below the power of ten. -/
theorem part_lt_unit {bound : ℚ} (fine : 4 * 10 ^ (places + 1) ≤ bound) (positive : 0 < x)
    (near : |x - y| ≤ y / bound) : |x - y| < 10 ^ (Int.log 10 x - places) / 2 ∧
      (10 : ℚ) ^ Int.log 10 x < y + 10 ^ (Int.log 10 x - places - 1) := by
  have several : (1 : ℚ) ≤ 10 ^ (places + 1) := one_le_pow₀ (by norm_num)
  have unit : (0 : ℚ) < 10 ^ (Int.log 10 x - places) := zpow_pos (by norm_num) _
  obtain ⟨least, greatest⟩ := log_bounds positive
  have above := pow_succ_mul_unit places (Int.log 10 x)
  have below : (10 : ℚ) ^ (Int.log 10 x + 1) = 10 ^ Int.log 10 x * 10 := zpow_add_one₀ (by norm_num) _
  have finer : (10 : ℚ) ^ (Int.log 10 x - places - 1) * 10 = 10 ^ (Int.log 10 x - places) := by
    rw [← zpow_add_one₀ (by norm_num), sub_add_cancel]
  have positiveOther : 0 < y := by
    by_contra negative
    have distance := (le_abs_self _).trans (near.trans (div_nonpos_of_nonpos_of_nonneg
      (not_lt.mp negative) (by linarith)))
    linarith
  obtain ⟨part, whole⟩ : ∃ part, y = 4 * 10 ^ (places + 1) * part :=
    ⟨y / (4 * 10 ^ (places + 1)), (mul_div_cancel₀ _ (by positivity)).symm⟩
  have small : |x - y| ≤ part := by
    refine near.trans ((div_le_iff₀ (by linarith)).mpr ?_)
    have positivePart : 0 < part := by
      rw [whole] at positiveOther
      exact pos_of_mul_pos_right positiveOther (by linarith)
    nlinarith
  obtain ⟨low, high⟩ := abs_le.mp small
  refine ⟨small.trans_lt (by nlinarith), ?_⟩
  rcases lt_or_ge y (10 ^ Int.log 10 x) with less | more
  · have tiny : part < 10 ^ (Int.log 10 x - places) / 10 := by nlinarith
    linarith
  · linarith

/-- Rounding finds a number with few digits again if it has been changed by a small enough part only. -/
theorem roundAway_eq_of_near {bound : ℚ} (fine : 4 * 10 ^ (places + 1) ≤ bound) (positive : 0 < x)
    (few : HasDigits (places + 1) y) (near : |x - y| ≤ y / bound) : roundAway places x = y := by
  have unit : (0 : ℚ) < 10 ^ (Int.log 10 x - places) := zpow_pos (by norm_num) _
  obtain ⟨half, reached⟩ := part_lt_unit fine positive near
  obtain ⟨low, high⟩ := abs_lt.mp half
  obtain ⟨count, same⟩ := few.exists_eq_mul reached
  have digits : leadingDigits places x = count := by
    rw [leadingDigits, scaled_eq_div_unit, Nat.floor_eq_iff (by positivity), ← sub_le_iff_le_add,
      le_div_iff₀ unit, ← lt_sub_iff_add_lt, div_lt_iff₀ unit]
    constructor <;> linarith
  rw [roundAway_of_pos positive, Decimal.value_ofRat, digits, same]

end Round

end CrsText
