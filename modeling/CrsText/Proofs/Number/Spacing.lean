import CrsText.Proofs.Number.Representable

/-! How far apart the floating-point numbers lie. The neighbours of a number are one unit away, except
that the one below a power of two is nearer by half.
-/

set_option autoImplicit false

open Float.Model.UnpackedFloat (Sign)

namespace CrsText

/-- Half a unit beyond the largest number. -/
def overflow : ℚ := (2 ^ 53 - 1 / 2) * 2 ^ (971 : ℤ)

namespace Magnitude

def ulp (x : Magnitude) : ℚ := 2 ^ x.exponent

def gapBelow (x : Magnitude) : ℚ := if x.narrowBelow then x.ulp / 2 else x.ulp

variable {x y : Magnitude}

theorem value_eq (x : Magnitude) : x.value = x.significand * x.ulp := rfl

theorem ulp_pos (x : Magnitude) : 0 < x.ulp := zpow_pos two_pos _

theorem narrowBelow_iff : x.narrowBelow ↔ x.significand = 2 ^ 52 ∧ -1074 < x.exponent := by
  rw [narrowBelow, Bool.and_eq_true, beq_iff_eq, decide_eq_true_iff]
  rfl

theorem gapBelow_pos (x : Magnitude) : 0 < x.gapBelow := by
  have positive := x.ulp_pos
  rw [gapBelow]
  split <;> linarith

theorem gapBelow_le_ulp (x : Magnitude) : x.gapBelow ≤ x.ulp := by
  have positive := x.ulp_pos
  rw [gapBelow]
  split <;> linarith

theorem two_mul_ulp_le (order : x.exponent < y.exponent) : 2 * x.ulp ≤ y.ulp := by
  have next : 2 * x.ulp = 2 ^ (x.exponent + 1) := by
    rw [zpow_add_one₀ two_ne_zero, ulp, mul_comm]
  rw [next]
  exact zpow_le_zpow_right₀ one_le_two order

/-- A number with no smaller exponent is a whole number of units of the other. -/
theorem exists_value_eq_mul_ulp (order : x.exponent ≤ y.exponent) :
    ∃ count : ℕ, y.value = count * x.ulp := by
  refine ⟨y.significand * 2 ^ (y.exponent - x.exponent).toNat, ?_⟩
  have shift : y.exponent = (y.exponent - x.exponent).toNat + x.exponent := by omega
  rw [value, ulp, Nat.cast_mul, Nat.cast_pow, Nat.cast_ofNat, mul_assoc, ← zpow_natCast,
    ← zpow_add₀ two_ne_zero, ← shift]

theorem le_value {count : ℕ} (least : count ≤ x.significand) : count * x.ulp ≤ x.value :=
  mul_le_mul_of_nonneg_right (Nat.cast_le.mpr least) x.ulp_pos.le

theorem value_le {count : ℕ} (greatest : x.significand ≤ count) : x.value ≤ count * x.ulp :=
  mul_le_mul_of_nonneg_right (Nat.cast_le.mpr greatest) x.ulp_pos.le

namespace IsDouble

/-- Of two exponents the larger one is that of the larger number, whose significand is full. -/
theorem le_value_of_exponent_lt (double : x.IsDouble) (other : y.IsDouble)
    (order : x.exponent < y.exponent) : x.value + x.ulp ≤ 2 ^ 52 * y.ulp ∧ 2 ^ 52 ≤ y.significand := by
  have full : 2 ^ 52 ≤ y.significand := other.normal.resolve_right (by have := double.least; omega)
  have below : x.value ≤ ((2 ^ 53 - 1 : ℕ) : ℚ) * x.ulp := value_le (Nat.le_pred_of_lt double.bounded)
  have wide := two_mul_ulp_le order
  push_cast at below
  exact ⟨by linarith, full⟩

theorem value_lt_iff (double : x.IsDouble) (other : y.IsDouble) : x.value < y.value ↔
    x.exponent < y.exponent ∨ x.exponent = y.exponent ∧ x.significand < y.significand := by
  have larger : ∀ {x y : Magnitude}, x.IsDouble → y.IsDouble → x.exponent < y.exponent →
      x.value < y.value := by
    intro x y double other order
    obtain ⟨below, full⟩ := double.le_value_of_exponent_lt other order
    have above := le_value full
    have positive := x.ulp_pos
    push_cast at above
    linarith
  rcases lt_trichotomy x.exponent y.exponent with less | same | more
  · exact iff_of_true (larger double other less) (.inl less)
  · have scale : x.value < y.value ↔ x.significand < y.significand := by
      rw [value_eq, value_eq, ulp, same, ← ulp, mul_lt_mul_iff_left₀ y.ulp_pos, Nat.cast_lt]
    simp [scale, same]
  · exact iff_of_false (larger other double more).le.not_gt (by omega)

theorem isLE_compare_iff (double : x.IsDouble) (other : y.IsDouble) :
    ((compare x.exponent y.exponent).then (compare x.significand y.significand)).isLE ↔
      x.value ≤ y.value := by
  rw [← not_lt, other.value_lt_iff double]
  rcases lt_trichotomy x.exponent y.exponent with less | same | more
  · simp [Int.compare_eq_lt.mpr less]
    omega
  · simp [same, Nat.isLE_compare]
  · simp [Int.compare_eq_gt.mpr more, more]

theorem eq_of_value_eq (double : x.IsDouble) (other : y.IsDouble) (same : x.value = y.value) : x = y := by
  have less := mt (value_lt_iff double other).mpr same.not_lt
  have more := mt (value_lt_iff other double).mpr same.not_gt
  obtain ⟨significand, exponent⟩ := x
  obtain ⟨otherSignificand, otherExponent⟩ := y
  simp only [Magnitude.mk.injEq] at less more ⊢
  omega

/-- No number lies within a unit above. -/
theorem add_ulp_le (double : x.IsDouble) (other : y.IsDouble) (above : x.value < y.value) :
    x.value + x.ulp ≤ y.value := by
  rcases lt_or_ge y.exponent x.exponent with less | order
  · exact absurd ((value_lt_iff other double).mpr (.inl less)) above.not_gt
  · obtain ⟨count, same⟩ := exists_value_eq_mul_ulp order
    rw [same, value_eq] at above ⊢
    have more : x.significand + 1 ≤ count :=
      Nat.cast_lt.mp ((mul_lt_mul_iff_left₀ x.ulp_pos).mp above)
    have scaled := mul_le_mul_of_nonneg_right (Nat.cast_le (α := ℚ).mpr more) x.ulp_pos.le
    push_cast at scaled
    linarith

/-- No number lies within the gap below. -/
theorem le_sub_gapBelow (double : x.IsDouble) (other : y.IsDouble) (below : y.value < x.value) :
    y.value ≤ x.value - x.gapBelow := by
  rcases lt_or_ge y.exponent x.exponent with less | order
  · obtain ⟨next, full⟩ := other.le_value_of_exponent_lt double less
    have wide := two_mul_ulp_le less
    by_cases narrow : x.narrowBelow
    · have greatest : y.value ≤ ((2 ^ 53 - 1 : ℕ) : ℚ) * y.ulp :=
        value_le (Nat.le_pred_of_lt other.bounded)
      rw [value_eq x, gapBelow, if_pos narrow, (narrowBelow_iff.mp narrow).1]
      push_cast at greatest ⊢
      linarith
    · have more : 2 ^ 52 + 1 ≤ x.significand := by
        have least := other.least
        rw [narrowBelow_iff] at narrow
        omega
      have above := le_value more
      have positive := y.ulp_pos
      rw [gapBelow, if_neg narrow]
      push_cast at above
      linarith
  · obtain ⟨count, same⟩ := exists_value_eq_mul_ulp order
    have narrower := x.gapBelow_le_ulp
    rw [same, value_eq] at below ⊢
    have fewer : count + 1 ≤ x.significand :=
      Nat.cast_lt.mp ((mul_lt_mul_iff_left₀ x.ulp_pos).mp below)
    have scaled := mul_le_mul_of_nonneg_right (Nat.cast_le (α := ℚ).mpr fewer) x.ulp_pos.le
    push_cast at scaled
    linarith

theorem isRepresentable (double : x.IsDouble) : IsRepresentable x.value :=
  isRepresentable_iff.mpr (.inr ⟨x, double, abs_of_pos (value_pos double.positive)⟩)

theorem value_lt_overflow (double : x.IsDouble) : x.value < overflow := by
  have greatest : x.value ≤ ((2 ^ 53 - 1 : ℕ) : ℚ) * x.ulp := value_le (Nat.le_pred_of_lt double.bounded)
  have widest : x.ulp ≤ 2 ^ (971 : ℤ) := zpow_le_zpow_right₀ one_le_two double.greatest
  have positive : (0 : ℚ) < 2 ^ (971 : ℤ) := zpow_pos two_pos _
  rw [overflow]
  generalize (2 : ℚ) ^ (971 : ℤ) = unit at *
  push_cast at greatest
  linarith

/-- The next number follows at the distance of a unit, and one of the two is even. Only the largest
number, which is odd, has none above. -/
theorem exists_next (double : x.IsDouble) :
    (∃ next : Magnitude, next.IsDouble ∧ next.value = x.value + x.ulp ∧ next.gapBelow = x.ulp ∧
      next.significand % 2 = (x.significand + 1) % 2) ∨
    x.value + x.ulp / 2 = overflow ∧ x.significand % 2 = 1 := by
  obtain ⟨positive, bounded, least, greatest, normal⟩ := double
  by_cases full : x.significand + 1 = 2 ^ 53
  · have significand : (x.significand : ℚ) = 2 ^ 53 - 1 := by
      rw [eq_sub_iff_add_eq]
      exact_mod_cast full
    rcases greatest.lt_or_eq with less | last
    · let next : Magnitude := ⟨2 ^ 52, x.exponent + 1⟩
      have narrow : next.narrowBelow := narrowBelow_iff.mpr ⟨rfl, Int.lt_add_one_of_le least⟩
      have wider : next.ulp = x.ulp * 2 := zpow_add_one₀ two_ne_zero _
      refine .inl ⟨next, by constructor <;> dsimp only [next] <;> omega, ?_, ?_,
        by dsimp only [next]; omega⟩
      · rw [value_eq, value_eq, significand, wider]
        dsimp only [next]
        push_cast
        ring
      · rw [gapBelow, if_pos narrow, wider]
        ring
    · refine .inr ⟨?_, by omega⟩
      rw [value_eq, significand, ulp, last, overflow]
      ring
  · let next : Magnitude := ⟨x.significand + 1, x.exponent⟩
    have wide : ¬ next.narrowBelow := by
      rw [narrowBelow_iff]
      dsimp only [next]
      omega
    refine .inl ⟨next, by constructor <;> dsimp only [next] <;> omega, ?_, if_neg wide, rfl⟩
    rw [value, value, ulp]
    dsimp only [next]
    push_cast
    ring

theorem isRepresentable_add_ulp (double : x.IsDouble) :
    IsRepresentable (x.value + x.ulp) ∨ x.value + x.ulp / 2 = overflow ∧ x.significand % 2 = 1 :=
  double.exists_next.imp_left fun ⟨_, other, same, _⟩ => same ▸ other.isRepresentable

theorem isRepresentable_sub_gapBelow (double : x.IsDouble) : IsRepresentable (x.value - x.gapBelow) := by
  obtain ⟨positive, bounded, least, greatest, normal⟩ := double
  by_cases narrow : x.narrowBelow
  · obtain ⟨power, above⟩ := narrowBelow_iff.mp narrow
    have next : IsDouble ⟨2 ^ 53 - 1, x.exponent - 1⟩ := by
      constructor <;> dsimp only <;> omega
    have same : x.value - x.gapBelow = value ⟨2 ^ 53 - 1, x.exponent - 1⟩ := by
      rw [value, value, gapBelow, if_pos narrow, ulp, power, zpow_sub_one₀ two_ne_zero]
      push_cast
      ring
    rw [same]
    exact next.isRepresentable
  · rw [gapBelow, if_neg narrow]
    rw [narrowBelow_iff] at narrow
    have same : x.value - x.ulp = (x.significand - 1 : ℕ) * 2 ^ x.exponent := by
      rw [value, ulp, Nat.cast_pred positive]
      ring
    rw [same]
    rcases Nat.eq_zero_or_pos (x.significand - 1) with zero | some
    · rw [zero, Nat.cast_zero, zero_mul]
      exact isRepresentable_iff.mpr (.inl rfl)
    · have next : IsDouble ⟨x.significand - 1, x.exponent⟩ := by
        constructor <;> dsimp only <;> omega
      exact next.isRepresentable

end IsDouble

end Magnitude

namespace IsRepresentable

variable {x : Magnitude} {r : ℚ}

theorem exists_double (representable : IsRepresentable r) (positive : 0 < r) :
    ∃ y : Magnitude, y.IsDouble ∧ r = y.value := by
  obtain ⟨y, double, same⟩ := (isRepresentable_iff.mp representable).resolve_left positive.ne'
  exact ⟨y, double, by rw [← same, abs_of_pos positive]⟩

theorem neg (representable : IsRepresentable r) : IsRepresentable (-r) := by
  rw [isRepresentable_iff, neg_eq_zero, abs_neg]
  exact isRepresentable_iff.mp representable

theorem add_ulp_le (representable : IsRepresentable r) (double : x.IsDouble) (above : x.value < r) :
    x.value + x.ulp ≤ r := by
  obtain ⟨y, other, rfl⟩ := representable.exists_double ((Magnitude.value_pos double.positive).trans above)
  exact double.add_ulp_le other above

theorem le_sub_gapBelow (representable : IsRepresentable r) (double : x.IsDouble) (below : r < x.value) :
    r ≤ x.value - x.gapBelow := by
  rcases le_or_gt r 0 with negative | positive
  · have least := Magnitude.le_value (Nat.succ_le_of_lt double.positive)
    have narrower := x.gapBelow_le_ulp
    push_cast at least
    linarith
  · obtain ⟨y, other, rfl⟩ := representable.exists_double positive
    exact double.le_sub_gapBelow other below

end IsRepresentable

/-- The bits of a finite number other than zero are determined by its sign and its magnitude. -/
theorem Binary.eq_of_ofBits_eq {bits others : Nat} {negative : Bool} {x : Magnitude}
    (bounded : bits < 2 ^ 64) (othersBounded : others < 2 ^ 64)
    (read : Binary.ofBits bits = .finite negative x)
    (same : Binary.ofBits others = .finite negative x) : bits = others := by
  rw [← read] at same
  simp only [ofBits] at read same
  split_ifs at read same
  all_goals
    simp only [finite.injEq, Magnitude.mk.injEq, beq_eq_decide, decide_eq_decide,
      Magnitude.leastNormalSignificand, Magnitude.leastExponent, twoTo_eq] at *
    omega

theorem eq_of_exactValue_eq {v w : Float} (nonzero : exactValue v ≠ 0)
    (same : exactValue v = exactValue w) : v = w := by
  obtain ⟨x, double, read, value⟩ := exists_magnitude nonzero
  obtain ⟨y, other, readOther, valueOther⟩ := exists_magnitude (same ▸ nonzero)
  rw [← same] at readOther valueOther
  obtain rfl := double.eq_of_value_eq other (value.trans valueOther.symm)
  have bits : v.toBits.toNat = w.toBits.toNat :=
    Binary.eq_of_ofBits_eq v.toBits.toNat_lt w.toBits.toNat_lt read readOther
  have word : v.toModel.toBits = w.toModel.toBits := UInt64.toNat_inj.mp bits
  obtain ⟨⟨_, _⟩⟩ := v
  obtain ⟨⟨_, _⟩⟩ := w
  cases word
  rfl

theorem negative_apply (mantissa : ℕ) (exponent : ℤ) :
    ((Sign.negative.apply mantissa : ℤ) : ℚ) * 2 ^ exponent = -Magnitude.value ⟨mantissa, exponent⟩ := by
  rw [Sign.apply, Int.cast_neg, Int.cast_natCast, neg_mul]
  rfl

theorem positive_apply (mantissa : ℕ) (exponent : ℤ) :
    ((Sign.positive.apply mantissa : ℤ) : ℚ) * 2 ^ exponent = Magnitude.value ⟨mantissa, exponent⟩ := by
  rw [Sign.apply, Int.cast_natCast]
  rfl

/-- The order of finite floating-point numbers is that of their values. -/
theorem exactValue_le_of_le {v w : Float} (finite : v.isFinite) (finiteOther : w.isFinite) (order : v ≤ w) :
    exactValue v ≤ exactValue w := by
  have isLE : (v.toModel.unpack.compare w.toModel.unpack).any (·.isLE) :=
    (of_decide_eq_true order : v.toModel ≤ w.toModel)
  have neither : v.toModel.unpack.isFinite := finite
  have neitherOther : w.toModel.unpack.isFinite := finiteOther
  have double := @isDouble_of_unpack v
  have other := @isDouble_of_unpack w
  unfold exactValue
  generalize v.toModel.unpack = first at *
  generalize w.toModel.unpack = second at *
  have above : ∀ {mantissa : ℕ} (exponent : ℤ), 0 < mantissa → 0 < Magnitude.value ⟨mantissa, exponent⟩ :=
    fun _ positive => Magnitude.value_pos positive
  match first, second with
  | .zero _, .zero _ => exact le_rfl
  | .zero _, .finite .positive mantissa exponent positive =>
    simp only [positive_apply]
    exact (above exponent positive).le
  | .finite .negative mantissa exponent positive, .zero _ =>
    simp only [negative_apply]
    exact (neg_neg_of_pos (above exponent positive)).le
  | .finite .negative mantissa exponent positive,
    .finite .positive otherMantissa otherExponent otherPositive =>
    simp only [negative_apply, positive_apply]
    exact ((neg_neg_of_pos (above exponent positive)).trans (above otherExponent otherPositive)).le
  | .finite .positive mantissa exponent positive,
    .finite .positive otherMantissa otherExponent otherPositive =>
    simp only [positive_apply]
    exact ((double rfl).isLE_compare_iff (other rfl)).mp isLE
  | .finite .negative mantissa exponent positive,
    .finite .negative otherMantissa otherExponent otherPositive =>
    simp only [negative_apply, neg_le_neg_iff]
    refine ((other rfl).isLE_compare_iff (double rfl)).mp ?_
    rw [Std.OrientedOrd.eq_swap (a := otherExponent), Std.OrientedOrd.eq_swap (a := otherMantissa),
      ← Ordering.swap_then]
    exact isLE

/-- Floating-point numbers that compare equal have the same value. -/
theorem exactValue_eq_of_beq {v w : Float} (same : v == w) : exactValue v = exactValue w := by
  have equal : v.toModel.unpack.compare w.toModel.unpack = some .eq := eq_of_beq same
  unfold exactValue
  generalize v.toModel.unpack = first at *
  generalize w.toModel.unpack = second at *
  unfold Float.Model.UnpackedFloat.compare at equal
  split at equal <;> try first | rfl | cases equal
  -- What is left are two numbers of the same sign that are not zero.
  all_goals
    simp only [Option.some.injEq, Ordering.then_eq_eq, Ordering.swap_eq_eq,
      Std.compare_eq_iff_eq] at equal
    obtain ⟨rfl, rfl⟩ := equal
    rfl

end CrsText
