import CrsText.Proofs.Number.Normalized

/-! A number divided by its difference from another one. The difference of unequal numbers is not much
smaller than the numbers, so the quotient is finite, even where the difference is too large.
-/

set_option autoImplicit false

open Float.Model (UnpackedFloat totalExponent)
open Float.Model.UnpackedFloat (Sign roundWithAccuracy accuracyOfFraction)
open Float.Model.Format (binary64)

namespace CrsText

/-- Only a number with more than 1023 places before the point may be rounded to infinity. -/
theorem Rounds.isFinite_pack {sign : Sign} {mantissa : ℕ} {exponent : ℤ} {result : UnpackedFloat}
    (rounds : Rounds sign mantissa exponent result)
    (small : totalExponent mantissa exponent ≤ 1023) :
    (Float.Model.pack result).unpack.isFinite := by
  cases rounds with
  | zero => simp [UnpackedFloat.isFinite]
  | finite x normalized _ greatest =>
    rw [targetExponent_eq] at greatest
    rw [unpack_pack_finite (normalized.isDouble (by omega))]
    rfl

section Division

/-- The logarithm of a quotient is not larger than the difference of the logarithms. -/
theorem log2_div_le {divisor : ℕ} (positive : 0 < divisor) (n : ℕ) :
    (n / divisor).log2 ≤ n.log2 - divisor.log2 := by
  by_cases zero : n / divisor = 0
  · simp [zero]
  · have product : 2 ^ ((n / divisor).log2 + divisor.log2) ≤ n := by
      rw [pow_add]
      exact (Nat.mul_le_mul (Nat.log2_self_le zero) (Nat.log2_self_le positive.ne')).trans
        (Nat.div_mul_le_self n divisor)
    have notZero : n ≠ 0 := by
      rintro rfl
      simp at zero
    have bits := (Nat.le_log2 notZero).mpr product
    omega

/-- A quotient is finite unless the dividend is larger by more than 1022 places. -/
theorem isFinite_div_finite {x y : Magnitude} (sign signOther : Sign) (positive : 0 < x.significand)
    (positiveOther : 0 < y.significand)
    (near : totalExponent x.significand x.exponent ≤
      totalExponent y.significand y.exponent + 1022) :
    (Float.Model.pack (UnpackedFloat.div binary64 (.finite sign x.significand x.exponent positive)
      (.finite signOther y.significand y.exponent positiveOther))).unpack.isFinite := by
  set target := min (x.exponent - y.exponent) (binary64.targetExponent
    (totalExponent x.significand x.exponent - totalExponent y.significand y.exponent)) with target_eq
  set count := (x.exponent - y.exponent - target).toNat with count_eq
  set dividend := x.significand <<< count with dividend_eq
  have bits : dividend.log2 = x.significand.log2 + count := log2_shiftLeft positive count
  have enough : dividend.log2 ≤ (dividend / y.significand).log2 + (y.significand.log2 + 1) :=
    log2_le_of_div_le positiveOther Nat.lt_log2_self.le le_rfl
  have few := log2_div_le positiveOther dividend
  rw [targetExponent_eq] at target_eq
  simp only [totalExponent] at target_eq near
  have low : target ≤ binary64.targetExponent (totalExponent (dividend / y.significand) target) := by
    rw [targetExponent_eq, totalExponent]
    omega
  refine (rounds_roundWithAccuracy (sign / signOther)
    (accuracyOfFraction (dividend % y.significand) y.significand) low).isFinite_pack ?_
  rw [totalExponent]
  omega

end Division

section Difference

/-- The numerator of a difference over the smaller one of two powers of two. -/
def difference (sign : Sign) (x : Magnitude) (signOther : Sign) (y : Magnitude) : ℤ :=
  sign.apply (x.significand <<< (x.exponent - min x.exponent y.exponent).toNat : ℕ) -
    signOther.apply (y.significand <<< (y.exponent - min x.exponent y.exponent).toNat : ℕ)

theorem apply_shiftLeft (sign : Sign) (significand : ℕ) {exponent smaller : ℤ}
    (smaller_le : smaller ≤ exponent) :
    ((sign.apply (significand <<< (exponent - smaller).toNat : ℕ) : ℤ) : ℚ) * 2 ^ smaller =
      sign.apply significand * 2 ^ exponent := by
  have scale : (2 : ℚ) ^ exponent = 2 ^ (exponent - smaller).toNat * 2 ^ smaller := by
    rw [← zpow_natCast, ← zpow_add₀ two_ne_zero]
    congr 1
    omega
  rw [scale, ← mul_assoc]
  congr 1
  cases sign <;> simp [Sign.apply, Nat.shiftLeft_eq]

theorem difference_value (sign : Sign) (x : Magnitude) (signOther : Sign) (y : Magnitude) :
    (difference sign x signOther y : ℚ) * 2 ^ min x.exponent y.exponent =
      sign.apply x.significand * 2 ^ x.exponent - signOther.apply y.significand * 2 ^ y.exponent := by
  rw [difference, Int.cast_sub, sub_mul, apply_shiftLeft _ _ (min_le_left _ _),
    apply_shiftLeft _ _ (min_le_right _ _)]

theorem difference_eq_zero_iff (sign : Sign) (x : Magnitude) (signOther : Sign) (y : Magnitude) :
    difference sign x signOther y = 0 ↔
      (sign.apply x.significand : ℚ) * 2 ^ x.exponent =
        signOther.apply y.significand * 2 ^ y.exponent := by
  have scale : (2 : ℚ) ^ min x.exponent y.exponent ≠ 0 := zpow_ne_zero _ two_ne_zero
  rw [← sub_eq_zero (a := (_ : ℚ)), ← difference_value, mul_eq_zero, or_iff_left scale, Int.cast_eq_zero]

theorem le_natAbs_sub_apply (sign signOther : Sign) (a b : ℕ) :
    a ≤ (sign.apply a - signOther.apply b).natAbs + b := by
  cases sign <;> cases signOther <;> simp only [Sign.apply] <;> omega

/-- The difference of unequal numbers is at least half a unit in the last place of the first one. -/
theorem exponent_le_difference {sign signOther : Sign} {x y : Magnitude} (double : x.IsDouble)
    (doubleOther : y.IsDouble) (unequal : difference sign x signOther y ≠ 0) :
    x.exponent ≤ min x.exponent y.exponent + (difference sign x signOther y).natAbs.log2 + 1 := by
  by_cases near : x.exponent ≤ y.exponent + 1
  · omega
  · obtain ⟨count, shifted⟩ : ∃ count : ℕ, x.exponent = y.exponent + (count + 2 : ℕ) :=
      ⟨(x.exponent - y.exponent - 2).toNat, by omega⟩
    have smaller : min x.exponent y.exponent = y.exponent := by omega
    have large := le_natAbs_sub_apply sign signOther (x.significand <<< (count + 2)) y.significand
    have same : (sign.apply (x.significand <<< (count + 2) : ℕ) - signOther.apply y.significand) =
        difference sign x signOther y := by
      rw [difference, smaller, shifted, add_sub_cancel_left, Int.toNat_natCast, sub_self,
        Int.toNat_zero, Nat.shiftLeft_zero]
    -- The exponent of the first number is larger, so it is a normal one.
    have normal := double.normal.resolve_right (by have := doubleOther.least; omega)
    have power : 2 ^ (count + 1) ≤ (difference sign x signOther y).natAbs := by
      have scaled := Nat.mul_le_mul_right (2 ^ (count + 2)) normal
      have bounded := doubleOther.bounded
      rw [same, Nat.shiftLeft_eq] at large
      have atLeastOne := Nat.one_le_two_pow (n := count)
      simp only [pow_succ _ (count + 1), pow_succ _ count] at scaled large ⊢
      omega
    have bits := (Nat.le_log2 (Int.natAbs_ne_zero.mpr unequal)).mpr power
    omega

theorem rounds_normalize {mantissa : ℤ} (nonzero : mantissa ≠ 0) (exponent : ℤ) :
    ∃ sign, Rounds sign mantissa.natAbs exponent (.normalize binary64 mantissa exponent .positive) := by
  have positive := Int.natAbs_pos.mpr nonzero
  unfold UnpackedFloat.normalize
  rcases lt_trichotomy mantissa 0 with below | zero | above
  · rw [Int.compare_eq_lt.mpr below]
    have same : (-mantissa).toNat = mantissa.natAbs := by omega
    dsimp only
    rw [same]
    exact ⟨.negative, rounds_round .negative positive⟩
  · contradiction
  · rw [Int.compare_eq_gt.mpr above]
    have same : mantissa.toNat = mantissa.natAbs := by omega
    dsimp only
    rw [same]
    exact ⟨.positive, rounds_round .positive positive⟩

end Difference

section Flattening

theorem isFinite_div_zero (sign signOther : Sign) {x : Magnitude} (positive : 0 < x.significand) :
    ¬ (Float.Model.pack (.div binary64 (.finite sign x.significand x.exponent positive)
      (.zero signOther))).unpack.isFinite := by
  simp [UnpackedFloat.div, UnpackedFloat.isFinite]

/-- A rounded divisor may be too large for the format; the quotient is zero then. -/
theorem Rounds.isFinite_div {sign signOther : Sign} {x : Magnitude} (positive : 0 < x.significand)
    {mantissa : ℕ} {exponent : ℤ} {divisor : UnpackedFloat}
    (rounds : Rounds signOther mantissa exponent divisor) (nonzero : mantissa ≠ 0)
    (least : -1074 ≤ exponent)
    (near : totalExponent x.significand x.exponent ≤ totalExponent mantissa exponent + 1022) :
    (Float.Model.pack (.div binary64 (.finite sign x.significand x.exponent positive)
      (Float.Model.pack divisor).unpack)).unpack.isFinite := by
  cases rounds with
  | zero vanishing => omega
  | finite y normalized places _ =>
    by_cases greatest : y.exponent ≤ 971
    · rw [unpack_pack_finite (normalized.isDouble greatest)]
      exact isFinite_div_finite _ _ _ _ (by omega)
    · rw [unpack_pack_overflow (by omega)]
      simp [UnpackedFloat.div, UnpackedFloat.isFinite]

theorem isFinite_div_sub_finite {x y : Magnitude} (double : x.IsDouble) (doubleOther : y.IsDouble)
    (sign signOther : Sign) :
    (Float.Model.pack (.div binary64 (.finite sign x.significand x.exponent double.positive)
      (Float.Model.pack (.sub binary64 (.finite sign x.significand x.exponent double.positive)
        (.finite signOther y.significand y.exponent doubleOther.positive))).unpack)).unpack.isFinite ↔
      difference sign x signOther y ≠ 0 := by
  have result : UnpackedFloat.sub binary64 (.finite sign x.significand x.exponent double.positive)
      (.finite signOther y.significand y.exponent doubleOther.positive) =
        .normalize binary64 (difference sign x signOther y) (min x.exponent y.exponent) .positive := rfl
  rw [result]
  by_cases equal : difference sign x signOther y = 0
  · simpa [equal, UnpackedFloat.normalize] using isFinite_div_zero sign .positive double.positive
  · obtain ⟨signRounded, rounds⟩ := rounds_normalize equal (min x.exponent y.exponent)
    refine iff_of_true (rounds.isFinite_div double.positive (Int.natAbs_ne_zero.mpr equal) ?_ ?_) equal
    · exact le_min double.least doubleOther.least
    · have bits : x.significand.log2 < 53 := (Nat.log2_lt double.positive.ne').mpr double.bounded
      have near := exponent_le_difference double doubleOther equal
      rw [totalExponent, totalExponent]
      omega

inductive IsUnpacked (v : Float) : Prop
  | zero (sign : Sign) (unpacked : v.toModel.unpack = .zero sign) (value : exactValue v = 0)
  | finite (sign : Sign) (x : Magnitude) (double : x.IsDouble)
      (unpacked : v.toModel.unpack = .finite sign x.significand x.exponent double.positive)
      (value : exactValue v = sign.apply x.significand * 2 ^ x.exponent)

theorem isUnpacked_of_isFinite {v : Float} (finite : v.isFinite) : IsUnpacked v := by
  change v.toModel.unpack.isFinite at finite
  cases unpacked : v.toModel.unpack with
  | zero sign => exact .zero sign unpacked (by rw [exactValue, unpacked])
  | finite sign significand exponent positive =>
    exact .finite sign ⟨significand, exponent⟩ (isDouble_of_unpack unpacked) unpacked
      (by rw [exactValue, unpacked])
  | _ =>
    rw [unpacked] at finite
    cases finite

theorem apply_ne_zero (sign : Sign) {x : Magnitude} (positive : 0 < x.significand) :
    (sign.apply x.significand : ℚ) * 2 ^ x.exponent ≠ 0 := by
  refine mul_ne_zero ?_ (zpow_ne_zero _ two_ne_zero)
  cases sign <;> simp [Sign.apply, positive.ne']

/-- A number divided by its difference from another one is finite unless the two are equal. -/
theorem isFinite_div_sub {v w : Float} (finite : v.isFinite) (finiteOther : w.isFinite) :
    (v / (v - w)).isFinite ↔ exactValue v ≠ exactValue w := by
  change (Float.Model.pack (.div binary64 v.toModel.unpack
    (Float.Model.pack (.sub binary64 v.toModel.unpack w.toModel.unpack)).unpack)).unpack.isFinite ↔ _
  cases isUnpacked_of_isFinite finite with
  | zero sign unpacked value =>
    cases isUnpacked_of_isFinite finiteOther with
    | zero signOther unpackedOther valueOther =>
      rw [unpacked, unpackedOther, value, valueOther]
      refine iff_of_false ?_ (not_not_intro rfl)
      cases sign <;> cases signOther <;> decide
    | finite signOther y doubleOther unpackedOther valueOther =>
      rw [unpacked, unpackedOther, value, valueOther, UnpackedFloat.sub, unpack_pack_finite doubleOther]
      refine iff_of_true ?_ (apply_ne_zero signOther doubleOther.positive).symm
      simp [UnpackedFloat.div, UnpackedFloat.isFinite]
  | finite sign x double unpacked value =>
    cases isUnpacked_of_isFinite finiteOther with
    | zero signOther unpackedOther valueOther =>
      rw [unpacked, unpackedOther, value, valueOther]
      refine iff_of_true ?_ (apply_ne_zero sign double.positive)
      -- The difference is the number itself.
      change (Float.Model.pack (.div binary64 _ (Float.Model.pack
        (.finite sign x.significand x.exponent double.positive)).unpack)).unpack.isFinite
      rw [unpack_pack_finite double]
      exact isFinite_div_finite sign sign double.positive double.positive (by omega)
    | finite signOther y doubleOther unpackedOther valueOther =>
      rw [unpacked, unpackedOther, value, valueOther, isFinite_div_sub_finite double doubleOther,
        not_iff_not]
      exact difference_eq_zero_iff sign x signOther y

end Flattening

end CrsText
