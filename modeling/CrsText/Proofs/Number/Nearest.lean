import CrsText.Proofs.Number.Spacing

/-! Reading a number as a floating-point number: the nearest one is taken, and of two that are equally near
the one with the even significand.
-/

set_option autoImplicit false

namespace CrsText

/-- Reading the number `y` gives `v`. What is too large is read as an infinity instead. -/
structure IsNearestFloat (y : ℚ) (v : Float) : Prop where
  finite : v.isFinite
  fits : |y| < overflow
  nearest : ∀ w : Float, w.isFinite → |exactValue v - y| ≤ |exactValue w - y|
  /-- The last bit of the significand is the last bit of the format. -/
  even : ∀ w : Float, w.isFinite → exactValue w ≠ exactValue v →
    |exactValue w - y| = |exactValue v - y| → v.toBits.toNat % 2 = 0

/-- The number `y` lies no further than halfway to a neighbour, and there only if the significand is
even. -/
structure Magnitude.Attracts (x : Magnitude) (y : ℚ) : Prop where
  low : x.value - x.gapBelow / 2 ≤ y
  high : y ≤ x.value + x.ulp / 2
  even : y = x.value - x.gapBelow / 2 ∨ y = x.value + x.ulp / 2 → x.significand % 2 = 0

namespace Magnitude

variable {x z : Magnitude} {y r : ℚ}

theorem Attracts.pos (attracts : x.Attracts y) (double : x.IsDouble) : 0 < y := by
  have narrower := x.gapBelow_le_ulp
  have unit := x.ulp_pos
  have least := le_value (Nat.succ_le_of_lt double.positive)
  have low := attracts.low
  push_cast at least
  linarith

theorem Attracts.fits (attracts : x.Attracts y) (double : x.IsDouble) : |y| < overflow := by
  have unit := x.ulp_pos
  have above := value_pos double.positive
  have high := attracts.high
  rw [abs_of_pos (attracts.pos double)]
  rcases double.isRepresentable_add_ulp with representable | ⟨last, odd⟩
  · obtain ⟨next, nextDouble, same⟩ := representable.exists_double (by linarith)
    have below := nextDouble.value_lt_overflow
    linarith
  · refine (last ▸ high).lt_of_ne fun same => ?_
    have even := attracts.even (.inr (same.trans last.symm))
    omega

theorem Attracts.nearest (attracts : x.Attracts y) (double : x.IsDouble)
    (representable : IsRepresentable r) :
    |x.value - y| ≤ |r - y| ∧ (r ≠ x.value → |r - y| = |x.value - y| → x.significand % 2 = 0) := by
  obtain ⟨low, high, even⟩ := attracts
  have positive := x.ulp_pos
  have gap := x.gapBelow_pos
  rcases lt_trichotomy r x.value with below | same | above
  · have far := representable.le_sub_gapBelow double below
    rw [abs_of_neg (by linarith : r - y < 0)]
    rcases le_total y x.value with less | more
    · rw [abs_of_nonneg (by linarith)]
      exact ⟨by linarith, fun _ tie => even (.inl (by linarith))⟩
    · rw [abs_of_nonpos (by linarith)]
      exact ⟨by linarith, fun _ tie => absurd tie (by linarith)⟩
  · exact ⟨same ▸ le_rfl, fun other => absurd same other⟩
  · have far := representable.add_ulp_le double above
    rw [abs_of_pos (by linarith : 0 < r - y)]
    rcases le_total y x.value with less | more
    · rw [abs_of_nonneg (by linarith)]
      exact ⟨by linarith, fun _ tie => absurd tie (by linarith)⟩
    · rw [abs_of_nonpos (by linarith)]
      exact ⟨by linarith, fun _ tie => even (.inr (by linarith))⟩

/-- A number is nearest to `y` among all numbers if it is so among its neighbours. -/
theorem IsDouble.attracts_iff (double : x.IsDouble) : x.Attracts y ↔ |y| < overflow ∧
    ∀ r, IsRepresentable r → |x.value - y| ≤ |r - y| ∧
      (r ≠ x.value → |r - y| = |x.value - y| → x.significand % 2 = 0) := by
  constructor
  · intro attracts
    exact ⟨attracts.fits double, fun r representable => attracts.nearest double representable⟩
  · rintro ⟨fits, nearest⟩
    have positive := x.ulp_pos
    have gap := x.gapBelow_pos
    obtain ⟨lower, lowerTie⟩ := nearest _ double.isRepresentable_sub_gapBelow
    constructor
    · by_contra less
      have closer : |x.value - x.gapBelow - y| < x.value - y := abs_lt.mpr ⟨by linarith, by linarith⟩
      exact (closer.trans_le (le_abs_self _)).not_ge lower
    · by_contra more
      rcases double.isRepresentable_add_ulp with representable | ⟨last, -⟩
      · have closer : |x.value + x.ulp - y| < -(x.value - y) := abs_lt.mpr ⟨by linarith, by linarith⟩
        exact (closer.trans_le (neg_le_abs _)).not_ge (nearest _ representable).1
      · have below := (le_abs_self y).trans_lt fits
        linarith
    · rintro (same | same)
      · refine lowerTie (by linarith) ?_
        rw [same, abs_sub_comm]
        congr 1
        ring
      · rcases double.isRepresentable_add_ulp with representable | ⟨last, -⟩
        · refine (nearest _ representable).2 (by linarith) ?_
          rw [same, abs_sub_comm x.value]
          congr 1
          ring
        · have below := (le_abs_self y).trans_lt fits
          linarith

/-- Of two neighbours that are equally near one is odd. -/
theorem IsDouble.value_le_of_attracts (double : x.IsDouble) (other : z.IsDouble) (attracts : x.Attracts y)
    (attractsOther : z.Attracts y) : z.value ≤ x.value := by
  by_contra above
  rw [not_le] at above
  have below := other.le_sub_gapBelow double above
  have far := double.add_ulp_le other above
  have high := attracts.high
  have low := attractsOther.low
  have even := attracts.even (.inr (by linarith))
  have evenOther := attractsOther.even (.inl (by linarith))
  rcases double.exists_next with ⟨next, nextDouble, value, -, parity⟩ | ⟨-, odd⟩
  · obtain rfl : next = z := nextDouble.eq_of_value_eq other (by linarith)
    omega
  · omega

theorem IsDouble.eq_of_attracts (double : x.IsDouble) (other : z.IsDouble) (attracts : x.Attracts y)
    (attractsOther : z.Attracts y) : x = z :=
  double.eq_of_value_eq other (le_antisymm (other.value_le_of_attracts double attractsOther attracts)
    (double.value_le_of_attracts other attracts attractsOther))

end Magnitude

/-- The significand and the whole bits end in the same bit. -/
theorem Binary.significand_mod_two {bits : Nat} {negative : Bool} {x : Magnitude}
    (read : Binary.ofBits bits = .finite negative x) : x.significand % 2 = bits % 2 := by
  simp only [ofBits] at read
  split_ifs at read
  all_goals
    cases read
    simp only [Magnitude.leastNormalSignificand, twoTo_eq] at *
    omega

section Signed

variable {v : Float} {q r y : ℚ}

theorem abs_sign (nonzero : q ≠ 0) : |(SignType.sign q : ℚ)| = 1 := by
  rcases lt_or_gt_of_ne nonzero with negative | positive
  · simp [negative]
  · simp [positive]

theorem sign_mul_sign_mul (nonzero : q ≠ 0) (a : ℚ) : (SignType.sign q * (SignType.sign q * a) : ℚ) = a := by
  rcases lt_or_gt_of_ne nonzero with negative | positive
  · simp [negative]
  · simp [positive]

theorem abs_sub_sign_mul (nonzero : q ≠ 0) (a b : ℚ) :
    |a - SignType.sign q * b| = |SignType.sign q * a - b| := by
  rw [← one_mul |a - _|, ← abs_sign nonzero, ← abs_mul, mul_sub, sign_mul_sign_mul nonzero]

theorem IsRepresentable.sign_mul (representable : IsRepresentable r) (nonzero : q ≠ 0) :
    IsRepresentable (SignType.sign q * r) := by
  rcases lt_or_gt_of_ne nonzero with negative | positive
  · rw [sign_neg negative, SignType.coe_neg_one, neg_one_mul]
    exact representable.neg
  · rwa [sign_pos positive, SignType.coe_one, one_mul]

/-- A number attracts what is read as it, apart from the sign. -/
theorem isNearestFloat_iff {x : Magnitude} (nonzero : exactValue v ≠ 0) (double : x.IsDouble)
    (read : Binary.ofFloat v = .finite (decide (exactValue v < 0)) x) (value : x.value = |exactValue v|) :
    IsNearestFloat y v ↔ x.Attracts (SignType.sign (exactValue v) * y) := by
  have back := sign_mul_sign_mul nonzero
  have flip := abs_sub_sign_mul nonzero
  have whole := sign_mul_abs (exactValue v)
  have size : |SignType.sign (exactValue v) * y| = |y| := by rw [abs_mul, abs_sign nonzero, one_mul]
  rw [← value] at whole
  rw [double.attracts_iff, Binary.significand_mod_two read, size]
  constructor
  · intro given
    refine ⟨given.fits, fun r isValue => ?_⟩
    obtain ⟨w, finite, same⟩ := isValue.sign_mul nonzero
    rw [flip, flip, whole, ← same]
    refine ⟨given.nearest w finite, fun other => given.even w finite fun equal => other ?_⟩
    rw [← back r, ← same, equal, ← back x.value, whole]
  · rintro ⟨fits, all⟩
    have each : ∀ w : Float, w.isFinite → |exactValue v - y| ≤ |exactValue w - y| ∧
        (exactValue w ≠ exactValue v → |exactValue w - y| = |exactValue v - y| →
          v.toBits.toNat % 2 = 0) := by
      intro w finite
      have representable : IsRepresentable (exactValue w) := ⟨w, finite, rfl⟩
      obtain ⟨nearest, even⟩ := all _ (representable.sign_mul nonzero)
      rw [flip, flip, whole, back] at nearest even
      refine ⟨nearest, fun other => even fun equal => other ?_⟩
      rw [← whole, ← equal, back]
    exact ⟨isFinite_of_ne_zero nonzero, fits, fun w finite => (each w finite).1,
      fun w finite => (each w finite).2⟩

end Signed

/-! Within the range of full significands what is read is off by less than one part in 2 ^ 53. -/

def leastNormal : ℚ := 2 ^ (-1022 : ℤ)

theorem Magnitude.Attracts.error_le {x : Magnitude} {y : ℚ} (attracts : x.Attracts y)
    (double : x.IsDouble) (normal : leastNormal ≤ y) : |x.value - y| ≤ y / 2 ^ 53 := by
  have positive := x.ulp_pos
  have narrower := x.gapBelow_le_ulp
  obtain ⟨low, high, -⟩ := attracts
  have least : x.exponent = -1074 → leastNormal = 2 ^ 52 * x.ulp := by
    intro same
    rw [ulp, same, ← zpow_natCast, ← zpow_add₀ two_ne_zero]
    rfl
  rcases lt_trichotomy x.significand (2 ^ 52) with fewer | power | more
  · have below : x.value ≤ ((2 ^ 52 - 1 : ℕ) : ℚ) * x.ulp := value_le (Nat.le_pred_of_lt fewer)
    rw [least (double.normal.resolve_left fewer.not_ge)] at normal
    push_cast at below
    linarith
  · have whole : x.value = 2 ^ 52 * x.ulp := by rw [value_eq, power]; push_cast; rfl
    rw [abs_le]
    by_cases narrow : x.narrowBelow
    · rw [gapBelow, if_pos narrow] at low
      constructor <;> linarith
    · have last : x.exponent = -1074 := by
        have bound := double.least
        rw [narrowBelow_iff] at narrow
        omega
      rw [least last] at normal
      constructor <;> linarith
  · have above : ((2 ^ 52 + 1 : ℕ) : ℚ) * x.ulp ≤ x.value := le_value more
    rw [abs_le]
    push_cast at above
    constructor <;> linarith

theorem isRepresentable_leastNormal : IsRepresentable leastNormal := by
  have double : Magnitude.IsDouble ⟨2 ^ 52, -1074⟩ := by
    constructor <;> dsimp only <;> omega
  have same : leastNormal = Magnitude.value ⟨2 ^ 52, -1074⟩ := by
    rw [Magnitude.value, Nat.cast_pow, Nat.cast_ofNat, ← zpow_natCast, ← zpow_add₀ two_ne_zero]
    rfl
  rw [same]
  exact double.isRepresentable

namespace IsNearestFloat

variable {v w : Float} {y : ℚ}

theorem ne_zero (nearest : IsNearestFloat y v) (normal : leastNormal ≤ |y|) : exactValue v ≠ 0 := by
  intro zero
  have positive : 0 < leastNormal := zpow_pos two_pos _
  have closer : ∀ r, IsRepresentable r → |y| ≤ |r - y| := by
    rintro r ⟨w, finite, rfl⟩
    have near := nearest.nearest w finite
    rwa [zero, zero_sub, abs_neg] at near
  rcases abs_cases y with ⟨same, -⟩ | ⟨same, -⟩
  · have near := closer _ isRepresentable_leastNormal
    rw [same] at near normal
    rw [abs_of_nonpos (by linarith)] at near
    linarith
  · have near := closer _ isRepresentable_leastNormal.neg
    rw [same] at near normal
    rw [abs_of_nonneg (by linarith)] at near
    linarith

/-- The number that is read is a magnitude of the format with the sign of `y`. -/
theorem exists_attracts (nearest : IsNearestFloat y v) (nonzero : exactValue v ≠ 0) :
    SignType.sign (exactValue v) = SignType.sign y ∧
      ∃ x : Magnitude, x.IsDouble ∧ x.value = |exactValue v| ∧ x.Attracts |y| := by
  obtain ⟨x, double, read, value⟩ := exists_magnitude nonzero
  have attracts := (isNearestFloat_iff nonzero double read value).mp nearest
  have positive := attracts.pos double
  have same : SignType.sign (exactValue v) = SignType.sign y := by
    rcases lt_or_gt_of_ne nonzero with negative | above
    · rw [sign_neg negative] at positive ⊢
      exact (sign_neg (by simpa using positive)).symm
    · rw [sign_pos above] at positive ⊢
      exact (sign_pos (by simpa using positive)).symm
  rw [same, sign_mul_self] at attracts
  exact ⟨same, x, double, value, attracts⟩

theorem error_le (nearest : IsNearestFloat y v) (normal : leastNormal ≤ |y|) :
    |(|exactValue v| - |y|)| ≤ |y| / 2 ^ 53 := by
  obtain ⟨-, x, double, value, attracts⟩ := nearest.exists_attracts (nearest.ne_zero normal)
  rw [← value]
  exact attracts.error_le double normal

theorem unique (nearest : IsNearestFloat y v) (other : IsNearestFloat y w) (nonzero : exactValue v ≠ 0)
    (nonzeroOther : exactValue w ≠ 0) : v = w := by
  obtain ⟨same, x, double, value, attracts⟩ := nearest.exists_attracts nonzero
  obtain ⟨sameOther, z, doubleOther, valueOther, attractsOther⟩ := other.exists_attracts nonzeroOther
  obtain rfl := double.eq_of_attracts doubleOther attracts attractsOther
  refine eq_of_exactValue_eq nonzero ?_
  rw [← sign_mul_abs (exactValue v), ← sign_mul_abs (exactValue w), same, sameOther, ← value, ← valueOther]

end IsNearestFloat

def greatestFinite : ℚ := (2 - 2 ^ (-52 : ℤ)) * 2 ^ (1023 : ℤ)

theorem greatestFinite_lt : greatestFinite < overflow := by
  have unit : (2 : ℚ) ^ (1023 : ℤ) = 2 ^ 52 * 2 ^ (971 : ℤ) := by
    rw [← zpow_natCast, ← zpow_add₀ two_ne_zero]
    rfl
  have positive : (0 : ℚ) < 2 ^ (971 : ℤ) := zpow_pos two_pos _
  rw [greatestFinite, overflow, unit]
  have scaled : (2 - (2 : ℚ) ^ (-52 : ℤ)) * 2 ^ 52 = 2 ^ 53 - 1 := by norm_num
  rw [← mul_assoc, scaled]
  exact mul_lt_mul_of_pos_right (by norm_num) positive

namespace Magnitude

variable {x : Magnitude} {y : ℚ}

/-- Between two neighbours a number is attracted by one of them. -/
theorem IsDouble.exists_attracts (double : x.IsDouble) (least : x.value ≤ y)
    (greatest : y < x.value + x.ulp) (fits : y < overflow) :
    ∃ near : Magnitude, near.IsDouble ∧ near.Attracts y := by
  have positive := x.ulp_pos
  have gap := x.gapBelow_pos
  by_cases here : x.Attracts y
  · exact ⟨x, double, here⟩
  · have above : x.value + x.ulp / 2 ≤ y ∧ (y = x.value + x.ulp / 2 → x.significand % 2 = 1) := by
      by_contra below
      rw [not_and_or, not_le, Classical.not_imp] at below
      refine here ⟨by linarith, ?_, ?_⟩
      · rcases below with less | ⟨same, -⟩ <;> linarith
      · rintro (same | same)
        · linarith
        · rcases below with less | ⟨-, odd⟩
          · linarith
          · omega
    obtain ⟨half, odd⟩ := above
    rcases double.exists_next with ⟨next, other, value, width, parity⟩ | ⟨last, -⟩
    · have wide := next.ulp_pos
      refine ⟨next, other, by rw [value, width]; linarith, by linarith, ?_⟩
      rintro (same | same)
      · have half : x.significand % 2 = 1 := odd (by rw [value, width] at same; linarith)
        omega
      · linarith
    · linarith

/-- The numbers with a full significand have the binary exponents of the format. -/
theorem log_two_bounds (normal : leastNormal ≤ y) (fits : y < overflow) :
    -1022 ≤ Int.log 2 y ∧ Int.log 2 y < 1024 := by
  have positive : 0 < y := lt_of_lt_of_le (zpow_pos two_pos _) normal
  have power : ((2 : ℕ) : ℚ) ^ (1024 : ℤ) = 2 ^ 53 * 2 ^ (971 : ℤ) := by
    rw [Nat.cast_ofNat, ← zpow_natCast, ← zpow_add₀ two_ne_zero]
    rfl
  constructor
  · refine (Int.zpow_le_iff_le_log one_lt_two positive).mp ?_
    exact_mod_cast normal
  · refine (Int.lt_zpow_iff_log_lt one_lt_two positive).mp (fits.trans ?_)
    rw [power]
    exact mul_lt_mul_of_pos_right (by norm_num) (zpow_pos two_pos _)

/-- In units of the last of 53 binary digits a number has 53 binary digits before the point. -/
theorem div_unit_bounds (positive : 0 < y) :
    2 ^ 52 ≤ y / 2 ^ (Int.log 2 y - 52) ∧ y / 2 ^ (Int.log 2 y - 52) < 2 ^ 53 := by
  have unit : (0 : ℚ) < 2 ^ (Int.log 2 y - 52) := zpow_pos two_pos _
  have below : (2 : ℚ) ^ Int.log 2 y ≤ y := by
    exact_mod_cast Int.zpow_log_le_self (b := 2) one_lt_two positive
  have above : y < (2 : ℚ) ^ (Int.log 2 y + 1) := by
    exact_mod_cast Int.lt_zpow_succ_log_self (b := 2) one_lt_two y
  rw [le_div_iff₀ unit, div_lt_iff₀ unit, ← zpow_natCast, ← zpow_natCast, ← zpow_add₀ two_ne_zero,
    ← zpow_add₀ two_ne_zero]
  constructor
  · refine le_of_eq_of_le (congrArg _ ?_) below
    omega
  · refine above.trans_eq (congrArg _ ?_)
    omega

/-- A number within the range of full significands lies between two neighbours. -/
theorem exists_between (normal : leastNormal ≤ y) (fits : y < overflow) :
    ∃ x : Magnitude, x.IsDouble ∧ x.value ≤ y ∧ y < x.value + x.ulp := by
  have positive : 0 < y := lt_of_lt_of_le (zpow_pos two_pos _) normal
  have unit : (0 : ℚ) < 2 ^ (Int.log 2 y - 52) := zpow_pos two_pos _
  obtain ⟨least, greatest⟩ := log_two_bounds normal fits
  obtain ⟨full, bounded⟩ := div_unit_bounds positive
  let x : Magnitude := ⟨⌊y / 2 ^ (Int.log 2 y - 52)⌋₊, Int.log 2 y - 52⟩
  have full : 2 ^ 52 ≤ x.significand := Nat.le_floor (by exact_mod_cast full)
  have bounded : x.significand < 2 ^ 53 := (Nat.floor_lt (by positivity)).mpr (by exact_mod_cast bounded)
  refine ⟨x, by constructor <;> dsimp only [x] at * <;> omega, ?_, ?_⟩
  · exact (le_div_iff₀ unit).mp (Nat.floor_le (by positivity))
  · have next := (div_lt_iff₀ unit).mp (Nat.lt_floor_add_one (y / 2 ^ (Int.log 2 y - 52)))
    rw [add_one_mul] at next
    exact next

end Magnitude

theorem exists_isNearestFloat {y : ℚ} (normal : leastNormal ≤ |y|) (fits : |y| < overflow) :
    ∃ v, IsNearestFloat y v := by
  obtain ⟨low, double, least, greatest⟩ := Magnitude.exists_between normal fits
  obtain ⟨x, near, attracts⟩ := double.exists_attracts least greatest fits
  obtain ⟨v, read⟩ := Binary.exists_ofFloat near (decide (y < 0))
  have whole := exactValue_of_ofFloat read
  have above := Magnitude.value_pos near.positive
  refine ⟨v, ?_⟩
  rcases lt_or_ge y 0 with negative | positive
  · rw [decide_eq_true negative, if_pos rfl] at whole
    have below : exactValue v < 0 := by linarith
    have value : x.value = |exactValue v| := by rw [whole, abs_neg, abs_of_pos above]
    rw [decide_eq_true negative, ← decide_eq_true below] at read
    rw [isNearestFloat_iff below.ne near read value, sign_neg below, SignType.coe_neg_one, neg_one_mul,
      ← abs_of_neg negative]
    exact attracts
  · rw [decide_eq_false positive.not_gt, if_neg Bool.false_ne_true] at whole
    have value : x.value = |exactValue v| := by rw [whole, abs_of_pos above]
    rw [← whole] at above
    rw [decide_eq_false positive.not_gt, ← decide_eq_false above.not_gt] at read
    rw [isNearestFloat_iff above.ne' near read value, sign_pos above, SignType.coe_one, one_mul,
      ← abs_of_nonneg positive]
    exact attracts

end CrsText
