import CrsText.Proofs.Number.Nearest
import CrsText.Proofs.Number.Significant

/-! The shortest decimal that reads back as a given number. With a given number of digits only the two
neighbours of the number have to be tried, and seventeen digits are always enough.
-/

set_option autoImplicit false

namespace CrsText

namespace Magnitude

variable {x : Magnitude}

section Attracts

variable {a b y : ℚ}

theorem attracts_of_lt (low : x.value - x.gapBelow / 2 < y) (high : y < x.value + x.ulp / 2) :
    x.Attracts y :=
  ⟨low.le, high.le, fun ends => ends.elim (fun same => absurd same low.ne') fun same => absurd same high.ne⟩

theorem attracts_value : x.Attracts x.value :=
  attracts_of_lt (by linarith [x.gapBelow_pos]) (by linarith [x.ulp_pos])

/-- What is attracted is an interval. -/
theorem Attracts.of_between (lower : x.Attracts a) (upper : x.Attracts b) (above : a ≤ y) (below : y ≤ b) :
    x.Attracts y := by
  refine ⟨lower.low.trans above, below.trans upper.high, ?_⟩
  rintro (same | same)
  · exact lower.even (.inl (le_antisymm (above.trans_eq same) lower.low))
  · exact upper.even (.inr (le_antisymm upper.high (same.symm.trans_le below)))

end Attracts

/-! Reading back is decided on whole numbers, which are the decimal and the ends of the interval multiplied
by a common denominator.
-/

section ReadsBack

/-- A common denominator of the decimal and of a quarter of a unit. -/
def commonScale (x : Magnitude) (d : Decimal) : ℚ :=
  10 ^ (-d.exponent).toNat * 2 ^ (2 - x.exponent).toNat

variable (d : Decimal)

theorem commonScale_pos : 0 < x.commonScale d := by
  rw [commonScale]
  positivity

theorem cast_decimal :
    ((d.coefficient * tenTo d.exponent.toNat * twoTo (2 - x.exponent).toNat : ℕ) : ℚ) =
      d.value * x.commonScale d := by
  rw [Decimal.value, zpow_eq_div (by norm_num), commonScale, tenTo_eq, twoTo_eq]
  push_cast
  field_simp

theorem cast_quarters (count : ℕ) :
    ((count * (twoTo (x.exponent - 2).toNat * tenTo (-d.exponent).toNat) : ℕ) : ℚ) =
      count * (x.ulp / 4) * x.commonScale d := by
  have quarter : x.ulp / 4 = 2 ^ (x.exponent - 2) := by
    rw [ulp, zpow_sub₀ two_ne_zero]
    norm_num
  rw [quarter, zpow_eq_div two_ne_zero, neg_sub, commonScale, tenTo_eq, twoTo_eq]
  push_cast
  field_simp

theorem low_quarters (positive : 0 < x.significand) :
    ((4 * x.significand - if x.narrowBelow then 1 else 2 : ℕ) : ℚ) * (x.ulp / 4) =
      x.value - x.gapBelow / 2 := by
  rw [gapBelow, value_eq]
  split
  · rw [Nat.cast_sub (by omega)]
    push_cast
    ring
  · rw [Nat.cast_sub (by omega)]
    push_cast
    ring

theorem high_quarters :
    ((4 * x.significand + 2 : ℕ) : ℚ) * (x.ulp / 4) = x.value + x.ulp / 2 := by
  rw [value_eq]
  push_cast
  ring

variable {d}

theorem cast_scaled {n m : ℕ} {a b : ℚ} (left : n = a * x.commonScale d) (right : m = b * x.commonScale d) :
    (n ≤ m ↔ a ≤ b) ∧ (n < m ↔ a < b) := by
  have positive := x.commonScale_pos d
  rw [← Nat.cast_le (α := ℚ), ← Nat.cast_lt (α := ℚ), left, right]
  exact ⟨mul_le_mul_iff_left₀ positive, mul_lt_mul_iff_left₀ positive⟩

end ReadsBack

theorem readsBack_iff (positive : 0 < x.significand) (d : Decimal) : x.readsBack d ↔ x.Attracts d.value := by
  have decimal := cast_decimal (x := x) d
  have low := cast_quarters (x := x) d (4 * x.significand - if x.narrowBelow then 1 else 2)
  have high := cast_quarters (x := x) d (4 * x.significand + 2)
  rw [low_quarters positive] at low
  rw [high_quarters] at high
  obtain ⟨lowLe, lowLt⟩ := cast_scaled low decimal
  obtain ⟨highLe, highLt⟩ := cast_scaled decimal high
  rw [readsBack]
  split
  case isTrue even =>
    rw [Bool.and_eq_true, decide_eq_true_iff, decide_eq_true_iff, lowLe, highLe]
    constructor
    · rintro ⟨low, high⟩
      exact ⟨low, high, fun _ => even⟩
    · intro attracts
      exact ⟨attracts.low, attracts.high⟩
  case isFalse odd =>
    rw [Bool.and_eq_true, decide_eq_true_iff, decide_eq_true_iff, lowLt, highLt]
    constructor
    · rintro ⟨low, high⟩
      exact attracts_of_lt low high
    · intro attracts
      exact ⟨attracts.low.lt_of_ne fun same => odd (attracts.even (.inl same.symm)),
        attracts.high.lt_of_ne fun same => odd (attracts.even (.inr same))⟩

/-- Of the decimals with the given number of digits that read back as `x` none is nearer. -/
structure IsNeighbour (x : Magnitude) (size : ℕ) (d : Decimal) : Prop where
  counted : digitCount d.coefficient = size
  attracts : x.Attracts d.value
  nearest : ∀ z, HasDigits size z → x.Attracts z → |d.value - x.value| ≤ |z - x.value|

theorem roundsUp_spec (tie : Tie) (lower remainder denominator : ℕ) :
    if roundsUp tie lower remainder denominator then denominator ≤ 2 * remainder
    else 2 * remainder ≤ denominator := by
  unfold roundsUp
  rcases lt_trichotomy (2 * remainder) denominator with less | same | more
  · rw [Nat.compare_eq_lt.mpr less]
    exact less.le
  · rw [Nat.compare_eq_eq.mpr same]
    cases tie <;> dsimp only <;> split <;> omega
  · rw [Nat.compare_eq_gt.mpr more]
    exact more.le

/-- The decimal of `places + 1` digits that is reached by cutting off the others. -/
def lower (places : ℕ) (x : Magnitude) : Decimal :=
  ⟨keptDigits places x.value, Int.log 10 x.value - places⟩

def upper (places : ℕ) (x : Magnitude) : Decimal :=
  ⟨keptDigits places x.value + 1, Int.log 10 x.value - places⟩

theorem value_lower (places : ℕ) (x : Magnitude) : (x.lower places).value =
    keptDigits places x.value * 10 ^ (Int.log 10 x.value - places) := rfl

theorem value_upper (places : ℕ) (x : Magnitude) : (x.upper places).value =
    (keptDigits places x.value + 1) * 10 ^ (Int.log 10 x.value - places) := by
  rw [upper, Decimal.value, Nat.cast_add_one]

/-- Half a unit or more that is cut off calls for the upper neighbour. -/
theorem neighbours_of_half {places numerator denominator : ℕ} (below : 0 < denominator)
    (whole : (keptDigits places x.value + ((numerator % denominator : ℕ) : ℚ) / denominator) *
      10 ^ (Int.log 10 x.value - places) = x.value) :
    (denominator ≤ 2 * (numerator % denominator) →
      (x.upper places).value - x.value ≤ x.value - (x.lower places).value) ∧
    (2 * (numerator % denominator) ≤ denominator →
      x.value - (x.lower places).value ≤ (x.upper places).value - x.value) := by
  have unit : (0 : ℚ) < 10 ^ (Int.log 10 x.value - places) := zpow_pos (by norm_num) _
  have large : (0 : ℚ) < denominator := Nat.cast_pos.mpr below
  rw [value_lower, value_upper]
  generalize (10 : ℚ) ^ (Int.log 10 x.value - places) = unit at *
  constructor
  · intro half
    have more : 1 / 2 ≤ ((numerator % denominator : ℕ) : ℚ) / denominator := by
      rw [div_le_div_iff₀ two_pos large, one_mul, mul_comm]
      exact_mod_cast half
    have scaled := mul_le_mul_of_nonneg_right more unit.le
    linarith
  · intro half
    have less : ((numerator % denominator : ℕ) : ℚ) / denominator ≤ 1 / 2 := by
      rw [div_le_div_iff₀ large two_pos, one_mul, mul_comm]
      exact_mod_cast half
    have scaled := mul_le_mul_of_nonneg_right less unit.le
    linarith

section Neighbour

variable (positive : 0 < x.significand) (places : ℕ)

include positive

theorem lastExponent_eq : x.lastExponent (places + 1) = Int.log 10 x.value - places := by
  rw [lastExponent, decimalExponent_eq_log positive]
  push_cast
  ring

/-- The digits that are kept, and the part of a unit that is cut off. -/
theorem scaled_eq_kept : ∃ numerator denominator : ℕ, 0 < denominator ∧
    x.scaled (-x.lastExponent (places + 1)) = (numerator, denominator) ∧
    numerator / denominator = keptDigits places x.value ∧
    (keptDigits places x.value + ((numerator % denominator : ℕ) : ℚ) / denominator) *
      10 ^ (Int.log 10 x.value - places) = x.value := by
  have below := x.scaled_pos (-x.lastExponent (places + 1))
  have scaled := x.scaled_eq_div (-x.lastExponent (places + 1))
  rcases fraction : x.scaled (-x.lastExponent (places + 1)) with ⟨numerator, denominator⟩
  rw [fraction] at below scaled
  have nonzero : (denominator : ℚ) ≠ 0 := Nat.cast_ne_zero.mpr below.ne'
  have unit : (10 : ℚ) ^ (Int.log 10 x.value - places) ≠ 0 := zpow_ne_zero _ (by norm_num)
  rw [lastExponent_eq positive] at scaled
  have kept : numerator / denominator = keptDigits places x.value := by
    rw [keptDigits, ← neg_sub, scaled, Nat.floor_div_eq_div]
  refine ⟨numerator, denominator, below, rfl, kept, ?_⟩
  have whole : (numerator : ℚ) =
      denominator * (numerator / denominator : ℕ) + (numerator % denominator : ℕ) := by
    exact_mod_cast (Nat.div_add_mod numerator denominator).symm
  rw [← kept, ← eq_div_iff unit, div_eq_mul_inv x.value, ← zpow_neg, scaled, whole]
  field_simp

theorem lower_le : (x.lower places).value ≤ x.value ∧ x.value < (x.upper places).value := by
  rw [value_lower, value_upper]
  exact keptDigits_le (value_pos positive) places

/-- If any decimal with as many digits reads back as `x` then so does a neighbour on the same side. -/
theorem Attracts.neighbour {z : ℚ} (attracts : x.Attracts z) (few : HasDigits (places + 1) z) :
    x.Attracts (x.lower places).value ∧ x.value - (x.lower places).value ≤ |z - x.value| ∨
      x.Attracts (x.upper places).value ∧ (x.upper places).value - x.value ≤ |z - x.value| := by
  obtain ⟨below, above⟩ := lower_le positive places
  have sides := few.le_or_le (value_pos positive)
  rw [← value_lower, ← value_upper] at sides
  rcases sides with less | more
  · refine .inl ⟨attracts.of_between attracts_value less below, ?_⟩
    rw [abs_of_nonpos (by linarith)]
    linarith
  · refine .inr ⟨attracts_value.of_between attracts above.le more, ?_⟩
    rw [abs_of_nonneg (by linarith)]
    linarith

theorem isNeighbour_lower (attracts : x.Attracts (x.lower places).value)
    (nearer : x.Attracts (x.upper places).value →
      x.value - (x.lower places).value ≤ (x.upper places).value - x.value) :
    x.IsNeighbour (places + 1) (x.lower places) := by
  refine ⟨digitCount_eq_iff.mpr (keptDigits_bounds (value_pos positive) places), attracts,
    fun z few other => ?_⟩
  rw [abs_of_nonpos (sub_nonpos.mpr (lower_le positive places).1), neg_sub]
  rcases other.neighbour positive places few with ⟨-, near⟩ | ⟨both, near⟩
  · exact near
  · exact (nearer both).trans near

theorem isNeighbour_upper (attracts : x.Attracts (x.upper places).value)
    (nearer : x.Attracts (x.lower places).value →
      (x.upper places).value - x.value ≤ x.value - (x.lower places).value) :
    x.IsNeighbour (places + 1) ((x.upper places).carry (places + 1)) := by
  obtain ⟨least, greatest⟩ := keptDigits_bounds (value_pos positive) places
  refine ⟨Decimal.digitCount_carry (Nat.le_succ_of_le least) greatest, ?_, fun z few other => ?_⟩
  · rwa [Decimal.value_carry]
  · rw [Decimal.value_carry, abs_of_pos (sub_pos.mpr (lower_le positive places).2)]
    rcases other.neighbour positive places few with ⟨both, near⟩ | ⟨-, near⟩
    · exact (nearer both).trans near
    · exact near

/-- Either a neighbour is found, or no decimal with as many digits reads back as `x`. -/
theorem neighbour?_cases (tie : Tie) :
    (∃ d, x.neighbour? tie (places + 1) = some d ∧ x.IsNeighbour (places + 1) d) ∨
      x.neighbour? tie (places + 1) = none ∧ ∀ z, HasDigits (places + 1) z → ¬ x.Attracts z := by
  obtain ⟨numerator, denominator, below, scaled, kept, whole⟩ := scaled_eq_kept positive places
  obtain ⟨up, down⟩ := neighbours_of_half below whole
  have rounding := roundsUp_spec tie (keptDigits places x.value) (numerator % denominator) denominator
  have readsLower : x.readsBack ⟨keptDigits places x.value, Int.log 10 x.value - places⟩ ↔
      x.Attracts (x.lower places).value := x.readsBack_iff positive _
  have readsUpper : x.readsBack ⟨keptDigits places x.value + 1, Int.log 10 x.value - places⟩ ↔
      x.Attracts (x.upper places).value := x.readsBack_iff positive _
  rw [neighbour?, scaled]
  dsimp only
  rw [kept, lastExponent_eq positive]
  by_cases attractsLower : x.Attracts (x.lower places).value
  · rw [readsLower.mpr attractsLower]
    by_cases attractsUpper : x.Attracts (x.upper places).value
    · rw [readsUpper.mpr attractsUpper]
      dsimp only
      split at rounding
      case isTrue upwards =>
        rw [if_pos upwards]
        exact .inl ⟨_, rfl, isNeighbour_upper positive places attractsUpper fun _ => up rounding⟩
      case isFalse downwards =>
        rw [if_neg downwards]
        exact .inl ⟨_, rfl, isNeighbour_lower positive places attractsLower fun _ => down rounding⟩
    · rw [Bool.eq_false_iff.mpr (mt readsUpper.mp attractsUpper)]
      exact .inl ⟨_, rfl, isNeighbour_lower positive places attractsLower fun both =>
        absurd both attractsUpper⟩
  · rw [Bool.eq_false_iff.mpr (mt readsLower.mp attractsLower)]
    by_cases attractsUpper : x.Attracts (x.upper places).value
    · rw [readsUpper.mpr attractsUpper]
      exact .inl ⟨_, rfl, isNeighbour_upper positive places attractsUpper fun both =>
        absurd both attractsLower⟩
    · rw [Bool.eq_false_iff.mpr (mt readsUpper.mp attractsUpper)]
      refine .inr ⟨rfl, fun z few attracts => ?_⟩
      rcases attracts.neighbour positive places few with ⟨here, -⟩ | ⟨here, -⟩
      · exact attractsLower here
      · exact attractsUpper here

end Neighbour

theorem IsDouble.value_le_mul_gapBelow (double : x.IsDouble) : x.value ≤ 2 ^ 53 * x.gapBelow := by
  have unit := x.ulp_pos
  rw [gapBelow]
  split
  case isTrue narrow =>
    rw [value_eq, (narrowBelow_iff.mp narrow).1]
    push_cast
    linarith
  case isFalse =>
    rw [value_eq]
    exact mul_le_mul_of_nonneg_right (by exact_mod_cast double.bounded.le) unit.le

/-- Seventeen digits are more precise than the format. -/
theorem IsDouble.attracts_roundAway (double : x.IsDouble) : x.Attracts (roundAway 16 x.value) := by
  have positive := value_pos double.positive
  have wide := double.value_le_mul_gapBelow
  have narrower := x.gapBelow_le_ulp
  obtain ⟨least, -⟩ := log_bounds positive
  rw [← pow_mul_unit 16] at least
  obtain ⟨low, high⟩ := abs_le.mp (abs_roundAway_sub_le 16 positive)
  generalize (10 : ℚ) ^ (Int.log 10 x.value - (16 : ℕ)) = unit at *
  exact attracts_of_lt (by linarith) (by linarith)

/-- The first number of digits for which a decimal reads back as `x` is the smallest one. -/
theorem IsDouble.shortest_spec (double : x.IsDouble) (tie : Tie) :
    ∃ places, x.IsNeighbour (places + 1) (x.shortest tie) ∧
      ∀ fewer ≤ places, ∀ z, HasDigits fewer z → ¬ x.Attracts z := by
  have tried := fun places => neighbour?_cases double.positive places tie
  rw [shortest]
  cases found : (List.range mostDigits).findSome? fun size => x.neighbour? tie (size + 1) with
  | none =>
    rcases tried 16 with ⟨d, here, -⟩ | ⟨-, none⟩
    · rw [List.findSome?_eq_none_iff.mp found 16 (by decide)] at here
      cases here
    · exact absurd double.attracts_roundAway (none _ hasDigits_roundAway)
  | some d =>
    obtain ⟨front, places, behind, split, here, before⟩ := List.findSome?_eq_some_iff.mp found
    rw [List.range_eq_range'] at split
    obtain ⟨count, -, rfl, rest⟩ := List.range'_eq_append_iff.mp split
    obtain ⟨same, -, -⟩ := List.range'_eq_cons_iff.mp rest.symm
    rw [zero_add, mul_one] at same
    subst same
    refine ⟨count, ?_, fun fewer less z few attracts => ?_⟩
    · rcases tried count with ⟨other, same, neighbour⟩ | ⟨absent, -⟩
      · rw [here, Option.some_inj] at same
        rwa [Option.getD_some, same]
      · rw [here] at absent
        cases absent
    · cases fewer with
      | zero =>
        have positive := attracts.pos double
        rw [few.eq_zero] at positive
        exact lt_irrefl _ positive
      | succ fewer =>
        rcases tried fewer with ⟨other, same, -⟩ | ⟨-, none⟩
        · rw [before fewer (List.mem_range'_1.mpr (by omega))] at same
          cases same
        · exact none z few attracts

end Magnitude

end CrsText
