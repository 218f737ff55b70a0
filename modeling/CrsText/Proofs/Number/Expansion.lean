import CrsText.Proofs.Number.Reading
import CrsText.Proofs.Number.Rounding

/-! A printed expansion that is rounded digit by digit has the digits of the rounded number. Every
floating-point number has an expansion that is short enough to be printed without rounding.
-/

set_option autoImplicit false

namespace CrsText

open Numeral

namespace Expansion

theorem five_le_iff {digit : Char} (isDigit : digit.isDigit) : '5' ≤ digit ↔ 5 ≤ ofDigits [digit] := by
  have bounds : 48 ≤ digit.toNat ∧ digit.toNat ≤ 57 := Char.isDigit_iff_toNat.mp isDigit
  have zero : '0'.toNat = 48 := rfl
  have five : '5'.toNat = 53 := rfl
  rw [ofDigits_singleton, Char.le_def, UInt32.le_iff_toNat_le]
  change '5'.toNat ≤ digit.toNat ↔ _
  omega

theorem successor_isDigit {digit : Char} (isDigit : digit.isDigit) (notNine : digit ≠ '9') :
    (Char.ofNat (digit.toNat + 1)).isDigit ∧
      ofDigits [Char.ofNat (digit.toNat + 1)] = ofDigits [digit] + 1 := by
  have bounds : 48 ≤ digit.toNat ∧ digit.toNat ≤ 57 := Char.isDigit_iff_toNat.mp isDigit
  have zero : '0'.toNat = 48 := rfl
  have nine : '9'.toNat = 57 := rfl
  have below : digit.toNat ≠ 57 := fun same => notNine (Char.toNat_inj.mp same)
  have valid : (digit.toNat + 1).isValidChar := .inl (by omega)
  have successor : (Char.ofNat (digit.toNat + 1)).toNat = digit.toNat + 1 := by
    rw [Char.ofNat, dif_pos valid]
    rfl
  rw [ofDigits_singleton, ofDigits_singleton, successor, Char.isDigit_iff_toNat, successor]
  omega

/-- One is added to the last digit, and what is carried past the first one has its place value. -/
theorem increment_spec {text : List Char} (all : ∀ c ∈ text, c.isDigit) :
    (increment text).1.length = text.length ∧ (∀ c ∈ (increment text).1, c.isDigit) ∧
      ofDigits (increment text).1.reverse + (if (increment text).2 then 10 ^ text.length else 0) =
        ofDigits text.reverse + 1 := by
  induction text with
  | nil => exact ⟨rfl, by simp [increment], rfl⟩
  | cons digit rest ih =>
    obtain ⟨isDigit, others⟩ := List.forall_mem_cons.mp all
    obtain ⟨length, raised, value⟩ := ih others
    rw [increment]
    split
    case isTrue nine =>
      subst nine
      have zero : ofDigits ['0'] = 0 := rfl
      have nine : ofDigits ['9'] = 9 := rfl
      refine ⟨by simp [length], List.forall_mem_cons.mpr ⟨by decide, raised⟩, ?_⟩
      simp only [List.reverse_cons, ofDigits_concat, zero, nine, List.length_cons, pow_succ]
      cases carried : (increment rest).2 with
      | false =>
        rw [carried, if_neg (by decide)] at value
        rw [if_neg (by decide)]
        omega
      | true =>
        rw [carried, if_pos rfl] at value
        rw [if_pos rfl]
        omega
    case isFalse notNine =>
      obtain ⟨successor, one⟩ := successor_isDigit isDigit notNine
      refine ⟨rfl, List.forall_mem_cons.mpr ⟨successor, others⟩, ?_⟩
      simp only [List.reverse_cons, ofDigits_concat, one, Bool.false_eq_true, if_false]
      omega

/-- Of digits that are rounded only the first one that is not kept decides. -/
theorem roundHalfUp_split {kept digit rest scale : ℕ} (small : digit < 10) (below : rest < scale) :
    roundHalfUp (kept * (10 * scale) + (digit * scale + rest)) (10 * scale) =
      if 5 ≤ digit then kept + 1 else kept := by
  rw [roundHalfUp]
  split
  case isTrue up =>
    have half : 5 * scale ≤ digit * scale := Nat.mul_le_mul_right scale up
    have full : digit * scale ≤ 9 * scale := Nat.mul_le_mul_right scale (by omega)
    exact Nat.div_eq_of_lt_le (by linarith) (by linarith)
  case isFalse down =>
    have half : digit * scale ≤ 4 * scale := Nat.mul_le_mul_right scale (by omega)
    exact Nat.div_eq_of_lt_le (by nlinarith) (by linarith)

theorem ofDigits_take_eq_zero {text : List Char} (zero : ofDigits text = 0) (count : ℕ) :
    ofDigits (text.take count) = 0 := by
  have split : ofDigits (text.take count) * 10 ^ (text.drop count).length +
      ofDigits (text.drop count) = 0 := by
    rw [← ofDigits_append, List.take_append_drop, zero]
  have scale : 10 ^ (text.drop count).length ≠ 0 := by positivity
  exact (Nat.mul_eq_zero.mp (Nat.add_eq_zero_iff.mp split).1).resolve_right scale

section Kept

variable {kept raised : List Char} {places : ℕ} {carried : Bool}
variable (all : ∀ c ∈ kept, c.isDigit) (length : kept.length = places + 1)

include all length

theorem increment_reverse (outcome : increment kept.reverse = (raised, carried)) :
    raised.reverse.length = places + 1 ∧ (∀ c ∈ raised.reverse, c.isDigit) ∧
      ofDigits raised.reverse + (if carried then 10 ^ (places + 1) else 0) = ofDigits kept + 1 := by
  have allReversed : ∀ c ∈ kept.reverse, c.isDigit := fun c member =>
    all c (List.mem_reverse.mp member)
  obtain ⟨raisedLength, allRaised, value⟩ := increment_spec allReversed
  simp only [outcome, List.reverse_reverse, List.length_reverse, length] at raisedLength allRaised value
  exact ⟨by rw [List.length_reverse, raisedLength],
    fun c member => allRaised c (List.mem_reverse.mp member), value⟩

theorem increment_kept (least : 10 ^ places ≤ ofDigits kept)
    (outcome : increment kept.reverse = (raised, false)) :
    ofDigits kept + 1 < 10 ^ (places + 1) ∧ digits (ofDigits kept + 1) = raised.reverse := by
  obtain ⟨raisedLength, allRaised, value⟩ := increment_reverse all length outcome
  rw [if_neg (by decide), add_zero] at value
  have first : 10 ^ places ≤ ofDigits raised.reverse := by omega
  rw [← value]
  exact ⟨raisedLength ▸ ofDigits_lt allRaised,
    digits_ofDigits allRaised raisedLength first⟩

/-- Only nines are carried past the first digit, and nothing but zeros is left of them. -/
theorem increment_nines (outcome : increment kept.reverse = (raised, true)) :
    ofDigits kept + 1 = 10 ^ (places + 1) ∧
      digits (10 ^ places) = ('1' :: raised.reverse).take (places + 1) := by
  obtain ⟨raisedLength, allRaised, value⟩ := increment_reverse all length outcome
  have bounded : ofDigits kept < 10 ^ (places + 1) := length ▸ ofDigits_lt all
  rw [if_pos rfl] at value
  have zero : ofDigits raised.reverse = 0 := by omega
  have shortened : (raised.reverse.take places).length = places := by
    rw [List.length_take, raisedLength, Nat.min_eq_left (Nat.le_succ places)]
  have one : ofDigits ('1' :: raised.reverse.take places) = 10 ^ places := by
    rw [← List.singleton_append, ofDigits_append, ofDigits_take_eq_zero zero, shortened]
    exact one_mul _
  refine ⟨by omega, ?_⟩
  rw [List.take_succ_cons, ← one]
  refine digits_ofDigits (List.forall_mem_cons.mpr ⟨by decide, ?_⟩)
    (by rw [List.length_cons, shortened]) one.ge
  exact fun c member => allRaised c (List.mem_of_mem_take member)

end Kept

theorem roundHalfUp_digits {kept rest : List Char} {digit : Char}
    (all : ∀ c ∈ digit :: rest, c.isDigit) :
    roundHalfUp (ofDigits (kept ++ digit :: rest)) (10 ^ (rest.length + 1)) =
      if 5 ≤ ofDigits [digit] then ofDigits kept + 1 else ofDigits kept := by
  obtain ⟨isDigit, allRest⟩ := List.forall_mem_cons.mp all
  have split : ofDigits (kept ++ digit :: rest) = ofDigits kept * (10 * 10 ^ rest.length) +
      (ofDigits [digit] * 10 ^ rest.length + ofDigits rest) := by
    rw [ofDigits_append, ← List.singleton_append, ofDigits_append, List.length_append,
      List.length_singleton, add_comm 1, pow_succ']
  rw [split, pow_succ', roundHalfUp_split (ofDigits_singleton_lt isDigit) (ofDigits_lt allRest)]

/-- Rounding digit by digit is rounding of the whole number that the digits stand for. -/
theorem roundDigits_eq {kept rest : List Char} {digit : Char} {places : ℕ}
    (all : ∀ c ∈ kept ++ digit :: rest, c.isDigit) (length : kept.length = places + 1)
    (least : 10 ^ places ≤ ofDigits kept) (exponent : ℤ) {rounded : Decimal}
    (same : rounded = Decimal.carry (places + 1)
      ⟨roundHalfUp (ofDigits (kept ++ digit :: rest)) (10 ^ (rest.length + 1)),
        exponent - places⟩) :
    roundDigits (places + 1) (kept ++ digit :: rest) exponent =
      (digits rounded.coefficient, rounded.exponent + places) := by
  obtain ⟨allKept, others⟩ := List.forall_mem_append.mp all
  have isDigit : digit.isDigit := others digit List.mem_cons_self
  have take : (kept ++ digit :: rest).take (places + 1) = kept := by
    rw [← length, List.take_left]
  have next : (kept ++ digit :: rest)[places + 1]? = some digit := by
    rw [← length, List.getElem?_append_right le_rfl, Nat.sub_self, List.getElem?_cons_zero]
  rw [roundDigits, take, next, Option.any_some, same, roundHalfUp_digits others]
  by_cases up : 5 ≤ ofDigits [digit]
  · rw [decide_eq_true ((five_le_iff isDigit).mpr up), if_pos rfl, if_pos up]
    rcases outcome : increment kept.reverse with ⟨raised, _ | _⟩
    · obtain ⟨fewer, written⟩ := increment_kept allKept length least outcome
      rw [Decimal.carry, if_neg (by simpa using fewer.ne), written, sub_add_cancel]
    · obtain ⟨full, written⟩ := increment_nines allKept length outcome
      rw [Decimal.carry, if_pos (by simpa using full), tenTo_eq, Nat.add_sub_cancel, written,
        add_right_comm, sub_add_cancel]
  · have bounded : ofDigits kept < 10 ^ (places + 1) := length ▸ ofDigits_lt allKept
    rw [decide_eq_false (mt (five_le_iff isDigit).mp up), if_neg (by decide), if_neg up,
      Decimal.carry, if_neg (by simpa using bounded.ne), digits_ofDigits allKept length least,
      sub_add_cancel]

theorem filter_mantissa (n : ℕ) :
    ((digits n).take 1 ++ Decimal.fraction ((digits n).drop 1)).filter (·.isDigit) = digits n := by
  have all : (digits n).filter (·.isDigit) = digits n :=
    List.filter_eq_self.mpr fun _ => Notation.isDigit_of_mem
  have behind : (Decimal.fraction ((digits n).drop 1)).filter (·.isDigit) =
      ((digits n).drop 1).filter (·.isDigit) := by
    cases (digits n).drop 1 with
    | nil => rfl
    | cons second rest => exact List.filter_cons_of_neg (by decide)
  rw [List.filter_append, behind, ← List.filter_append, List.take_append_drop, all]

theorem significantDigits_eq_roundDigits (size : ℕ) (d : Decimal) :
    significantDigits size (print d) = roundDigits size (digits d.coefficient) d.leadingExponent := by
  rw [significantDigits, print, cut_append (notMem_mantissa d.coefficient)]
  dsimp only
  rw [filter_mantissa, Option.bind_some, integer?_signedDigits, Option.getD_some]

theorem leadingDigits_value {d : Decimal} {places dropped : ℕ}
    (counted : digitCount d.coefficient = places + 1 + (dropped + 1)) (nonzero : d.coefficient ≠ 0) :
    leadingDigits places d.value = roundHalfUp d.coefficient (10 ^ (dropped + 1)) := by
  have leading : d.leadingExponent = d.exponent + (places + (dropped + 1 : ℕ)) := by
    rw [Decimal.leadingExponent, counted]
    push_cast
    ring
  have scaled : d.value * 10 ^ (places - d.leadingExponent) =
      d.coefficient / ((10 ^ (dropped + 1) : ℕ) : ℚ) := by
    have shift : d.exponent + (places - d.leadingExponent) = -((dropped + 1 : ℕ) : ℤ) := by
      rw [leading]
      ring
    rw [Decimal.value, mul_assoc, ← zpow_add₀ (by norm_num), shift, zpow_neg, zpow_natCast,
      div_eq_mul_inv]
    push_cast
    rfl
  rw [leadingDigits, Decimal.log_value nonzero, scaled, ← roundHalfUp_eq_floor (by positivity)]

/-- The digits of a number with more of them than are kept. -/
theorem exists_kept {n places dropped : ℕ}
    (counted : digitCount n = places + 1 + (dropped + 1)) :
    ∃ kept digit rest, digits n = kept ++ digit :: rest ∧ kept.length = places + 1 ∧
      rest.length = dropped ∧ 10 ^ places ≤ ofDigits kept := by
  have least : 10 ^ (places + 1 + dropped) ≤ n := (digitCount_eq_iff.mp counted).1
  have length : (digits n).length = places + 1 + (dropped + 1) := by
    rw [length_digits (ne_zero_of_digitCount counted), counted]
  obtain ⟨digit, rest, behind⟩ : ∃ digit rest, (digits n).drop (places + 1) = digit :: rest :=
    List.exists_cons_of_length_eq_add_one (n := dropped) (by rw [List.length_drop]; omega)
  have restLength : (digit :: rest).length = dropped + 1 := by
    rw [← behind, List.length_drop]
    omega
  have whole : digits n = (digits n).take (places + 1) ++ digit :: rest := by
    rw [← behind, List.take_append_drop]
  refine ⟨(digits n).take (places + 1), digit, rest, whole, by rw [List.length_take]; omega,
    Nat.succ_injective restLength, ?_⟩
  have all : ∀ c ∈ digit :: rest, c.isDigit := fun c member => by
    rw [← behind] at member
    exact Notation.isDigit_of_mem (List.mem_of_mem_drop member)
  have below : ofDigits (digit :: rest) < 10 ^ (dropped + 1) := restLength ▸ ofDigits_lt all
  have value := congrArg ofDigits whole
  rw [ofDigits_digits, ofDigits_append, restLength] at value
  rw [value, add_right_comm, add_assoc places, pow_add] at least
  -- One less in the kept digits would leave the number below its bound, whatever is dropped.
  by_contra fewer
  have short := Nat.mul_le_mul_right (10 ^ (dropped + 1)) (Nat.succ_le_of_lt (not_le.mp fewer))
  rw [Nat.succ_mul] at short
  omega

/-- If more digits are printed than are kept, the kept ones are those of the rounded number. -/
theorem significantDigits_print {d : Decimal} {places dropped : ℕ}
    (counted : digitCount d.coefficient = places + 1 + (dropped + 1)) :
    significantDigits (places + 1) (print d) =
      (digits (Decimal.ofRat places d.value).coefficient,
        (Decimal.ofRat places d.value).leadingExponent) := by
  have nonzero : d.coefficient ≠ 0 := ne_zero_of_digitCount counted
  obtain ⟨kept, digit, rest, whole, length, rfl, keptLeast⟩ := exists_kept counted
  have all : ∀ c ∈ kept ++ digit :: rest, c.isDigit := by
    rw [← whole]
    exact fun _ => Notation.isDigit_of_mem
  have rounded := roundDigits_eq all length keptLeast d.leadingExponent rfl
  rw [← whole, ofDigits_digits, ← leadingDigits_value counted nonzero,
    ← Decimal.log_value nonzero] at rounded
  rw [significantDigits_eq_roundDigits, ← Decimal.log_value nonzero, rounded,
    Decimal.leadingExponent_ofRat (Decimal.value_pos nonzero)]
  rfl

end Expansion

/-- A decimal with the given number of digits, of which no other is nearer to `x`. -/
structure Decimal.IsNearest (size : ℕ) (x : ℚ) (d : Decimal) : Prop where
  counted : digitCount d.coefficient = size
  nearest : ∀ other : Decimal, digitCount other.coefficient = size →
    |d.value - x| ≤ |other.value - x|

namespace Decimal

theorem IsNearest.of_value_eq {size : ℕ} {x : ℚ} {d : Decimal}
    (counted : digitCount d.coefficient = size) (same : d.value = x) : d.IsNearest size x :=
  ⟨counted, fun other _ => by rw [same, sub_self, abs_zero]; exact abs_nonneg _⟩

theorem IsNearest.value_eq {size : ℕ} {d precise : Decimal} (near : d.IsNearest size precise.value)
    (counted : digitCount precise.coefficient = size) : d.value = precise.value := by
  have distance := near.nearest precise counted
  rw [sub_self, abs_zero] at distance
  exact sub_eq_zero.mp (abs_nonpos_iff.mp distance)

/-- Zeros at the end make up for digits that are missing. -/
theorem exists_widened {d : Decimal} {size : ℕ} (nonzero : d.coefficient ≠ 0)
    (bounded : d.coefficient < 10 ^ (size + 1)) :
    ∃ wide : Decimal, digitCount wide.coefficient = size + 1 ∧ wide.value = d.value := by
  obtain ⟨count, counted⟩ : ∃ count, digitCount d.coefficient = count + 1 :=
    ⟨_, digitCount_eq_log nonzero⟩
  obtain ⟨least, greatest⟩ := digitCount_eq_iff.mp counted
  have fits : count ≤ size := by
    by_contra more
    have longer : 10 ^ (size + 1) ≤ 10 ^ count := Nat.pow_le_pow_right (by decide) (by omega)
    omega
  obtain ⟨missing, rfl⟩ := Nat.exists_eq_add_of_le fits
  refine ⟨⟨d.coefficient * 10 ^ missing, d.exponent - missing⟩, digitCount_eq_iff.mpr ⟨?_, ?_⟩, ?_⟩
  · rw [pow_add]
    exact Nat.mul_le_mul_right _ least
  · rw [add_right_comm, pow_add]
    exact Nat.mul_lt_mul_of_pos_right greatest (by positivity)
  · simp only [value]
    push_cast
    rw [mul_assoc, ← zpow_natCast, ← zpow_add₀ (by norm_num), add_sub_cancel]

end Decimal

theorem mul_pow_lt {significand base power most size : ℕ} (small : significand < 2 ^ 53)
    (positive : 0 < base) (bounded : power ≤ most) (enough : 2 ^ 53 * base ^ most ≤ 10 ^ size) :
    significand * base ^ power < 10 ^ size :=
  calc significand * base ^ power < 2 ^ 53 * base ^ power :=
        Nat.mul_lt_mul_of_pos_right small (Nat.pow_pos positive)
    _ ≤ 2 ^ 53 * base ^ most := Nat.mul_le_mul_left _ (Nat.pow_le_pow_right positive bounded)
    _ ≤ 10 ^ size := enough

/-- Eight hundred and one digits are enough for the exact value. -/
theorem Magnitude.IsDouble.exists_decimal {x : Magnitude} (double : x.IsDouble) :
    ∃ d : Decimal, digitCount d.coefficient = 801 ∧ d.value = x.value := by
  let precise : Decimal := ⟨x.significand * 2 ^ x.exponent.toNat * 5 ^ (-x.exponent).toNat,
    -(-x.exponent).toNat⟩
  have value : precise.value = x.value := by
    have ten : (10 : ℚ) = 2 * 5 := by norm_num
    simp only [precise, Decimal.value, Magnitude.value, zpow_eq_div two_ne_zero, zpow_neg, zpow_natCast]
    rw [ten, mul_pow]
    push_cast
    field_simp
  have nonzero : precise.coefficient ≠ 0 :=
    Nat.mul_ne_zero (Nat.mul_ne_zero double.positive.ne' (by positivity)) (by positivity)
  have bounded : precise.coefficient < 10 ^ (800 + 1) := by
    have twos : 2 ^ 53 * 2 ^ 971 ≤ 10 ^ (800 + 1) := by decide +kernel
    have fives : 2 ^ 53 * 5 ^ 1074 ≤ 10 ^ (800 + 1) := by decide +kernel
    have least := double.least
    have greatest := double.greatest
    rcases le_total 0 x.exponent with whole | fraction
    · have none : (-x.exponent).toNat = 0 := by omega
      simp only [precise, none, pow_zero, mul_one]
      exact mul_pow_lt double.bounded two_pos (by omega) twos
    · have none : x.exponent.toNat = 0 := by omega
      simp only [precise, none, pow_zero, mul_one]
      exact mul_pow_lt double.bounded (by decide) (by omega) fives
  obtain ⟨wide, counted, same⟩ := Decimal.exists_widened nonzero bounded
  exact ⟨wide, counted, same.trans value⟩

end CrsText
