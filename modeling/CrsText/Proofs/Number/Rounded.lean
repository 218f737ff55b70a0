import CrsText.Proofs.Number.Expansion

/-! Most numbers are written with fifteen significant digits of their exact value, and what is read back
is exactly the number that these digits stand for.
-/

set_option autoImplicit false

namespace CrsText

theorem exists_isNearest {v : Float} (nonzero : exactValue v ≠ 0) :
    ∃ printed : Decimal, printed.IsNearest 801 |exactValue v| := by
  obtain ⟨x, double, -, value⟩ := exists_magnitude nonzero
  obtain ⟨printed, counted, same⟩ := double.exists_decimal
  exact ⟨printed, .of_value_eq counted (same.trans value)⟩

theorem Decimal.IsNearest.significantDigits {v : Float} (nonzero : exactValue v ≠ 0) {printed : Decimal}
    (nearest : printed.IsNearest 801 |exactValue v|) :
    Expansion.significantDigits 15 (Expansion.print printed) =
      (digits (ofRat 14 |exactValue v|).coefficient, (ofRat 14 |exactValue v|).leadingExponent) := by
  obtain ⟨x, double, -, value⟩ := exists_magnitude nonzero
  obtain ⟨exactly, counted, same⟩ := double.exists_decimal
  rw [← value, ← same] at nearest ⊢
  have dropped : digitCount printed.coefficient = 14 + 1 + (785 + 1) := nearest.counted
  rw [← nearest.value_eq counted]
  exact Expansion.significantDigits_print dropped

namespace Token

theorem rounded_eq {v : Float} (nonzero : exactValue v ≠ 0) : rounded v = String.ofList
    (Numeral.signed (decide (exactValue v < 0)) (roundedRange.write (Decimal.ofRat 14 |exactValue v|))) := by
  obtain ⟨x, double, read, value⟩ := exists_magnitude nonzero
  have digits : x.rounded significantDigits = Decimal.ofRat 14 |exactValue v| := by
    rw [← value]
    exact Magnitude.rounded_eq_ofRat double.positive 14
  rw [rounded, read, Numeral.spell, ← digits]
  rfl

theorem denoted?_rounded {v : Float} (nonzero : exactValue v ≠ 0) : denoted? (rounded v) =
    some (SignType.sign (exactValue v) * (Decimal.ofRat 14 |exactValue v|).value) := by
  rw [rounded_eq nonzero]
  exact denoted?_write _ (Decimal.coefficient_ofRat_ne_zero (abs_pos.mpr nonzero) 14) nonzero

/-- The text of a number other than zero stands for its exact value, rounded to fifteen significant
digits with halves going away from zero. The digits are also those of the expansion to 801 digits when
it is rounded digit by digit. -/
theorem rounded_denotes {v : Float} (nonzero : exactValue v ≠ 0) {printed : Decimal}
    (nearest : printed.IsNearest 801 |exactValue v|) :
    let k := Int.log 10 |exactValue v|
    let n := ⌊|exactValue v| * 10 ^ (14 - k) + 1 / 2⌋₊
    ∃ (coefficient : ℕ) (exponent : ℤ),
      (n < 10 ^ 15 ∧ coefficient = n ∧ exponent = k ∨
        n = 10 ^ 15 ∧ coefficient = 10 ^ 14 ∧ exponent = k + 1) ∧
      (digits coefficient).length = 15 ∧
      Expansion.significantDigits 15 (Expansion.print printed) = (digits coefficient, exponent) ∧
      denoted? (rounded v) =
        some (SignType.sign (exactValue v) * ((coefficient : ℚ) * 10 ^ (exponent - 14))) := by
  intro k n
  have positive : 0 < |exactValue v| := abs_pos.mpr nonzero
  have leading := Decimal.leadingExponent_ofRat positive 14
  have exponent : (Decimal.ofRat 14 |exactValue v|).exponent =
      (Decimal.ofRat 14 |exactValue v|).leadingExponent - 14 := by
    rw [leading]
    ring
  refine ⟨(Decimal.ofRat 14 |exactValue v|).coefficient, (Decimal.ofRat 14 |exactValue v|).leadingExponent,
    ?_, ?_, nearest.significantDigits nonzero, ?_⟩
  · rcases Decimal.ofRat_cases positive 14 with ⟨fewer, same⟩ | ⟨full, same⟩
    · refine .inl ⟨fewer, by rw [same]; rfl, ?_⟩
      rw [leading, same]
      exact sub_add_cancel k 14
    · refine .inr ⟨full, by rw [same], ?_⟩
      rw [leading, same]
      exact sub_add_cancel (k + 1) 14
  · rw [length_digits (Decimal.coefficient_ofRat_ne_zero positive 14),
      Decimal.digitCount_ofRat positive 14]
  · rw [denoted?_rounded nonzero, Decimal.value, exponent]

/-- The nines of this number all carry. -/
theorem rounded_denotes_nines : exactValue 999999999999999.9 ≠ 0 ∧
    (∃ printed : Decimal, printed.IsNearest 801 |exactValue 999999999999999.9| ∧
      Expansion.significantDigits 15 (Expansion.print printed) = (digits (10 ^ 14), 15)) ∧
    denoted? (rounded 999999999999999.9) = some (10 ^ 15) := by
  have value : exactValue 999999999999999.9 = 999999999999999.875 := by
    have unpacked : exactValue 999999999999999.9 = (7999999999999999 : ℤ) * 2 ^ (-3 : ℤ) := rfl
    rw [unpacked]
    norm_num
  have nonzero : exactValue 999999999999999.9 ≠ 0 := by
    rw [value]
    norm_num
  obtain ⟨printed, nearest⟩ := exists_isNearest nonzero
  obtain ⟨coefficient, exponent, cases, -, digits, denoted⟩ := rounded_denotes nonzero nearest
  have leading : Int.log 10 |exactValue 999999999999999.9| = 14 := by
    rw [value]
    exact log_eq (by norm_num) (by norm_num)
  have full : ⌊|exactValue 999999999999999.9| * 10 ^ (14 - (14 : ℤ)) + 1 / 2⌋₊ = 10 ^ 15 := by
    rw [value, Nat.floor_eq_iff (by positivity)]
    norm_num
  rw [leading, full] at cases
  obtain ⟨-, rfl, rfl⟩ := cases.resolve_left fun fewer => absurd fewer.1 (lt_irrefl _)
  refine ⟨nonzero, ⟨printed, nearest, digits⟩, denoted.trans ?_⟩
  rw [value]
  norm_num

end Token

end CrsText
