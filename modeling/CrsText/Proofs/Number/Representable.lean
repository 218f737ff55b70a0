import CrsText.Proofs.Number.Value

/-! Which numbers are the values of finite floating-point numbers. Every magnitude of the format can be
packed into bits, with either sign.
-/

set_option autoImplicit false

open Float.Model.UnpackedFloat (Sign pack packComponents unpackSign_packComponents
  unpackExponent_packComponents unpackMantissa_packComponents)
open Float.Model.Format (binary64)

namespace CrsText

namespace Binary

section Components

variable {sign : Sign} {exponent : BitVec 11} {mantissa : BitVec 52}

/-- The three fields of the bits are the ones that they are packed from. -/
theorem ofBits_packComponents : ofBits (packComponents binary64 sign exponent mantissa).toNat =
    if exponent.toNat = 2047 then
      if mantissa.toNat = 0 then .infinite (isNegative sign) else .notANumber
    else if exponent.toNat = 0 then
      if mantissa.toNat = 0 then .zero (isNegative sign)
      else .finite (isNegative sign) ⟨mantissa.toNat, -1074⟩
    else .finite (isNegative sign) ⟨2 ^ 52 + mantissa.toNat, -1074 + (exponent.toNat - 1 : ℕ)⟩ := by
  have negative : (sign.toBitVec.toNat == 1) = isNegative sign := by cases sign <;> rfl
  simp only [ofBits, ← toNat_unpackSign, ← toNat_unpackExponent, ← toNat_unpackMantissa,
    unpackSign_packComponents, unpackExponent_packComponents, unpackMantissa_packComponents, negative]
  rfl

end Components

/-- Every magnitude of the format is one of a floating-point number, with either sign. -/
theorem ofBits_pack {x : Magnitude} (double : x.IsDouble) (sign : Sign) :
    ofBits (pack binary64 (.finite sign x.significand x.exponent double.positive)).toNat =
      .finite (isNegative sign) x := by
  obtain ⟨significand, exponent⟩ := x
  obtain ⟨positive, bounded, least, greatest, normal⟩ := double
  dsimp only at positive bounded least greatest normal
  have biased : (exponent + (binary64.exponentBias : ℕ) + (52 : ℕ)).toNat = (exponent + 1075).toNat := by
    have bias : binary64.exponentBias = 1023 := rfl
    rw [bias]
    congr 1
    push_cast
    ring
  have fits : ¬ 2 ^ 11 ≤ (exponent + 1075).toNat + 1 := by omega
  simp only [pack, biased, if_neg fits]
  by_cases full : 2 ^ 52 ≤ significand
  · have leading : significand.log2 + 1 = binary64.mantissaBits := by
      have log : significand.log2 = 52 := (Nat.log2_eq_iff positive.ne').mpr ⟨full, bounded⟩
      rw [log]
      rfl
    have field : (BitVec.ofNat 11 (exponent + 1075).toNat).toNat = (exponent + 1075).toNat := by
      rw [BitVec.toNat_ofNat, Nat.mod_eq_of_lt (by omega)]
    have fraction : (BitVec.ofNat 52 significand).toNat = significand - 2 ^ 52 := by
      rw [BitVec.toNat_ofNat]
      omega
    rw [if_pos leading, ofBits_packComponents, field, fraction, if_neg (by omega), if_neg (by omega)]
    simp only [finite.injEq, Magnitude.mk.injEq, true_and]
    omega
  · have leading : significand.log2 + 1 ≠ binary64.mantissaBits := by
      have log : significand.log2 < 52 := (Nat.log2_lt positive.ne').mpr (by omega)
      have bits : binary64.mantissaBits = 53 := rfl
      omega
    have fraction : (BitVec.ofNat 52 significand).toNat = significand := by
      rw [BitVec.toNat_ofNat, Nat.mod_eq_of_lt (by omega)]
    rw [if_neg leading, ofBits_packComponents, fraction, if_neg (by decide), if_pos (by decide),
      if_neg positive.ne', normal.resolve_left full]

theorem exists_ofFloat {x : Magnitude} (double : x.IsDouble) (negative : Bool) :
    ∃ v : Float, ofFloat v = .finite negative x := by
  let sign : Sign := if negative then .negative else .positive
  have same : isNegative sign = negative := by cases negative <;> rfl
  refine ⟨.ofModel (.pack (.finite sign x.significand x.exponent double.positive)), ?_⟩
  rw [← same]
  exact ofBits_pack double sign

end Binary

/-- The sign and the magnitude that are read off the bits of a number make up its value. -/
theorem exactValue_of_ofFloat {v : Float} {negative : Bool} {x : Magnitude}
    (read : Binary.ofFloat v = .finite negative x) :
    exactValue v = if negative then -x.value else x.value := by
  rw [Binary.ofFloat_eq_ofUnpacked] at read
  unfold exactValue
  cases unpacked : v.toModel.unpack with
  | finite sign mantissa exponent positive =>
    rw [unpacked] at read
    cases read
    cases sign <;> simp [Binary.isNegative, Magnitude.value, Sign.apply]
  | _ => rw [unpacked] at read; cases read

theorem isFinite_of_ne_zero {v : Float} (nonzero : exactValue v ≠ 0) : v.isFinite :=
  (exactValue_ne_zero_iff.mp nonzero).1

def IsRepresentable (y : ℚ) : Prop := ∃ v : Float, v.isFinite ∧ exactValue v = y

theorem isRepresentable_iff {y : ℚ} :
    IsRepresentable y ↔ y = 0 ∨ ∃ x : Magnitude, x.IsDouble ∧ |y| = x.value := by
  constructor
  · rintro ⟨v, -, rfl⟩
    by_cases zero : exactValue v = 0
    · exact .inl zero
    · obtain ⟨x, double, -, value⟩ := exists_magnitude zero
      exact .inr ⟨x, double, value.symm⟩
  · rintro (rfl | ⟨x, double, value⟩)
    · exact ⟨0, rfl, rfl⟩
    · obtain ⟨v, read⟩ := Binary.exists_ofFloat double (decide (y < 0))
      have same : exactValue v = y := by
        rw [exactValue_of_ofFloat read, ← value]
        by_cases negative : y < 0
        · simp [negative, abs_of_neg negative]
        · simp [negative, abs_of_nonneg (not_lt.mp negative)]
      have nonzero : exactValue v ≠ 0 := by
        rw [same, ← abs_pos, value]
        exact Magnitude.value_pos double.positive
      exact ⟨v, isFinite_of_ne_zero nonzero, same⟩

end CrsText
