import CrsText.Number.Token
import Mathlib

/-! The exact values of binary and decimal numbers. A floating-point number that is finite and not zero
has the value of its magnitude, up to the sign.
-/

set_option autoImplicit false

open Float.Model (UnpackedFloat)
open Float.Model.UnpackedFloat (Sign unpack unpackMantissa unpackExponent unpackSign)
open Float.Model.Format (binary64)

namespace CrsText

@[simp] theorem twoTo_eq (n : Nat) : twoTo n = 2 ^ n := rfl

@[simp] theorem tenTo_eq (n : Nat) : tenTo n = 10 ^ n := rfl

/-- A power is split into a numerator and a denominator, one of which is one. -/
theorem zpow_eq_div {base : ℚ} (nonzero : base ≠ 0) (exponent : ℤ) :
    base ^ exponent = base ^ exponent.toNat / base ^ (-exponent).toNat := by
  rw [← zpow_natCast, ← zpow_natCast, ← zpow_sub₀ nonzero]
  congr 1
  omega

def Decimal.value (d : Decimal) : ℚ := d.coefficient * 10 ^ d.exponent

namespace Magnitude

variable {x : Magnitude}

def value (x : Magnitude) : ℚ := x.significand * 2 ^ x.exponent

theorem value_pos (positive : 0 < x.significand) : 0 < x.value :=
  mul_pos (Nat.cast_pos.mpr positive) (zpow_pos two_pos _)

theorem denominator_pos (x : Magnitude) : 0 < x.denominator := Nat.pow_pos (by decide)

theorem value_eq_div (x : Magnitude) : x.value = x.numerator / x.denominator := by
  simp only [value, numerator, denominator, twoTo_eq, zpow_eq_div two_ne_zero]
  push_cast
  rw [mul_div_assoc]

theorem scaled_pos (x : Magnitude) (shift : ℤ) : 0 < (x.scaled shift).2 :=
  Nat.mul_pos x.denominator_pos (Nat.pow_pos (by decide))

theorem scaled_eq_div (x : Magnitude) (shift : ℤ) :
    x.value * 10 ^ shift = (x.scaled shift).1 / (x.scaled shift).2 := by
  simp only [scaled, value_eq_div, tenTo_eq, zpow_eq_div (by norm_num : (10 : ℚ) ≠ 0)]
  push_cast
  rw [div_mul_div_comm]

/-- What the interchange format can hold. The significand of a number above the smallest ones begins
with its implicit bit. -/
structure IsDouble (x : Magnitude) : Prop where
  positive : 0 < x.significand
  bounded : x.significand < 2 ^ 53
  least : -1074 ≤ x.exponent
  greatest : x.exponent ≤ 971
  normal : 2 ^ 52 ≤ x.significand ∨ x.exponent = -1074

end Magnitude

theorem Binary.isDouble_of_ofBits {bits : Nat} {negative : Bool} {x : Magnitude}
    (read : Binary.ofBits bits = .finite negative x) : x.IsDouble := by
  have exponent : bits / twoTo 52 % twoTo 11 < twoTo 11 := Nat.mod_lt _ (by decide)
  have fraction : bits % twoTo 52 < twoTo 52 := Nat.mod_lt _ (by decide)
  simp only [ofBits] at read
  split_ifs at read with full infinite subnormal zero
  all_goals
    cases read
    simp only [Magnitude.leastExponent, Magnitude.leastNormalSignificand, twoTo_eq] at *
    constructor <;> dsimp only <;> omega

namespace Binary

section Fields

variable (bits : BitVec binary64.numBits)

theorem toNat_unpackMantissa : (unpackMantissa bits).toNat = bits.toNat % twoTo 52 := by
  simp [unpackMantissa]

theorem toNat_unpackExponent :
    (unpackExponent bits).toNat = bits.toNat / twoTo 52 % twoTo 11 := by
  simp [unpackExponent, Nat.shiftRight_eq_div_pow]

theorem toNat_unpackSign : (unpackSign bits).toNat = bits.toNat / twoTo 63 % 2 := by
  simp [unpackSign, Nat.shiftRight_eq_div_pow]

end Fields

def isNegative : Sign → Bool
  | .negative => true
  | .positive => false

theorem isNegative_ofBitVec (sign : BitVec 1) :
    isNegative (Sign.ofBitVec sign) = (sign.toNat == 1) := by
  revert sign
  decide

def ofUnpacked : UnpackedFloat → Binary
  | .notANumber => .notANumber
  | .infinity sign => .infinite (isNegative sign)
  | .zero sign => .zero (isNegative sign)
  | .finite sign mantissa exponent _ => .finite (isNegative sign) ⟨mantissa, exponent⟩

theorem ofBits_eq_ofUnpacked (bits : BitVec binary64.numBits) :
    ofBits bits.toNat = ofUnpacked (unpack binary64 bits) := by
  have full : unpackExponent bits = -1#11 ↔ bits.toNat / twoTo 52 % twoTo 11 = twoTo 11 - 1 := by
    rw [← toNat_unpackExponent, ← BitVec.toNat_inj]
    rfl
  have least : unpackExponent bits = 0#11 ↔ bits.toNat / twoTo 52 % twoTo 11 = 0 := by
    rw [← toNat_unpackExponent, ← BitVec.toNat_inj]
    rfl
  have whole : unpackMantissa bits = 0#52 ↔ bits.toNat % twoTo 52 = 0 := by
    rw [← toNat_unpackMantissa, ← BitVec.toNat_inj]
    rfl
  have negative :
      isNegative (Sign.ofBitVec (unpackSign bits)) = (bits.toNat / twoTo 63 % 2 == 1) := by
    rw [isNegative_ofBitVec, toNat_unpackSign]
  simp only [ofBits, unpack, full, least, whole]
  split_ifs with infinite zero subnormal none
  · simp only [ofUnpacked, negative]
  · simp only [ofUnpacked]
  · simp only [ofUnpacked, negative]
  · simp only [ofUnpacked, negative, toNat_unpackMantissa, toNat_unpackExponent, subnormal]
    rfl
  · simp only [ofUnpacked, negative, toNat_unpackExponent]
    congr 2
    · rw [BitVec.toNat_append, ← Nat.shiftLeft_add_eq_or_of_lt (BitVec.isLt _),
        toNat_unpackMantissa]
      rfl
    · have bias : (binary64.exponentBias : Int) + (52 : Nat) = 1075 := rfl
      rw [bias, Magnitude.leastExponent]
      omega

theorem ofFloat_eq_ofUnpacked (v : Float) : ofFloat v = ofUnpacked v.toModel.unpack :=
  ofBits_eq_ofUnpacked v.toBits.toBitVec

end Binary

/-- The number that a floating-point number stands for, zero for what is no number. -/
def exactValue (v : Float) : ℚ :=
  match v.toModel.unpack with
  | .finite sign mantissa exponent _ => sign.apply mantissa * 2 ^ exponent
  | _ => 0

/-- A value other than zero is that of a finite number, and only the two zeros lack it. -/
theorem exactValue_ne_zero_iff {v : Float} :
    exactValue v ≠ 0 ↔ v.isFinite ∧ ∀ sign, v.toModel.unpack ≠ .zero sign := by
  change _ ↔ v.toModel.unpack.isFinite = true ∧ _
  unfold exactValue
  cases v.toModel.unpack with
  | finite sign mantissa exponent positive =>
    have scale : (2 : ℚ) ^ exponent ≠ 0 := zpow_ne_zero _ two_ne_zero
    cases sign <;> simp [UnpackedFloat.isFinite, Sign.apply, positive.ne', scale]
  | zero sign => simp
  | infinity sign => simp [UnpackedFloat.isFinite]
  | notANumber => simp [UnpackedFloat.isFinite]

theorem isDouble_of_unpack {v : Float} {sign : Sign} {mantissa : ℕ} {exponent : ℤ}
    {positive : 0 < mantissa}
    (unpacked : v.toModel.unpack = .finite sign mantissa exponent positive) :
    Magnitude.IsDouble ⟨mantissa, exponent⟩ := by
  have read := Binary.ofFloat_eq_ofUnpacked v
  rw [unpacked] at read
  exact Binary.isDouble_of_ofBits read

/-- A number other than zero is a sign and a magnitude of the format. -/
theorem exists_magnitude {v : Float} (nonzero : exactValue v ≠ 0) : ∃ x : Magnitude, x.IsDouble ∧
    Binary.ofFloat v = .finite (decide (exactValue v < 0)) x ∧ x.value = |exactValue v| := by
  have read := Binary.ofFloat_eq_ofUnpacked v
  unfold exactValue at nonzero ⊢
  split at nonzero
  case h_2 => contradiction
  case h_1 sign mantissa exponent positive unpacked =>
    have double := isDouble_of_unpack unpacked
    rw [unpacked] at read
    have above : (0 : ℚ) < mantissa * 2 ^ exponent := Magnitude.value_pos double.positive
    refine ⟨⟨mantissa, exponent⟩, double, ?_⟩
    cases sign with
    | negative =>
      simp only [Sign.apply, Int.cast_neg, Int.cast_natCast, neg_mul, abs_neg, abs_of_pos above]
      exact ⟨by rw [decide_eq_true (neg_neg_of_pos above)]; exact read, rfl⟩
    | positive =>
      simp only [Sign.apply, Int.cast_natCast, abs_of_pos above]
      exact ⟨by rw [decide_eq_false above.le.not_gt]; exact read, rfl⟩

theorem exists_zero {v : Float} (finite : v.isFinite) (zero : exactValue v = 0) :
    ∃ negative, Binary.ofFloat v = .zero negative := by
  have read := Binary.ofFloat_eq_ofUnpacked v
  by_contra none
  refine exactValue_ne_zero_iff.mpr ⟨finite, fun sign unpacked => none ⟨Binary.isNegative sign, ?_⟩⟩ zero
  rw [read, unpacked]
  rfl

theorem ofFloat_of_not_isFinite {v : Float} (infinite : ¬ v.isFinite) :
    Binary.ofFloat v = .notANumber ∨ ∃ negative, Binary.ofFloat v = .infinite negative := by
  change ¬ v.toModel.unpack.isFinite at infinite
  rw [Binary.ofFloat_eq_ofUnpacked]
  generalize v.toModel.unpack = unpacked at infinite ⊢
  cases unpacked with
  | notANumber => exact .inl rfl
  | infinity sign => exact .inr ⟨Binary.isNegative sign, rfl⟩
  | _ => exact absurd rfl infinite

end CrsText
