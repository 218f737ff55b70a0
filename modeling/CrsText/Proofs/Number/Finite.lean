import CrsText.Proofs.Number.Forms
import CrsText.Proofs.Number.Quotient

/-! Finite numbers and their texts. Integers of 64 bits become finite numbers, and the finite numbers are
those with a decimal text.
-/

set_option autoImplicit false

open Float.Model (UnpackedFloat totalExponent)
open Float.Model.UnpackedFloat (Sign roundWithAccuracy)
open Float.Model.Format (binary64)

namespace CrsText

section Integer

/-- A product is finite where the exponents need not be made smaller and there are few places. -/
theorem isFinite_mul_finite {x y : Magnitude} (sign signOther : Sign) (positive : 0 < x.significand)
    (positiveOther : 0 < y.significand)
    (low : x.exponent + y.exponent ≤ binary64.targetExponent
      (totalExponent (x.significand * y.significand) (x.exponent + y.exponent)))
    (small : totalExponent (x.significand * y.significand) (x.exponent + y.exponent) ≤ 1023) :
    (Float.Model.pack (.mul binary64 (.finite sign x.significand x.exponent positive)
      (.finite signOther y.significand y.exponent positiveOther))).unpack.isFinite :=
  (rounds_roundWithAccuracy (sign * signOther) .exact low).isFinite_pack small

theorem log2_mul_two_pow {n : ℕ} (positive : 0 < n) (count : ℕ) :
    (n * 2 ^ count).log2 = n.log2 + count := by
  rw [← Nat.shiftLeft_eq, log2_shiftLeft positive]

/-- One, by which an integer is multiplied. -/
theorem unpack_one : (Float.ofBits 0x3FF0000000000000).toModel.unpack =
    .finite .positive (2 ^ 52) (-52) (by decide) := rfl

theorem isFinite_mul_one (n : UInt64) : (n.toFloat * Float.ofBits 0x3FF0000000000000).isFinite := by
  change (Float.Model.pack (.mul binary64
    (Float.Model.pack (.normalize binary64 n.toNat 0 .positive)).unpack
    (Float.ofBits 0x3FF0000000000000).toModel.unpack)).unpack.isFinite
  rw [unpack_one]
  by_cases zero : n.toNat = 0
  · rw [zero]
    decide
  · obtain ⟨sign, rounds⟩ := rounds_normalize (Int.natCast_ne_zero.mpr zero) 0
    generalize UnpackedFloat.normalize binary64 n.toNat 0 .positive = result at rounds
    cases rounds with
    | zero vanishing => omega
    | finite x normalized _ greatest =>
      have bits : n.toNat.log2 < 64 := (Nat.log2_lt zero).mpr n.toNat_lt
      have few : x.significand.log2 < 53 := (Nat.log2_lt normalized.positive.ne').mpr normalized.bounded
      rw [targetExponent_eq, totalExponent, Int.natAbs_natCast] at greatest
      rw [unpack_pack_finite (normalized.isDouble (by omega))]
      refine @isFinite_mul_finite x ⟨2 ^ 52, -52⟩ sign .positive normalized.positive (by decide) ?_ ?_ <;>
        simp only [targetExponent_eq, totalExponent, log2_mul_two_pow normalized.positive] <;> omega

theorem mantissaBits_eq : binary64.mantissaBits = 53 := rfl

theorem isFinite_ofScientific {n : ℕ} (positive : 0 < n) (bounded : n ≤ 2 ^ 64) :
    (Float.Model.ofScientific n 0).isFinite := by
  have bits : n.log2 < 65 := (Nat.log2_lt positive.ne').mpr (by omega)
  rw [Float.Model.ofScientific, Float.Model.isFinite, UnpackedFloat.ofScientific,
    dif_neg positive.ne', if_neg (by simp), if_neg (by simp), if_pos le_rfl]
  refine @isFinite_mul_finite ⟨n <<< binary64.mantissaBits, -binary64.mantissaBits⟩
    ⟨10 ^ (0 : ℤ).toNat, 0⟩ .positive .positive _ _ ?_ ?_ <;>
    simp only [mantissaBits_eq, targetExponent_eq, totalExponent, Int.toNat_zero, pow_zero, mul_one,
      log2_shiftLeft positive] <;> omega

theorem isFinite_ofNat {n : ℕ} (bounded : n ≤ 2 ^ 64) : (Float.ofNat n).isFinite := by
  change (Float.ofScientific n false 0).isFinite
  rw [Float.ofScientific]
  split
  · exact isFinite_mul_one n.toUInt64
  · exact isFinite_ofScientific (by omega) bounded

theorem isFinite_neg {v : Float} (finite : v.isFinite) : (Float.neg v).isFinite := by
  change (Float.Model.pack v.toModel.unpack.neg).unpack.isFinite
  rcases isUnpacked_of_isFinite finite with ⟨sign, unpacked, -⟩ | ⟨sign, x, double, unpacked, -⟩ <;>
    rw [unpacked, UnpackedFloat.neg]
  · simp [UnpackedFloat.isFinite]
  · rw [unpack_pack_finite double]
    rfl

/-- What 64 bits hold is far from the largest number of the format. -/
theorem isFinite_ofInt {n : ℤ} (bounded : n.natAbs ≤ 2 ^ 64) : (Float.ofInt n).isFinite := by
  cases n with
  | ofNat n => exact isFinite_ofNat bounded
  | negSucc n => exact isFinite_neg (isFinite_ofNat bounded)

end Integer

def IsDecimal (text : String) : Prop := text.toList ∈ Notation.sign * Notation.decimal

namespace Notation

/-! The names for what is no finite number all have an `n`, and decimal numbers have none. -/

def withoutN : Language Char := Words.only fun c => c ≠ 'n' ∧ c ≠ 'N'

theorem letter_le_withoutN {c : Char} (lower : c ≠ 'n') (upper : c ≠ 'N') : letter c ≤ withoutN := by
  rintro word (rfl : word = [c])
  simp [withoutN, Words.only, lower, upper]

theorem digit_le_withoutN : digit ≤ withoutN := by
  rintro word ⟨c, isDigit, rfl⟩
  refine letter_le_withoutN ?_ ?_ rfl
  · rintro rfl
    exact absurd isDigit (by decide)
  · rintro rfl
    exact absurd isDigit (by decide)

theorem decimal_le_withoutN : sign * decimal ≤ withoutN := by
  have numerals : digits ≤ withoutN :=
    Words.mul_le_only digit_le_withoutN (Words.kstar_le_only digit_le_withoutN)
  have minus : letter '-' ≤ withoutN := letter_le_withoutN (by decide) (by decide)
  have places : fraction ≤ withoutN :=
    Words.mul_le_only (letter_le_withoutN (by decide) (by decide)) numerals
  have scale : exponent ≤ withoutN :=
    Words.mul_le_only (letter_le_withoutN (by decide) (by decide))
      (Words.mul_le_only (Words.add_le_only minus (letter_le_withoutN (by decide) (by decide)))
        numerals)
  exact Words.mul_le_only (Words.optional_le_only minus)
    (Words.mul_le_only numerals
      (Words.mul_le_only (Words.optional_le_only places) (Words.optional_le_only scale)))

theorem not_mem_decimal {word : List Char} (member : 'n' ∈ word ∨ 'N' ∈ word) :
    word ∉ sign * decimal := by
  intro derived
  rcases member with lower | upper
  · exact (decimal_le_withoutN derived _ lower).1 rfl
  · exact (decimal_le_withoutN derived _ upper).2 rfl

/-- Of the spellings only those of finite numbers are decimal. -/
theorem spell_mem_decimal_iff {infinity : List Char} {zero : Bool → List Char}
    {finite : Magnitude → List Char} (named : 'n' ∈ infinity)
    (zeroDecimal : ∀ negative, zero negative ∈ sign * decimal)
    (finiteDecimal : ∀ x, finite x ∈ decimal) (v : Float) :
    Numeral.spell infinity zero finite (Binary.ofFloat v) ∈ sign * decimal ↔ v.isFinite := by
  change _ ↔ v.toModel.unpack.isFinite
  rw [Binary.ofFloat_eq_ofUnpacked]
  cases v.toModel.unpack with
  | notANumber => exact iff_of_false (not_mem_decimal (.inr (.head _))) (by decide)
  | infinity sign =>
    refine iff_of_false (not_mem_decimal (.inl ?_)) (by simp [UnpackedFloat.isFinite])
    cases sign
    · exact .tail _ named
    · exact named
  | zero sign => exact iff_of_true (zeroDecimal _) rfl
  | finite sign significand exponent =>
    exact iff_of_true (signed_mem_sign_mul (finiteDecimal ⟨significand, exponent⟩) _) rfl

end Notation

namespace Token

open Notation

theorem isDecimal_rounded_iff (v : Float) : IsDecimal (rounded v) ↔ v.isFinite := by
  rw [IsDecimal, rounded, String.toList_ofList]
  exact spell_mem_decimal_iff (by decide) (fun _ => signed_mem_sign_mul zero_mem false)
    (fun _ => write_mem _ _) v

theorem isDecimal_copied_iff (v : Float) : IsDecimal (copied v) ↔ v.isFinite := by
  rw [IsDecimal, copied, String.toList_ofList]
  exact spell_mem_decimal_iff (by decide) (fun _ => signed_mem_sign_mul zero_mem false)
    (fun _ => write_mem _ _) v

theorem isDecimal_plain_iff (v : Float) : IsDecimal (plain v) ↔ v.isFinite := by
  rw [IsDecimal, plain, String.toList_ofList]
  exact spell_mem_decimal_iff (by decide) (signed_mem_sign_mul zero_mem)
    (fun _ => positional_mem _) v

theorem isDecimal_integer (n : ℤ) : IsDecimal (integer n) := by
  rw [IsDecimal, integer, String.toList_ofList]
  cases n with
  | ofNat n => exact signed_mem_sign_mul (decimal_of_digits (digits_mem n)) false
  | negSucc n => exact signed_mem_sign_mul (decimal_of_digits (digits_mem (n + 1))) true

end Token

end CrsText
