import Mathlib
import CrsText.Proofs.Number.Reading

/-! The written forms without superfluous digits. A whole number does not begin with a zero and a
fraction does not end with one, and in the scientific form every digit counts.
-/

set_option autoImplicit false

open scoped Computability

namespace CrsText

open Numeral

namespace Notation

open Words (optional)

def nonzeroDigit : Language Char := {word | ∃ c, c.isDigit ∧ c ≠ '0' ∧ word = [c]}

/-- A whole number from one on. -/
def counting : Language Char := nonzeroDigit * digit∗

def whole : Language Char := letter '0' + counting

/-- A fraction that does not end with a zero. -/
def trimmed : Language Char := letter '.' * (digit∗ * nonzeroDigit)

def positional : Language Char := whole * optional trimmed

/-- A leading digit with the given number of others, which stand behind a point. -/
def mantissa : ℕ → Language Char
  | 0 => nonzeroDigit
  | places + 1 => nonzeroDigit * (letter '.' * digit ^ (places + 1))

def scientific (places : ℕ) : Language Char :=
  mantissa places * (letter 'e' * ((letter '-' + letter '+') * counting))

theorem digits_eq_cons {n : ℕ} (nonzero : n ≠ 0) :
    ∃ first rest, CrsText.digits n = first :: rest ∧ first ≠ '0' ∧ rest.length + 1 = digitCount n := by
  have length := length_digits nonzero
  cases written : CrsText.digits n with
  | nil => exact absurd written (digits_ne_nil n)
  | cons first rest =>
    rw [written, List.length_cons] at length
    refine ⟨first, rest, rfl, ?_, length⟩
    rintro rfl
    obtain ⟨least, -⟩ := digitCount_eq_iff.mp length.symm
    have value : ofDigits ('0' :: rest) = ofDigits rest := by
      rw [ofDigits, Nat.ofDigitChars_cons]
      rfl
    have below : ofDigits rest < 10 ^ rest.length := ofDigits_lt fun c member =>
      isDigit_of_mem (n := n) (by rw [written]; exact List.mem_cons_of_mem _ member)
    have same := ofDigits_digits n
    rw [written, value] at same
    omega

theorem digits_mem_counting {n : ℕ} (nonzero : n ≠ 0) : CrsText.digits n ∈ counting := by
  obtain ⟨first, rest, written, leading, -⟩ := digits_eq_cons nonzero
  have all : ∀ c ∈ first :: rest, c.isDigit := fun _ member => isDigit_of_mem (written ▸ member)
  obtain ⟨isDigit, others⟩ := List.forall_mem_cons.mp all
  rw [written]
  exact Language.append_mem_mul (a := [first]) ⟨first, isDigit, leading, rfl⟩ (mem_kstar_digit others)

theorem digits_mem_whole (n : ℕ) : CrsText.digits n ∈ whole := by
  rcases eq_or_ne n 0 with rfl | nonzero
  · exact .inl rfl
  · exact .inr (digits_mem_counting nonzero)

theorem mem_trimmed {text : List Char} (notEmpty : text ≠ []) (all : ∀ c ∈ text, c.isDigit)
    (last : ofDigits text % 10 ≠ 0) : '.' :: text ∈ trimmed := by
  obtain ⟨front, digit, rfl⟩ := List.eq_nil_or_concat' text |>.resolve_left notEmpty
  obtain ⟨before, here⟩ := List.forall_mem_append.mp all
  have nonzero : digit ≠ '0' := by
    rintro rfl
    rw [ofDigits_concat, Nat.mul_add_mod_of_lt (by decide)] at last
    exact last rfl
  exact Language.append_mem_mul (a := ['.']) rfl (Language.append_mem_mul (mem_kstar_digit before)
    ⟨digit, here digit List.mem_cons_self, nonzero, rfl⟩)

theorem trimPlaces_last (coefficient places : ℕ) :
    (Decimal.trimPlaces coefficient places).2 = 0 ∨ (Decimal.trimPlaces coefficient places).1 % 10 ≠ 0 := by
  induction places generalizing coefficient with
  | zero => exact .inl rfl
  | succ places ih =>
    rw [Decimal.trimPlaces]
    split
    case isTrue => exact ih (coefficient / 10)
    case isFalse nonzero => exact .inr nonzero

theorem positional_mem_positional (d : Decimal) : d.positional ∈ positional := by
  have last := trimPlaces_last (d.coefficient * tenTo d.exponent.toNat) (-d.exponent).toNat
  rw [Decimal.positional]
  generalize Decimal.trimPlaces _ _ = trimmed at last
  obtain ⟨coefficient, places⟩ := trimmed
  cases places with
  | zero =>
    have plain := Language.append_mem_mul (digits_mem_whole coefficient) (Words.nil_mem_optional trimmed)
    rwa [List.append_nil] at plain
  | succ places =>
    have digit : coefficient % tenTo (places + 1) % 10 = coefficient % 10 :=
      Nat.mod_mod_of_dvd _ (Dvd.intro_left _ rfl)
    have value : ofDigits (paddedDigits (places + 1) (coefficient % tenTo (places + 1))) =
        coefficient % tenTo (places + 1) := ofDigits_paddedDigits _ _
    exact Language.append_mem_mul (digits_mem_whole _) (Words.mem_optional
      (mem_trimmed (paddedDigits_ne_nil _ _) (fun _ => isDigit_of_mem_paddedDigits)
        (by rw [value, digit]; exact last.resolve_left places.succ_ne_zero)))

theorem mem_pow_digit {word : List Char} (all : ∀ c ∈ word, c.isDigit) :
    word ∈ digit ^ word.length := by
  induction word with
  | nil => rfl
  | cons first rest ih =>
    obtain ⟨isDigit, others⟩ := List.forall_mem_cons.mp all
    rw [List.length_cons, pow_succ']
    exact Language.append_mem_mul (a := [first]) ⟨first, isDigit, rfl⟩ (ih others)

theorem scientific_mem_scientific {d : Decimal} {places : ℕ}
    (counted : digitCount d.coefficient = places + 1) (exponent : d.leadingExponent ≠ 0) :
    d.scientific ∈ scientific places := by
  obtain ⟨first, rest, written, leading, length⟩ := digits_eq_cons (ne_zero_of_digitCount counted)
  have all : ∀ c ∈ first :: rest, c.isDigit := fun _ member => isDigit_of_mem (written ▸ member)
  obtain ⟨isDigit, others⟩ := List.forall_mem_cons.mp all
  obtain rfl : rest.length = places := by omega
  have front : [first] ∈ nonzeroDigit := ⟨first, isDigit, leading, rfl⟩
  have mantissa : [first] ++ Decimal.fraction rest ∈ mantissa rest.length := by
    cases rest with
    | nil => exact front
    | cons second rest =>
      exact Language.append_mem_mul front (Language.append_mem_mul (a := ['.']) rfl (mem_pow_digit others))
  rw [Decimal.scientific, written]
  refine Language.append_mem_mul mantissa (Language.append_mem_mul (a := ['e']) rfl
    (Language.append_mem_mul (a := [_]) ?_ (digits_mem_counting (Int.natAbs_ne_zero.mpr exponent))))
  split
  · exact .inl rfl
  · exact .inr rfl

/-! The two forms exclude each other: only the scientific one has an exponent. -/

def withoutExponent : Language Char := Words.only (· ≠ 'e')

theorem letter_le_withoutExponent {c : Char} (other : c ≠ 'e') : letter c ≤ withoutExponent := by
  rintro word (rfl : word = [c])
  simpa [withoutExponent, Words.only] using other

theorem digit_le_withoutExponent : digit ≤ withoutExponent := by
  rintro word ⟨c, isDigit, rfl⟩
  refine letter_le_withoutExponent ?_ rfl
  rintro rfl
  exact absurd isDigit (by decide)

theorem nonzeroDigit_le_digit : nonzeroDigit ≤ digit := by
  rintro word ⟨c, isDigit, -, rfl⟩
  exact ⟨c, isDigit, rfl⟩

theorem positional_le_withoutExponent : sign * positional ≤ withoutExponent := by
  have leading := nonzeroDigit_le_digit.trans digit_le_withoutExponent
  have others := Words.kstar_le_only digit_le_withoutExponent
  have front : whole ≤ withoutExponent :=
    Words.add_le_only (letter_le_withoutExponent (by decide)) (Words.mul_le_only leading others)
  have behind : trimmed ≤ withoutExponent :=
    Words.mul_le_only (letter_le_withoutExponent (by decide)) (Words.mul_le_only others leading)
  exact Words.mul_le_only (Words.optional_le_only (letter_le_withoutExponent (by decide)))
    (Words.mul_le_only front (Words.optional_le_only behind))

theorem mem_of_scientific {word : List Char} {places : ℕ} (derived : word ∈ sign * scientific places) :
    'e' ∈ word := by
  obtain ⟨_, -, _, ⟨_, -, _, ⟨_, (rfl : _ = ['e']), _, -, rfl⟩, rfl⟩, rfl⟩ := derived
  simp

theorem signed_mem_sign_mul {content : Language Char} {word : List Char} (derived : word ∈ content)
    (negative : Bool) : Numeral.signed negative word ∈ sign * content := by
  cases negative with
  | false => exact Language.append_mem_mul (a := []) (Words.nil_mem_optional _) derived
  | true => exact Language.append_mem_mul (a := ['-']) (Words.mem_optional rfl) derived

section Write

variable (range : Numeral.PositionalRange) {d : Decimal} {places : ℕ}
variable (wide : range.contains 0) (counted : digitCount d.coefficient = places + 1) (negative : Bool)

include wide counted

/-- The form is decided by the exponent of the leading digit. -/
theorem write_forms :
    (signed negative (range.write d) ∈ sign * positional ↔
      range.least ≤ d.leadingExponent ∧ d.leadingExponent ≤ range.greatest) ∧
    (signed negative (range.write d) ∈ sign * scientific places ↔
      d.leadingExponent < range.least ∨ range.greatest < d.leadingExponent) := by
  have contains : ∀ exponent,
      range.contains exponent ↔ range.least ≤ exponent ∧ exponent ≤ range.greatest := by
    simp [PositionalRange.contains]
  have exclusive : ∀ {word : List Char}, word ∈ sign * positional → word ∉ sign * scientific places :=
    fun plain exponent => positional_le_withoutExponent plain 'e' (mem_of_scientific exponent) rfl
  rw [PositionalRange.write]
  by_cases inside : range.contains d.leadingExponent
  · have plain := signed_mem_sign_mul (positional_mem_positional d) negative
    rw [if_pos inside]
    rw [contains] at inside
    exact ⟨iff_of_true plain inside, iff_of_false (exclusive plain) (by omega)⟩
  · have nonzero : d.leadingExponent ≠ 0 := fun zero => inside (zero ▸ wide)
    have exponent := signed_mem_sign_mul (scientific_mem_scientific counted nonzero) negative
    rw [if_neg inside]
    rw [contains] at inside
    exact ⟨iff_of_false (fun plain => exclusive plain exponent) inside, iff_of_true exponent (by omega)⟩

end Write

end Notation

end CrsText
