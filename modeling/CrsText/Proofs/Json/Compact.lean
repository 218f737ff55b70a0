import CrsText.Json.Compact
import CrsText.Proofs.Number.Notation

/-! What the compact text of a value looks like. Arrays and objects begin with a bracket, strings with a
quote, and everything else has few letters.
-/

set_option autoImplicit false

namespace CrsText

namespace Json

open Notation

theorem mem_decimal_of_whole {d : Decimal} (whole : 0 ≤ d.exponent) :
    d.positional ++ ['.', '0'] ∈ decimal := by
  have places : (-d.exponent).toNat = 0 := by omega
  have plain : d.positional = CrsText.digits (d.coefficient * tenTo d.exponent.toNat) := by
    simp only [Decimal.positional, places, Decimal.trimPlaces, Decimal.withPlaces]
  have point : ['.', '0'] ∈ fraction := Language.append_mem_mul (a := ['.']) rfl (digits_mem 0)
  have behind := Language.append_mem_mul (Words.mem_optional point) (Words.nil_mem_optional exponent)
  rw [plain]
  exact Language.append_mem_mul (digits_mem _) behind

theorem floatMagnitude_mem (x : Magnitude) : floatMagnitude x ∈ decimal := by
  simp only [floatMagnitude]
  split
  · split
    · next whole => exact mem_decimal_of_whole whole
    · rw [List.append_nil]
      exact positional_mem _
  · exact scientific_mem _

theorem floatText_mem (x : Float) : floatText x ∈ number Numeral.infinity :=
  spell_mem (fun negative => signed_mem negative (.inl (mem_decimal_of_whole (d := ⟨0, 0⟩) le_rfl)))
    floatMagnitude_mem _

/-- The letters of everything that is neither a string nor within brackets. -/
def plainLetters : List Char := ['u', 'l', 'r', 's', 'e'] ++ letters

/-- How the compact text of a value looks that is no string. -/
theorem compactChars_cases {value : Json} (noString : ∀ text, value ≠ .string text) :
    value.compactChars.head? = some '[' ∨ value.compactChars.head? = some '\x7b' ∨
      ∀ c ∈ value.compactChars, c ∈ plainLetters := by
  have spelt : ∀ c ∈ Numeral.infinity, c ∈ letters := by simp [Numeral.infinity, letters]
  have number : ∀ {word : List Char}, word ∈ Notation.number Numeral.infinity →
      ∀ c ∈ word, c ∈ plainLetters :=
    fun derived c member => List.mem_append_right _ (number_le_only spelt derived c member)
  cases value with
  | null => exact .inr (.inr (by simp [compactChars, plainLetters, letters]))
  | bool value =>
    cases value <;> exact .inr (.inr (by simp [compactChars, boolText, plainLetters, letters]))
  | integer value =>
    exact .inr (.inr (by simpa only [compactChars] using number (signedDigits_mem value)))
  | float value => exact .inr (.inr (by simpa only [compactChars] using number (floatText_mem value)))
  | string text => exact absurd rfl (noString text)
  | array elements => exact .inl (by simp [compactChars])
  | object entries => exact .inr (.inl (by simp [compactChars]))

end Json

end CrsText
