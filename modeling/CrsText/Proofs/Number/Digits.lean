import CrsText.Number.Reading
import CrsText.Proofs.Number.Notation
import Mathlib.Data.List.Induction
import Mathlib.Data.Nat.Log
import Mathlib.Tactic.Positivity

/-! Strings of digits and the natural numbers that they stand for. Among the strings of one length each
number is written only once.
-/

set_option autoImplicit false

namespace CrsText

theorem digitCountWithin_eq_log {bound n : ℕ} (enough : n ≤ bound) (nonzero : n ≠ 0) :
    digitCountWithin bound n = Nat.log 10 n + 1 := by
  induction bound generalizing n with
  | zero => omega
  | succ bound ih =>
    rw [digitCountWithin, if_neg nonzero]
    by_cases single : n / 10 = 0
    · have small : n < 10 := by omega
      have none : digitCountWithin bound (n / 10) = 0 := by
        rw [single]
        cases bound <;> rfl
      rw [none, Nat.log_of_lt small]
    · rw [ih (by omega) single, Nat.log_div_base]
      have several : 1 ≤ Nat.log 10 n := Nat.log_pos (by decide) (by omega)
      omega

theorem digitCount_eq_log {n : ℕ} (nonzero : n ≠ 0) : digitCount n = Nat.log 10 n + 1 :=
  digitCountWithin_eq_log le_rfl nonzero

theorem digitCount_eq_iff {n size : ℕ} :
    digitCount n = size + 1 ↔ 10 ^ size ≤ n ∧ n < 10 ^ (size + 1) := by
  by_cases nonzero : n = 0
  · have positive : 0 < 10 ^ size := by positivity
    subst nonzero
    exact iff_of_false (Nat.succ_ne_zero size).symm (by omega)
  · rw [digitCount_eq_log nonzero, Nat.add_right_cancel_iff, Nat.log_eq_iff (.inr ⟨by decide, nonzero⟩)]

theorem ne_zero_of_digitCount {n size : ℕ} (counted : digitCount n = size + 1) : n ≠ 0 := by
  rintro rfl
  exact Nat.succ_ne_zero size counted.symm

theorem length_digits {n : ℕ} (nonzero : n ≠ 0) : (digits n).length = digitCount n := by
  have bounded : ∀ size, (digits n).length ≤ size + 1 ↔ digitCount n ≤ size + 1 := by
    intro size
    rw [digits, Nat.length_toDigits_le_iff (by decide) size.succ_pos, digitCount_eq_log nonzero,
      Nat.succ_le_succ_iff, ← Nat.log_lt_iff_lt_pow (by decide) nonzero, Nat.lt_succ_iff]
  have some : 0 < (digits n).length := List.length_pos_iff.mpr Nat.toDigits_ne_nil
  have counted : 0 < digitCount n := digitCount_eq_log nonzero ▸ Nat.succ_pos _
  obtain ⟨length, sameLength⟩ := Nat.exists_eq_succ_of_ne_zero some.ne'
  obtain ⟨count, sameCount⟩ := Nat.exists_eq_succ_of_ne_zero counted.ne'
  have upper := (bounded count).mpr sameCount.le
  have lower := (bounded length).mp sameLength.le
  omega

namespace Numeral

@[simp] theorem ofDigits_digits (n : ℕ) : ofDigits (digits n) = n := Nat.ofDigitChars_ten_toDigits

theorem ofDigits_append (text rest : List Char) :
    ofDigits (text ++ rest) = ofDigits text * 10 ^ rest.length + ofDigits rest := by
  rw [ofDigits, Nat.ofDigitChars_append, Nat.ofDigitChars_eq_ofDigitChars_zero, mul_comm]
  rfl

theorem ofDigits_concat (text : List Char) (digit : Char) :
    ofDigits (text ++ [digit]) = ofDigits text * 10 + ofDigits [digit] := by
  rw [ofDigits_append, List.length_singleton, pow_one]

theorem ofDigits_replicate_zero (count : ℕ) : ofDigits (List.replicate count '0') = 0 := by
  simp [ofDigits, Nat.ofDigitChars_replicate_zero]

theorem ofDigits_singleton (digit : Char) : ofDigits [digit] = digit.toNat - '0'.toNat := by
  rw [ofDigits, Nat.ofDigitChars_cons, Nat.ofDigitChars_nil, mul_zero, zero_add]

theorem ofDigits_singleton_lt {digit : Char} (isDigit : digit.isDigit) : ofDigits [digit] < 10 := by
  have bounds : 48 ≤ digit.toNat ∧ digit.toNat ≤ 57 := Char.isDigit_iff_toNat.mp isDigit
  have zero : '0'.toNat = 48 := rfl
  rw [ofDigits_singleton, zero]
  omega

theorem ofDigits_lt {text : List Char} (all : ∀ c ∈ text, c.isDigit) :
    ofDigits text < 10 ^ text.length := by
  induction text using List.reverseRecOn with
  | nil => decide
  | append_singleton text digit ih =>
    obtain ⟨others, last⟩ := List.forall_mem_append.mp all
    have before := ih others
    have small := ofDigits_singleton_lt (last digit List.mem_cons_self)
    rw [ofDigits_concat, List.length_append, List.length_singleton, pow_succ]
    omega

theorem eq_of_ofDigits_eq {text other : List Char} (all : ∀ c ∈ text, c.isDigit)
    (allOther : ∀ c ∈ other, c.isDigit) (sameLength : text.length = other.length)
    (same : ofDigits text = ofDigits other) : text = other := by
  -- The last digit is the remainder by ten, so both strings are taken apart from their ends.
  induction text using List.reverseRecOn generalizing other with
  | nil => exact (List.length_eq_zero_iff.mp sameLength.symm).symm
  | append_singleton text digit ih =>
    rcases List.eq_nil_or_concat' other with rfl | ⟨other, last, rfl⟩
    · simp at sameLength
    · obtain ⟨before, isDigit⟩ := List.forall_mem_append.mp all
      obtain ⟨beforeOther, isLast⟩ := List.forall_mem_append.mp allOther
      have small := isDigit digit List.mem_cons_self
      have smallLast := isLast last List.mem_cons_self
      have bound := ofDigits_singleton_lt small
      have boundLast := ofDigits_singleton_lt smallLast
      rw [ofDigits_concat, ofDigits_concat] at same
      have sameBefore : text = other :=
        ih before beforeOther (by simpa using sameLength) (by omega)
      have sameLast : ofDigits [digit] = ofDigits [last] := by omega
      rw [ofDigits_singleton, ofDigits_singleton] at sameLast
      have lower := (Char.isDigit_iff_toNat.mp small).1
      have lowerLast := (Char.isDigit_iff_toNat.mp smallLast).1
      have sameDigit : digit = last := Char.toNat_inj.mp (by omega)
      rw [sameBefore, sameDigit]

/-- A string of digits that does not begin with zero is the way in which its number is written. -/
theorem digits_ofDigits {text : List Char} {size : ℕ} (all : ∀ c ∈ text, c.isDigit)
    (length : text.length = size + 1) (least : 10 ^ size ≤ ofDigits text) :
    digits (ofDigits text) = text := by
  have positive : 0 < 10 ^ size := by positivity
  have bounded : ofDigits text < 10 ^ (size + 1) := length ▸ ofDigits_lt all
  refine eq_of_ofDigits_eq (fun _ => Notation.isDigit_of_mem) all ?_ (ofDigits_digits _)
  rw [length_digits (by omega), digitCount_eq_iff.mpr ⟨least, bounded⟩, length]

end Numeral

end CrsText
