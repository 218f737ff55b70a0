import CrsText.Number.Token
import CrsText.Proofs.Words

/-! The notation of numbers: an optional sign, digits with an optional fraction and an optional
exponent, or a name for what is no finite number. There are two names for an infinity.
-/

set_option autoImplicit false

open scoped Computability

namespace CrsText

def Numeral.PositionalRange.write (range : PositionalRange) (d : Decimal) : List Char :=
  if range.contains d.leadingExponent then d.positional else d.scientific

namespace Notation

open Words (optional)

def letter (c : Char) : Language Char := {word | word = [c]}

def digit : Language Char := {word | ∃ c, c.isDigit ∧ word = [c]}

def digits : Language Char := digit * digit∗

def fraction : Language Char := letter '.' * digits

def exponent : Language Char := letter 'e' * ((letter '-' + letter '+') * digits)

def sign : Language Char := optional (letter '-')

def decimal : Language Char := digits * (optional fraction * optional exponent)

def name (letters : List Char) : Language Char := {word | word = letters}

def number (infinity : List Char) : Language Char :=
  sign * (decimal + name infinity) + name Numeral.notANumber

variable {infinity : List Char}

theorem mem_kstar_digit {word : List Char} (all : ∀ c ∈ word, c.isDigit) : word ∈ digit∗ := by
  have single : word.flatMap (fun c => [c]) = word := List.flatMap_singleton' word
  have repeated : word.flatMap (fun c => [c]) ∈ digit∗ := by
    refine Language.join_mem_kstar fun part member => ?_
    obtain ⟨c, inWord, rfl⟩ := List.mem_map.mp member
    exact ⟨c, all c inWord, rfl⟩
  rwa [single] at repeated

theorem mem_digits {word : List Char} (notEmpty : word ≠ []) (all : ∀ c ∈ word, c.isDigit) :
    word ∈ digits := by
  cases word with
  | nil => contradiction
  | cons first rest =>
    obtain ⟨isDigit, others⟩ := List.forall_mem_cons.mp all
    exact Language.append_mem_mul (a := [first]) ⟨first, isDigit, rfl⟩ (mem_kstar_digit others)

theorem isDigit_of_mem {n : Nat} {c : Char} (member : c ∈ CrsText.digits n) : c.isDigit :=
  Nat.isDigit_of_mem_toDigits (by decide) (by decide) member

theorem digits_ne_nil (n : Nat) : CrsText.digits n ≠ [] := Nat.toDigits_ne_nil

theorem digits_mem (n : Nat) : CrsText.digits n ∈ digits :=
  mem_digits (digits_ne_nil n) fun _ => isDigit_of_mem

theorem paddedDigits_mem (width n : Nat) : paddedDigits width n ∈ digits := by
  refine mem_digits (by simp [paddedDigits, digits_ne_nil]) fun c member => ?_
  rcases List.mem_append.mp member with zero | member
  · rw [List.eq_of_mem_replicate zero]
    decide
  · exact isDigit_of_mem member

theorem decimal_of_digits {word : List Char} (derived : word ∈ digits) : word ∈ decimal := by
  have plain := Language.append_mem_mul derived
    (Language.append_mem_mul (Words.nil_mem_optional fraction)
      (Words.nil_mem_optional exponent))
  rw [List.append_nil, List.append_nil] at plain
  exact plain

theorem withPlaces_mem (coefficient places : Nat) :
    Decimal.withPlaces coefficient places ∈ decimal := by
  cases places with
  | zero => exact decimal_of_digits (digits_mem coefficient)
  | succ places =>
    have point : '.' :: paddedDigits (places + 1) (coefficient % tenTo (places + 1)) ∈ fraction :=
      Language.append_mem_mul (a := ['.']) rfl (paddedDigits_mem _ _)
    have tail := Language.append_mem_mul (Words.mem_optional point)
      (Words.nil_mem_optional exponent)
    rw [List.append_nil] at tail
    exact Language.append_mem_mul (digits_mem _) tail

theorem positional_mem (d : Decimal) : d.positional ∈ decimal := withPlaces_mem _ _

theorem fraction_mem {word : List Char} (all : ∀ c ∈ word, c.isDigit) :
    Decimal.fraction word ∈ optional fraction := by
  cases word with
  | nil => exact Words.nil_mem_optional _
  | cons c rest =>
    exact Words.mem_optional (Language.append_mem_mul (a := ['.']) rfl (mem_digits (by simp) all))

theorem scientific_mem (d : Decimal) : d.scientific ∈ decimal := by
  have leading : (CrsText.digits d.coefficient).take 1 ∈ digits :=
    mem_digits (by simp [digits_ne_nil]) fun c member => isDigit_of_mem (List.mem_of_mem_take member)
  have others : Decimal.fraction ((CrsText.digits d.coefficient).drop 1) ∈ optional fraction :=
    fraction_mem fun c member => isDigit_of_mem (List.mem_of_mem_drop member)
  have scale : 'e' :: (if d.leadingExponent < 0 then '-' else '+') ::
      CrsText.digits d.leadingExponent.natAbs ∈ exponent := by
    refine Language.append_mem_mul (a := ['e']) rfl
      (Language.append_mem_mul (a := [_]) ?_ (digits_mem _))
    split
    · exact .inl rfl
    · exact .inr rfl
  have whole := Language.append_mem_mul leading
    (Language.append_mem_mul others (Words.mem_optional scale))
  rw [← List.append_assoc] at whole
  exact whole

theorem signed_mem (negative : Bool) {word : List Char} (derived : word ∈ decimal + name infinity) :
    Numeral.signed negative word ∈ number infinity := by
  cases negative with
  | false => exact .inl (Language.append_mem_mul (a := []) (Words.nil_mem_optional _) derived)
  | true => exact .inl (Language.append_mem_mul (a := ['-']) (Words.mem_optional rfl) derived)

theorem spell_mem {zero : Bool → List Char} {finite : Magnitude → List Char}
    (zeroNumber : ∀ negative, zero negative ∈ number infinity) (finiteDecimal : ∀ x, finite x ∈ decimal)
    (x : Binary) : Numeral.spell infinity zero finite x ∈ number infinity := by
  cases x with
  | notANumber => exact .inr rfl
  | infinite negative => exact signed_mem negative (.inr rfl)
  | zero negative => exact zeroNumber negative
  | finite negative magnitude => exact signed_mem negative (.inl (finiteDecimal magnitude))

section Letters

open Words (only add_le_only mul_le_only kstar_le_only optional_le_only)

def letters : List Char :=
  ['0', '1', '2', '3', '4', '5', '6', '7', '8', '9', '.', 'e', '+', '-', 'I', 'n', 'f', 'i', 't', 'y',
    'N', 'a']

theorem mem_letters_of_isDigit {c : Char} (isDigit : c.isDigit) : c ∈ letters := by
  obtain ⟨lower, upper⟩ := Char.isDigit_iff_toNat.mp isDigit
  have among : c ∈ (List.range' 48 10).map Char.ofNat :=
    List.mem_map.mpr ⟨c.toNat, List.mem_range'_1.mpr ⟨lower, Nat.lt_succ_of_le upper⟩,
      Char.ofNat_toNat c⟩
  exact List.mem_append_left _ among

theorem letter_le_only {c : Char} (allowed : c ∈ letters) : letter c ≤ only (· ∈ letters) := by
  rintro _ rfl other same
  exact List.mem_singleton.mp same ▸ allowed

theorem digits_le_only : digits ≤ only (· ∈ letters) := by
  have digit : digit ≤ only (· ∈ letters) := by
    rintro _ ⟨c, isDigit, rfl⟩
    exact letter_le_only (mem_letters_of_isDigit isDigit) rfl
  exact mul_le_only digit (kstar_le_only digit)

theorem decimal_le_only : decimal ≤ only (· ∈ letters) := by
  have fraction : fraction ≤ only (· ∈ letters) :=
    mul_le_only (letter_le_only (by decide)) digits_le_only
  have exponent : exponent ≤ only (· ∈ letters) := mul_le_only (letter_le_only (by decide))
    (mul_le_only (add_le_only (letter_le_only (by decide)) (letter_le_only (by decide)))
      digits_le_only)
  exact mul_le_only digits_le_only
    (mul_le_only (optional_le_only fraction) (optional_le_only exponent))

theorem name_le_only {word : List Char} (spelt : ∀ c ∈ word, c ∈ letters) :
    name word ≤ only (· ∈ letters) := by
  rintro _ rfl
  exact spelt

theorem number_le_only (spelt : ∀ c ∈ infinity, c ∈ letters) :
    number infinity ≤ only (· ∈ letters) :=
  add_le_only (mul_le_only (optional_le_only (letter_le_only (by decide)))
    (add_le_only decimal_le_only (name_le_only spelt)))
    (name_le_only (by simp [Numeral.notANumber, letters]))

end Letters

theorem zero_mem : ['0'] ∈ decimal := decimal_of_digits (digits_mem 0)

theorem write_mem (range : Numeral.PositionalRange) (d : Decimal) : range.write d ∈ decimal := by
  rw [Numeral.PositionalRange.write]
  split
  · exact positional_mem d
  · exact scientific_mem d

theorem signedDigits_mem (n : Int) : signedDigits n ∈ number infinity := by
  cases n with
  | ofNat n => exact signed_mem false (.inl (decimal_of_digits (digits_mem n)))
  | negSucc n => exact signed_mem true (.inl (decimal_of_digits (digits_mem (n + 1))))

end Notation

def IsNumber (text : String) : Prop := text.toList ∈ Notation.number Numeral.infinity

/-- The same with the short name for an infinity, as in codes. -/
def IsPlainNumber (text : String) : Prop := text.toList ∈ Notation.number Numeral.shortInfinity

namespace Token

open Notation

theorem isNumber_rounded (x : Float) : IsNumber (rounded x) := by
  rw [IsNumber, rounded, String.toList_ofList]
  exact spell_mem (fun _ => signed_mem false (.inl zero_mem)) (fun _ => write_mem _ _) _

theorem isNumber_copied (x : Float) : IsNumber (copied x) := by
  rw [IsNumber, copied, String.toList_ofList]
  exact spell_mem (fun _ => signed_mem false (.inl zero_mem)) (fun _ => write_mem _ _) _

theorem isPlainNumber_plain (x : Float) : IsPlainNumber (plain x) := by
  rw [IsPlainNumber, plain, String.toList_ofList]
  exact spell_mem (fun negative => signed_mem negative (.inl zero_mem)) (fun _ => positional_mem _) _

theorem integer_eq_toString (n : Int) : integer n = toString n := by
  cases n with
  | ofNat n => rfl
  | negSucc n => exact String.ofList_cons

theorem isNumber_integer (n : Int) : IsNumber (integer n) := by
  rw [IsNumber, integer, String.toList_ofList]
  exact signedDigits_mem n

theorem isPlainNumber_integer (n : Int) : IsPlainNumber (integer n) := by
  rw [IsPlainNumber, integer, String.toList_ofList]
  exact signedDigits_mem n

end Token

end CrsText
