import CrsText.Number.Decimal

/-! Reading decimal numbers. Both written forms are read, with any number of digits.
-/

set_option autoImplicit false

namespace CrsText

namespace Numeral

/-- The text before a mark and, if the mark is there, the text behind it. -/
def cut (mark : Char) : List Char → List Char × Option (List Char)
  | [] => ([], none)
  | c :: rest =>
    if c = mark then ([], some rest)
    else
      let (before, behind) := cut mark rest
      (c :: before, behind)

def ofDigits (text : List Char) : Nat := Nat.ofDigitChars 10 text 0

def natural? (text : List Char) : Option Nat :=
  if text.isEmpty || text.any (!·.isDigit) then none else some (ofDigits text)

def integer? : List Char → Option Int
  | '-' :: text => (natural? text).map fun n : Nat => -(n : Int)
  | '+' :: text => (natural? text).map fun n : Nat => (n : Int)
  | text => (natural? text).map fun n : Nat => (n : Int)

/-- Digits, and after a point more digits. -/
def mantissa? (text : List Char) : Option Decimal :=
  match cut '.' text with
  | (whole, none) => (natural? whole).map (⟨·, 0⟩)
  | (whole, some places) => do
    let above ← natural? whole
    let below ← natural? places
    return ⟨above * tenTo places.length + below, -places.length⟩

def decimal? (text : List Char) : Option Decimal :=
  match cut 'e' text with
  | (mantissa, none) => mantissa? mantissa
  | (mantissa, some scale) => do
    let decimal ← mantissa? mantissa
    let shift ← integer? scale
    return ⟨decimal.coefficient, decimal.exponent + shift⟩

/-- Whether the number is negative, and its magnitude. -/
def number? : List Char → Option (Bool × Decimal)
  | '-' :: text => (decimal? text).map (true, ·)
  | text => (decimal? text).map (false, ·)

end Numeral

end CrsText
