import CrsText.Number.Reading

/-! Rounding of a printed decimal expansion, digit by digit.
-/

set_option autoImplicit false

namespace CrsText

namespace Expansion

/-- The scientific form with all digits, where only a negative exponent has a sign. -/
def print (d : Decimal) : List Char :=
  (digits d.coefficient).take 1 ++ Decimal.fraction ((digits d.coefficient).drop 1) ++
    'e' :: signedDigits d.leadingExponent

/-- Adds one to digits that are given from the last one on, and says whether it is carried past the
first one. -/
def increment : List Char → List Char × Bool
  | [] => ([], true)
  | digit :: rest =>
    if digit = '9' then
      let (raised, carried) := increment rest
      ('0' :: raised, carried)
    else
      (Char.ofNat (digit.toNat + 1) :: rest, false)

/-- Keeps the first digits and, if the next one is at least five, adds one to them. -/
def roundDigits (size : Nat) (expansion : List Char) (exponent : Int) : List Char × Int :=
  let kept := expansion.take size
  if expansion[size]?.any ('5' ≤ ·) then
    match increment kept.reverse with
    | (raised, true) => (('1' :: raised.reverse).take size, exponent + 1)
    | (raised, false) => (raised.reverse, exponent)
  else
    (kept, exponent)

/-- The first digits of a printed expansion and the exponent of the leading one. -/
def significantDigits (size : Nat) (printed : List Char) : List Char × Int :=
  let (mantissa, scale) := Numeral.cut 'e' printed
  roundDigits size (mantissa.filter (·.isDigit)) ((scale.bind Numeral.integer?).getD 0)

end Expansion

end CrsText
