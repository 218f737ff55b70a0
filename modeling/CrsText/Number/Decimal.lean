import CrsText.Number.Power

/-! Decimal numbers and their two written forms. The positional form has no exponent; the scientific
form has one digit before the point and every other digit after it.
-/

set_option autoImplicit false

namespace CrsText

/-- How many digits a number has in base ten, none for zero. -/
def digitCountWithin : Nat → Nat → Nat
  | 0, _ => 0
  | bound + 1, n => if n = 0 then 0 else digitCountWithin bound (n / 10) + 1

def digitCount (n : Nat) : Nat := digitCountWithin n n

def digits (n : Nat) : List Char := Nat.toDigits 10 n

/-- The digits of `n`, with zeros in front up to the given width. -/
def paddedDigits (width n : Nat) : List Char :=
  List.replicate (width - (digits n).length) '0' ++ digits n

def signedDigits : Int → List Char
  | .ofNat n => digits n
  | .negSucc n => '-' :: digits (n + 1)

/-- The value `coefficient · 10 ^ exponent`. -/
structure Decimal where
  coefficient : Nat
  exponent : Int
  deriving DecidableEq, Repr

namespace Decimal

/-- The exponent of the leading digit. -/
def leadingExponent (d : Decimal) : Int := d.exponent + digitCount d.coefficient - 1

/-- Drops zeros at the end of the coefficient, at most as many as there are decimal places. -/
def trimPlaces : Nat → Nat → Nat × Nat
  | coefficient, 0 => (coefficient, 0)
  | coefficient, places + 1 =>
    if coefficient % 10 = 0 then trimPlaces (coefficient / 10) places
    else (coefficient, places + 1)

/-- Writes `coefficient / 10 ^ places` with exactly that many digits after the point. -/
def withPlaces (coefficient : Nat) : Nat → List Char
  | 0 => digits coefficient
  | places + 1 =>
    digits (coefficient / tenTo (places + 1)) ++
      '.' :: paddedDigits (places + 1) (coefficient % tenTo (places + 1))

/-- The positional form, without zeros at the end of the fraction. -/
def positional (d : Decimal) : List Char :=
  let (coefficient, places) :=
    trimPlaces (d.coefficient * tenTo d.exponent.toNat) (-d.exponent).toNat
  withPlaces coefficient places

/-- The point and the digits after it, nothing if there are none. -/
def fraction : List Char → List Char
  | [] => []
  | digit :: rest => '.' :: digit :: rest

/-- The scientific form with all digits of the coefficient and a sign before the exponent. -/
def scientific (d : Decimal) : List Char :=
  let exponent := d.leadingExponent
  (digits d.coefficient).take 1 ++ fraction ((digits d.coefficient).drop 1) ++
    'e' :: (if exponent < 0 then '-' else '+') :: digits exponent.natAbs

end Decimal

end CrsText
