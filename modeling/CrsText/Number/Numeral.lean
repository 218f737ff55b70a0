import CrsText.Number.Shortest

/-! What the spellings of a floating-point number have in common: the sign, the names for what is no
finite number, and a range of exponents within which the number is written positionally.
-/

set_option autoImplicit false

namespace CrsText

namespace Numeral

def signed (negative : Bool) (text : List Char) : List Char :=
  if negative then '-' :: text else text

def signedZero (negative : Bool) : List Char := signed negative ['0']

def notANumber : List Char := ['N', 'a', 'N']

def infinity : List Char := ['I', 'n', 'f', 'i', 'n', 'i', 't', 'y']

def shortInfinity : List Char := ['i', 'n', 'f']

/-- Spells a number, given how an infinity, zero and the other finite magnitudes are spelt. -/
def spell (infinity : List Char) (zero : Bool → List Char) (finite : Magnitude → List Char) :
    Binary → List Char
  | .notANumber => notANumber
  | .infinite negative => signed negative infinity
  | .zero negative => zero negative
  | .finite negative magnitude => signed negative (finite magnitude)

/-- The exponents of the leading digit for which a number is written positionally. -/
structure PositionalRange where
  least : Int
  greatest : Int

def PositionalRange.contains (range : PositionalRange) (exponent : Int) : Bool :=
  decide (range.least ≤ exponent) && decide (exponent ≤ range.greatest)

end Numeral

end CrsText
