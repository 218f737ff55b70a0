import CrsText.Number.Numeral

/-! The numbers of well-known text. Most are rounded to fifteen digits, so that equal definitions
have equal texts; a few are copied with all the digits they need.
-/

set_option autoImplicit false

namespace CrsText

namespace Token

/-- The digits kept of a number that is not copied. -/
def significantDigits : Nat := 15

def roundedRange : Numeral.PositionalRange := ⟨-6, 14⟩

/-- Fifteen digits; positional for a leading exponent from -6 to 14, and then without zeros at the
end of the fraction. -/
def roundedMagnitude (x : Magnitude) : List Char :=
  let decimal := x.rounded significantDigits
  if roundedRange.contains decimal.leadingExponent then decimal.positional
  else decimal.scientific

def copiedRange : Numeral.PositionalRange := ⟨-6, 20⟩

/-- The shortest digits; positional for a leading exponent from -6 to 20. -/
def copiedMagnitude (x : Magnitude) : List Char :=
  let decimal := x.shortest .up
  if copiedRange.contains decimal.leadingExponent then decimal.positional
  else decimal.scientific

/-- The shortest digits, always positional. -/
def plainMagnitude (x : Magnitude) : List Char := (x.shortest .up).positional

def unsignedZero (_ : Bool) : List Char := ['0']

/-- A number as most nodes hold it. -/
def rounded (x : Float) : String :=
  String.ofList (Numeral.spell Numeral.infinity unsignedZero roundedMagnitude (Binary.ofFloat x))

/-- A number that is copied rather than brought to a common form, such as an epoch. -/
def copied (x : Float) : String :=
  String.ofList (Numeral.spell Numeral.infinity unsignedZero copiedMagnitude (Binary.ofFloat x))

/-- A number in a code or a message; zero keeps its sign, and an infinity has a short name. -/
def plain (x : Float) : String :=
  String.ofList
    (Numeral.spell Numeral.shortInfinity Numeral.signedZero plainMagnitude (Binary.ofFloat x))

def integer (n : Int) : String := String.ofList (signedDigits n)

end Token

end CrsText
