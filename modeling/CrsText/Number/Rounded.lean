import CrsText.Number.Binary
import CrsText.Number.Decimal

/-! Decimal rounding of an exact binary magnitude to a fixed number of significant digits, a half
going away from zero.
-/

set_option autoImplicit false

namespace CrsText

/-- The whole number nearest to `numerator / denominator`, the larger one of two. -/
def roundHalfUp (numerator denominator : Nat) : Nat :=
  (2 * numerator + denominator) / (2 * denominator)

/-- The coefficient `10 ^ size` has one digit too many and becomes `10 ^ (size - 1)`. -/
def Decimal.carry (size : Nat) (d : Decimal) : Decimal :=
  if d.coefficient = tenTo size then ⟨tenTo (size - 1), d.exponent + 1⟩ else d

namespace Magnitude

/-- The exponent `k` with `10 ^ k ≤ x < 10 ^ (k + 1)`. -/
def decimalExponent (x : Magnitude) : Int :=
  if x.denominator ≤ x.numerator then
    digitCount (x.numerator / x.denominator) - 1
  else
    -digitCount ((x.denominator - 1) / x.numerator)

/-- The exponent of the last of `size` significant digits. -/
def lastExponent (x : Magnitude) (size : Nat) : Int := x.decimalExponent + 1 - size

/-- The decimal of `size` digits that is nearest to `x`, the larger one of two. -/
def rounded (size : Nat) (x : Magnitude) : Decimal :=
  let last := x.lastExponent size
  let (numerator, denominator) := x.scaled (-last)
  Decimal.carry size ⟨roundHalfUp numerator denominator, last⟩

end Magnitude

end CrsText
