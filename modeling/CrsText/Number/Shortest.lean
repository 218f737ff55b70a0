import CrsText.Number.Rounded

/-! The decimal with the fewest digits that reads back as a given binary number. On each grid of
decimals only the two neighbours of the number have to be looked at.
-/

set_option autoImplicit false

namespace CrsText

/-- Which of two equally near decimals is taken. -/
inductive Tie where
  | up
  | even
  deriving DecidableEq, Repr

namespace Magnitude

/-- Whether the decimal reads back as `x`, that is, lies no further than halfway to the next binary
number on either side; the halfway points belong to the even significand. -/
def readsBack (x : Magnitude) (d : Decimal) : Bool :=
  let decimal := d.coefficient * tenTo d.exponent.toNat * twoTo (2 - x.exponent).toNat
  let quarter := twoTo (x.exponent - 2).toNat * tenTo (-d.exponent).toNat
  let low := (4 * x.significand - if x.narrowBelow then 1 else 2) * quarter
  let high := (4 * x.significand + 2) * quarter
  if x.significand % 2 = 0 then decide (low ≤ decimal) && decide (decimal ≤ high)
  else decide (low < decimal) && decide (decimal < high)

/-- Whether `remainder / denominator` past the lower neighbour calls for the upper one. -/
def roundsUp (tie : Tie) (lower remainder denominator : Nat) : Bool :=
  match compare (2 * remainder) denominator, tie with
  | .lt, _ => false
  | .gt, _ => true
  | .eq, .up => true
  | .eq, .even => lower % 2 == 1

/-- The nearer of the two neighbours of `x` among the decimals of `size` digits, as far as they read
back. -/
def neighbour? (tie : Tie) (x : Magnitude) (size : Nat) : Option Decimal :=
  let last := x.lastExponent size
  let (numerator, denominator) := x.scaled (-last)
  let lower : Decimal := ⟨numerator / denominator, last⟩
  let upper : Decimal := ⟨numerator / denominator + 1, last⟩
  match x.readsBack lower, x.readsBack upper with
  | true, true =>
    if roundsUp tie lower.coefficient (numerator % denominator) denominator then
      some (upper.carry size)
    else
      some lower
  | true, false => some lower
  | false, true => some (upper.carry size)
  | false, false => none

/-- Seventeen digits always suffice to tell a binary number from its neighbours. -/
def mostDigits : Nat := 17

/-- The shortest decimal that reads back as `x`, and of those the nearest. -/
def shortest (tie : Tie) (x : Magnitude) : Decimal :=
  ((List.range mostDigits).findSome? fun size => x.neighbour? tie (size + 1)).getD
    (x.rounded mostDigits)

end Magnitude

end CrsText
