import CrsText.Number.Power

/-! JSON values. Integers that fit in 64 bits are kept apart from all other numbers, since codes are
written differently for the two.
-/

set_option autoImplicit false

namespace CrsText

/-- A JSON value. Of entries with the same key the first one counts. -/
inductive Json where
  | null
  | bool (value : Bool)
  | integer (value : Int)
  | float (value : Float)
  | string (text : String)
  | array (elements : List Json)
  | object (entries : List (String × Json))
  deriving Inhabited

namespace Json

/-- The first integer that is too large for 64 bits with a sign. -/
def signedBound : Int := twoTo 63

/-- The first integer that is too large for 64 bits without a sign. -/
def unsignedBound : Int := twoTo 64

/-- The number written as digits alone, an integer as far as 64 bits hold it with or without a
sign. Minus zero is no integer. -/
def ofDigits (negative : Bool) (n : Nat) : Json :=
  if negative then
    if 0 < n ∧ n ≤ signedBound then .integer (-n) else .float (-Float.ofNat n)
  else if n < unsignedBound then .integer n else .float (Float.ofNat n)

/-- The number `coefficient · 10 ^ exponent`, written with a point or an exponent. -/
def ofDecimal (negative : Bool) (coefficient : Nat) (exponent : Int) : Json :=
  let magnitude := Float.ofScientific coefficient (decide (exponent < 0)) exponent.natAbs
  .float (if negative then -magnitude else magnitude)

def get? (key : String) : Json → Option Json
  | .object entries => entries.lookup key
  | _ => none

mutual

/-- How many arrays and objects enclose one another at most. -/
def depth : Json → Nat
  | .array elements => depthOfElements elements + 1
  | .object entries => depthOfEntries entries + 1
  | _ => 0

def depthOfElements : List Json → Nat
  | [] => 0
  | value :: rest => max (depth value) (depthOfElements rest)

def depthOfEntries : List (String × Json) → Nat
  | [] => 0
  | (_, value) :: rest => max (depth value) (depthOfEntries rest)

end

end Json

end CrsText
