import CrsText.Number.Power

/-! Floating-point numbers taken apart: the sign, and for a finite number other than zero its exact
magnitude as a whole number times a power of two.
-/

set_option autoImplicit false

namespace CrsText

/-- The positive value `significand · 2 ^ exponent`. -/
structure Magnitude where
  significand : Nat
  exponent : Int
  deriving DecidableEq, Repr

/-- What a bit pattern stands for. -/
inductive Binary where
  | notANumber
  | infinite (negative : Bool)
  | zero (negative : Bool)
  | finite (negative : Bool) (magnitude : Magnitude)
  deriving DecidableEq, Repr

namespace Magnitude

/-- The exponent of the smallest positive number, and of every number below the normal ones. -/
def leastExponent : Int := -1074

/-- The significand of a power of two among the normal numbers. -/
def leastNormalSignificand : Nat := twoTo 52

def numerator (x : Magnitude) : Nat := x.significand * twoTo x.exponent.toNat

def denominator (x : Magnitude) : Nat := twoTo (-x.exponent).toNat

/-- The numerator and denominator of `x · 10 ^ shift`. -/
def scaled (x : Magnitude) (shift : Int) : Nat × Nat :=
  (x.numerator * tenTo shift.toNat, x.denominator * tenTo (-shift).toNat)

/-- The neighbour below a power of two is only half as far away as the one above. -/
def narrowBelow (x : Magnitude) : Bool :=
  x.significand == leastNormalSignificand && decide (leastExponent < x.exponent)

end Magnitude

namespace Binary

/-- Reads sign, exponent and fraction off the 64 bits of the interchange format. -/
def ofBits (bits : Nat) : Binary :=
  let negative := bits / twoTo 63 % 2 == 1
  let exponent := bits / twoTo 52 % twoTo 11
  let fraction := bits % twoTo 52
  if exponent = twoTo 11 - 1 then
    if fraction = 0 then .infinite negative else .notANumber
  else if exponent = 0 then
    if fraction = 0 then .zero negative else .finite negative ⟨fraction, Magnitude.leastExponent⟩
  else
    .finite negative
      ⟨Magnitude.leastNormalSignificand + fraction, Magnitude.leastExponent + (exponent - 1 : Nat)⟩

def ofFloat (x : Float) : Binary := ofBits x.toBits.toNat

end Binary

end CrsText
