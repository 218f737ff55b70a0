import CrsText.Proofs.Number.Representable

/-! What is left of a number when it is packed into 64 bits. A number of the format is kept, one with a
larger exponent becomes infinite.
-/

set_option autoImplicit false

open Float.Model (UnpackedFloat)
open Float.Model.UnpackedFloat (Sign)
open Float.Model.Format (binary64)

namespace CrsText

@[simp] theorem unpack_pack_zero (sign : Sign) :
    (Float.Model.pack (.zero sign)).unpack = .zero sign := by
  cases sign <;> rfl

@[simp] theorem unpack_pack_infinity (sign : Sign) :
    (Float.Model.pack (.infinity sign)).unpack = .infinity sign := by
  cases sign <;> rfl

theorem Binary.isNegative_injective : Function.Injective Binary.isNegative := by
  intro sign other same
  cases sign <;> cases other <;> first | rfl | cases same

/-- What the format holds, and the numbers with larger exponents. -/
structure Magnitude.IsNormalized (x : Magnitude) : Prop where
  positive : 0 < x.significand
  bounded : x.significand < 2 ^ 53
  least : -1074 ≤ x.exponent
  normal : 2 ^ 52 ≤ x.significand ∨ x.exponent = -1074

theorem Magnitude.IsNormalized.isDouble {x : Magnitude} (normalized : x.IsNormalized)
    (greatest : x.exponent ≤ 971) : x.IsDouble :=
  ⟨normalized.positive, normalized.bounded, normalized.least, greatest, normalized.normal⟩

theorem unpack_pack_finite {x : Magnitude} (double : x.IsDouble) (sign : Sign) :
    (Float.Model.pack (.finite sign x.significand x.exponent double.positive)).unpack =
      .finite sign x.significand x.exponent double.positive := by
  have read := Binary.ofBits_pack double sign
  rw [Binary.ofBits_eq_ofUnpacked] at read
  change Binary.ofUnpacked (Float.Model.pack
    (.finite sign x.significand x.exponent double.positive)).unpack = _ at read
  cases unpacked : (Float.Model.pack
      (.finite sign x.significand x.exponent double.positive)).unpack with
  | finite other significand exponent positive =>
    rw [unpacked, Binary.ofUnpacked, Binary.finite.injEq] at read
    obtain ⟨negative, rfl⟩ := read
    rw [Binary.isNegative_injective negative]
  | _ => rw [unpacked] at read; cases read

theorem unpack_pack_overflow {significand : ℕ} {exponent : ℤ} (beyond : 971 < exponent)
    (positive : 0 < significand) (sign : Sign) :
    (Float.Model.pack (.finite sign significand exponent positive)).unpack = .infinity sign := by
  have bias : (exponent + (binary64.exponentBias : ℕ) + (52 : ℕ)).toNat + 1 ≥ 2 ^ 11 := by
    have value : binary64.exponentBias = 1023 := rfl
    rw [value]
    omega
  have same : UnpackedFloat.pack binary64 (.finite sign significand exponent positive) =
      UnpackedFloat.pack binary64 (.infinity sign) := by
    simp only [UnpackedFloat.pack]
    exact if_pos bias
  change UnpackedFloat.unpack binary64 (UnpackedFloat.pack binary64 _) = _
  rw [same]
  exact unpack_pack_infinity sign

end CrsText
