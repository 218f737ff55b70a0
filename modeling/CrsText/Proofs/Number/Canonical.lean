import CrsText.Proofs.Number.Forms
import CrsText.Proofs.Number.Rounded
import CrsText.Proofs.Number.Significant
import CrsText.Proofs.Number.Spacing

/-! Numbers that are equal after rounding have the same text, and only these have. The texts also keep
the order of the numbers.
-/

set_option autoImplicit false

namespace CrsText

open Notation (sign positional scientific)

namespace Token

section Rounded

variable {v w : Float}

theorem rounded_of_zero (finite : v.isFinite) (zero : exactValue v = 0) : rounded v = "0" := by
  rw [rounded, spell_of_zero finite zero]

theorem denoted?_rounded_of_isFinite (finite : v.isFinite) :
    denoted? (rounded v) = some (roundAway 14 (exactValue v)) := by
  by_cases zero : exactValue v = 0
  · rw [rounded_of_zero finite zero, zero, roundAway_zero, denoted?_zero]
  · rw [denoted?_rounded zero, roundAway_eq]

theorem rounded_eq_zero_iff (finite : v.isFinite) : rounded v = "0" ↔ exactValue v = 0 := by
  refine ⟨fun same => ?_, rounded_of_zero finite⟩
  have denotes := denoted?_rounded_of_isFinite finite
  rw [same, denoted?_zero, Option.some_inj] at denotes
  rw [← sign_eq_zero_iff, ← sign_roundAway 14, ← denotes, sign_zero]

/-- The digits, the sign and so the whole text follow from the number that is denoted. -/
theorem rounded_eq_iff (finite : v.isFinite) (finiteOther : w.isFinite) :
    rounded v = rounded w ↔ roundAway 14 (exactValue v) = roundAway 14 (exactValue w) := by
  constructor
  · intro same
    have denotes := denoted?_rounded_of_isFinite finite
    rw [same, denoted?_rounded_of_isFinite finiteOther, Option.some_inj] at denotes
    exact denotes.symm
  · intro same
    have signs : SignType.sign (exactValue v) = SignType.sign (exactValue w) := by
      rw [← sign_roundAway 14, same, sign_roundAway]
    by_cases zero : exactValue v = 0
    · have zeroOther : exactValue w = 0 := by rwa [zero, sign_zero, eq_comm, sign_eq_zero_iff] at signs
      rw [rounded_of_zero finite zero, rounded_of_zero finiteOther zeroOther]
    · have nonzero : exactValue w ≠ 0 := by rwa [← sign_ne_zero, ← signs, sign_ne_zero]
      have digits : Decimal.ofRat 14 |exactValue v| = Decimal.ofRat 14 |exactValue w| := by
        refine Decimal.eq_of_value_eq (Decimal.digitCount_ofRat (abs_pos.mpr zero) 14)
          (Decimal.digitCount_ofRat (abs_pos.mpr nonzero) 14) ?_
        rw [← abs_roundAway zero, ← abs_roundAway nonzero, same]
      have negative : exactValue v < 0 ↔ exactValue w < 0 := by
        rw [← sign_eq_neg_one_iff, ← sign_eq_neg_one_iff, signs]
      rw [rounded_eq zero, rounded_eq nonzero, digits, decide_eq_decide.mpr negative]

/-- Which form a number has is decided by its exponent after rounding. The text determines the rounded
number and is determined by it, and a greater number is not denoted by a smaller one. -/
theorem rounded_canonical (finite : v.isFinite) (finiteOther : w.isFinite) :
    (rounded v = "0" ↔ exactValue v = 0) ∧
    (exactValue v ≠ 0 →
      let exponent := Int.log 10 |roundAway 14 (exactValue v)|
      ((rounded v).toList ∈ sign * positional ↔ -6 ≤ exponent ∧ exponent ≤ 14) ∧
      ((rounded v).toList ∈ sign * scientific 14 ↔ exponent < -6 ∨ 14 < exponent)) ∧
    (rounded v = rounded w ↔ roundAway 14 (exactValue v) = roundAway 14 (exactValue w)) ∧
    (v ≤ w → ∃ a b, denoted? (rounded v) = some a ∧ denoted? (rounded w) = some b ∧ a ≤ b) := by
  refine ⟨rounded_eq_zero_iff finite, fun nonzero => ?_, rounded_eq_iff finite finiteOther, fun order => ?_⟩
  · have positive := abs_pos.mpr nonzero
    rw [abs_roundAway nonzero, Decimal.log_value (Decimal.coefficient_ofRat_ne_zero positive 14),
      rounded_eq nonzero, String.toList_ofList]
    exact Notation.write_forms roundedRange rfl (Decimal.digitCount_ofRat positive 14) _
  · exact ⟨_, _, denoted?_rounded_of_isFinite finite, denoted?_rounded_of_isFinite finiteOther,
      roundAway_mono (exactValue_le_of_le finite finiteOther order)⟩

/-- A sum that is off in the last binary digit has the text of the number that is meant. -/
theorem rounded_canonical_sum : (0.3 : Float).isFinite ∧ (0.1 + 0.2 : Float).isFinite ∧
    (0.3 : Float) ≤ 0.1 + 0.2 ∧ (0.3 : Float).toBits ≠ (0.1 + 0.2 : Float).toBits ∧
    roundAway 14 (exactValue 0.3) = roundAway 14 (exactValue (0.1 + 0.2)) := by
  obtain ⟨-, -, same, -⟩ := rounded_canonical (v := 0.3) (w := 0.1 + 0.2) rfl rfl
  exact ⟨rfl, rfl, by decide +kernel, by decide +kernel, same.mp (by decide +kernel)⟩

end Rounded

end Token

end CrsText
