import CrsText.Proofs.Number.Canonical
import CrsText.Proofs.Number.Nearest

/-! Numbers with up to fifteen digits survive being read into a floating-point number and written again.
-/

set_option autoImplicit false

namespace CrsText

namespace IsNearestFloat

variable {v : Float} {y : ℚ}

/-- Fifteen digits are less precise than the format, even at the power of ten below which the nearest
number may fall. -/
theorem roundAway_eq (nearest : IsNearestFloat y v) (normal : leastNormal ≤ |y|) (few : HasDigits 15 y) :
    roundAway 14 (exactValue v) = y := by
  have nonzero := nearest.ne_zero normal
  have error := nearest.error_le normal
  obtain ⟨same, -⟩ := nearest.exists_attracts nonzero
  have fine : 4 * (10 : ℚ) ^ (14 + 1) ≤ 2 ^ 53 := by norm_num
  have size := roundAway_eq_of_near fine (abs_pos.mpr nonzero) few.abs error
  rw [roundAway_of_pos (abs_pos.mpr nonzero)] at size
  rw [CrsText.roundAway_eq, size, same, sign_mul_abs]

end IsNearestFloat

/-- The number nearest to this power of ten lies below it, and the one above is equally near. -/
theorem isNearestFloat_power : IsNearestFloat (10 ^ 23) 1e23 ∧ exactValue 1e23 < 10 ^ 23 := by
  have bits : Binary.ofFloat 1e23 = .finite false ⟨5960464477539062, 24⟩ := rfl
  have whole : exactValue 1e23 = Magnitude.value ⟨5960464477539062, 24⟩ :=
    (exactValue_of_ofFloat bits).trans (if_neg Bool.false_ne_true)
  have value : Magnitude.value ⟨5960464477539062, 24⟩ = 99999999999999991611392 := by
    norm_num [Magnitude.value]
  have positive : 0 < exactValue 1e23 := by
    rw [whole, value]
    norm_num
  have double : Magnitude.IsDouble ⟨5960464477539062, 24⟩ := by constructor <;> decide
  have read : Binary.ofFloat 1e23 = .finite (decide (exactValue 1e23 < 0)) ⟨5960464477539062, 24⟩ := by
    rw [decide_eq_false positive.not_gt, bits]
  refine ⟨(isNearestFloat_iff positive.ne' double read (by rw [abs_of_pos positive, whole])).mpr ?_, ?_⟩
  · have wide : Magnitude.gapBelow ⟨5960464477539062, 24⟩ = 16777216 := by
      rw [Magnitude.gapBelow, if_neg (by decide), Magnitude.ulp]
      norm_num
    have unit : Magnitude.ulp ⟨5960464477539062, 24⟩ = 16777216 := by norm_num [Magnitude.ulp]
    rw [sign_pos positive, SignType.coe_one, one_mul]
    refine ⟨?_, ?_, fun _ => rfl⟩
    · rw [value, wide]
      norm_num
    · rw [value, unit]
      norm_num
  · rw [whole, value]
    norm_num

namespace Token

/-- The number is read as exactly one floating-point number, and written again it is the same if it has
no more than fifteen digits. So the text of a number is not changed by reading it and writing it
again. -/
theorem rounded_recovers {y : ℚ} (normal : leastNormal ≤ |y|) (fits : |y| ≤ greatestFinite) :
    ∃ v, IsNearestFloat y v ∧ (∀ w, IsNearestFloat y w → w = v) ∧
      (HasDigits 15 y → denoted? (rounded v) = some y) ∧
      ∀ u, denoted? (rounded u) = some y → rounded v = rounded u := by
  obtain ⟨v, nearest⟩ := exists_isNearestFloat normal (fits.trans_lt greatestFinite_lt)
  have nonzero := nearest.ne_zero normal
  have finite := nearest.finite
  refine ⟨v, nearest, fun w other => other.unique nearest (other.ne_zero normal) nonzero,
    fun few => ?_, fun u denotes => ?_⟩
  · rw [denoted?_rounded_of_isFinite finite, nearest.roundAway_eq normal few]
  · have finiteOther : u.isFinite := isFinite_of_denoted? denotes
    rw [denoted?_rounded_of_isFinite finiteOther, Option.some_inj] at denotes
    have few : HasDigits 15 y := denotes ▸ hasDigits_roundAway
    rw [rounded_eq_iff finite finiteOther, nearest.roundAway_eq normal few, denotes]

theorem rounded_recovers_power : leastNormal ≤ |(10 : ℚ) ^ 23| ∧ |(10 : ℚ) ^ 23| ≤ greatestFinite ∧
    HasDigits 15 (10 ^ 23) ∧ denoted? (rounded 1e23) = some (10 ^ 23) := by
  have normal : leastNormal ≤ |(10 : ℚ) ^ 23| := by
    have small : leastNormal ≤ 1 := zpow_le_one_of_nonpos₀ one_le_two (by decide)
    refine small.trans ?_
    norm_num
  have fits : |(10 : ℚ) ^ 23| ≤ greatestFinite := by
    have power : (2 : ℚ) ^ (77 : ℤ) ≤ 2 ^ (1023 : ℤ) := zpow_le_zpow_right₀ one_le_two (by decide)
    have factor : (1 : ℚ) ≤ 2 - 2 ^ (-52 : ℤ) := by norm_num
    calc |(10 : ℚ) ^ 23| ≤ 1 * 2 ^ (77 : ℤ) := by norm_num
      _ ≤ greatestFinite := mul_le_mul factor power (by norm_num) (by linarith)
  have few : HasDigits 15 (10 ^ 23) := ⟨1, 23, by decide, by norm_num⟩
  obtain ⟨v, -, only, denotes, -⟩ := rounded_recovers normal fits
  rw [only _ isNearestFloat_power.1]
  exact ⟨normal, fits, few, denotes few⟩

end Token

end CrsText
