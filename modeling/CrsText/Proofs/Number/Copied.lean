import CrsText.Proofs.Number.Forms
import CrsText.Proofs.Number.Shortest

/-! Numbers that are copied lose nothing. Their text stands for the shortest number that is read as the
same floating-point number.
-/

set_option autoImplicit false

namespace CrsText

open Notation (sign positional scientific)

/-- Of the numbers that are read as `v` none has fewer digits than `y`, and none with equally many is
nearer. -/
structure IsShortest (v : Float) (size : ℕ) (y : ℚ) : Prop where
  reads : IsNearestFloat y v
  few : HasDigits size y
  fewest : ∀ fewer < size, ∀ z, HasDigits fewer z → ¬ IsNearestFloat z v
  nearest : ∀ z, HasDigits size z → IsNearestFloat z v → |y - exactValue v| ≤ |z - exactValue v|

/-- The sign apart, numbers that are read as `v` are those that its magnitude attracts. -/
theorem Magnitude.IsNeighbour.isShortest {v : Float} {x : Magnitude} {places : ℕ} {d : Decimal}
    (neighbour : x.IsNeighbour (places + 1) d) (nonzero : exactValue v ≠ 0) (double : x.IsDouble)
    (read : Binary.ofFloat v = .finite (decide (exactValue v < 0)) x) (value : x.value = |exactValue v|)
    (fewest : ∀ fewer ≤ places, ∀ z, HasDigits fewer z → ¬ x.Attracts z) :
    IsShortest v (places + 1) (SignType.sign (exactValue v) * d.value) := by
  have reads : ∀ z, IsNearestFloat z v ↔ x.Attracts (SignType.sign (exactValue v) * z) := fun z =>
    isNearestFloat_iff nonzero double read value
  have flip := abs_sub_sign_mul nonzero
  have whole : SignType.sign (exactValue v) * x.value = exactValue v := by rw [value, sign_mul_abs]
  have size : SignType.sign (exactValue v) * exactValue v = x.value := by rw [value, sign_mul_self]
  have few : HasDigits (places + 1) d.value :=
    .of_le (digitCount_eq_iff.mp neighbour.counted).2.le d.exponent
  refine ⟨?_, few.mul_sign _, fun fewer less z digits other => ?_, fun z digits other => ?_⟩
  · rw [reads, sign_mul_sign_mul nonzero]
    exact neighbour.attracts
  · exact fewest fewer (Nat.le_of_lt_succ less) _ (digits.mul_sign _) ((reads z).mp other)
  · have near := neighbour.nearest _ (digits.mul_sign _) ((reads z).mp other)
    rw [← flip, whole] at near
    rwa [← flip, size]

namespace Token

variable {v w : Float}

theorem copied_eq (nonzero : exactValue v ≠ 0) : ∃ places d,
    copied v = String.ofList (Numeral.signed (decide (exactValue v < 0)) (copiedRange.write d)) ∧
      digitCount d.coefficient = places + 1 ∧
      IsShortest v (places + 1) (SignType.sign (exactValue v) * d.value) := by
  obtain ⟨x, double, read, value⟩ := exists_magnitude nonzero
  obtain ⟨places, neighbour, fewest⟩ := double.shortest_spec .up
  refine ⟨places, x.shortest .up, ?_, neighbour.counted,
    neighbour.isShortest nonzero double read value fewest⟩
  rw [copied, read, Numeral.spell]
  rfl

theorem copied_of_zero (finite : v.isFinite) (zero : exactValue v = 0) : copied v = "0" := by
  rw [copied, spell_of_zero finite zero]

/-- Only zero has the text of zero, and otherwise the number that is denoted is read as one number. -/
theorem eq_of_copied_eq (nonzero : exactValue v ≠ 0) (finite : w.isFinite) (same : copied w = copied v) :
    w = v := by
  obtain ⟨_, d, written, counted, shortest⟩ := copied_eq nonzero
  have some := ne_zero_of_digitCount counted
  have denotes := denoted?_write copiedRange some nonzero
  rw [← written, ← same] at denotes
  by_cases zero : exactValue w = 0
  · rw [copied_of_zero finite zero, denoted?_zero, Option.some_inj] at denotes
    have size := congrArg (|·|) denotes
    rw [abs_zero, abs_mul, abs_sign nonzero, one_mul, abs_of_pos (Decimal.value_pos some)] at size
    exact absurd size (Decimal.value_pos some).ne
  · obtain ⟨_, other, writtenOther, countedOther, shortestOther⟩ := copied_eq zero
    rw [writtenOther, denoted?_write copiedRange (ne_zero_of_digitCount countedOther) zero,
      Option.some_inj] at denotes
    have reads := shortestOther.reads
    rw [denotes] at reads
    exact reads.unique shortest.reads zero nonzero

/-- The text stands for the shortest number that is read as `v`, and no other number has it. The form
is decided by the exponent of that number, and the scientific form has no further digits. -/
theorem copied_shortest (nonzero : exactValue v ≠ 0) :
    ∃ y places, denoted? (copied v) = some y ∧ IsShortest v (places + 1) y ∧
      ((copied v).toList ∈ sign * positional ↔ -6 ≤ Int.log 10 |y| ∧ Int.log 10 |y| ≤ 20) ∧
      ((copied v).toList ∈ sign * scientific places ↔ Int.log 10 |y| < -6 ∨ 20 < Int.log 10 |y|) ∧
      ∀ w : Float, w.isFinite → copied w = copied v → w = v := by
  obtain ⟨places, d, written, counted, shortest⟩ := copied_eq nonzero
  have some := ne_zero_of_digitCount counted
  have exponent : Int.log 10 |SignType.sign (exactValue v) * d.value| = d.leadingExponent := by
    rw [abs_mul, abs_sign nonzero, one_mul, abs_of_pos (Decimal.value_pos some), Decimal.log_value some]
  obtain ⟨plain, scaled⟩ := Notation.write_forms copiedRange rfl counted (decide (exactValue v < 0))
  refine ⟨_, places, written ▸ denoted?_write copiedRange some nonzero, shortest, ?_, ?_,
    fun w => eq_of_copied_eq nonzero⟩
  · rw [written, String.toList_ofList, exponent]
    exact plain
  · rw [written, String.toList_ofList, exponent]
    exact scaled

/-- One digit is enough for the smallest number, whose neighbours are zero and twice the number. -/
theorem copied_shortest_least : exactValue 5e-324 ≠ 0 ∧
    ∃ places, IsShortest 5e-324 (places + 1) (Decimal.value ⟨5, -324⟩) := by
  have bits : Binary.ofFloat 5e-324 = .finite false ⟨1, -1074⟩ := by decide +kernel
  have nonzero : exactValue 5e-324 ≠ 0 := by
    rw [exactValue_of_ofFloat bits, if_neg Bool.false_ne_true]
    exact (Magnitude.value_pos one_pos).ne'
  have written : copied 5e-324 = "5e-324" := by decide +kernel
  have read : denoted? "5e-324" = some (Decimal.value ⟨5, -324⟩) := rfl
  obtain ⟨y, places, denotes, shortest, -⟩ := copied_shortest nonzero
  rw [written, read, Option.some_inj] at denotes
  exact ⟨nonzero, places, denotes ▸ shortest⟩

end Token

end CrsText
