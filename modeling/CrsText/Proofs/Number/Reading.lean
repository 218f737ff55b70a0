import CrsText.Number.Expansion
import CrsText.Proofs.Number.Digits
import CrsText.Proofs.Number.Value

/-! Each written form of a decimal is read back with the same value. The scientific form is read back
with the same digits as well.
-/

set_option autoImplicit false

namespace CrsText

namespace Numeral

theorem cut_of_notMem {mark : Char} {text : List Char} (absent : mark ∉ text) :
    cut mark text = (text, none) := by
  induction text with
  | nil => rfl
  | cons c rest ih =>
    obtain ⟨here, later⟩ := not_or.mp (List.mem_cons.not.mp absent)
    rw [cut, if_neg (Ne.symm here), ih later]

theorem cut_append {mark : Char} {before behind : List Char} (absent : mark ∉ before) :
    cut mark (before ++ mark :: behind) = (before, some behind) := by
  induction before with
  | nil => rw [List.nil_append, cut, if_pos rfl]
  | cons c rest ih =>
    obtain ⟨here, later⟩ := not_or.mp (List.mem_cons.not.mp absent)
    rw [List.cons_append, cut, if_neg (Ne.symm here), ih later]

theorem natural?_eq {text : List Char} (notEmpty : text ≠ []) (all : ∀ c ∈ text, c.isDigit) :
    natural? text = some (ofDigits text) := by
  have none : (text.isEmpty || text.any (!·.isDigit)) = false := by
    simpa [List.isEmpty_iff, notEmpty] using all
  rw [natural?, none, if_neg (by decide)]

theorem natural?_digits (n : ℕ) : natural? (digits n) = some n := by
  rw [natural?_eq (Notation.digits_ne_nil n) (fun _ => Notation.isDigit_of_mem), ofDigits_digits]

theorem isDigit_of_mem_paddedDigits {width n : ℕ} {c : Char} (member : c ∈ paddedDigits width n) :
    c.isDigit := by
  rcases List.mem_append.mp member with zero | member
  · rw [List.eq_of_mem_replicate zero]
    decide
  · exact Notation.isDigit_of_mem member

theorem ofDigits_paddedDigits (width n : ℕ) : ofDigits (paddedDigits width n) = n := by
  rw [paddedDigits, ofDigits_append, ofDigits_replicate_zero, ofDigits_digits, zero_mul, zero_add]

theorem paddedDigits_ne_nil (width n : ℕ) : paddedDigits width n ≠ [] :=
  List.append_ne_nil_of_right_ne_nil _ (Notation.digits_ne_nil n)

theorem natural?_paddedDigits (width n : ℕ) : natural? (paddedDigits width n) = some n := by
  rw [natural?_eq (paddedDigits_ne_nil width n) (fun _ => isDigit_of_mem_paddedDigits),
    ofDigits_paddedDigits]

theorem length_paddedDigits {width n : ℕ} (bounded : n < 10 ^ (width + 1)) :
    (paddedDigits (width + 1) n).length = width + 1 := by
  have short : (digits n).length ≤ width + 1 :=
    (Nat.length_toDigits_le_iff (by decide) width.succ_pos).mpr bounded
  rw [paddedDigits, List.length_append, List.length_replicate]
  omega

theorem integer?_of_digits (n : ℕ) : integer? (digits n) = some (n : ℤ) := by
  have all : ∀ c ∈ digits n, c.isDigit := fun _ => Notation.isDigit_of_mem
  unfold integer?
  split
  case h_1 negative => exact absurd (all '-' (by simp [negative])) (by decide)
  case h_2 positive => exact absurd (all '+' (by simp [positive])) (by decide)
  case h_3 => rw [natural?_digits, Option.map_some]

theorem integer?_signedDigits (n : ℤ) : integer? (signedDigits n) = some n := by
  cases n with
  | ofNat n => exact integer?_of_digits n
  | negSucc n =>
    rw [signedDigits, integer?, natural?_digits, Option.map_some]
    rfl

theorem integer?_sign_digits (n : ℤ) :
    integer? ((if n < 0 then '-' else '+') :: digits n.natAbs) = some n := by
  split
  case isTrue negative =>
    rw [integer?, natural?_digits, Option.map_some, Option.some_inj]
    omega
  case isFalse positive =>
    rw [integer?, natural?_digits, Option.map_some, Option.some_inj]
    omega

theorem notMem_of_isDigit {mark : Char} {text : List Char} (noDigit : mark.isDigit = false)
    (all : ∀ c ∈ text, c.isDigit) : mark ∉ text := fun member =>
  absurd (all mark member) (by rw [noDigit]; decide)

theorem mantissa?_withPlaces (coefficient places : ℕ) :
    mantissa? (Decimal.withPlaces coefficient places) = some ⟨coefficient, -places⟩ := by
  cases places with
  | zero =>
    have absent : '.' ∉ digits coefficient :=
      notMem_of_isDigit rfl fun _ => Notation.isDigit_of_mem
    rw [Decimal.withPlaces, mantissa?, cut_of_notMem absent]
    simp only [natural?_digits, Option.map_some]
    rfl
  | succ places =>
    have absent : '.' ∉ digits (coefficient / tenTo (places + 1)) :=
      notMem_of_isDigit rfl fun _ => Notation.isDigit_of_mem
    have bounded : coefficient % tenTo (places + 1) < 10 ^ (places + 1) :=
      Nat.mod_lt _ (by rw [tenTo_eq]; positivity)
    rw [Decimal.withPlaces, mantissa?, cut_append absent]
    simp only [natural?_digits, natural?_paddedDigits, length_paddedDigits bounded,
      Option.bind_eq_bind, Option.bind_some, Nat.div_add_mod']
    rfl

/-- Zeros at the end of the fraction do not change the value. -/
theorem trimPlaces_value (coefficient places : ℕ) :
    (Decimal.trimPlaces coefficient places).1 * 10 ^ places =
      coefficient * 10 ^ (Decimal.trimPlaces coefficient places).2 := by
  induction places generalizing coefficient with
  | zero => rfl
  | succ places ih =>
    rw [Decimal.trimPlaces]
    split
    case isTrue zero =>
      have shorter := ih (coefficient / 10)
      have whole : coefficient / 10 * 10 = coefficient := Nat.div_mul_cancel (Nat.dvd_of_mod_eq_zero zero)
      rw [pow_succ, ← mul_assoc, shorter, mul_right_comm, whole]
    case isFalse => rfl

theorem notMem_withPlaces (coefficient places : ℕ) :
    'e' ∉ Decimal.withPlaces coefficient places := by
  have absent : ∀ n, 'e' ∉ digits n := fun _ =>
    notMem_of_isDigit rfl fun _ => Notation.isDigit_of_mem
  have absentPadded : ∀ width n, 'e' ∉ paddedDigits width n := fun _ _ =>
    notMem_of_isDigit rfl fun _ => isDigit_of_mem_paddedDigits
  cases places <;> simp [Decimal.withPlaces, absent, absentPadded]

theorem decimal?_positional (d : Decimal) :
    ∃ same : Decimal, decimal? d.positional = some same ∧ same.value = d.value := by
  let trimmed := Decimal.trimPlaces (d.coefficient * tenTo d.exponent.toNat) (-d.exponent).toNat
  have kept : (trimmed.1 * 10 ^ (-d.exponent).toNat : ℚ) =
      d.coefficient * 10 ^ d.exponent.toNat * 10 ^ trimmed.2 := by
    exact_mod_cast trimPlaces_value (d.coefficient * tenTo d.exponent.toNat) (-d.exponent).toNat
  refine ⟨⟨trimmed.1, -trimmed.2⟩, ?_, ?_⟩
  · have written : d.positional = Decimal.withPlaces trimmed.1 trimmed.2 := rfl
    rw [decimal?, written, cut_of_notMem (notMem_withPlaces trimmed.1 trimmed.2)]
    exact mantissa?_withPlaces trimmed.1 trimmed.2
  · rw [Decimal.value, Decimal.value, zpow_eq_div (by norm_num) d.exponent, zpow_neg, zpow_natCast]
    field_simp
    rw [kept]
    ring

/-- The leading digit, and the others behind a point. -/
theorem mantissa?_digits {n : ℕ} (nonzero : n ≠ 0) :
    mantissa? ((digits n).take 1 ++ Decimal.fraction ((digits n).drop 1)) =
      some ⟨n, 1 - digitCount n⟩ := by
  have all : ∀ c ∈ digits n, c.isDigit := fun _ => Notation.isDigit_of_mem
  have value : ofDigits (digits n) = n := ofDigits_digits n
  rw [← length_digits nonzero]
  cases written : digits n with
  | nil => exact absurd written (Notation.digits_ne_nil n)
  | cons first rest =>
    rw [written] at all value
    have single : ∀ c ∈ [first], c.isDigit := by simpa using all first List.mem_cons_self
    have absent : '.' ∉ [first] := notMem_of_isDigit rfl single
    cases rest with
    | nil =>
      rw [mantissa?, List.take_succ_cons, List.drop_succ_cons, List.take_zero, List.drop_zero,
        Decimal.fraction, List.append_nil, cut_of_notMem absent]
      simp only [natural?_eq (List.cons_ne_nil _ _) single, Option.map_some, value,
        List.length_singleton]
      rfl
    | cons second others =>
      have behind : ∀ c ∈ second :: others, c.isDigit := fun c member =>
        all c (List.mem_cons_of_mem first member)
      have whole : ofDigits [first] * 10 ^ (second :: others).length + ofDigits (second :: others) =
          n := by
        rw [← ofDigits_append, List.singleton_append, value]
      have places : -((second :: others).length : ℤ) = 1 - (first :: second :: others).length := by
        rw [@List.length_cons _ first]
        push_cast
        ring
      rw [mantissa?, List.take_succ_cons, List.drop_succ_cons, List.take_zero, List.drop_zero,
        Decimal.fraction, cut_append absent]
      simp only [natural?_eq (List.cons_ne_nil _ _) single,
        natural?_eq (List.cons_ne_nil _ _) behind, Option.bind_eq_bind, Option.bind_some, tenTo_eq,
        whole, places]
      rfl

theorem notMem_mantissa (n : ℕ) :
    'e' ∉ (digits n).take 1 ++ Decimal.fraction ((digits n).drop 1) := by
  have absent : ∀ text : List Char, (∀ c ∈ text, c ∈ digits n) → 'e' ∉ text := fun text some =>
    notMem_of_isDigit rfl fun c member => Notation.isDigit_of_mem (some c member)
  have leading := absent ((digits n).take 1) fun _ => List.mem_of_mem_take
  have others := absent ((digits n).drop 1) fun _ => List.mem_of_mem_drop
  rw [List.mem_append, not_or]
  refine ⟨leading, ?_⟩
  cases behind : (digits n).drop 1 with
  | nil => exact List.not_mem_nil
  | cons second rest =>
    rw [behind] at others
    exact List.not_mem_cons_of_ne_of_not_mem (by decide) others

theorem decimal?_scientific {d : Decimal} (nonzero : d.coefficient ≠ 0) :
    decimal? d.scientific = some d := by
  rw [decimal?, Decimal.scientific, cut_append (notMem_mantissa d.coefficient)]
  simp only [mantissa?_digits nonzero, integer?_sign_digits, Option.bind_eq_bind, Option.bind_some]
  have shifted : 1 - (digitCount d.coefficient : ℤ) + d.leadingExponent = d.exponent := by
    rw [Decimal.leadingExponent]
    ring
  rw [shifted]
  rfl

theorem decimal?_write (range : PositionalRange) {d : Decimal} (nonzero : d.coefficient ≠ 0) :
    ∃ same : Decimal, decimal? (range.write d) = some same ∧ same.value = d.value := by
  rw [PositionalRange.write]
  split
  case isTrue => exact decimal?_positional d
  case isFalse => exact ⟨d, decimal?_scientific nonzero, rfl⟩

theorem decimal?_minus (text : List Char) : decimal? ('-' :: text) = none := by
  have digits : ∀ text, natural? ('-' :: text) = none := fun _ => rfl
  have mantissa : ∀ text, mantissa? ('-' :: text) = none := by
    intro text
    rw [mantissa?, cut, if_neg (by decide)]
    obtain ⟨whole, _ | places⟩ := cut '.' text <;> simp [digits]
  rw [decimal?, cut, if_neg (by decide)]
  obtain ⟨before, _ | scale⟩ := cut 'e' text <;> simp [mantissa]

theorem number?_signed {text : List Char} {d : Decimal} (read : decimal? text = some d)
    (negative : Bool) : number? (signed negative text) = some (negative, d) := by
  cases negative with
  | true => rw [signed, if_pos rfl, number?, read, Option.map_some]
  | false =>
    rw [signed, if_neg (by decide)]
    unfold number?
    split
    case h_1 => rw [decimal?_minus] at read; contradiction
    case h_2 => rw [read, Option.map_some]

end Numeral

def denoted? (text : String) : Option ℚ :=
  (Numeral.number? text.toList).map fun (negative, d) => if negative then -d.value else d.value

theorem denoted?_zero : denoted? "0" = some 0 := by
  have read : Numeral.number? "0".toList = some (false, ⟨0, 0⟩) := rfl
  rw [denoted?, read, Option.map_some]
  simp [Decimal.value]

theorem denoted?_notANumber : denoted? (String.ofList Numeral.notANumber) = none := rfl

theorem denoted?_infinity (negative : Bool) :
    denoted? (String.ofList (Numeral.signed negative Numeral.infinity)) = none := by
  cases negative <;> rfl

theorem denoted?_write (range : Numeral.PositionalRange) {d : Decimal} (some : d.coefficient ≠ 0) {y : ℚ}
    (nonzero : y ≠ 0) :
    denoted? (String.ofList (Numeral.signed (decide (y < 0)) (range.write d))) =
      Option.some (SignType.sign y * d.value) := by
  obtain ⟨same, written, sameValue⟩ := Numeral.decimal?_write range some
  rw [denoted?, String.toList_ofList, Numeral.number?_signed written, Option.map_some, Option.some_inj,
    ← sameValue]
  rcases lt_or_gt_of_ne nonzero with negative | positive
  · simp [negative]
  · simp [positive, positive.le]

section Spell

variable {v : Float} {finite : Magnitude → List Char}

/-- What is no finite number has a name that is not read as a number. -/
theorem isFinite_of_denoted? {zero : Bool → List Char} {y : ℚ}
    (denotes : denoted? (String.ofList (Numeral.spell Numeral.infinity zero finite (Binary.ofFloat v))) = some y) :
    v.isFinite := by
  by_contra infinite
  rcases ofFloat_of_not_isFinite infinite with read | ⟨negative, read⟩
  · rw [read, Numeral.spell, denoted?_notANumber] at denotes
    cases denotes
  · rw [read, Numeral.spell, denoted?_infinity] at denotes
    cases denotes

theorem spell_of_zero (isFinite : v.isFinite) (zero : exactValue v = 0) :
    Numeral.spell Numeral.infinity Token.unsignedZero finite (Binary.ofFloat v) = ['0'] := by
  obtain ⟨negative, read⟩ := exists_zero isFinite zero
  rw [read]
  rfl

end Spell

end CrsText
