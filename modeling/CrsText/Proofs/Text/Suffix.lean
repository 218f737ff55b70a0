import CrsText.Text.Quoted
import Mathlib.Data.List.Infix

/-! When the first occurrence of a word is the suffix of a text. A word whose first character it does
not hold twice cannot overlap itself, so its first occurrence is the only one that matters.
-/

set_option autoImplicit false

namespace CrsText

namespace Text

variable {word text : List Char}

theorem eraseFirst_of_not_infix (absent : ¬ word <:+: text) : eraseFirst word text = text := by
  induction text with
  | nil => rfl
  | cons c rest ih =>
    rw [List.infix_cons_iff, not_or] at absent
    obtain ⟨front, later⟩ := absent
    rw [eraseFirst, if_neg (by rwa [List.isPrefixOf_iff_prefix]), ih later]

theorem exists_first_occurrence (inhabited : word ≠ []) (present : word <:+: text) :
    ∃ before after, text = before ++ (word ++ after) ∧ ¬ word <:+: before := by
  induction text with
  | nil => exact absurd (List.infix_nil.mp present) inhabited
  | cons c rest ih =>
    by_cases front : word <+: c :: rest
    · obtain ⟨after, same⟩ := front
      exact ⟨[], after, same.symm, fun inside => inhabited (List.infix_nil.mp inside)⟩
    · obtain ⟨before, after, rfl, absent⟩ := ih ((List.infix_cons_iff.mp present).resolve_left front)
      refine ⟨c :: before, after, rfl, ?_⟩
      rw [List.infix_cons_iff, not_or]
      -- At the front the word would stand at the front of the whole text.
      exact ⟨fun inside => front (inside.trans ⟨word ++ after, by simp⟩), absent⟩

def copies (word : List Char) (count : Nat) : List Char := (List.replicate count word).flatten

@[simp] theorem copies_zero : copies word 0 = [] := rfl

theorem copies_succ (count : Nat) : copies word (count + 1) = word ++ copies word count := by
  simp [copies, List.replicate_succ]

theorem copies_succ_last (count : Nat) : copies word (count + 1) = copies word count ++ word := by
  simp [copies, List.replicate_succ']

/-- The word stands at the end of the text only, once, several times or not at all. -/
def OnlyTrails (word text : List Char) : Prop :=
  ∃ stem count, ¬ word <:+: stem ∧ text = stem ++ copies word count

/-- What is left of the text when the word is dropped from its end, and from nowhere else. -/
structure IsStem (word text stem : List Char) : Prop where
  ending : ∀ front, text = front ++ word → stem = front
  other : ¬ word <:+ text → stem = text

section

variable {first : Char} {others : List Char}

/-- A word of this kind does not begin again within itself. -/
theorem eq_nil_of_begins_within (once : first ∉ others) {before back : List Char}
    (cut : first :: others = before ++ first :: back) : before = [] := by
  cases before with
  | nil => rfl
  | cons c before =>
    obtain ⟨-, rfl⟩ := List.cons.inj cut
    exact absurd (by simp) once

/-- In front of an occurrence of the word none begins that would overlap it. -/
theorem eq_nil_of_begins_across (once : first ∉ others) {before after : List Char}
    (absent : ¬ first :: others <:+: before)
    (front : first :: others <+: before ++ (first :: others ++ after)) : before = [] := by
  obtain ⟨rest, same⟩ := front
  rcases List.append_eq_append_iff.mp same with ⟨inside, rfl, -⟩ | ⟨back, cut, again⟩
  · exact absurd (List.prefix_append _ inside).isInfix absent
  · cases back with
    | nil => exact absurd (by simp [cut]) absent
    | cons c back =>
      obtain ⟨rfl, -⟩ := List.cons.inj again
      exact eq_nil_of_begins_within once cut

theorem eraseFirst_occurrence (once : first ∉ others) {before after : List Char}
    (absent : ¬ first :: others <:+: before) :
    eraseFirst (first :: others) (before ++ (first :: others ++ after)) = before ++ after := by
  induction before with
  | nil => simp [eraseFirst]
  | cons c before ih =>
    have later : ¬ first :: others <:+: before :=
      fun inside => absent (inside.trans (List.suffix_cons c before).isInfix)
    have other : ¬ first :: others <+: c :: (before ++ (first :: others ++ after)) :=
      fun front => List.cons_ne_nil c before (eq_nil_of_begins_across once absent front)
    rw [List.cons_append, eraseFirst, if_neg (by rwa [List.isPrefixOf_iff_prefix]), ih later,
      List.cons_append]

/-- Only copies of the word can change places with it. -/
theorem exists_copies_of_commutes (once : first ∉ others) {text : List Char}
    (commutes : text ++ (first :: others) = first :: others ++ text) :
    ∃ count, text = copies (first :: others) count := by
  induction size : text.length using Nat.strong_induction_on generalizing text with
  | _ length ih =>
    rcases List.append_eq_append_iff.mp commutes with ⟨back, cut, same⟩ | ⟨rest, same, cut⟩
    -- A text that is no longer than the word begins and ends it.
    · cases text with
      | nil => exact ⟨0, rfl⟩
      | cons c text =>
        obtain ⟨rfl, -⟩ := List.cons.inj cut
        obtain rfl := eq_nil_of_begins_within once same
        exact ⟨1, by simpa [copies] using same.symm⟩
    · have shorter : rest.length < length := by
        rw [← size, same, List.length_append, List.length_cons]
        omega
      obtain ⟨count, rfl⟩ := ih rest.length shorter (cut.symm.trans same) rfl
      exact ⟨count + 1, by rw [same, copies_succ]⟩

/-- Erasing the first occurrence drops the suffix and nothing else exactly if the word stands only at
the end. -/
theorem isStem_eraseFirst_iff (once : first ∉ others) :
    IsStem (first :: others) text (eraseFirst (first :: others) text) ↔
      OnlyTrails (first :: others) text := by
  constructor
  · intro stem
    by_cases present : first :: others <:+: text
    · obtain ⟨before, after, rfl, absent⟩ :=
        exists_first_occurrence (List.cons_ne_nil first others) present
      rw [eraseFirst_occurrence once absent] at stem
      by_cases ends : first :: others <:+ before ++ (first :: others ++ after)
      · obtain ⟨front, same⟩ := ends
        -- What is left begins as the text does, so the word and what follows it change places.
        obtain rfl := stem.ending front same.symm
        have commutes : after ++ (first :: others) = first :: others ++ after := by
          simpa using same
        obtain ⟨count, rfl⟩ := exists_copies_of_commutes once commutes
        exact ⟨before, count + 1, absent, by rw [copies_succ]⟩
      · have longer := congrArg List.length (stem.other ends)
        simp at longer
        omega
    · exact ⟨text, 0, present, by simp⟩
  · intro trails
    obtain ⟨stem, count, absent, rfl⟩ := trails
    cases count with
    | zero =>
      rw [copies_zero, List.append_nil, eraseFirst_of_not_infix absent]
      refine ⟨?_, fun _ => rfl⟩
      rintro front rfl
      exact absurd (List.suffix_append front _).isInfix absent
    | succ count =>
      have last : stem ++ copies (first :: others) (count + 1) =
          stem ++ copies (first :: others) count ++ (first :: others) := by
        rw [copies_succ_last, List.append_assoc]
      rw [copies_succ, eraseFirst_occurrence once absent, ← copies_succ, last]
      refine ⟨fun front same => List.append_cancel_right same, fun other => ?_⟩
      exact absurd (List.suffix_append _ _) other

end

end Text

end CrsText
