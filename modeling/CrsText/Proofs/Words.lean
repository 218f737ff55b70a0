import Mathlib.Computability.Language
import Mathlib.Order.CompletePartialOrder

/-! Languages whose words consist of allowed letters only, closed under the operations that grammars
are made of.
-/

set_option autoImplicit false

open scoped Computability

namespace CrsText

namespace Words

variable {α : Type} {allowed : α → Prop} {first second content : Language α}

def only (allowed : α → Prop) : Language α := {word | ∀ letter ∈ word, allowed letter}

def optional (content : Language α) : Language α := 1 + content

-- One lemma for each operation that grammars are built with.
theorem one_le_only : 1 ≤ only allowed := by
  rintro word (rfl : word = []) letter member
  cases member

theorem add_le_only (left : first ≤ only allowed) (right : second ≤ only allowed) :
    first + second ≤ only allowed := by
  intro word derived
  rcases derived with member | member
  · exact left member
  · exact right member

theorem mul_le_only (left : first ≤ only allowed) (right : second ≤ only allowed) :
    first * second ≤ only allowed := by
  intro word derived letter member
  obtain ⟨front, inFirst, back, inSecond, rfl⟩ := derived
  rcases List.mem_append.mp member with member | member
  · exact left inFirst letter member
  · exact right inSecond letter member

theorem kstar_le_only (each : content ≤ only allowed) : content∗ ≤ only allowed := by
  intro word derived letter member
  obtain ⟨parts, rfl, inContent⟩ := Language.mem_kstar.mp derived
  obtain ⟨part, inParts, member⟩ := List.mem_flatten.mp member
  exact each (inContent part inParts) letter member

theorem pow_le_only (each : content ≤ only allowed) (count : Nat) :
    content ^ count ≤ only allowed := by
  have repeated : content ^ count ≤ content∗ := pow_le_kstar
  exact repeated.trans (kstar_le_only each)

theorem optional_le_only (each : content ≤ only allowed) : optional content ≤ only allowed :=
  add_le_only one_le_only each

def filled : Language α := {word | word ≠ []}

theorem mul_le_filled_left (left : first ≤ filled) : first * second ≤ filled := by
  intro word derived empty
  obtain ⟨front, inFirst, back, -, rfl⟩ := derived
  exact left inFirst (List.append_eq_nil_iff.mp empty).1

theorem mul_le_filled_right (right : second ≤ filled) : first * second ≤ filled := by
  intro word derived empty
  obtain ⟨front, -, back, inSecond, rfl⟩ := derived
  exact right inSecond (List.append_eq_nil_iff.mp empty).2

theorem nil_mem_optional (content : Language α) : [] ∈ optional content := .inl rfl

theorem mem_optional {word : List α} (derived : word ∈ content) : word ∈ optional content :=
  .inr derived

end Words

end CrsText
