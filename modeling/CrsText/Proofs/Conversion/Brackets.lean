import CrsText.Proofs.Conversion.Reading
import CrsText.Proofs.Wkt.Brackets

/-! The brackets of a conversion. They are balanced whatever stands between quotes; what the newer
dialect writes without quotes can unbalance them.
-/

set_option autoImplicit false

namespace CrsText

open Brackets

namespace Crs

/-- The text of a conversion closes each bracket that it opens, the outermost one at its end, if no
separator holds a mark. In the newer dialect the types of coordinate systems, the directions and the
accuracies, which stand without quotes, have to leave the brackets as they are. -/
theorem convert_balanced {dialect : Dialect} {layout : Layout} {crs : Crs} {text : String}
    (separator : Unmarked layout.separator.toList)
    (neutral : dialect = .wkt2 → ∀ token ∈ crs.unquoted, Neutral token.toList)
    (converted : (crs.convert dialect layout).result = .ok text) : Balanced text.toList := by
  obtain ⟨item, written, rfl⟩ := convert_eq_ok.mp converted
  obtain ⟨keyword, items, rfl⟩ := isNode_of_written written
  obtain ⟨tree, same, derived⟩ := exists_tree written
  have keywords : ∀ keyword ∈ dialect.keywords, Unmarked keyword.toList :=
    fun keyword known => (Dialect.isWord_of_mem_keywords keyword known).unmarked
  have tokens : ∀ content, dialect.Bare (· ∈ crs.unquoted) content → Neutral content.toList := by
    intro content unquoted
    rcases unquoted.isWord_or_given with word | ⟨newer, given⟩
    · exact word.unmarked.neutral
    · exact neutral newer content given
  refine Item.balanced_write separator fun other member => ?_
  rw [same, List.mem_singleton] at member
  exact member ▸ derived.uses.mono keywords tokens

theorem convert_balanced_heights : Unmarked Layout.multiline.separator.toList ∧
    (∀ token ∈ heights.unquoted, Neutral token.toList) ∧
    ∃ text, (heights.convert .wkt2 .multiline).result = .ok text ∧ Balanced text.toList := by
  have separator : Unmarked Layout.multiline.separator.toList := by
    simp [Unmarked, Layout.multiline]
  have words : ∀ token ∈ heights.unquoted, IsWord token := isWord_of_all (by decide)
  have neutral : ∀ token ∈ heights.unquoted, Neutral token.toList :=
    fun token member => (words token member).unmarked.neutral
  obtain ⟨text, converted⟩ : ∃ text, (heights.convert .wkt2 .multiline).result = .ok text :=
    ⟨_, rfl⟩
  exact ⟨separator, neutral, text, converted, convert_balanced separator (fun _ => neutral) converted⟩

def misdirected : Crs :=
  .vertical ⟨"h", some ⟨none, "d", none, .empty⟩, none,
    ⟨"vertical", [⟨"Height", "H", "up]", none, none⟩]⟩, .empty⟩

/-- The bracket in the direction closes the axis, and the last one closes nothing. -/
theorem convert_misdirected_unbalanced : Unmarked Layout.singleLine.separator.toList ∧
    (misdirected.convert .wkt2 .singleLine).result =
      .ok "VERTCRS[\"h\",VDATUM[\"d\"],CS[vertical,1],AXIS[\"height (H)\",up]]]" ∧
    ¬ Balanced
      "VERTCRS[\"h\",VDATUM[\"d\"],CS[vertical,1],AXIS[\"height (H)\",up]]]".toList := by
  refine ⟨by simp [Unmarked, Layout.singleLine], rfl, fun balanced => ?_⟩
  have whole := balanced.nonneg _ List.prefix_rfl
  exact absurd whole (by decide +kernel)

end Crs

end CrsText
