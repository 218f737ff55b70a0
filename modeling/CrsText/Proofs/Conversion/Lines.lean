import CrsText.Proofs.Conversion.Grammar
import CrsText.Proofs.Wkt.Lines

/-! How the layout bears on a conversion: not at all on whether it succeeds, and on the text only
between its pieces.
-/

set_option autoImplicit false

namespace CrsText

namespace Crs

theorem keyword_of_openNode {dialect : Dialect} {crs : Crs} {item : Item} {keyword : String}
    (written : (crs.toItem dialect).result = .ok item) (opened : .openNode keyword ∈ item.steps) :
    keyword ∈ dialect.keywords := by
  obtain ⟨tree, same, derived⟩ := exists_tree written
  have uses : ∀ other ∈ item.trees,
      other.Uses (· ∈ dialect.keywords) (dialect.Bare (· ∈ crs.unquoted)) := by
    intro other member
    rw [same, List.mem_singleton] at member
    exact member ▸ derived.uses
  exact Item.keyword_of_openNode uses opened

/-- Either a conversion fails in the same way for every layout, or the pieces of its text are fixed
and a layout only fills in what stands between them. Each piece but the first one begins where the
node of a keyword is opened, as deep as levels are open there. -/
theorem convert_lines (dialect : Dialect) (crs : Crs) :
    (∃ failure, ∀ layout, (crs.convert dialect layout).result = .error failure) ∨
      ∃ (item : Item) (lines : Lines), (crs.toItem dialect).result = .ok item ∧
        (∀ layout, (crs.convert dialect layout).result = .ok (lines.fill layout)) ∧
        (crs.convert dialect .singleLine).result =
          .ok (lines.first ++ String.join (lines.rest.map (·.text))) ∧
        ∀ (index : Nat) (piece : Piece), lines.rest[index]? = some piece →
          ∃ keyword ∈ dialect.keywords, piece.Opens item.steps lines index keyword := by
  cases written : (crs.toItem dialect).result with
  | error failure => exact .inl ⟨failure, fun layout => by rw [convert_result, written]; rfl⟩
  | ok item =>
    -- The pieces are cut from the steps of the item, in which no layout has a part.
    have filled : ∀ layout, (crs.convert dialect layout).result =
        .ok ((Lines.ofSegments (Step.segmentsOfAll [] item.steps)).fill layout) := by
      intro layout
      rw [convert_result, written, Lines.fill_ofSegments, ← Item.write_eq]
      rfl
    refine .inr ⟨item, _, rfl, filled, ?_, fun index piece selected => ?_⟩
    · rw [filled, Lines.fill_singleLine]
    · obtain ⟨keyword, opens⟩ := Lines.opens_of_steps selected
      obtain ⟨done, todo, same, -⟩ := opens.step
      exact ⟨keyword, keyword_of_openNode written (by simp [same]), opens⟩

end Crs

end CrsText
