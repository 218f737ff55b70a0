import CrsText.Proofs.Conversion.Grammar
import CrsText.Proofs.Wkt1.OlderPart

/-! A conversion to the older dialect sees no more of a system than its older part.
-/

set_option autoImplicit false

namespace CrsText

namespace Crs

theorem convert_olderPart (layout : Layout) (crs : Crs) :
    (crs.olderPart.convert .wkt1 layout).result = (crs.convert .wkt1 layout).result := by
  rw [convert_result, convert_result]
  exact congrArg (Except.map (Item.write layout)) (Wkt1.crs_olderPart crs)

/-- Two systems with the same older part have the same text in the older dialect or fail in the same
way, whatever else they say. -/
theorem convert_eq_of_olderPart_eq {crs other : Crs} (same : crs.olderPart = other.olderPart)
    (layout : Layout) :
    (crs.convert .wkt1 layout).result = (other.convert .wkt1 layout).result := by
  rw [← convert_olderPart, same, convert_olderPart]

/-- The same heights above a dynamic datum, with all the metadata that only the newer dialect has. -/
def datedHeights : Crs :=
  .compound "A \"compound\" [system]" [.vertical
    ⟨"Heights, above \"sea\"",
      some ⟨some "DynamicVerticalReferenceFrame", "Sea level", some 2010, { scope := some "Geodesy" }⟩,
      none,
      ⟨"vertical", [⟨"Gravity-related height", "H", "up", none, some ⟨⟨0, none⟩, .empty⟩⟩]⟩,
      { remarks := some "Dated", identifiers := some [⟨"EPSG", .integer 5773⟩] }⟩]
    { usages := some [{ area := some "World" }] }

theorem convert_eq_datedHeights : heights.olderPart = datedHeights.olderPart ∧
    ∃ text, (heights.convert .wkt1 .multiline).result = .ok text ∧
      (datedHeights.convert .wkt1 .multiline).result = .ok text := by
  have same : heights.olderPart = datedHeights.olderPart := rfl
  obtain ⟨text, converted⟩ : ∃ text, (heights.convert .wkt1 .multiline).result = .ok text :=
    ⟨_, rfl⟩
  exact ⟨same, text, converted, (convert_eq_of_olderPart_eq same .multiline).symm.trans converted⟩

end Crs

end CrsText
