import CrsText.Proofs.Conversion.Grammar
import CrsText.Proofs.Wkt1.Success
import CrsText.Proofs.Wkt2.Success

/-! A conversion succeeds exactly for what the dialect can express.
-/

set_option autoImplicit false

namespace CrsText

namespace Crs

theorem succeeds_toItem (dialect : Dialect) (crs : Crs) :
    Succeeds (crs.toItem dialect).result ↔ crs.Convertible dialect := by
  cases dialect with
  | wkt1 => exact Wkt1.succeeds_crs crs
  | wkt2 => exact Wkt2.succeeds_crs crs

/-- The two dialects ask for different parts of a system, and the layout for none. -/
theorem convert_succeeds_iff (dialect : Dialect) (layout : Layout) (crs : Crs) :
    (∃ text, (crs.convert dialect layout).result = .ok text) ↔ crs.Convertible dialect := by
  rw [← succeeds_toItem]
  constructor
  · intro succeeded
    obtain ⟨text, converted⟩ := succeeded
    obtain ⟨item, written, -⟩ := convert_eq_ok.mp converted
    exact ⟨item, written⟩
  · intro succeeded
    obtain ⟨item, written⟩ := succeeded
    exact ⟨item.write layout, convert_eq_ok.mpr ⟨item, written, rfl⟩⟩

end Crs

end CrsText
