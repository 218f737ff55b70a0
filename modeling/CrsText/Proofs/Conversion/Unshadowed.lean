import CrsText.Proofs.Conversion.Grammar
import CrsText.Proofs.Wkt2.Unshadowed

/-! A conversion to the dialect of 2019 does not see what is shadowed in a system.
-/

set_option autoImplicit false

namespace CrsText

namespace Crs

theorem convert_unshadowed (layout : Layout) (crs : Crs) :
    (crs.unshadowed.convert .wkt2 layout).result = (crs.convert .wkt2 layout).result := by
  rw [convert_result, convert_result]
  exact congrArg (Except.map (Item.write layout)) (Wkt2.crs_unshadowed crs)

/-- Two systems that are the same without what is shadowed in them have the same text in the newer
dialect or fail in the same way. -/
theorem convert_eq_of_unshadowed_eq {crs other : Crs} (same : crs.unshadowed = other.unshadowed)
    (layout : Layout) :
    (crs.convert .wkt2 layout).result = (other.convert .wkt2 layout).result := by
  rw [← convert_unshadowed, same, convert_unshadowed]

def plainGrid : Crs :=
  .projected
    ⟨"Grid",
      ⟨.geographic, "Base", some ⟨none, "Datum",
        some ⟨"Figure", ⟨6378137, some (.defined ⟨none, "metre", some 1, .empty⟩)⟩, none,
          some 298.257223563, .empty⟩, none, none, .empty⟩, none, none,
        { identifier := some ⟨"EPSG", .integer 4326⟩ }⟩,
      ⟨"Shift", ⟨"Grid shift", .empty⟩, [⟨"Shift file", .file "shift.tif", none, .empty⟩], .empty⟩,
      ⟨"Cartesian", [⟨"Easting", "E", "east", some (.named "metre"), none⟩]⟩,
      { scope := some "Mapping" }⟩

/-- The same grid, with a type, an epoch and a second axis that its datum has no use for, with units
that nobody knows, and with a base that is geographic by its coordinates. -/
def burdenedGrid : Crs :=
  .projected
    ⟨"Grid",
      ⟨.geodetic, "Base", some ⟨some "GeodeticReferenceFrame", "Datum",
        some ⟨"Figure", ⟨6378137, some (.defined ⟨some "LinearUnit", "metre", some 1, .empty⟩)⟩,
          some ⟨6356752, some (.named "cubit")⟩, some 298.257223563, .empty⟩, none, some 2010,
        .empty⟩, none, some ⟨"ellipsoidal", []⟩,
        { identifier := some ⟨"EPSG", .integer 4326⟩, identifiers := some [] }⟩,
      ⟨"Shift", ⟨"Grid shift", .empty⟩,
        [⟨"Shift file", .file "shift.tif", some (.named "cubit"), .empty⟩], .empty⟩,
      ⟨"Cartesian", [⟨"Easting", "E", "east", some (.named "metre"), none⟩]⟩,
      { scope := some "Mapping", usages := some [{ area := some "World" }] }⟩

theorem convert_eq_burdenedGrid : plainGrid.unshadowed = burdenedGrid.unshadowed ∧
    ∃ text, (plainGrid.convert .wkt2 .multiline).result = .ok text ∧
      (burdenedGrid.convert .wkt2 .multiline).result = .ok text := by
  have same : plainGrid.unshadowed = burdenedGrid.unshadowed := rfl
  obtain ⟨text, converted⟩ : ∃ text, (plainGrid.convert .wkt2 .multiline).result = .ok text :=
    ⟨_, rfl⟩
  exact ⟨same, text, converted,
    (convert_eq_of_unshadowed_eq same .multiline).symm.trans converted⟩

end Crs

end CrsText
