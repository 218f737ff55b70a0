import CrsText.Proofs.Conversion.Grammar
import CrsText.Proofs.Wkt1.Decimal
import CrsText.Proofs.Wkt2.Decimal

/-! A conversion of finite numbers writes finite numbers. The only number that it computes is an inverse
flattening, which is finite but for a sphere.
-/

set_option autoImplicit false

namespace CrsText

namespace Crs

variable {dialect : Dialect} {layout : Layout} {crs : Crs}

theorem isDecimal_iff (finite : crs.IsFinite) {item : Item}
    (written : (crs.toItem dialect).result = .ok item) : item.IsDecimal ↔ ¬ crs.HasSphere := by
  cases dialect with
  | wkt1 => exact Wkt1.crs_isDecimal_iff finite written
  | wkt2 => exact Wkt2.crs_isDecimal_iff finite written

end Crs

namespace Json

variable {dialect : Dialect} {layout : Layout} {value : Json}

theorem convert_eq_ok {text : String} : (value.convert dialect layout).result = .ok text ↔
    ∃ crs, Crs.ofJson value = .ok crs ∧ (crs.convert dialect layout).result = .ok text := by
  unfold convert
  split <;> simp [*]

/-- The numeric tokens of a text that a value without infinite numbers is converted to are decimal if
and only if no ellipsoid in it is given by two equal axes, since the flattening is the only number that
is computed. -/
theorem convert_decimal (finite : value.IsFinite) :
    (∀ text, (value.convert dialect layout).result = .ok text →
      ∃ crs item, Crs.ofJson value = .ok crs ∧ (crs.toItem dialect).result = .ok item ∧
        item.write layout = text ∧ (item.IsDecimal ↔ ¬ crs.HasSphere)) ∧
    ∀ major minor : Float, major.isFinite → minor.isFinite →
      (IsDecimal (Token.rounded (major / (major - minor))) ↔ exactValue major ≠ exactValue minor) := by
  refine ⟨fun text converted => ?_, fun major minor majorFinite minorFinite => ?_⟩
  · obtain ⟨crs, read, converted⟩ := convert_eq_ok.mp converted
    obtain ⟨item, written, same⟩ := Crs.convert_eq_ok.mp converted
    have crsFinite := Crs.yields_ofJson value crs finite read
    exact ⟨crs, item, read, written, same, Crs.isDecimal_iff crsFinite written⟩
  · rw [Token.isDecimal_rounded_iff, isFinite_div_sub majorFinite minorFinite]

def withAxes (semiMajor semiMinor : Json) : Json :=
  .object [("type", .string "GeographicCRS"), ("name", .string "Geographic"),
    ("datum", .object [("name", .string "Datum"), ("ellipsoid", .object [("name", .string "Figure"),
      ("semi_major_axis", semiMajor), ("semi_minor_axis", semiMinor)])]),
    ("coordinate_system", .object [("subtype", .string "ellipsoidal"), ("axis", .array [.object
      [("name", .string "Latitude"), ("abbreviation", .string "lat"), ("direction", .string "north")]])])]

theorem isFinite_withAxes {semiMajor semiMinor : Json} (majorFinite : semiMajor.IsFinite)
    (minorFinite : semiMinor.IsFinite) : (withAxes semiMajor semiMinor).IsFinite := by
  simp [withAxes, IsFinite, EntriesAreFinite, ElementsAreFinite, majorFinite, minorFinite]

theorem convert_decimal_clarke : (withAxes (.float 6378206.4) (.float 6356583.8)).IsFinite ∧
    (∃ text, ((withAxes (.float 6378206.4) (.float 6356583.8)).convert .wkt1 .singleLine).result =
      .ok text ∧ ∃ crs item, Crs.ofJson (withAxes (.float 6378206.4) (.float 6356583.8)) = .ok crs ∧
        (crs.toItem .wkt1).result = .ok item ∧ item.write .singleLine = text ∧
        (item.IsDecimal ↔ ¬ crs.HasSphere)) ∧
    (6378206.4 : Float).isFinite ∧ (6356583.8 : Float).isFinite ∧
    exactValue 6378206.4 ≠ exactValue 6356583.8 ∧
    IsDecimal (Token.rounded (6378206.4 / (6378206.4 - 6356583.8))) := by
  have finite : (withAxes (.float 6378206.4) (.float 6356583.8)).IsFinite := isFinite_withAxes rfl rfl
  obtain ⟨text, converted⟩ : ∃ text,
      ((withAxes (.float 6378206.4) (.float 6356583.8)).convert .wkt1 .singleLine).result = .ok text :=
    ⟨_, rfl⟩
  have unequal : exactValue 6378206.4 ≠ exactValue 6356583.8 := by decide +kernel
  obtain ⟨decimal, flattening⟩ := @convert_decimal .wkt1 .singleLine _ finite
  exact ⟨finite, ⟨text, converted, decimal text converted⟩, rfl, rfl, unequal,
    (flattening 6378206.4 6356583.8 rfl rfl).mpr unequal⟩

/-- The flattening of a sphere is no number. -/
theorem convert_sphere_infinite : (withAxes (.integer 6371000) (.integer 6371000)).IsFinite ∧
    ∃ crs item text, Crs.ofJson (withAxes (.integer 6371000) (.integer 6371000)) = .ok crs ∧
      (crs.toItem .wkt1).result = .ok item ∧
      ((withAxes (.integer 6371000) (.integer 6371000)).convert .wkt1 .singleLine).result = .ok text ∧
      item.write .singleLine = text ∧ "Infinity" ∈ item.numbers ∧ ¬ IsDecimal "Infinity" := by
  have inRange : (Json.integer 6371000).IsFinite := by
    simp [IsFinite, signedBound, unsignedBound]
  refine ⟨isFinite_withAxes inRange inRange, _, _, _, rfl, rfl, rfl, rfl, ?_, ?_⟩
  · decide +kernel
  · exact Notation.not_mem_decimal (.inl (.tail _ (.head _)))

end Json

end CrsText
