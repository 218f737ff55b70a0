import CrsText.Proofs.Definition.Resolution
import CrsText.Proofs.Wkt2.Derivation

/-! When the dialect of 2019 succeeds. It looks up every unit that it writes, and the kind of all
but those of lengths and angles that its grammar fixes.
-/

set_option autoImplicit false

namespace CrsText

namespace UnitKind

theorem ofTag?_eq_some {tag : String} {kind : UnitKind} : ofTag? tag = some kind ↔ tag = kind.tag := by
  constructor
  · intro found
    have same := List.find?_some found
    exact (beq_iff_eq.mp same).symm
  · rintro rfl
    cases kind <;> rfl

theorem succeeds_ofTag {tag : Option String} :
    Succeeds (ofTag tag) ↔ ∃ kind : UnitKind, tag = some kind.tag := by
  cases tag with
  | none => simp [ofTag]
  | some tag =>
    cases found : ofTag? tag with
    | none =>
      have unknown : ∀ kind : UnitKind, tag ≠ kind.tag := by
        intro kind same
        rw [ofTag?_eq_some.mpr same] at found
        cases found
      simp [ofTag, found, unknown]
    | some kind => simpa [ofTag, found] using ⟨kind, ofTag?_eq_some.mp found⟩

end UnitKind

namespace Wkt2

-- One lemma for each function that may fail; it names the conditions of the parts that are written.
theorem succeeds_unit (given : MeasureUnit) : Succeeds (unit given) ↔ given.Typed := by
  -- The kind is looked up for the resolved unit, which for a known name brings its own tag.
  have keyword : ∀ resolved, given.resolve = .ok resolved →
      (Succeeds (Dialect.wkt2.unitKeyword resolved.typeTag) ↔
        ∀ definition, given = .defined definition →
          ∃ kind : UnitKind, definition.typeTag = some kind.tag) := by
    intro resolved found
    rw [← MeasureUnit.typeTag_of_resolve found, ← UnitKind.succeeds_ofTag]
    simp [Dialect.unitKeyword]
  simp only [unit, succeeds_bind, succeeds_pure, and_true, exists_eq_ok]
  constructor
  · intro succeeded
    obtain ⟨resolved, found, known⟩ := succeeded
    exact ⟨MeasureUnit.succeeds_resolve.mp ⟨resolved, found⟩, (keyword resolved found).mp known⟩
  · intro typed
    obtain ⟨resolvable, tagged⟩ := typed
    obtain ⟨resolved, found⟩ := MeasureUnit.succeeds_resolve.mpr resolvable
    exact ⟨resolved, found, (keyword resolved found).mpr tagged⟩

theorem succeeds_optionalUnit (given : Option MeasureUnit) :
    Succeeds (optionalUnit given) ↔ ∀ unit ∈ given, unit.Typed := by
  cases given <;> simp [optionalUnit, succeeds_unit]

theorem succeeds_longitude (given : Measure) : Succeeds (longitude given) ↔ given.Resolvable := by
  simp [longitude, Measure.succeeds_inUnit]

theorem succeeds_ellipsoid (given : Ellipsoid) :
    Succeeds (ellipsoid given) ↔ given.Convertible .wkt2 := by
  have succeeds : Succeeds (ellipsoid given) ↔ Succeeds given.figure := by simp [ellipsoid]
  simp only [succeeds, Ellipsoid.Convertible, Ellipsoid.hasFigure_iff, reduceCtorEq, false_implies,
    and_true]
  constructor
  · intro succeeded
    obtain ⟨⟨semiMajor, inverseFlattening⟩, figure⟩ := succeeded
    exact ⟨_, semiMajor, inverseFlattening, figure, rfl⟩
  · intro convertible
    obtain ⟨_, semiMajor, inverseFlattening, figure, -⟩ := convertible
    exact ⟨_, figure⟩

theorem succeeds_primeMeridian (given : PrimeMeridian) :
    Succeeds (primeMeridian given) ↔ given.longitude.Resolvable := by
  simp [primeMeridian, succeeds_longitude]

theorem succeeds_optionalPrimeMeridian (given : Option PrimeMeridian) :
    Succeeds (optionalPrimeMeridian given) ↔
      ∀ meridian ∈ given, meridian.longitude.Resolvable := by
  cases given <;> simp [optionalPrimeMeridian, succeeds_primeMeridian]

theorem succeeds_frameEpoch (isDynamic : Bool) (epoch : Option Float) (datum : String) :
    Succeeds (frameEpoch isDynamic epoch datum) ↔ Dialect.wkt2.HasEpoch isDynamic epoch := by
  cases isDynamic <;> cases epoch <;> simp [frameEpoch, Dialect.HasEpoch]

theorem succeeds_geodeticReference (given : Reference GeodeticDatum) :
    Succeeds (geodeticReference given) ↔ Dialect.wkt2.AcceptsGeodetic given := by
  cases given with
  | datum datum =>
    simp [geodeticReference, geodeticDatum, succeeds_bind, Ellipsoid.require_eq_ok,
      succeeds_frameEpoch, succeeds_ellipsoid, succeeds_optionalPrimeMeridian,
      Dialect.AcceptsGeodetic, ← and_assoc]
  | ensemble ensemble =>
    simp [geodeticReference, geodeticEnsemble, succeeds_bind, Ellipsoid.require_eq_ok,
      succeeds_ellipsoid, Dialect.AcceptsGeodetic]

theorem succeeds_verticalReference (given : Reference VerticalDatum) :
    Succeeds (verticalReference given) ↔ Dialect.wkt2.AcceptsVertical given := by
  cases given with
  | datum datum => simp [verticalReference, verticalDatum, succeeds_frameEpoch, Dialect.AcceptsVertical]
  | ensemble ensemble => simp [verticalReference, Dialect.AcceptsVertical]

theorem succeeds_optionalMeridian (given : Option Meridian) :
    Succeeds (optionalMeridian given) ↔ ∀ meridian ∈ given, meridian.longitude.Resolvable := by
  cases given <;> simp [optionalMeridian, meridian, succeeds_longitude]

theorem succeeds_axis (given : Axis) : Succeeds (axis given) ↔
    (∀ unit ∈ given.unit, unit.Typed) ∧
      ∀ meridian ∈ given.meridian, meridian.longitude.Resolvable := by
  rw [and_comm]
  simp [axis, succeeds_bind, succeeds_optionalMeridian, succeeds_optionalUnit]

theorem succeeds_coordinateSystem (given : CoordinateSystem) :
    Succeeds (coordinateSystem given) ↔ given.Convertible .wkt2 := by
  obtain ⟨subtype, axes⟩ := given
  cases axes with
  | nil => simp [coordinateSystem, CoordinateSystem.Convertible]
  | cons first rest =>
    simp [coordinateSystem, CoordinateSystem.Convertible, -List.mapM_cons, succeeds_mapM,
      succeeds_axis]

theorem succeeds_parameter (given : Parameter) : Succeeds (parameter given) ↔
    ∀ value, given.value = .number value → ∀ unit ∈ given.unit, unit.Typed := by
  unfold parameter
  split
  · next file => simp [file]
  · next number => simp [number, succeeds_optionalUnit]

theorem succeeds_operation (keyword : String) (given : Operation) :
    Succeeds (operation keyword given) ↔ given.Convertible .wkt2 := by
  simp [operation, succeeds_mapM, succeeds_parameter, Operation.Convertible]

theorem succeeds_geodetic (given : GeodeticCrs) :
    Succeeds (geodetic given) ↔ (Crs.geodetic given).Convertible .wkt2 := by
  unfold geodetic
  split
  · next system same =>
    simp [geodeticItems_eq, succeeds_bind, succeeds_geodeticReference, succeeds_coordinateSystem,
      Crs.Convertible, Reference.only_iff given.name, same, ← and_assoc]
  · next absent => simp [Crs.Convertible, absent]

/-- The coordinate system of a base is not looked at. -/
theorem succeeds_base (kind : GeodeticKind) (given : GeodeticCrs) :
    Succeeds (base kind given) ↔ given.ConvertibleBase .wkt2 := by
  simp [base, geodeticItems_eq, succeeds_bind, succeeds_geodeticReference,
    GeodeticCrs.ConvertibleBase, Reference.only_iff given.name]

theorem succeeds_derivedGeodetic (given : DerivedGeodeticCrs) :
    Succeeds (derivedGeodetic given) ↔ (Crs.derivedGeodetic given).Convertible .wkt2 := by
  simp [derivedGeodetic, succeeds_bind, succeeds_base, succeeds_operation,
    succeeds_coordinateSystem, Crs.Convertible]

theorem succeeds_projected (given : ProjectedCrs) :
    Succeeds (projected given) ↔ (Crs.projected given).Convertible .wkt2 := by
  simp [projected, succeeds_bind, succeeds_base, succeeds_operation, succeeds_coordinateSystem,
    Crs.Convertible]

theorem succeeds_vertical (given : VerticalCrs) :
    Succeeds (vertical given) ↔ (Crs.vertical given).Convertible .wkt2 := by
  simp [vertical, succeeds_bind, succeeds_verticalReference, succeeds_coordinateSystem,
    Crs.Convertible, Reference.only_iff given.name, ← and_assoc]

theorem succeeds_crs (given : CrsText.Crs) : Succeeds (crs given) ↔ given.Convertible .wkt2 := by
  induction given with
  | geodetic given => exact succeeds_geodetic given
  | derivedGeodetic given => exact succeeds_derivedGeodetic given
  | projected given => exact succeeds_projected given
  | vertical given => exact succeeds_vertical given
  | compound name components common ih =>
    have succeeds : Succeeds (crs (.compound name components common)) ↔
        ∀ component ∈ components, Succeeds (crs component) := by
      simp [crs, crsList_eq_mapM, succeeds_mapM]
    rw [succeeds, Crs.Convertible, Crs.allConvertible_iff]
    exact forall₂_congr ih
  | bound source target transformation sourceIh targetIh =>
    simp [crs, succeeds_bind, succeeds_operation, sourceIh, targetIh, Crs.Convertible]
  | unsupported typeName => simp [crs, Crs.Convertible]

end Wkt2

end CrsText
