import CrsText.Proofs.Definition.Resolution
import CrsText.Proofs.Wkt1.Derivation

/-! When the older dialect succeeds. Metadata and conversions never fail in it, and neither does an
epoch that is missing.
-/

set_option autoImplicit false

namespace CrsText

namespace Wkt1

-- One lemma for each function that may fail, and one for each that looks as if it might.
@[simp] theorem succeeds_metadata (given : Metadata) : Succeeds (metadata given).result := by
  simp [metadata_result]

theorem succeeds_unit (given : MeasureUnit) : Succeeds (unit given).result ↔ given.Resolvable := by
  simp [unit, Dialect.unitKeyword, succeeds_bind, MeasureUnit.succeeds_resolve]

theorem succeeds_ellipsoid (given : Ellipsoid) :
    Succeeds (ellipsoid given).result ↔ given.Convertible .wkt1 := by
  simp only [ellipsoid, Report.result_bind, Report.result_lift, succeeds_bind, Ellipsoid.Convertible,
    Ellipsoid.hasFigure_iff, Prod.exists]
  constructor
  · intro succeeded
    obtain ⟨semiMajor, inverseFlattening, figure, succeeded⟩ := succeeded
    refine ⟨_, ⟨semiMajor, inverseFlattening, figure, rfl⟩, fun _ => ?_⟩
    split at succeeded
    · simp at succeeded
    · next metres => simpa [bne] using metres
  · intro convertible
    obtain ⟨_, ⟨semiMajor, inverseFlattening, figure, rfl⟩, metres⟩ := convertible
    have same : (semiMajor.unit.factor != 1) = false := by simp [bne, metres trivial]
    exact ⟨semiMajor, inverseFlattening, figure, by simp [same]⟩

theorem succeeds_primeMeridian (given : PrimeMeridian) :
    Succeeds (primeMeridian given).result ↔ given.longitude.Resolvable := by
  simp [primeMeridian, succeeds_bind, Measure.succeeds_inUnit]

/-- A datum without a prime meridian has that of Greenwich. -/
theorem succeeds_datumNode (name : String) (figure : Ellipsoid) (common : Metadata)
    (meridian : Option PrimeMeridian) :
    Succeeds (datumNode name figure common meridian).result ↔
      figure.Convertible .wkt1 ∧ ∀ given ∈ meridian, given.longitude.Resolvable := by
  have longitude : (meridian.getD .greenwich).longitude.Resolvable ↔
      ∀ given ∈ meridian, given.longitude.Resolvable := by
    cases meridian with
    | none => simp [PrimeMeridian.greenwich, Measure.Resolvable]
    | some given => simp
  obtain ⟨rest, described⟩ := succeeds_metadata common
  simp [datumNode, succeeds_bind, succeeds_ellipsoid, succeeds_primeMeridian, longitude, described]

theorem succeeds_geodeticReference (given : Reference GeodeticDatum) :
    Succeeds (geodeticReference given).result ↔ Dialect.wkt1.AcceptsGeodetic given := by
  cases given with
  | datum datum =>
    simp [geodeticReference, geodeticDatum, dropEpoch, succeeds_bind, Ellipsoid.require_eq_ok,
      succeeds_datumNode, Dialect.AcceptsGeodetic, Dialect.HasEpoch, ← and_assoc]
  | ensemble ensemble =>
    simp [geodeticReference, geodeticEnsemble, succeeds_bind, Ellipsoid.require_eq_ok,
      succeeds_datumNode, Dialect.AcceptsGeodetic]

theorem succeeds_verticalReference (given : Reference VerticalDatum) :
    Succeeds (verticalReference given).result ↔ Dialect.wkt1.AcceptsVertical given := by
  cases given with
  | datum datum =>
    simp [verticalReference, verticalNode, dropEpoch, Dialect.AcceptsVertical, Dialect.HasEpoch]
  | ensemble ensemble =>
    simp [verticalReference, verticalNode, Dialect.AcceptsVertical]

theorem succeeds_coordinateSystem (given : CoordinateSystem) :
    Succeeds (coordinateSystem given).result ↔ given.Convertible .wkt1 := by
  obtain ⟨subtype, axes⟩ := given
  cases axes with
  | nil => simp [coordinateSystem, CoordinateSystem.Convertible]
  | cons first rest =>
    cases unit : first.unit <;>
      simp [coordinateSystem, CoordinateSystem.Convertible, axisUnit, unit, succeeds_unit]

theorem succeeds_optionalCoordinateSystem (given : Option CoordinateSystem) :
    Succeeds (optionalCoordinateSystem given).result ↔
      ∀ system ∈ given, system.Convertible .wkt1 := by
  cases given with
  | none => simp [optionalCoordinateSystem]
  | some system => simp [optionalCoordinateSystem, succeeds_coordinateSystem]

theorem succeeds_parameter (given : Parameter) : Succeeds (parameter given).result := by
  unfold parameter
  split <;> simp

theorem succeeds_conversion (given : Operation) : Succeeds (conversion given).result := by
  simp [conversion, succeeds_mapM, succeeds_parameter]

theorem succeeds_geodeticNode (keyword : String) (given : GeodeticCrs) :
    Succeeds (geodeticNode keyword given).result ↔ given.ConvertibleBase .wkt1 := by
  obtain ⟨rest, described⟩ := succeeds_metadata given.metadata
  simp [geodeticNode, succeeds_bind, described, GeodeticCrs.ConvertibleBase, succeeds_geodeticReference,
    succeeds_optionalCoordinateSystem, Reference.only_iff given.name, ← and_assoc]

theorem succeeds_geodetic (given : GeodeticCrs) :
    Succeeds (geodetic given).result ↔ (Crs.geodetic given).Convertible .wkt1 := by
  unfold geodetic
  split
  · next present =>
    obtain ⟨system, same⟩ := Option.isSome_iff_exists.mp present
    simp [succeeds_geodeticNode, Crs.Convertible, GeodeticCrs.ConvertibleBase, same]
  · next absent =>
    have none : given.coordinateSystem = none := by simpa using absent
    simp [Crs.Convertible, none]

theorem succeeds_projected (given : ProjectedCrs) :
    Succeeds (projected given).result ↔ (Crs.projected given).Convertible .wkt1 := by
  obtain ⟨rest, described⟩ := succeeds_metadata given.metadata
  obtain ⟨conversion, written⟩ := succeeds_conversion given.conversion
  simp [projected, succeeds_bind, written, described, succeeds_geodeticNode,
    succeeds_coordinateSystem, Crs.Convertible, Operation.Convertible]

theorem succeeds_vertical (given : VerticalCrs) :
    Succeeds (vertical given).result ↔ (Crs.vertical given).Convertible .wkt1 := by
  obtain ⟨rest, described⟩ := succeeds_metadata given.metadata
  simp [vertical, succeeds_bind, described, succeeds_verticalReference, succeeds_coordinateSystem,
    Crs.Convertible, Reference.only_iff given.name, ← and_assoc]

theorem succeeds_crs (given : CrsText.Crs) :
    Succeeds (crs given).result ↔ given.Convertible .wkt1 := by
  induction given with
  | geodetic given => exact succeeds_geodetic given
  | derivedGeodetic given => simp [crs, notExpressible, Crs.Convertible]
  | projected given => exact succeeds_projected given
  | vertical given => exact succeeds_vertical given
  | compound name components common ih =>
    obtain ⟨rest, described⟩ := succeeds_metadata common
    have succeeds : Succeeds (crs (.compound name components common)).result ↔
        ∀ component ∈ components, Succeeds (crs component).result := by
      simp [crs, crsList_eq_mapM, succeeds_bind, described, succeeds_mapM]
    rw [succeeds, Crs.Convertible, Crs.allConvertible_iff]
    exact forall₂_congr ih
  | bound source target transformation => simp [crs, notExpressible, Crs.Convertible]
  | unsupported typeName => simp [crs, Crs.Convertible]

end Wkt1

end CrsText
