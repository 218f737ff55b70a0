import CrsText.Proofs.Blame
import CrsText.Proofs.Definition.Parts
import CrsText.Proofs.Wkt1.Success
import CrsText.Proofs.Wkt2.Success

/-! Which types a conversion blames when it fails: only those of unsupported systems within the one that
is converted. Nothing else that can fail looks at a type of system.
-/

set_option autoImplicit false

namespace CrsText

variable {named : String → Prop}

-- One lemma for each lookup that both dialects share.
theorem MeasureUnit.blames_resolve (unit : MeasureUnit) : BlamesOnly named unit.resolve := by
  unfold resolve ResolvedUnit.ofDefinition
  split
  · split <;> simp
  · split <;> simp

theorem Measure.blames_inUnit (implied : KnownUnit) (measure : Measure) :
    BlamesOnly named (measure.inUnit implied) := by
  unfold inUnit
  split
  · exact .bind (MeasureUnit.blames_resolve _) fun _ => by simp
  · simp

theorem Ellipsoid.blames_figure (ellipsoid : Ellipsoid) : BlamesOnly named ellipsoid.figure := by
  refine .bind (Measure.blames_inUnit _ _) fun semiMajor => ?_
  split
  · simp
  · refine .bind (Measure.blames_inUnit _ _) fun semiMinor => ?_
    split <;> simp
  · simp

theorem Ellipsoid.blames_require (datum : String) (given : Option Ellipsoid) :
    BlamesOnly named (require datum given) := by
  cases given <;> simp [require]

theorem Reference.blames_select {δ : Type} (name : String) (datum : Option δ)
    (ensemble : Option DatumEnsemble) : BlamesOnly named (select name datum ensemble) := by
  cases datum <;> cases ensemble <;> simp [select]

theorem Dialect.blames_unitKeyword (dialect : Dialect) (tag : Option String) :
    BlamesOnly named (dialect.unitKeyword tag) := by
  cases dialect with
  | wkt1 => simp [unitKeyword]
  | wkt2 =>
    unfold unitKeyword UnitKind.ofTag
    refine .bind ?_ fun _ => by simp
    split
    · simp
    · split <;> simp

def Crs.HasUnsupported (crs : Crs) (typeName : String) : Prop :=
  ∃ path, crs.partAt? path = some (.unsupported typeName)

namespace Crs.HasUnsupported

variable {first second : Crs} {transformation : Operation} {typeName : String}

theorem here : (Crs.unsupported typeName).HasUnsupported typeName := ⟨[], rfl⟩

theorem component {name : String} {components : List Crs} {metadata : Metadata} {component : Crs}
    (member : component ∈ components) (inside : component.HasUnsupported typeName) :
    (Crs.compound name components metadata).HasUnsupported typeName := by
  obtain ⟨path, found⟩ := inside
  obtain ⟨index, bound, rfl⟩ := List.mem_iff_getElem.mp member
  exact ⟨.component index :: path, by simpa [partAt?, part?, bound] using found⟩

theorem source (inside : first.HasUnsupported typeName) :
    (Crs.bound first second transformation).HasUnsupported typeName := by
  obtain ⟨path, found⟩ := inside
  exact ⟨.source :: path, found⟩

theorem target (inside : second.HasUnsupported typeName) :
    (Crs.bound first second transformation).HasUnsupported typeName := by
  obtain ⟨path, found⟩ := inside
  exact ⟨.target :: path, found⟩

end Crs.HasUnsupported

namespace Wkt1

open Report (result_bind result_lift result_mapM)

theorem blames_metadata (given : Metadata) : BlamesOnly named (metadata given).result :=
  (succeeds_metadata given).blamesOnly

theorem blames_unit (given : MeasureUnit) : BlamesOnly named (unit given).result := by
  simp only [unit, result_bind, result_lift]
  exact .bind (MeasureUnit.blames_resolve given) fun _ =>
    .bind (Dialect.blames_unitKeyword _ _) fun _ => .bind (blames_metadata _) fun _ => by simp

theorem blames_ellipsoid (given : Ellipsoid) : BlamesOnly named (ellipsoid given).result := by
  simp only [ellipsoid, result_bind, result_lift]
  refine .bind (Ellipsoid.blames_figure given) fun figure => ?_
  split
  · simp
  · simp only [result_bind]
    exact .bind (blames_metadata _) fun _ => by simp

theorem blames_primeMeridian (given : PrimeMeridian) :
    BlamesOnly named (primeMeridian given).result := by
  simp only [primeMeridian, result_bind, result_lift]
  exact .bind (Measure.blames_inUnit _ _) fun _ => .bind (blames_metadata _) fun _ => by simp

theorem blames_datumNode (name : String) (figure : Ellipsoid) (common : Metadata)
    (meridian : Option PrimeMeridian) :
    BlamesOnly named (datumNode name figure common meridian).result := by
  simp only [datumNode, result_bind]
  exact .bind (blames_ellipsoid figure) fun _ => .bind (blames_metadata common) fun _ =>
    .bind (blames_primeMeridian _) fun _ => by simp

theorem blames_geodeticReference (given : Reference GeodeticDatum) :
    BlamesOnly named (geodeticReference given).result := by
  cases given with
  | datum datum =>
    simp only [geodeticReference, geodeticDatum, dropEpoch, result_bind, result_lift, noteIf_result,
      ok_bind]
    exact .bind (Ellipsoid.blames_require _ _) fun _ => blames_datumNode _ _ _ _
  | ensemble ensemble =>
    simp only [geodeticReference, geodeticEnsemble, result_bind, result_lift, Report.result_note,
      ok_bind]
    exact .bind (Ellipsoid.blames_require _ _) fun _ => blames_datumNode _ _ _ _

theorem blames_verticalReference (given : Reference VerticalDatum) :
    BlamesOnly named (verticalReference given).result := by
  refine Succeeds.blamesOnly ((succeeds_verticalReference given).mpr ?_)
  cases given <;> simp [Dialect.AcceptsVertical, Dialect.HasEpoch]

theorem blames_coordinateSystem (given : CoordinateSystem) :
    BlamesOnly named (coordinateSystem given).result := by
  obtain ⟨subtype, axes⟩ := given
  cases axes with
  | nil => simp [coordinateSystem]
  | cons first rest =>
    simp only [coordinateSystem, result_bind]
    refine .bind ?_ fun _ => by simp
    cases first.unit with
    | none => simp [axisUnit]
    | some unit =>
      simp only [axisUnit, result_bind]
      exact .bind (blames_unit unit) fun _ => by simp

theorem blames_geodeticNode (keyword : String) (given : GeodeticCrs) :
    BlamesOnly named (geodeticNode keyword given).result := by
  simp only [geodeticNode, result_bind, result_lift]
  refine .bind (Reference.blames_select _ _ _) fun _ => .bind (blames_geodeticReference _) fun _ =>
    .bind ?_ fun _ => .bind (blames_metadata _) fun _ => by simp
  cases given.coordinateSystem with
  | none => simp [optionalCoordinateSystem]
  | some system => exact blames_coordinateSystem system

theorem blames_geodetic (given : GeodeticCrs) : BlamesOnly named (geodetic given).result := by
  unfold geodetic
  split
  · exact blames_geodeticNode _ _
  · simp

theorem blames_projected (given : ProjectedCrs) : BlamesOnly named (projected given).result := by
  simp only [projected, result_bind]
  exact .bind (blames_geodeticNode _ _) fun _ => .bind (succeeds_conversion _).blamesOnly fun _ =>
    .bind (blames_coordinateSystem _) fun _ => .bind (blames_metadata _) fun _ => by simp

theorem blames_vertical (given : VerticalCrs) : BlamesOnly named (vertical given).result := by
  simp only [vertical, result_bind, result_lift]
  exact .bind (Reference.blames_select _ _ _) fun _ => .bind (blames_verticalReference _) fun _ =>
    .bind (blames_coordinateSystem _) fun _ => .bind (blames_metadata _) fun _ => by simp

theorem blames_crs (given : CrsText.Crs) : BlamesOnly given.HasUnsupported (crs given).result := by
  induction given with
  | geodetic given => exact blames_geodetic given
  | derivedGeodetic given => simp [crs, notExpressible]
  | projected given => exact blames_projected given
  | vertical given => exact blames_vertical given
  | compound name components common ih =>
    simp only [crs, crsList_eq_mapM, result_bind, result_mapM]
    refine .bind (blamesOnly_mapM fun component member => ?_) fun _ =>
      .bind (blames_metadata _) fun _ => by simp
    exact (ih component member).mono fun _ => .component member
  | bound source target transformation => simp [crs, notExpressible]
  | unsupported typeName => simp [crs, Crs.HasUnsupported.here]

end Wkt1

namespace Wkt2

theorem blames_unit (given : MeasureUnit) : BlamesOnly named (unit given) :=
  .bind (MeasureUnit.blames_resolve given) fun _ =>
    .bind (Dialect.blames_unitKeyword _ _) fun _ => by simp

theorem blames_optionalUnit (given : Option MeasureUnit) : BlamesOnly named (optionalUnit given) := by
  cases given with
  | none => simp [optionalUnit]
  | some unit => exact .bind (blames_unit unit) fun _ => by simp

theorem blames_longitude (measure : Measure) : BlamesOnly named (longitude measure) :=
  .bind (Measure.blames_inUnit _ _) fun _ => by simp

theorem blames_ellipsoid (given : Ellipsoid) : BlamesOnly named (ellipsoid given) :=
  .bind (Ellipsoid.blames_figure given) fun _ => by simp

theorem blames_frameEpoch (isDynamic : Bool) (epoch : Option Float) (datum : String) :
    BlamesOnly named (frameEpoch isDynamic epoch datum) := by
  cases isDynamic <;> cases epoch <;> simp [frameEpoch]

theorem blames_geodeticReference (given : Reference GeodeticDatum) :
    BlamesOnly named (geodeticReference given) := by
  cases given with
  | datum datum =>
    refine .bind (blames_frameEpoch _ _ _) fun _ => .bind (Ellipsoid.blames_require _ _) fun _ =>
      .bind (blames_ellipsoid _) fun _ => .bind ?_ fun _ => by simp
    cases datum.primeMeridian with
    | none => simp [optionalPrimeMeridian]
    | some meridian => exact .bind (.bind (blames_longitude _) fun _ => by simp) fun _ => by simp
  | ensemble ensemble =>
    exact .bind (.bind (Ellipsoid.blames_require _ _) fun _ =>
      .bind (blames_ellipsoid _) fun _ => by simp) fun _ => by simp

theorem blames_verticalReference (given : Reference VerticalDatum) :
    BlamesOnly named (verticalReference given) := by
  cases given with
  | datum datum => exact .bind (blames_frameEpoch _ _ _) fun _ => by simp
  | ensemble ensemble => simp [verticalReference]

theorem blames_axis (given : Axis) : BlamesOnly named (axis given) := by
  refine .bind ?_ fun _ => .bind (blames_optionalUnit _) fun _ => by simp
  cases given.meridian with
  | none => simp [optionalMeridian]
  | some meridian => exact .bind (.bind (blames_longitude _) fun _ => by simp) fun _ => by simp

theorem blames_coordinateSystem (given : CoordinateSystem) :
    BlamesOnly named (coordinateSystem given) := by
  obtain ⟨subtype, axes⟩ := given
  cases axes with
  | nil => simp [coordinateSystem]
  | cons first rest =>
    exact .bind (blamesOnly_mapM fun axis _ => blames_axis axis) fun _ => by simp

theorem blames_operation (keyword : String) (given : Operation) :
    BlamesOnly named (operation keyword given) := by
  refine .bind (blamesOnly_mapM fun given _ => ?_) fun _ => by simp
  unfold parameter
  split
  · simp
  · exact .bind (blames_optionalUnit _) fun _ => by simp

theorem blames_geodeticItems (given : GeodeticCrs) (system : Option CoordinateSystem) :
    BlamesOnly named (geodeticItems given system) := by
  refine .bind (Reference.blames_select _ _ _) fun _ => .bind (blames_geodeticReference _) fun _ => ?_
  cases system with
  | none => simp
  | some system => exact .bind (blames_coordinateSystem system) fun _ => by simp

theorem blames_geodetic (given : GeodeticCrs) : BlamesOnly named (geodetic given) := by
  unfold geodetic
  split
  · exact .bind (blames_geodeticItems _ _) fun _ => by simp
  · simp

theorem blames_base (kind : GeodeticKind) (given : GeodeticCrs) : BlamesOnly named (base kind given) :=
  .bind (blames_geodeticItems given none) fun _ => by simp

theorem blames_derivedGeodetic (given : DerivedGeodeticCrs) :
    BlamesOnly named (derivedGeodetic given) :=
  .bind (blames_base _ _) fun _ => .bind (blames_operation _ _) fun _ =>
    .bind (blames_coordinateSystem _) fun _ => by simp

theorem blames_projected (given : ProjectedCrs) : BlamesOnly named (projected given) :=
  .bind (blames_base _ _) fun _ => .bind (blames_operation _ _) fun _ =>
    .bind (blames_coordinateSystem _) fun _ => by simp

theorem blames_vertical (given : VerticalCrs) : BlamesOnly named (vertical given) :=
  .bind (Reference.blames_select _ _ _) fun _ => .bind (blames_verticalReference _) fun _ =>
    .bind (blames_coordinateSystem _) fun _ => by simp

theorem blames_crs (given : CrsText.Crs) : BlamesOnly given.HasUnsupported (crs given) := by
  induction given with
  | geodetic given => exact blames_geodetic given
  | derivedGeodetic given => exact blames_derivedGeodetic given
  | projected given => exact blames_projected given
  | vertical given => exact blames_vertical given
  | compound name components common ih =>
    simp only [crs, crsList_eq_mapM]
    refine .bind (blamesOnly_mapM fun component member => ?_) fun _ => by simp
    exact (ih component member).mono fun _ => .component member
  | bound source target transformation ihSource ihTarget =>
    exact .bind (ihSource.mono fun _ => .source) fun _ =>
      .bind (ihTarget.mono fun _ => .target) fun _ => .bind (blames_operation _ _) fun _ => by simp
  | unsupported typeName => simp [crs, Crs.HasUnsupported.here]

end Wkt2

end CrsText
