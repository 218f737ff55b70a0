import CrsText.Proofs.Alike
import CrsText.Proofs.Definition.OlderPart
import CrsText.Proofs.Nesting
import CrsText.Proofs.Wkt1.Derivation

/-! What the older dialect writes depends on the older part of a system alone. The notices may differ,
since they tell what is left out.
-/

set_option autoImplicit false

namespace CrsText

/-- The same value in units of the same name and factor, whatever else the units say. -/
structure Quantity.Same (quantity other : Quantity) : Prop where
  value : quantity.value = other.value
  name : quantity.unit.name = other.unit.name
  factor : quantity.unit.factor = other.unit.factor

theorem Measure.inUnit_olderPart (implied : KnownUnit) (measure : Measure) :
    Alike Quantity.Same (measure.olderPart.inUnit implied) (measure.inUnit implied) := by
  obtain ⟨value, given⟩ := measure
  cases given with
  | none => exact .ok ⟨rfl, rfl, rfl⟩
  | some unit =>
    cases unit with
    | named name =>
      simp only [olderPart, inUnit, Option.map_some, MeasureUnit.measurePart,
        MeasureUnit.mapDefinition]
      cases (MeasureUnit.named name).resolve with
      | error failure => exact .error failure
      | ok resolved => exact .ok ⟨rfl, rfl, rfl⟩
    | defined definition =>
      obtain ⟨typeTag, name, factor, metadata⟩ := definition
      cases factor with
      | none => exact .error _
      | some factor => exact .ok ⟨rfl, rfl, rfl⟩

def Ellipsoid.SameFigure (figure other : Quantity × Float) : Prop :=
  figure.1.Same other.1 ∧ figure.2 = other.2

theorem Ellipsoid.figure_olderPart (ellipsoid : Ellipsoid) :
    Alike SameFigure ellipsoid.olderPart.figure ellipsoid.figure := by
  obtain ⟨name, semiMajorAxis, semiMinorAxis, inverseFlattening, metadata⟩ := ellipsoid
  refine (semiMajorAxis.inUnit_olderPart .metre).bind fun semiMajor other major => ?_
  cases inverseFlattening with
  | some inverseFlattening => exact .ok ⟨major, rfl⟩
  | none =>
    cases semiMinorAxis with
    | none => exact .error _
    | some semiMinorAxis =>
      refine (semiMinorAxis.inUnit_olderPart .metre).bind fun semiMinor otherMinor minor => ?_
      -- The units agree on both sides or on neither, as only their names and factors are compared.
      have agrees : semiMajor.unit.agrees semiMinor.unit = other.unit.agrees otherMinor.unit := by
        simp [ResolvedUnit.agrees, major.name, major.factor, minor.name, minor.factor]
      simp only [agrees, major.value, minor.value, major.name, minor.name]
      split
      · exact .ok ⟨major, rfl⟩
      · exact .error _

namespace Wkt1

-- One lemma for each function that writes items: it gives the same items, or the same failure, for
-- the older part of what it is given.
@[simp] theorem metadata_olderPart (given : Metadata) :
    (metadata given.olderPart).result = (metadata given).result := by
  simp only [metadata_result, Metadata.olderPart]

@[simp] theorem metadata_empty_olderPart : Metadata.empty.olderPart = .empty := rfl

@[simp] theorem unit_olderPart (given : MeasureUnit) :
    (unit given.olderPart).result = (unit given).result := by
  cases given with
  | named name => rfl
  | defined definition =>
    obtain ⟨typeTag, name, factor, common⟩ := definition
    cases factor with
    | none => rfl
    | some factor =>
      simp [unit, MeasureUnit.olderPart, MeasureUnit.mapDefinition, UnitDefinition.olderPart,
        MeasureUnit.resolve, ResolvedUnit.ofDefinition, Dialect.unitKeyword]

@[simp] theorem ellipsoid_olderPart (given : Ellipsoid) :
    (ellipsoid given.olderPart).result = (ellipsoid given).result := by
  simp only [ellipsoid, Report.result_bind, Report.result_lift]
  refine given.figure_olderPart.bind_eq fun figure other same => ?_
  obtain ⟨⟨value, -, factor⟩, flattening⟩ := same
  simp only [value, factor, flattening]
  split
  · rfl
  · simp [Ellipsoid.olderPart]

@[simp] theorem primeMeridian_olderPart (given : PrimeMeridian) :
    (primeMeridian given.olderPart).result = (primeMeridian given).result := by
  simp only [primeMeridian, Report.result_bind, Report.result_lift]
  refine (given.longitude.inUnit_olderPart .degree).bind_eq fun longitude other same => ?_
  simp [same.value, PrimeMeridian.olderPart]

theorem datumNode_olderPart (name : String) (figure : Ellipsoid) (common : Metadata)
    (meridian : Option PrimeMeridian) :
    (datumNode name figure.olderPart common.olderPart
      (meridian.map PrimeMeridian.olderPart)).result =
      (datumNode name figure common meridian).result := by
  have greenwich : (meridian.map PrimeMeridian.olderPart).getD .greenwich =
      (meridian.getD .greenwich).olderPart := by
    cases meridian <;> rfl
  simp [datumNode, greenwich]

theorem geodeticDatum_olderPart (given : GeodeticDatum) :
    (geodeticDatum given.olderPart).result = (geodeticDatum given).result := by
  obtain ⟨typeTag, name, figure, meridian, epoch, common⟩ := given
  cases figure with
  | none => simp [geodeticDatum, GeodeticDatum.olderPart, dropEpoch, Ellipsoid.require]
  | some figure =>
    simpa [geodeticDatum, GeodeticDatum.olderPart, dropEpoch, Ellipsoid.require] using
      datumNode_olderPart name figure common meridian

theorem geodeticEnsemble_olderPart (given : DatumEnsemble) :
    (geodeticEnsemble given.olderPart).result = (geodeticEnsemble given).result := by
  obtain ⟨name, members, figure, accuracy, common⟩ := given
  cases figure with
  | none => rfl
  | some figure =>
    simpa [geodeticEnsemble, DatumEnsemble.olderPart, Ellipsoid.require] using
      datumNode_olderPart (datumName name) figure common none

/-- The reference is chosen alike, since nothing comes or goes. -/
theorem geodeticReference_olderPart (given : GeodeticCrs) :
    (Reference.select given.name given.olderPart.datum given.olderPart.ensemble >>=
        fun selected => (geodeticReference selected).result) =
      Reference.select given.name given.datum given.ensemble >>=
        fun selected => (geodeticReference selected).result := by
  obtain ⟨kind, name, datum, ensemble, system, common⟩ := given
  cases datum with
  | none =>
    cases ensemble with
    | none => rfl
    | some ensemble => exact geodeticEnsemble_olderPart ensemble
  | some datum =>
    cases ensemble with
    | none => exact geodeticDatum_olderPart datum
    | some ensemble => rfl

theorem verticalDatum_olderPart (given : VerticalDatum) :
    (verticalReference (.datum given.olderPart)).result =
      (verticalReference (.datum given)).result := by
  simp [verticalReference, VerticalDatum.olderPart, dropEpoch, verticalNode]

theorem verticalEnsemble_olderPart (given : DatumEnsemble) :
    (verticalReference (.ensemble given.olderPart)).result =
      (verticalReference (.ensemble given)).result := by
  simp [verticalReference, DatumEnsemble.olderPart, verticalNode]

theorem verticalReference_olderPart (given : VerticalCrs) :
    (Reference.select given.name given.olderPart.datum given.olderPart.ensemble >>=
        fun selected => (verticalReference selected).result) =
      Reference.select given.name given.datum given.ensemble >>=
        fun selected => (verticalReference selected).result := by
  obtain ⟨name, datum, ensemble, system, common⟩ := given
  cases datum with
  | none =>
    cases ensemble with
    | none => rfl
    | some ensemble => exact verticalEnsemble_olderPart ensemble
  | some datum =>
    cases ensemble with
    | none => exact verticalDatum_olderPart datum
    | some ensemble => rfl

@[simp] theorem coordinateSystem_olderPart (given : CoordinateSystem) :
    (coordinateSystem given.olderPart).result = (coordinateSystem given).result := by
  obtain ⟨subtype, axes⟩ := given
  cases axes with
  | nil => rfl
  | cons first rest =>
    have unit : (axisUnit first.olderPart.unit).result = (axisUnit first.unit).result := by
      cases given : first.unit <;> simp [axisUnit, Axis.olderPart, given]
    have axes : (rest.map Axis.unitless).map axis = rest.map axis := by
      rw [List.map_map]
      rfl
    have head : axis first.olderPart = axis first := rfl
    simp [coordinateSystem, CoordinateSystem.olderPart, unit, axes, head]

@[simp] theorem optionalCoordinateSystem_olderPart (given : Option CoordinateSystem) :
    (optionalCoordinateSystem (given.map CoordinateSystem.olderPart)).result =
      (optionalCoordinateSystem given).result := by
  cases given with
  | none => rfl
  | some given => exact coordinateSystem_olderPart given

theorem parameter_olderPart (given : Parameter) :
    (parameter given.olderPart).result = (parameter given).result := by
  obtain ⟨name, value, unit, common⟩ := given
  cases value with
  | number value => rfl
  | file file => simp [parameter, Parameter.olderPart]

@[simp] theorem conversion_olderPart (given : Operation) :
    (conversion given.olderPart).result = (conversion given).result := by
  simp [conversion, Operation.olderPart, Method.olderPart, List.mapM_map, parameter_olderPart,
    Function.comp_def]

theorem geodeticNode_olderPart (keyword : String) (given : GeodeticCrs) :
    (geodeticNode keyword given.olderPart).result = (geodeticNode keyword given).result := by
  have name : given.olderPart.name = given.name := rfl
  have system : given.olderPart.coordinateSystem =
      given.coordinateSystem.map CoordinateSystem.olderPart := rfl
  have common : given.olderPart.metadata = given.metadata.olderPart := rfl
  simp only [geodeticNode, Report.result_bind, Report.result_lift, name, system, common]
  rw [← bind_assoc, geodeticReference_olderPart, bind_assoc]
  simp

theorem geodetic_olderPart (given : GeodeticCrs) :
    (geodetic given.olderPart).result = (geodetic given).result := by
  have present : given.olderPart.coordinateSystem.isSome = given.coordinateSystem.isSome :=
    Option.isSome_map
  unfold geodetic
  rw [present]
  split
  · exact geodeticNode_olderPart _ given
  · rfl

/-- The base stays geographic or not, as the type of its coordinate system is kept. -/
theorem baseKind_olderPart (given : ProjectedCrs) : given.olderPart.baseKind = given.baseKind := by
  simp only [ProjectedCrs.baseKind, ProjectedCrs.olderPart, GeodeticCrs.olderPart]
  cases given.base.coordinateSystem <;> rfl

theorem projected_olderPart (given : ProjectedCrs) :
    (projected given.olderPart).result = (projected given).result := by
  simp only [projected, Report.result_bind, baseKind_olderPart]
  simp [ProjectedCrs.olderPart, geodeticNode_olderPart]

theorem vertical_olderPart (given : VerticalCrs) :
    (vertical given.olderPart).result = (vertical given).result := by
  have name : given.olderPart.name = given.name := rfl
  have system : given.olderPart.coordinateSystem = given.coordinateSystem.olderPart := rfl
  have common : given.olderPart.metadata = given.metadata.olderPart := rfl
  simp only [vertical, Report.result_bind, Report.result_lift, name, system, common]
  rw [← bind_assoc, verticalReference_olderPart, bind_assoc]
  simp

theorem crs_olderPart (given : CrsText.Crs) :
    (crs given.olderPart).result = (crs given).result := by
  induction given with
  | geodetic given => exact geodetic_olderPart given
  | derivedGeodetic given => rfl
  | projected given => exact projected_olderPart given
  | vertical given => exact vertical_olderPart given
  | compound name components common ih =>
    have inside : components.mapM (fun component => (crs component.olderPart).result) =
        components.mapM fun component => (crs component).result := mapM_congr ih
    simp [crs, Crs.olderPart, Crs.olderParts_eq_map, crsList_eq_mapM, inside]
  | bound source target transformation => rfl
  | unsupported typeName => rfl

end Wkt1

end CrsText
