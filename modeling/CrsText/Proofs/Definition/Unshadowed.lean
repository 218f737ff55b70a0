import CrsText.Definition.Crs
import CrsText.Proofs.Definition.Metadata
import CrsText.Proofs.Definition.OlderPart

/-! A system without what something else in it stands before, as far as the dialect of 2019 is
concerned: lists beside what is given inline, an axis beside the flattening, a type where the place
tells the kind, and what a base says about its own coordinates.
-/

set_option autoImplicit false

namespace CrsText

def Metadata.unshadowed (metadata : Metadata) : Metadata :=
  { metadata with
    usages := if metadata.GivesUsage then none else metadata.usages
    identifiers := if metadata.identifier.isSome then none else metadata.identifiers }

namespace UnitDefinition

/-- A unit that is written on its own keeps its type. -/
def unshadowed (definition : UnitDefinition) : UnitDefinition :=
  { definition with metadata := definition.metadata.unshadowed }

/-- The unit of a length or an angle has the type that its place implies. -/
def untyped (definition : UnitDefinition) : UnitDefinition :=
  { definition.unshadowed with typeTag := none }

end UnitDefinition

def MeasureUnit.unshadowed (unit : MeasureUnit) : MeasureUnit :=
  unit.mapDefinition UnitDefinition.unshadowed

def Measure.unshadowed (measure : Measure) : Measure :=
  ⟨measure.value, measure.unit.map (MeasureUnit.mapDefinition UnitDefinition.untyped)⟩

def Ellipsoid.unshadowed (ellipsoid : Ellipsoid) : Ellipsoid :=
  ⟨ellipsoid.name, ellipsoid.semiMajorAxis.unshadowed,
    if ellipsoid.inverseFlattening.isSome then none
      else ellipsoid.semiMinorAxis.map Measure.unshadowed,
    ellipsoid.inverseFlattening, ellipsoid.metadata.unshadowed⟩

def PrimeMeridian.unshadowed (meridian : PrimeMeridian) : PrimeMeridian :=
  ⟨meridian.name, meridian.longitude.unshadowed, meridian.metadata.unshadowed⟩

def GeodeticDatum.unshadowed (datum : GeodeticDatum) : GeodeticDatum :=
  ⟨if datum.isDynamic then datum.typeTag else none, datum.name,
    datum.ellipsoid.map Ellipsoid.unshadowed, datum.primeMeridian.map PrimeMeridian.unshadowed,
    if datum.isDynamic then datum.referenceEpoch else none, datum.metadata.unshadowed⟩

def VerticalDatum.unshadowed (datum : VerticalDatum) : VerticalDatum :=
  ⟨if datum.isDynamic then datum.typeTag else none, datum.name,
    if datum.isDynamic then datum.referenceEpoch else none, datum.metadata.unshadowed⟩

def EnsembleMember.unshadowed (member : EnsembleMember) : EnsembleMember :=
  ⟨member.name, member.metadata.unshadowed⟩

def DatumEnsemble.unshadowed (ensemble : DatumEnsemble) : DatumEnsemble :=
  ⟨ensemble.name, ensemble.members.map EnsembleMember.unshadowed,
    ensemble.ellipsoid.map Ellipsoid.unshadowed, ensemble.accuracy, ensemble.metadata.unshadowed⟩

/-- For heights an ensemble needs no ellipsoid. -/
def DatumEnsemble.unshadowedHeights (ensemble : DatumEnsemble) : DatumEnsemble :=
  { ensemble.unshadowed with ellipsoid := none }

def Meridian.unshadowed (meridian : Meridian) : Meridian :=
  ⟨meridian.longitude.unshadowed, meridian.metadata.unshadowed⟩

def Axis.unshadowed (axis : Axis) : Axis :=
  ⟨axis.name, axis.abbreviation, axis.direction, axis.unit.map MeasureUnit.unshadowed,
    axis.meridian.map Meridian.unshadowed⟩

def CoordinateSystem.unshadowed (system : CoordinateSystem) : CoordinateSystem :=
  ⟨system.subtype, system.axes.map Axis.unshadowed⟩

def Method.unshadowed (method : Method) : Method := ⟨method.name, method.metadata.unshadowed⟩

def Parameter.unshadowed (parameter : Parameter) : Parameter where
  name := parameter.name
  value := parameter.value
  unit := match parameter.value with
    | .number _ => parameter.unit.map MeasureUnit.unshadowed
    | .file _ => none
  metadata := parameter.metadata.unshadowed

def Operation.unshadowed (operation : Operation) : Operation :=
  ⟨operation.name, operation.method.unshadowed, operation.parameters.map Parameter.unshadowed,
    operation.metadata.unshadowed⟩

def GeodeticCrs.unshadowed (crs : GeodeticCrs) : GeodeticCrs :=
  ⟨crs.kind, crs.name, crs.datum.map GeodeticDatum.unshadowed,
    crs.ensemble.map DatumEnsemble.unshadowed,
    crs.coordinateSystem.map CoordinateSystem.unshadowed, crs.metadata.unshadowed⟩

/-- As a base a system has no coordinate system, and the kind that it counts as. -/
def GeodeticCrs.unshadowedBase (kind : GeodeticKind) (crs : GeodeticCrs) : GeodeticCrs :=
  { crs.unshadowed with kind := kind, coordinateSystem := none }

/-- The kind is that of the base. -/
def DerivedGeodeticCrs.unshadowed (crs : DerivedGeodeticCrs) : DerivedGeodeticCrs :=
  ⟨.geodetic, crs.name, crs.base.unshadowedBase crs.base.kind, crs.conversion.unshadowed,
    crs.coordinateSystem.unshadowed, crs.metadata.unshadowed⟩

def ProjectedCrs.unshadowed (crs : ProjectedCrs) : ProjectedCrs :=
  ⟨crs.name, crs.base.unshadowedBase crs.baseKind, crs.conversion.unshadowed,
    crs.coordinateSystem.unshadowed, crs.metadata.unshadowed⟩

def VerticalCrs.unshadowed (crs : VerticalCrs) : VerticalCrs :=
  ⟨crs.name, crs.datum.map VerticalDatum.unshadowed,
    crs.ensemble.map DatumEnsemble.unshadowedHeights, crs.coordinateSystem.unshadowed,
    crs.metadata.unshadowed⟩

mutual

def Crs.unshadowed : Crs → Crs
  | .geodetic crs => .geodetic crs.unshadowed
  | .derivedGeodetic crs => .derivedGeodetic crs.unshadowed
  | .projected crs => .projected crs.unshadowed
  | .vertical crs => .vertical crs.unshadowed
  | .compound name components metadata =>
    .compound name (Crs.unshadowedAll components) metadata.unshadowed
  | .bound source target transformation =>
    .bound source.unshadowed target.unshadowed transformation.unshadowed
  | .unsupported typeName => .unsupported typeName

def Crs.unshadowedAll : List Crs → List Crs
  | [] => []
  | first :: rest => first.unshadowed :: Crs.unshadowedAll rest

end

theorem Crs.unshadowedAll_eq_map (components : List Crs) :
    unshadowedAll components = components.map unshadowed := by
  induction components with
  | nil => rfl
  | cons first rest ih => rw [unshadowedAll, ih, List.map_cons]

/-- What an object says in its own place is what counts, with or without the lists. -/
@[simp] theorem Metadata.effectiveUsages_unshadowed (metadata : Metadata) :
    metadata.unshadowed.effectiveUsages = metadata.effectiveUsages := by
  have own : metadata.unshadowed.GivesUsage ↔ metadata.GivesUsage := .rfl
  rw [effectiveUsages_eq, effectiveUsages_eq, usagesInForce, usagesInForce]
  by_cases given : metadata.GivesUsage
  · rw [if_pos given, if_pos (own.mpr given)]
    rfl
  · rw [if_neg given, if_neg (mt own.mp given), unshadowed, if_neg given]

@[simp] theorem Metadata.effectiveIdentifiers_unshadowed (metadata : Metadata) :
    metadata.unshadowed.effectiveIdentifiers = metadata.effectiveIdentifiers := by
  obtain ⟨usage, usages, identifier, identifiers, remarks⟩ := metadata
  cases identifier <;> rfl

@[simp] theorem GeodeticDatum.isDynamic_unshadowed (datum : GeodeticDatum) :
    datum.unshadowed.isDynamic = datum.isDynamic := by
  by_cases dynamic : datum.isDynamic
  · have tag : datum.unshadowed.typeTag = datum.typeTag := if_pos dynamic
    rw [isDynamic, tag, isDynamic]
  · simp only [unshadowed, dynamic]
    rfl

@[simp] theorem VerticalDatum.isDynamic_unshadowed (datum : VerticalDatum) :
    datum.unshadowed.isDynamic = datum.isDynamic := by
  by_cases dynamic : datum.isDynamic
  · have tag : datum.unshadowed.typeTag = datum.typeTag := if_pos dynamic
    rw [isDynamic, tag, isDynamic]
  · simp only [unshadowed, dynamic]
    rfl

/-- The base counts as what it did before. -/
@[simp] theorem ProjectedCrs.baseKind_unshadowed (crs : ProjectedCrs) :
    crs.unshadowed.baseKind = crs.baseKind := rfl

end CrsText
