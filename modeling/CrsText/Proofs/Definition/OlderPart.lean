import CrsText.Definition.Crs

/-! The part of a system that bears on its text in the older dialect. Everything else is replaced by
nothing, or by a fixed value where a system cannot do without one.
-/

set_option autoImplicit false

namespace CrsText

def Metadata.olderPart (metadata : Metadata) : Metadata := { identifier := metadata.identifier }

namespace UnitDefinition

/-- A unit that is written on its own keeps its identifier. -/
def olderPart (definition : UnitDefinition) : UnitDefinition :=
  ⟨none, definition.name, definition.factor, definition.metadata.olderPart⟩

/-- The unit of a measure is only looked up. -/
def measurePart (definition : UnitDefinition) : UnitDefinition :=
  ⟨none, definition.name, definition.factor, .empty⟩

end UnitDefinition

namespace MeasureUnit

def mapDefinition (change : UnitDefinition → UnitDefinition) : MeasureUnit → MeasureUnit
  | .named name => .named name
  | .defined definition => .defined (change definition)

def olderPart (unit : MeasureUnit) : MeasureUnit := unit.mapDefinition UnitDefinition.olderPart

def measurePart (unit : MeasureUnit) : MeasureUnit := unit.mapDefinition UnitDefinition.measurePart

end MeasureUnit

def Measure.olderPart (measure : Measure) : Measure :=
  ⟨measure.value, measure.unit.map MeasureUnit.measurePart⟩

def Ellipsoid.olderPart (ellipsoid : Ellipsoid) : Ellipsoid :=
  ⟨ellipsoid.name, ellipsoid.semiMajorAxis.olderPart,
    ellipsoid.semiMinorAxis.map Measure.olderPart, ellipsoid.inverseFlattening,
    ellipsoid.metadata.olderPart⟩

def PrimeMeridian.olderPart (meridian : PrimeMeridian) : PrimeMeridian :=
  ⟨meridian.name, meridian.longitude.olderPart, meridian.metadata.olderPart⟩

def GeodeticDatum.olderPart (datum : GeodeticDatum) : GeodeticDatum :=
  ⟨none, datum.name, datum.ellipsoid.map Ellipsoid.olderPart,
    datum.primeMeridian.map PrimeMeridian.olderPart, none, datum.metadata.olderPart⟩

def VerticalDatum.olderPart (datum : VerticalDatum) : VerticalDatum :=
  ⟨none, datum.name, none, datum.metadata.olderPart⟩

def DatumEnsemble.olderPart (ensemble : DatumEnsemble) : DatumEnsemble :=
  ⟨ensemble.name, [], ensemble.ellipsoid.map Ellipsoid.olderPart, none, ensemble.metadata.olderPart⟩

def Axis.olderPart (axis : Axis) : Axis :=
  ⟨axis.name, axis.abbreviation, axis.direction, axis.unit.map MeasureUnit.olderPart, none⟩

def Axis.unitless (axis : Axis) : Axis := { axis.olderPart with unit := none }

/-- Only the first axis keeps its unit. -/
def CoordinateSystem.olderPart (system : CoordinateSystem) : CoordinateSystem where
  subtype := system.subtype
  axes := match system.axes with
    | [] => []
    | first :: rest => first.olderPart :: rest.map Axis.unitless

def Method.olderPart (method : Method) : Method := ⟨method.name, .empty⟩

/-- A number stands without its unit; a file keeps its identifier. -/
def Parameter.olderPart (parameter : Parameter) : Parameter where
  name := parameter.name
  value := parameter.value
  unit := none
  metadata := match parameter.value with
    | .number _ => .empty
    | .file _ => parameter.metadata.olderPart

def Operation.olderPart (operation : Operation) : Operation :=
  ⟨"", operation.method.olderPart, operation.parameters.map Parameter.olderPart, .empty⟩

def GeodeticCrs.olderPart (crs : GeodeticCrs) : GeodeticCrs :=
  ⟨crs.kind, crs.name, crs.datum.map GeodeticDatum.olderPart,
    crs.ensemble.map DatumEnsemble.olderPart, crs.coordinateSystem.map CoordinateSystem.olderPart,
    crs.metadata.olderPart⟩

def DerivedGeodeticCrs.olderPart (crs : DerivedGeodeticCrs) : DerivedGeodeticCrs :=
  { (default : DerivedGeodeticCrs) with kind := crs.kind }

def ProjectedCrs.olderPart (crs : ProjectedCrs) : ProjectedCrs :=
  ⟨crs.name, crs.base.olderPart, crs.conversion.olderPart, crs.coordinateSystem.olderPart,
    crs.metadata.olderPart⟩

def VerticalCrs.olderPart (crs : VerticalCrs) : VerticalCrs :=
  ⟨crs.name, crs.datum.map VerticalDatum.olderPart, crs.ensemble.map DatumEnsemble.olderPart,
    crs.coordinateSystem.olderPart, crs.metadata.olderPart⟩

mutual

/-- What the older dialect sees of a system. Derived geodetic and bound systems, which it cannot
express, are all alike but for their types. -/
def Crs.olderPart : Crs → Crs
  | .geodetic crs => .geodetic crs.olderPart
  | .derivedGeodetic crs => .derivedGeodetic crs.olderPart
  | .projected crs => .projected crs.olderPart
  | .vertical crs => .vertical crs.olderPart
  | .compound name components metadata =>
    .compound name (Crs.olderParts components) metadata.olderPart
  | .bound _ _ _ => .bound default default default
  | .unsupported typeName => .unsupported typeName

def Crs.olderParts : List Crs → List Crs
  | [] => []
  | first :: rest => first.olderPart :: Crs.olderParts rest

end

theorem Crs.olderParts_eq_map (components : List Crs) :
    olderParts components = components.map olderPart := by
  induction components with
  | nil => rfl
  | cons first rest ih => rw [olderParts, ih, List.map_cons]

end CrsText
