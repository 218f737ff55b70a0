import CrsText.Definition.Crs
import CrsText.Dialect

/-! What a system has to say so that it can be written in a dialect, stated on the definition alone.
-/

set_option autoImplicit false

namespace CrsText

/-- The name and the factor of a unit: a bare name has to be a known one, a unit object has to give
its factor. -/
inductive MeasureUnit.Means : MeasureUnit → String → Float → Prop where
  | known (unit : KnownUnit) : Means (.named unit.name) unit.name unit.factor
  | defined {definition : UnitDefinition} {factor : Float} : definition.factor = some factor →
      Means (.defined definition) definition.name factor

def MeasureUnit.Resolvable (unit : MeasureUnit) : Prop := ∃ name factor, unit.Means name factor

def MeasureUnit.Typed (unit : MeasureUnit) : Prop :=
  unit.Resolvable ∧ ∀ definition, unit = .defined definition →
    ∃ kind : UnitKind, definition.typeTag = some kind.tag

def Measure.Means (implied : KnownUnit) (measure : Measure) (name : String) (factor : Float) : Prop :=
  match measure.unit with
  | some unit => unit.Means name factor
  | none => name = implied.name ∧ factor = implied.factor

def Measure.Resolvable (measure : Measure) : Prop := ∀ unit ∈ measure.unit, unit.Resolvable

def Ellipsoid.HasFigure (ellipsoid : Ellipsoid) (factor : Float) : Prop :=
  ∃ name, ellipsoid.semiMajorAxis.Means .metre name factor ∧
    (ellipsoid.inverseFlattening.isSome ∨
      ∃ axis ∈ ellipsoid.semiMinorAxis, ∃ other, axis.Means .metre name other ∧ factor == other)

/-- The older dialect has ellipsoids in metres only. -/
def Ellipsoid.Convertible (dialect : Dialect) (ellipsoid : Ellipsoid) : Prop :=
  ∃ factor, ellipsoid.HasFigure factor ∧ (dialect = .wkt1 → factor == 1)

/-- Exactly one of a datum and an ensemble is given, with the property. -/
def Reference.Only {δ : Type} (datum : Option δ) (ensemble : Option DatumEnsemble)
    (property : Reference δ → Prop) : Prop :=
  (∃ single, datum = some single ∧ ensemble = none ∧ property (.datum single)) ∨
    ∃ several, datum = none ∧ ensemble = some several ∧ property (.ensemble several)

namespace Dialect

variable (dialect : Dialect)

/-- The newer dialect writes an epoch for every dynamic datum. -/
def HasEpoch (isDynamic : Bool) (epoch : Option Float) : Prop :=
  dialect = .wkt2 → isDynamic → epoch.isSome

def AcceptsGeodetic : Reference GeodeticDatum → Prop
  | .datum datum =>
    dialect.HasEpoch datum.isDynamic datum.referenceEpoch ∧
      (∃ figure ∈ datum.ellipsoid, figure.Convertible dialect) ∧
      ∀ meridian ∈ datum.primeMeridian, meridian.longitude.Resolvable
  | .ensemble ensemble => ∃ figure ∈ ensemble.ellipsoid, figure.Convertible dialect

def AcceptsVertical : Reference VerticalDatum → Prop
  | .datum datum => dialect.HasEpoch datum.isDynamic datum.referenceEpoch
  | .ensemble _ => True

end Dialect

/-- Of the axes the older dialect reads the unit of the first one only, the newer one all units and
meridians. -/
def CoordinateSystem.Convertible (system : CoordinateSystem) : Dialect → Prop
  | .wkt1 => ∃ first ∈ system.axes.head?, ∀ unit ∈ first.unit, unit.Resolvable
  | .wkt2 => system.axes ≠ [] ∧ ∀ axis ∈ system.axes,
      (∀ unit ∈ axis.unit, unit.Typed) ∧ ∀ meridian ∈ axis.meridian, meridian.longitude.Resolvable

/-- The older dialect drops the units of parameters. -/
def Operation.Convertible (operation : Operation) (dialect : Dialect) : Prop :=
  dialect = .wkt2 → ∀ parameter ∈ operation.parameters, ∀ value, parameter.value = .number value →
    ∀ unit ∈ parameter.unit, unit.Typed

/-- The coordinate system of a base is written in the older dialect only. -/
def GeodeticCrs.ConvertibleBase (crs : GeodeticCrs) (dialect : Dialect) : Prop :=
  Reference.Only crs.datum crs.ensemble dialect.AcceptsGeodetic ∧
    (dialect = .wkt1 → ∀ system ∈ crs.coordinateSystem, system.Convertible dialect)

mutual

def Crs.Convertible (dialect : Dialect) : Crs → Prop
  | .geodetic crs =>
    Reference.Only crs.datum crs.ensemble dialect.AcceptsGeodetic ∧
      ∃ system ∈ crs.coordinateSystem, system.Convertible dialect
  | .derivedGeodetic crs =>
    dialect = .wkt2 ∧ crs.base.ConvertibleBase dialect ∧ crs.conversion.Convertible dialect ∧
      crs.coordinateSystem.Convertible dialect
  | .projected crs =>
    crs.base.ConvertibleBase dialect ∧ crs.conversion.Convertible dialect ∧
      crs.coordinateSystem.Convertible dialect
  | .vertical crs =>
    Reference.Only crs.datum crs.ensemble dialect.AcceptsVertical ∧
      crs.coordinateSystem.Convertible dialect
  | .compound _ components _ => Crs.AllConvertible dialect components
  | .bound source target transformation =>
    dialect = .wkt2 ∧ source.Convertible dialect ∧ target.Convertible dialect ∧
      transformation.Convertible dialect
  | .unsupported _ => False

def Crs.AllConvertible (dialect : Dialect) : List Crs → Prop
  | [] => True
  | first :: rest => first.Convertible dialect ∧ Crs.AllConvertible dialect rest

end

theorem Crs.allConvertible_iff {dialect : Dialect} {components : List Crs} :
    AllConvertible dialect components ↔ ∀ component ∈ components, component.Convertible dialect := by
  induction components with
  | nil => simp [AllConvertible]
  | cons first rest ih => simp [AllConvertible, ih]

end CrsText
