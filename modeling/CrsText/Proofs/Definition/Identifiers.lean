import CrsText.Dialect
import CrsText.Proofs.Definition.Metadata
import CrsText.Proofs.Definition.Objects
import CrsText.Proofs.Definition.Resolution

/-! The identifiers that are written for a system, in the order of the text. The older dialect drops lists
of identifiers, and with them those of everything that it has no form for.
-/

set_option autoImplicit false

namespace CrsText

/-- Of an object the older dialect keeps the own identifier only. -/
def Metadata.kept (metadata : Metadata) : Dialect → List Identifier
  | .wkt1 => metadata.identifier.toList
  | .wkt2 => metadata.identifiersInForce

def MeasureUnit.identifiers (unit : MeasureUnit) (dialect : Dialect) : List Identifier :=
  unit.metadata.kept dialect

/-- The older dialect writes a value without its unit. -/
def Measure.identifiers (measure : Measure) : Dialect → List Identifier
  | .wkt1 => []
  | .wkt2 => measure.unit.toList.flatMap (·.identifiers .wkt2)

def Ellipsoid.identifiers (ellipsoid : Ellipsoid) (dialect : Dialect) : List Identifier :=
  ellipsoid.semiMajorAxis.identifiers dialect ++ ellipsoid.metadata.kept dialect

def PrimeMeridian.identifiers (meridian : PrimeMeridian) (dialect : Dialect) : List Identifier :=
  meridian.longitude.identifiers dialect ++ meridian.metadata.kept dialect

def Meridian.identifiers (meridian : Meridian) (dialect : Dialect) : List Identifier :=
  meridian.longitude.identifiers dialect ++ meridian.metadata.kept dialect

def GeodeticDatum.identifiers (datum : GeodeticDatum) (dialect : Dialect) : List Identifier :=
  datum.ellipsoid.toList.flatMap (·.identifiers dialect) ++ datum.metadata.kept dialect ++
    datum.primeMeridian.toList.flatMap (·.identifiers dialect)

/-- The older dialect has a single datum for an ensemble. -/
def DatumEnsemble.memberIdentifiers (ensemble : DatumEnsemble) : Dialect → List Identifier
  | .wkt1 => []
  | .wkt2 => ensemble.members.flatMap (·.metadata.kept .wkt2)

/-- An ensemble that is written with its ellipsoid, as the reference of a geodetic system. -/
def DatumEnsemble.geodeticIdentifiers (ensemble : DatumEnsemble) (dialect : Dialect) :
    List Identifier :=
  ensemble.memberIdentifiers dialect ++ ensemble.ellipsoid.toList.flatMap (·.identifiers dialect) ++
    ensemble.metadata.kept dialect

def DatumEnsemble.verticalIdentifiers (ensemble : DatumEnsemble) (dialect : Dialect) :
    List Identifier :=
  ensemble.memberIdentifiers dialect ++ ensemble.metadata.kept dialect

def Axis.identifiers (axis : Axis) (dialect : Dialect) : List Identifier :=
  axis.meridian.toList.flatMap (·.identifiers dialect) ++
    axis.unit.toList.flatMap (·.identifiers dialect)

/-- The older dialect writes no unit but that of the first axis. -/
def CoordinateSystem.identifiers (system : CoordinateSystem) : Dialect → List Identifier
  | .wkt1 => (system.axes.head?.bind (·.unit)).toList.flatMap (·.identifiers .wkt1)
  | .wkt2 => system.axes.flatMap (·.identifiers .wkt2)

/-- In the older dialect only a parameter with a file has an identifier. -/
def Parameter.identifiers (parameter : Parameter) (dialect : Dialect) : List Identifier :=
  match dialect, parameter.value with
  | .wkt1, .number _ => []
  | .wkt2, .number _ =>
    parameter.unit.toList.flatMap (·.identifiers .wkt2) ++ parameter.metadata.kept .wkt2
  | _, .file _ => parameter.metadata.kept dialect

def Operation.identifiers (operation : Operation) : Dialect → List Identifier
  | .wkt1 => operation.parameters.flatMap (·.identifiers .wkt1)
  | .wkt2 => operation.method.metadata.kept .wkt2 ++
      operation.parameters.flatMap (·.identifiers .wkt2) ++ operation.metadata.kept .wkt2

def GeodeticCrs.referenceIdentifiers (crs : GeodeticCrs) (dialect : Dialect) : List Identifier :=
  crs.datum.toList.flatMap (·.identifiers dialect) ++
    crs.ensemble.toList.flatMap (·.geodeticIdentifiers dialect)

def GeodeticCrs.identifiers (crs : GeodeticCrs) (dialect : Dialect) : List Identifier :=
  crs.referenceIdentifiers dialect ++ crs.coordinateSystem.toList.flatMap (·.identifiers dialect) ++
    crs.metadata.kept dialect

/-- The newer dialect leaves out the coordinate system of a base. -/
def GeodeticCrs.baseIdentifiers (crs : GeodeticCrs) : Dialect → List Identifier
  | .wkt1 => crs.identifiers .wkt1
  | .wkt2 => crs.referenceIdentifiers .wkt2 ++ crs.metadata.kept .wkt2

def DerivedGeodeticCrs.identifiers (crs : DerivedGeodeticCrs) (dialect : Dialect) :
    List Identifier :=
  crs.base.baseIdentifiers dialect ++ crs.conversion.identifiers dialect ++
    crs.coordinateSystem.identifiers dialect ++ crs.metadata.kept dialect

def ProjectedCrs.identifiers (crs : ProjectedCrs) (dialect : Dialect) : List Identifier :=
  crs.base.baseIdentifiers dialect ++ crs.conversion.identifiers dialect ++
    crs.coordinateSystem.identifiers dialect ++ crs.metadata.kept dialect

def VerticalCrs.identifiers (crs : VerticalCrs) (dialect : Dialect) : List Identifier :=
  crs.datum.toList.flatMap (·.metadata.kept dialect) ++
    crs.ensemble.toList.flatMap (·.verticalIdentifiers dialect) ++
    crs.coordinateSystem.identifiers dialect ++ crs.metadata.kept dialect

namespace Crs

mutual

def identifiers (dialect : Dialect) : Crs → List Identifier
  | .geodetic crs => crs.identifiers dialect
  | .derivedGeodetic crs => crs.identifiers dialect
  | .projected crs => crs.identifiers dialect
  | .vertical crs => crs.identifiers dialect
  | .compound _ components metadata => identifiersOfAll dialect components ++ metadata.kept dialect
  | .bound source target transformation =>
    identifiers dialect source ++ identifiers dialect target ++ transformation.identifiers dialect
  | .unsupported _ => []

def identifiersOfAll (dialect : Dialect) : List Crs → List Identifier
  | [] => []
  | first :: rest => identifiers dialect first ++ identifiersOfAll dialect rest

end

theorem identifiersOfAll_eq_flatMap (dialect : Dialect) (components : List Crs) :
    identifiersOfAll dialect components = components.flatMap (identifiers dialect) := by
  induction components with
  | nil => rfl
  | cons first rest ih => rw [identifiersOfAll, ih, List.flatMap_cons]

end Crs

/-- What is looked up for a unit keeps the metadata that is written for it. -/
theorem MeasureUnit.metadata_of_resolve {unit : MeasureUnit} {resolved : ResolvedUnit}
    (found : unit.resolve = .ok resolved) : resolved.metadata.getD .empty = unit.metadata := by
  rcases resolve_cases found with ⟨known, rfl, rfl⟩ | ⟨definition, factor, rfl, -, rfl⟩
  · rfl
  · rfl

end CrsText
