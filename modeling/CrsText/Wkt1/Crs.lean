import CrsText.Definition.Crs
import CrsText.Wkt1.Reference

/-! Operations and whole systems in the older dialect, which has neither derived geodetic nor bound
systems.
-/

set_option autoImplicit false

namespace CrsText

namespace Wkt1

/-- A number stands alone, in the unit of the system; a file keeps its identifier. -/
def parameter (parameter : Parameter) : Report Item :=
  match parameter.value with
  | .file name => do
    let common ← metadata parameter.metadata
    return .named "PARAMETERFILE" parameter.name (.text name :: common)
  | .number value => .ok (.named "PARAMETER" parameter.name [.token (Token.rounded value)])

/-- Of a conversion the method and its parameters are left, as items of the system. -/
def conversion (conversion : Operation) : Report (List Item) := do
  let parameters ← conversion.parameters.mapM parameter
  return .named "PROJECTION" conversion.method.name [] :: parameters

def optionalCoordinateSystem : Option CoordinateSystem → Report (List Item)
  | none => .ok []
  | some given => coordinateSystem given

def geodeticNode (keyword : String) (crs : GeodeticCrs) : Report Item := do
  let reference ← geodeticReference (← Reference.select crs.name crs.datum crs.ensemble)
  let system ← optionalCoordinateSystem crs.coordinateSystem
  let common ← metadata crs.metadata
  return .named keyword crs.name (reference ++ system ++ common)

/-- On its own a system needs a coordinate system, as a base it does not. -/
def geodetic (crs : GeodeticCrs) : Report Item :=
  if crs.coordinateSystem.isSome then geodeticNode (Dialect.wkt1.geodeticKeyword crs.kind) crs
  else .fail (.missing (.coordinateSystem crs.name))

def projected (crs : ProjectedCrs) : Report Item := do
  let base ← geodeticNode (Dialect.wkt1.baseKeyword crs.baseKind) crs.base
  let conversion ← conversion crs.conversion
  let system ← coordinateSystem crs.coordinateSystem
  let common ← metadata crs.metadata
  return .named "PROJCS" crs.name (base :: conversion ++ system ++ common)

def vertical (crs : VerticalCrs) : Report Item := do
  let reference ← verticalReference (← Reference.select crs.name crs.datum crs.ensemble)
  let system ← coordinateSystem crs.coordinateSystem
  let common ← metadata crs.metadata
  return .named "VERT_CS" crs.name (reference ++ system ++ common)

def notExpressible (typeName : String) : Report Item := .fail (.notInDialect typeName .wkt1)

mutual

def crs : Crs → Report Item
  | .geodetic crs => geodetic crs
  | .derivedGeodetic crs => notExpressible crs.kind.derivedTag
  | .projected crs => projected crs
  | .vertical crs => vertical crs
  | .compound name components common => do
    let components ← crsList components
    let common ← metadata common
    return .named "COMPD_CS" name (components ++ common)
  | .bound _ _ _ => notExpressible CrsType.bound.tag
  | .unsupported typeName => .fail (.unsupportedType typeName)

def crsList : List Crs → Report (List Item)
  | [] => .ok []
  | first :: rest => do
    let item ← crs first
    return item :: (← crsList rest)

end

end Wkt1

end CrsText
