import CrsText.Definition.Crs
import CrsText.Wkt2.Reference

/-! Operations and whole systems in the dialect of 2019. It has a form for every type of system that
can be read.
-/

set_option autoImplicit false

namespace CrsText

namespace Wkt2

def method (method : Method) : Item := .named "METHOD" method.name (metadata method.metadata)

def parameter (parameter : Parameter) : Except Failure Item :=
  match parameter.value with
  | .file name =>
    .ok (.named "PARAMETERFILE" parameter.name (.text name :: metadata parameter.metadata))
  | .number value => do
    let unit ← optionalUnit parameter.unit
    return .named "PARAMETER" parameter.name
      (.token (Token.rounded value) :: unit ++ metadata parameter.metadata)

def operation (keyword : String) (operation : Operation) : Except Failure Item := do
  let parameters ← operation.parameters.mapM parameter
  return .named keyword operation.name
    (method operation.method :: parameters ++ metadata operation.metadata)

/-- The items of a system after its name: reference, coordinate system if any, metadata. -/
def geodeticItems (crs : GeodeticCrs) (system : Option CoordinateSystem) :
    Except Failure (List Item) := do
  let reference ← geodeticReference (← Reference.select crs.name crs.datum crs.ensemble)
  let system ← match system with
    | some system => coordinateSystem system
    | none => pure []
  return reference ++ system ++ metadata crs.metadata

def geodetic (crs : GeodeticCrs) : Except Failure Item :=
  match crs.coordinateSystem with
  | some system => do
    return .named (Dialect.wkt2.geodeticKeyword crs.kind) crs.name
      (← geodeticItems crs (some system))
  | none => .error (.missing (.coordinateSystem crs.name))

/-- A base leaves out its coordinate system. -/
def base (kind : GeodeticKind) (crs : GeodeticCrs) : Except Failure Item := do
  return .named (Dialect.wkt2.baseKeyword kind) crs.name (← geodeticItems crs none)

/-- A derived system is always written as a geodetic one; its base shows whether it is
geographic. -/
def derivedGeodetic (crs : DerivedGeodeticCrs) : Except Failure Item := do
  let base ← base crs.base.kind crs.base
  let conversion ← operation "DERIVINGCONVERSION" crs.conversion
  let system ← coordinateSystem crs.coordinateSystem
  return .named (Dialect.wkt2.geodeticKeyword .geodetic) crs.name
    (base :: conversion :: system ++ metadata crs.metadata)

def projected (crs : ProjectedCrs) : Except Failure Item := do
  let base ← base crs.baseKind crs.base
  let conversion ← operation "CONVERSION" crs.conversion
  let system ← coordinateSystem crs.coordinateSystem
  return .named "PROJCRS" crs.name (base :: conversion :: system ++ metadata crs.metadata)

def vertical (crs : VerticalCrs) : Except Failure Item := do
  let reference ← verticalReference (← Reference.select crs.name crs.datum crs.ensemble)
  let system ← coordinateSystem crs.coordinateSystem
  return .named "VERTCRS" crs.name (reference ++ system ++ metadata crs.metadata)

mutual

def crs : Crs → Except Failure Item
  | .geodetic crs => geodetic crs
  | .derivedGeodetic crs => derivedGeodetic crs
  | .projected crs => projected crs
  | .vertical crs => vertical crs
  | .compound name components common => do
    return .named "COMPOUNDCRS" name ((← crsList components) ++ metadata common)
  | .bound source target transformation => do
    let source ← crs source
    let target ← crs target
    let transformation ← operation "ABRIDGEDTRANSFORMATION" transformation
    return .node "BOUNDCRS"
      [.node "SOURCECRS" [source], .node "TARGETCRS" [target], transformation]
  | .unsupported typeName => .error (.unsupportedType typeName)

def crsList : List Crs → Except Failure (List Item)
  | [] => .ok []
  | first :: rest => do
    let item ← crs first
    return item :: (← crsList rest)

end

end Wkt2

end CrsText
