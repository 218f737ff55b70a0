import CrsText.Definition.Geodetic

/-! Coordinate reference systems. A system is read by the type that it is tagged with; an unknown
type is kept, so that a conversion can report it.
-/

set_option autoImplicit false

namespace CrsText

structure VerticalCrs where
  name : String
  datum : Option VerticalDatum
  ensemble : Option DatumEnsemble
  coordinateSystem : CoordinateSystem
  metadata : Metadata
  deriving Inhabited

namespace VerticalCrs

def record : Record (Metadata → VerticalCrs) :=
  Record.build VerticalCrs.mk
    |>.required "name" Reader.string
    |>.optional "datum" VerticalDatum.ofJson
    |>.optional "datum_ensemble" DatumEnsemble.ofJson
    |>.required "coordinate_system" CoordinateSystem.ofJson

def ofJson : Reader VerticalCrs := record.describedReader "VerticalCrs"

end VerticalCrs

/-- A coordinate reference system. -/
inductive Crs where
  | geodetic (crs : GeodeticCrs)
  | derivedGeodetic (crs : DerivedGeodeticCrs)
  | projected (crs : ProjectedCrs)
  | vertical (crs : VerticalCrs)
  | compound (name : String) (components : List Crs) (metadata : Metadata)
  | bound (source target : Crs) (transformation : Operation)
  | unsupported (typeName : String)
  deriving Inhabited

/-- The types of systems that can be read. -/
inductive CrsType where
  | geodetic (kind : GeodeticKind)
  | derivedGeodetic (kind : GeodeticKind)
  | projected
  | vertical
  | compound
  | bound
  deriving DecidableEq, Repr

namespace CrsType

def tag : CrsType → String
  | .geodetic kind => kind.tag
  | .derivedGeodetic kind => kind.derivedTag
  | .projected => "ProjectedCRS"
  | .vertical => "VerticalCRS"
  | .compound => "CompoundCRS"
  | .bound => "BoundCRS"

def all : List CrsType :=
  [.geodetic .geographic, .geodetic .geodetic, .derivedGeodetic .geographic,
    .derivedGeodetic .geodetic, .projected, .vertical, .compound, .bound]

def ofTag? (tag : String) : Option CrsType := all.find? (·.tag == tag)

end CrsType

namespace Crs

def typeName : Crs → String
  | .geodetic crs => crs.kind.tag
  | .derivedGeodetic crs => crs.kind.derivedTag
  | .projected _ => CrsType.projected.tag
  | .vertical _ => CrsType.vertical.tag
  | .compound _ _ _ => CrsType.compound.tag
  | .bound _ _ _ => CrsType.bound.tag
  | .unsupported typeName => typeName

/-- The type that a value is tagged with, as text if it is no string and empty if there is none. -/
def typeNameOfJson (value : Json) : String :=
  match value.get? "type" with
  | some (.string name) => name
  | some other => other.compact
  | none => ""

def compoundRecord (component : Reader Crs) : Record (Metadata → Crs) :=
  Record.build Crs.compound
    |>.required "name" Reader.string
    |>.required "components" (Reader.list component)

def compoundOfJson (component : Reader Crs) : Reader Crs :=
  (compoundRecord component).describedReader "CompoundCrs"

def boundRecord (part : Reader Crs) : Record Crs :=
  Record.build Crs.bound
    |>.required "source_crs" part
    |>.required "target_crs" part
    |>.required "transformation" Operation.transformationOfJson

def boundOfJson (part : Reader Crs) : Reader Crs := (boundRecord part).reader "BoundCrs"

/-- Reads a value of at most the given depth; every system within another one is less deep. -/
def ofJsonWithin : Nat → Reader Crs
  | 0, value => .ok (.unsupported (typeNameOfJson value))
  | depth + 1, value =>
    match CrsType.ofTag? (typeNameOfJson value) with
    | some (.geodetic _) => do return .geodetic (← GeodeticCrs.ofJson value)
    | some (.derivedGeodetic _) => do return .derivedGeodetic (← DerivedGeodeticCrs.ofJson value)
    | some .projected => do return .projected (← ProjectedCrs.ofJson value)
    | some .vertical => do return .vertical (← VerticalCrs.ofJson value)
    | some .compound => compoundOfJson (ofJsonWithin depth) value
    | some .bound => boundOfJson (ofJsonWithin depth) value
    | none => .ok (.unsupported (typeNameOfJson value))

def ofJson : Reader Crs := fun value => ofJsonWithin value.depth value

end Crs

end CrsText
