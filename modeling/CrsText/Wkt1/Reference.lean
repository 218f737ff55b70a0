import CrsText.Text.Quoted
import CrsText.Wkt1.Metadata

/-! Datums and coordinate systems in the older dialect. An ensemble is written as a single datum,
and the first axis gives the unit of all axes.
-/

set_option autoImplicit false

namespace CrsText

namespace Wkt1

/-- The axes of an ellipsoid are in metres, since no unit is written for them. -/
def ellipsoid (ellipsoid : Ellipsoid) : Report Item := do
  let (semiMajor, inverseFlattening) ← ellipsoid.figure
  if semiMajor.unit.factor != 1 then
    Report.fail (.notInMetres semiMajor.unit.factor)
  else
    let common ← metadata ellipsoid.metadata
    return .named "SPHEROID" ellipsoid.name
      ([.token (Token.rounded semiMajor.value), .token (Token.rounded inverseFlattening)] ++ common)

def primeMeridian (meridian : PrimeMeridian) : Report Item := do
  let longitude ← meridian.longitude.inUnit .degree
  let common ← metadata meridian.metadata
  return .named "PRIMEM" meridian.name (.token (Token.rounded longitude.value) :: common)

/-- A datum node and the prime meridian after it, that of Greenwich if none is given. -/
def datumNode (name : String) (figure : Ellipsoid) (common : Metadata)
    (meridian : Option PrimeMeridian) : Report (List Item) := do
  let figure ← ellipsoid figure
  let common ← metadata common
  let meridian ← primeMeridian (meridian.getD .greenwich)
  return [.named "DATUM" name (figure :: common), meridian]

/-- The epoch of a dynamic datum cannot be written, not even if it is missing. -/
def dropEpoch (isDynamic : Bool) (datum : String) : Report PUnit :=
  noteIf isDynamic (.epochDropped datum)

def geodeticDatum (datum : GeodeticDatum) : Report (List Item) := do
  dropEpoch datum.isDynamic datum.name
  let figure ← Ellipsoid.require datum.name datum.ellipsoid
  datumNode datum.name figure datum.metadata datum.primeMeridian

/-- The word that tells the name of an ensemble from that of its datum. -/
def ensembleWord : String := " ensemble"

def datumName (ensemble : String) : String :=
  String.ofList (Text.eraseFirst ensembleWord.toList ensemble.toList)

def geodeticEnsemble (ensemble : DatumEnsemble) : Report (List Item) := do
  let figure ← Ellipsoid.require ensemble.name ensemble.ellipsoid
  Report.note (.ensembleCollapsed ensemble.name)
  datumNode (datumName ensemble.name) figure ensemble.metadata none

def geodeticReference : Reference GeodeticDatum → Report (List Item)
  | .datum datum => geodeticDatum datum
  | .ensemble ensemble => geodeticEnsemble ensemble

/-- The type of every vertical datum, orthometric or not. -/
def verticalDatumType : String := "2005"

def verticalNode (name : String) (common : Metadata) : Report (List Item) := do
  let common ← metadata common
  return [.named "VERT_DATUM" name (.token verticalDatumType :: common)]

/-- Here an ensemble keeps its whole name. -/
def verticalReference : Reference VerticalDatum → Report (List Item)
  | .datum datum => do
    dropEpoch datum.isDynamic datum.name
    verticalNode datum.name datum.metadata
  | .ensemble ensemble => do
    Report.note (.ensembleCollapsed ensemble.name)
    verticalNode ensemble.name ensemble.metadata

def axis (axis : Axis) : Item :=
  .named "AXIS" (Dialect.wkt1.axisLabel axis.name axis.abbreviation)
    [.token (Dialect.wkt1.axisDirection axis.direction)]

def axisUnit : Option MeasureUnit → Report (List Item)
  | none => .ok []
  | some given => do return [← unit given]

def coordinateSystem (system : CoordinateSystem) : Report (List Item) :=
  match system.axes with
  | [] => .fail (.missing (.axis system.subtype))
  | first :: rest => do
    let unit ← axisUnit first.unit
    return unit ++ (first :: rest).map axis

end Wkt1

end CrsText
