import CrsText.Wkt2.Metadata

/-! Datums, ensembles and coordinate systems in the dialect of 2019.
-/

set_option autoImplicit false

namespace CrsText

namespace Wkt2

/-- The axes of an ellipsoid are lengths, whatever the types of their units say. -/
def ellipsoid (ellipsoid : Ellipsoid) : Except Failure Item := do
  let (semiMajor, inverseFlattening) ← ellipsoid.figure
  return .named "ELLIPSOID" ellipsoid.name
    ([.token (Token.rounded semiMajor.value), .token (Token.rounded inverseFlattening),
      unitNode UnitKind.linear.keyword semiMajor.unit] ++ metadata ellipsoid.metadata)

def primeMeridian (meridian : PrimeMeridian) : Except Failure Item := do
  return .named "PRIMEM" meridian.name
    ((← longitude meridian.longitude) ++ metadata meridian.metadata)

def optionalPrimeMeridian : Option PrimeMeridian → Except Failure (List Item)
  | none => .ok []
  | some given => do return [← primeMeridian given]

/-- The node in front of a dynamic datum. -/
def frameEpoch (isDynamic : Bool) (epoch : Option Float) (datum : String) :
    Except Failure (List Item) :=
  match isDynamic, epoch with
  | false, _ => .ok []
  | true, some epoch => .ok [.node "DYNAMIC" [.node "FRAMEEPOCH" [.token (Token.copied epoch)]]]
  | true, none => .error (.missing (.epoch datum))

def geodeticDatum (datum : GeodeticDatum) : Except Failure (List Item) := do
  let dynamic ← frameEpoch datum.isDynamic datum.referenceEpoch datum.name
  let figure ← ellipsoid (← Ellipsoid.require datum.name datum.ellipsoid)
  let meridian ← optionalPrimeMeridian datum.primeMeridian
  return dynamic ++ .named "DATUM" datum.name (figure :: metadata datum.metadata) :: meridian

def verticalDatum (datum : VerticalDatum) : Except Failure (List Item) := do
  let dynamic ← frameEpoch datum.isDynamic datum.referenceEpoch datum.name
  return dynamic ++ [.named "VDATUM" datum.name (metadata datum.metadata)]

def ensembleMember (member : EnsembleMember) : Item :=
  .named "MEMBER" member.name (metadata member.metadata)

def ensembleNode (ensemble : DatumEnsemble) (figure : List Item) : Item :=
  .named "ENSEMBLE" ensemble.name
    (ensemble.members.map ensembleMember ++ figure ++
      ensemble.accuracy.toList.map (fun accuracy => .node "ENSEMBLEACCURACY" [.token accuracy]) ++
      metadata ensemble.metadata)

def geodeticEnsemble (ensemble : DatumEnsemble) : Except Failure Item := do
  let figure ← ellipsoid (← Ellipsoid.require ensemble.name ensemble.ellipsoid)
  return ensembleNode ensemble [figure]

def geodeticReference : Reference GeodeticDatum → Except Failure (List Item)
  | .datum datum => geodeticDatum datum
  | .ensemble ensemble => do return [← geodeticEnsemble ensemble]

/-- An ellipsoid has no meaning for heights and is left out. -/
def verticalReference : Reference VerticalDatum → Except Failure (List Item)
  | .datum datum => verticalDatum datum
  | .ensemble ensemble => .ok [ensembleNode ensemble []]

def meridian (meridian : Meridian) : Except Failure Item := do
  return .node "MERIDIAN" ((← longitude meridian.longitude) ++ metadata meridian.metadata)

def optionalMeridian : Option Meridian → Except Failure (List Item)
  | none => .ok []
  | some given => do return [← meridian given]

def axis (axis : Axis) : Except Failure Item := do
  let along ← optionalMeridian axis.meridian
  let unit ← optionalUnit axis.unit
  return .named "AXIS" (Dialect.wkt2.axisLabel axis.name axis.abbreviation)
    (.token (Dialect.wkt2.axisDirection axis.direction) :: along ++ unit)

/-- The axes follow the node that counts them, one level deeper. -/
def coordinateSystem (system : CoordinateSystem) : Except Failure (List Item) := do
  if system.axes.isEmpty then throw (.missing (.axis system.subtype))
  let axes ← system.axes.mapM axis
  return [.node "CS" [.token system.subtype, .token (Token.integer system.axes.length)],
    .group axes]

end Wkt2

end CrsText
