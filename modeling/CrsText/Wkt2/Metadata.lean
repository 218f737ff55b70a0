import CrsText.Wkt.Item
import CrsText.Wkt.Vocabulary

/-! Metadata, units and longitudes in the dialect of 2019. All metadata is written: usages first,
then identifiers, then remarks.
-/

set_option autoImplicit false

namespace CrsText

namespace Wkt2

def boundingBox (box : BoundingBox) : Item :=
  .node "BBOX"
    [.token (Token.rounded box.south), .token (Token.rounded box.west),
      .token (Token.rounded box.north), .token (Token.rounded box.east)]

def usage (usage : Usage) : Item :=
  .node "USAGE"
    (usage.scope.toList.map (fun scope => .node "SCOPE" [.text scope]) ++
      usage.area.toList.map (fun area => .node "AREA" [.text area]) ++
      usage.boundingBox.toList.map boundingBox)

/-- A number stands as it is, and a text between quotes. -/
def code (code : Code) : Item :=
  if code.isNumeric then .token code.spelling else .text code.spelling

def identifier (identifier : Identifier) : Item :=
  .named "ID" identifier.authority [code identifier.code]

def remark (remarks : String) : Item := .node "REMARK" [.text remarks]

def metadata (metadata : Metadata) : List Item :=
  metadata.effectiveUsages.map usage ++ metadata.effectiveIdentifiers.map identifier ++
    metadata.remarks.toList.map remark

def unitNode (keyword : String) (unit : ResolvedUnit) : Item :=
  .named keyword unit.name (.token (Token.rounded unit.factor) :: unit.metadata.elim [] metadata)

/-- A unit under the keyword of its kind. -/
def unit (unit : MeasureUnit) : Except Failure Item := do
  let resolved ← unit.resolve
  return unitNode (← Dialect.wkt2.unitKeyword resolved.typeTag) resolved

def optionalUnit : Option MeasureUnit → Except Failure (List Item)
  | none => .ok []
  | some given => do return [← unit given]

/-- A longitude is an angle, whatever the type of its unit says. -/
def longitude (measure : Measure) : Except Failure (List Item) := do
  let quantity ← measure.inUnit .degree
  return [.token (Token.rounded quantity.value), unitNode UnitKind.angular.keyword quantity.unit]

end Wkt2

end CrsText
