import CrsText.Definition.Geodetic
import CrsText.Text.LowerCase

/-! What the dialects spell differently: keywords that both have, names of axes and directions.
-/

set_option autoImplicit false

namespace CrsText

/-- The keyword of a unit in the dialect that tells kinds of units apart. -/
def UnitKind.keyword : UnitKind → String
  | .angular => "ANGLEUNIT"
  | .linear => "LENGTHUNIT"
  | .scale => "SCALEUNIT"
  | .time => "TIMEUNIT"
  | .parametric => "PARAMETRICUNIT"
  | .generic => "UNIT"

/-- The kind that a tag stands for; a unit without a tag has none. -/
def UnitKind.ofTag : Option String → Except Failure UnitKind
  | none => .error (.unknownUnitType none)
  | some tag =>
    match ofTag? tag with
    | some kind => .ok kind
    | none => .error (.unknownUnitType tag)

/-- The directions that the older dialect knows. -/
def knownDirections : List String := ["EAST", "NORTH", "WEST", "SOUTH", "UP", "DOWN"]

def otherDirection : String := "OTHER"

/-- A direction in capitals, if the older dialect knows it. -/
def capitalDirection (direction : String) : String :=
  match Text.asciiUpperCase? direction.toList with
  | some capitals =>
    if knownDirections.contains (String.ofList capitals) then String.ofList capitals
    else otherDirection
  | none => otherDirection

namespace Dialect

def unitKeyword : Dialect → Option String → Except Failure String
  | .wkt1, _ => .ok "UNIT"
  | .wkt2, tag => do return (← UnitKind.ofTag tag).keyword

def geodeticKeyword : Dialect → GeodeticKind → String
  | .wkt1, .geographic => "GEOGCS"
  | .wkt1, .geodetic => "GEOCCS"
  | .wkt2, .geographic => "GEOGCRS"
  | .wkt2, .geodetic => "GEODCRS"

/-- The keyword of the system that another one is derived from. -/
def baseKeyword : Dialect → GeodeticKind → String
  | .wkt1, .geographic => "GEOGCS"
  | .wkt1, .geodetic => "GEOCCS"
  | .wkt2, .geographic => "BASEGEOGCRS"
  | .wkt2, .geodetic => "BASEGEODCRS"

/-- The name of an axis with its abbreviation. -/
def axisLabel (dialect : Dialect) (name abbreviation : String) : String :=
  let name := match dialect with
    | .wkt1 => name
    | .wkt2 => String.ofList (Text.lowerCaseFirst name.toList)
  name ++ " (" ++ abbreviation ++ ")"

def axisDirection : Dialect → String → String
  | .wkt1, direction => capitalDirection direction
  | .wkt2, direction => direction

end Dialect

end CrsText
