import CrsText.Definition.Measure

/-! Axes and the coordinate systems that they make up, in the order of the coordinates.
-/

set_option autoImplicit false

namespace CrsText

/-- The meridian along which an axis at a pole points. -/
structure Meridian where
  longitude : Measure
  metadata : Metadata
  deriving Inhabited

namespace Meridian

def record : Record (Metadata → Meridian) :=
  Record.build Meridian.mk
    |>.required "longitude" Measure.ofJson

def ofJson : Reader Meridian := record.describedReader "Meridian"

end Meridian

structure Axis where
  name : String
  abbreviation : String
  direction : String
  unit : Option MeasureUnit
  meridian : Option Meridian
  deriving Inhabited

namespace Axis

def record : Record Axis :=
  Record.build Axis.mk
    |>.required "name" Reader.string
    |>.required "abbreviation" Reader.string
    |>.required "direction" Reader.string
    |>.optional "unit" MeasureUnit.ofJson
    |>.optional "meridian" Meridian.ofJson

def ofJson : Reader Axis := record.reader "Axis"

end Axis

structure CoordinateSystem where
  subtype : String
  axes : List Axis
  deriving Inhabited

namespace CoordinateSystem

def record : Record CoordinateSystem :=
  Record.build CoordinateSystem.mk
    |>.required "subtype" Reader.string
    |>.defaulted "axis" (Reader.list Axis.ofJson) []

def ofJson : Reader CoordinateSystem := record.reader "CoordinateSystem"

def isEllipsoidal (system : CoordinateSystem) : Bool := system.subtype == "ellipsoidal"

end CoordinateSystem

end CrsText
