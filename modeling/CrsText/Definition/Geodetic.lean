import CrsText.Definition.Axis
import CrsText.Definition.Method
import CrsText.Definition.Reference

/-! Systems on a geodetic datum: geodetic ones and those that a conversion derives from them.
-/

set_option autoImplicit false

namespace CrsText

/-- Whether a geodetic system has geographic coordinates. -/
inductive GeodeticKind where
  | geographic
  | geodetic
  deriving DecidableEq, Repr, Inhabited

namespace GeodeticKind

def tag : GeodeticKind → String
  | .geographic => "GeographicCRS"
  | .geodetic => "GeodeticCRS"

def derivedTag : GeodeticKind → String
  | .geographic => "DerivedGeographicCRS"
  | .geodetic => "DerivedGeodeticCRS"

def ofJson : Reader GeodeticKind :=
  Reader.choice (geographic.tag, .geographic) (geodetic.tag, .geodetic)

def derivedOfJson : Reader GeodeticKind :=
  Reader.choice (geographic.derivedTag, .geographic) (geodetic.derivedTag, .geodetic)

end GeodeticKind

/-- A geodetic system; as the base of another one it may lack a type and a coordinate system. -/
structure GeodeticCrs where
  kind : GeodeticKind
  name : String
  datum : Option GeodeticDatum
  ensemble : Option DatumEnsemble
  coordinateSystem : Option CoordinateSystem
  metadata : Metadata
  deriving Inhabited

namespace GeodeticCrs

def record : Record (Metadata → GeodeticCrs) :=
  Record.build GeodeticCrs.mk
    |>.defaulted "type" GeodeticKind.ofJson .geodetic
    |>.required "name" Reader.string
    |>.optional "datum" GeodeticDatum.ofJson
    |>.optional "datum_ensemble" DatumEnsemble.ofJson
    |>.optional "coordinate_system" CoordinateSystem.ofJson

def ofJson : Reader GeodeticCrs := record.describedReader "GeodeticCrs"

end GeodeticCrs

structure DerivedGeodeticCrs where
  kind : GeodeticKind
  name : String
  base : GeodeticCrs
  conversion : Operation
  coordinateSystem : CoordinateSystem
  metadata : Metadata
  deriving Inhabited

namespace DerivedGeodeticCrs

def record : Record (Metadata → DerivedGeodeticCrs) :=
  Record.build DerivedGeodeticCrs.mk
    |>.defaulted "type" GeodeticKind.derivedOfJson .geodetic
    |>.required "name" Reader.string
    |>.required "base_crs" GeodeticCrs.ofJson
    |>.required "conversion" Operation.conversionOfJson
    |>.required "coordinate_system" CoordinateSystem.ofJson

def ofJson : Reader DerivedGeodeticCrs := record.describedReader "DerivedGeodeticCrs"

end DerivedGeodeticCrs

structure ProjectedCrs where
  name : String
  base : GeodeticCrs
  conversion : Operation
  coordinateSystem : CoordinateSystem
  metadata : Metadata
  deriving Inhabited

namespace ProjectedCrs

def record : Record (Metadata → ProjectedCrs) :=
  Record.build ProjectedCrs.mk
    |>.required "name" Reader.string
    |>.required "base_crs" GeodeticCrs.ofJson
    |>.required "conversion" Operation.conversionOfJson
    |>.required "coordinate_system" CoordinateSystem.ofJson

def ofJson : Reader ProjectedCrs := record.describedReader "ProjectedCrs"

/-- The base is geographic by its coordinate system if it has one, else by its type. -/
def baseKind (crs : ProjectedCrs) : GeodeticKind :=
  match crs.base.coordinateSystem with
  | some system => if system.isEllipsoidal then .geographic else .geodetic
  | none => crs.base.kind

end ProjectedCrs

end CrsText
