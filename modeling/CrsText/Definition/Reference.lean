import CrsText.Definition.Ellipsoid

/-! What positions refer to: a single datum or an ensemble of realizations taken for one.
-/

set_option autoImplicit false

namespace CrsText

structure GeodeticDatum where
  typeTag : Option String
  name : String
  ellipsoid : Option Ellipsoid
  primeMeridian : Option PrimeMeridian
  referenceEpoch : Option Float
  metadata : Metadata
  deriving Inhabited

namespace GeodeticDatum

def record : Record (Metadata → GeodeticDatum) :=
  Record.build GeodeticDatum.mk
    |>.optional "type" Reader.string
    |>.required "name" Reader.string
    |>.optional "ellipsoid" Ellipsoid.ofJson
    |>.optional "prime_meridian" PrimeMeridian.ofJson
    |>.optional "frame_reference_epoch" Reader.number

def ofJson : Reader GeodeticDatum := record.describedReader "GeodeticReferenceFrame"

/-- Whether positions change with time, so that an epoch belongs to the datum. -/
def isDynamic (datum : GeodeticDatum) : Bool :=
  datum.typeTag == some "DynamicGeodeticReferenceFrame"

end GeodeticDatum

structure VerticalDatum where
  typeTag : Option String
  name : String
  referenceEpoch : Option Float
  metadata : Metadata
  deriving Inhabited

namespace VerticalDatum

def record : Record (Metadata → VerticalDatum) :=
  Record.build VerticalDatum.mk
    |>.optional "type" Reader.string
    |>.required "name" Reader.string
    |>.optional "frame_reference_epoch" Reader.number

def ofJson : Reader VerticalDatum := record.describedReader "VerticalReferenceFrame"

/-- Whether heights change with time, so that an epoch belongs to the datum. -/
def isDynamic (datum : VerticalDatum) : Bool :=
  datum.typeTag == some "DynamicVerticalReferenceFrame"

end VerticalDatum

structure EnsembleMember where
  name : String
  metadata : Metadata
  deriving Inhabited

namespace EnsembleMember

def record : Record (Metadata → EnsembleMember) :=
  Record.build EnsembleMember.mk
    |>.required "name" Reader.string

def ofJson : Reader EnsembleMember := record.describedReader "EnsembleMember"

end EnsembleMember

/-- Several realizations of a datum that are taken for one; only geodetic ensembles have an
ellipsoid. -/
structure DatumEnsemble where
  name : String
  members : List EnsembleMember
  ellipsoid : Option Ellipsoid
  accuracy : Option String
  metadata : Metadata
  deriving Inhabited

namespace DatumEnsemble

def record : Record (Metadata → DatumEnsemble) :=
  Record.build DatumEnsemble.mk
    |>.required "name" Reader.string
    |>.defaulted "members" (Reader.list EnsembleMember.ofJson) []
    |>.optional "ellipsoid" Ellipsoid.ofJson
    |>.optional "accuracy" Reader.string

def ofJson : Reader DatumEnsemble := record.describedReader "DatumEnsemble"

end DatumEnsemble

/-- What a system refers to. -/
inductive Reference (δ : Type) where
  | datum (datum : δ)
  | ensemble (ensemble : DatumEnsemble)

/-- A system needs exactly one of a datum and an ensemble. -/
def Reference.select {δ : Type} (crs : String) :
    Option δ → Option DatumEnsemble → Except Failure (Reference δ)
  | some single, none => .ok (.datum single)
  | none, some several => .ok (.ensemble several)
  | some _, some _ => .error (.twoReferences crs)
  | none, none => .error (.missing (.reference crs))

/-- The ellipsoid of a datum or ensemble of the given name, which it cannot do without. -/
def Ellipsoid.require (datum : String) : Option Ellipsoid → Except Failure Ellipsoid
  | some ellipsoid => .ok ellipsoid
  | none => .error (.missing (.ellipsoid datum))

end CrsText
