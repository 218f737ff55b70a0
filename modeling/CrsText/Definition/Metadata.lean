import CrsText.Json.Record
import CrsText.Number.Token

/-! What almost every object of a definition may say about itself: where and for what it is valid,
by which authorities it is identified, and remarks.
-/

set_option autoImplicit false

namespace CrsText

/-- Bounds in degrees. -/
structure BoundingBox where
  south : Float
  west : Float
  north : Float
  east : Float
  deriving Inhabited

namespace BoundingBox

def record : Record BoundingBox :=
  Record.build BoundingBox.mk
    |>.required "south_latitude" Reader.number
    |>.required "west_longitude" Reader.number
    |>.required "north_latitude" Reader.number
    |>.required "east_longitude" Reader.number

def ofJson : Reader BoundingBox := record.reader "BBox"

end BoundingBox

/-- A code within an authority. -/
inductive Code where
  | integer (value : Int)
  | float (value : Float)
  | text (value : String)
  deriving Inhabited

namespace Code

/-- Integers beyond 64 bits with a sign are no longer kept exactly. -/
def ofJson : Reader Code
  | .integer value =>
    if value < Json.signedBound then .ok (.integer value) else .ok (.float (Float.ofInt value))
  | .float value => .ok (.float value)
  | .string value => .ok (.text value)
  | _ => .error (.noAlternative "IdCode")

def isNumeric : Code → Bool
  | .text _ => false
  | _ => true

def spelling : Code → String
  | .integer value => Token.integer value
  | .float value => Token.plain value
  | .text value => value

end Code

structure Identifier where
  authority : String
  code : Code
  deriving Inhabited

namespace Identifier

def record : Record Identifier :=
  Record.build Identifier.mk
    |>.required "authority" Reader.string
    |>.required "code" Code.ofJson

def ofJson : Reader Identifier := record.reader "Id"

end Identifier

structure Usage where
  scope : Option String := none
  area : Option String := none
  boundingBox : Option BoundingBox := none
  deriving Inhabited

namespace Usage

def record : Record Usage :=
  Record.build Usage.mk
    |>.optional "scope" Reader.string
    |>.optional "area" Reader.string
    |>.optional "bbox" BoundingBox.ofJson

def ofJson : Reader Usage := record.reader "Usage"

/-- Whether anything is said at all. -/
def isGiven (usage : Usage) : Bool :=
  usage.scope.isSome || usage.area.isSome || usage.boundingBox.isSome

end Usage

/-- The usage of the object itself comes before a list of usages, and its own identifier before a
list of identifiers. -/
structure Metadata extends Usage where
  usages : Option (List Usage) := none
  identifier : Option Identifier := none
  identifiers : Option (List Identifier) := none
  remarks : Option String := none
  deriving Inhabited

namespace Metadata

def empty : Metadata := { }

def record : Record Metadata :=
  Record.build (fun scope area boundingBox usages identifier identifiers remarks =>
      (⟨⟨scope, area, boundingBox⟩, usages, identifier, identifiers, remarks⟩ : Metadata))
    |>.optional "scope" Reader.string
    |>.optional "area" Reader.string
    |>.optional "bbox" BoundingBox.ofJson
    |>.optional "usages" (Reader.list Usage.ofJson)
    |>.optional "id" Identifier.ofJson
    |>.optional "ids" (Reader.list Identifier.ofJson)
    |>.optional "remarks" Reader.string

def ofJson : Reader Metadata := record.reader "ObjectUsage"

def hasOwnUsage (metadata : Metadata) : Bool := metadata.toUsage.isGiven

/-- The usages that count: the object's own one, else those listed. -/
def effectiveUsages (metadata : Metadata) : List Usage :=
  if metadata.hasOwnUsage then [metadata.toUsage] else metadata.usages.getD []

/-- The identifiers that count: the object's own one, else those listed. -/
def effectiveIdentifiers (metadata : Metadata) : List Identifier :=
  match metadata.identifier with
  | some identifier => [identifier]
  | none => metadata.identifiers.getD []

end Metadata

/-- Reads an object with fields of its own and metadata beside them. -/
def Record.describedReader {α : Type} (record : Record (Metadata → α)) (name : String) :
    Reader α :=
  record.readerWith name Metadata.record

end CrsText
