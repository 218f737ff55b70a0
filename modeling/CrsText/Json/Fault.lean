import CrsText.Json.Compact

/-! Why a JSON value cannot be read as a definition. A fault names the rule that is broken, never
the place.
-/

set_option autoImplicit false

namespace CrsText

/-- The kinds of value that a reader asks for. -/
inductive Wanted where
  | string
  | number
  | sequence
  | record (name : String)
  | choice
  | unit
  deriving DecidableEq

inductive ReadFault where
  | wrongKind (found : Json) (wanted : Wanted)
  | missingField (key : String)
  | tooShort (length : Nat) (name : String) (size : Nat)
  /-- More elements than the `size` fields, in a value that is read where it stands. -/
  | tooLong (length size : Nat)
  /-- More elements than the `size` fields, in a value that was set aside before it was read. -/
  | leftOver (length size : Nat)
  | noAlternative (name : String)
  | unknownChoice (found first second : String)
  | notOneKey

namespace Wanted

def description : Wanted → String
  | .string => "a string"
  | .number => "f64"
  | .sequence => "a sequence"
  | .record name => "struct " ++ name
  | .choice => "string or map"
  | .unit => "unit"

end Wanted

def Json.description : Json → String
  | .null => "null"
  | .bool value => "boolean `" ++ String.ofList (boolText value) ++ "`"
  | .integer value => "integer `" ++ String.ofList (signedDigits value) ++ "`"
  | .float value => "floating point `" ++ String.ofList (floatText value) ++ "`"
  | .string text => "string " ++ String.ofList (Text.quotedInMessage text.toList)
  | .array _ => "sequence"
  | .object _ => "map"

namespace ReadFault

def count (n : Nat) : String := String.ofList (CrsText.digits n)

def message : ReadFault → String
  | .wrongKind found wanted =>
    "invalid type: " ++ found.description ++ ", expected " ++ wanted.description
  | .missingField key => "missing field `" ++ key ++ "`"
  | .tooShort length name size =>
    "invalid length " ++ count length ++ ", expected struct " ++ name ++ " with " ++ count size ++
      " elements"
  | .tooLong length _ =>
    "invalid length " ++ count length ++ ", expected fewer elements in array"
  | .leftOver length size =>
    "invalid length " ++ count length ++ ", expected " ++ count size ++ " elements in sequence"
  | .noAlternative name => "data did not match any variant of untagged enum " ++ name
  | .unknownChoice found first second =>
    "unknown variant `" ++ found ++ "`, expected `" ++ first ++ "` or `" ++ second ++ "`"
  | .notOneKey => "invalid value: map, expected map with a single key"

/-- The same fault in a value that was set aside. -/
def setAside : ReadFault → ReadFault
  | .tooLong length size => .leftOver length size
  | fault => fault

end ReadFault

end CrsText
