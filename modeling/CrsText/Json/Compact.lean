import CrsText.Json.Basic
import CrsText.Number.Numeral
import CrsText.Text.Escaped

/-! JSON text without blanks, the keys of each object in ascending order.
-/

set_option autoImplicit false

namespace CrsText

namespace Json

def floatRange : Numeral.PositionalRange := ⟨-5, 15⟩

/-- The shortest digits, with a point in every positional number. -/
def floatMagnitude (x : Magnitude) : List Char :=
  let decimal := x.shortest .even
  if floatRange.contains decimal.leadingExponent then
    decimal.positional ++ if 0 ≤ decimal.exponent then ['.', '0'] else []
  else
    decimal.scientific

def floatZero (negative : Bool) : List Char := Numeral.signed negative ['0', '.', '0']

def floatText (x : Float) : List Char :=
  Numeral.spell Numeral.infinity floatZero floatMagnitude (Binary.ofFloat x)

def boolText : Bool → List Char
  | true => ['t', 'r', 'u', 'e']
  | false => ['f', 'a', 'l', 's', 'e']

def separated : List (List Char) → List Char
  | [] => []
  | [text] => text
  | text :: rest => text ++ ',' :: separated rest

/-- Puts an entry in front of the first one with a greater key. -/
def insertByKey (key : String) (text : List Char) :
    List (String × List Char) → List (String × List Char)
  | [] => [(key, text)]
  | (other, otherText) :: rest =>
    if key < other then (key, text) :: (other, otherText) :: rest
    else (other, otherText) :: insertByKey key text rest

def entryText (entry : String × List Char) : List Char :=
  Text.quotedInJson entry.1.toList ++ ':' :: entry.2

mutual

def compactChars : Json → List Char
  | .null => ['n', 'u', 'l', 'l']
  | .bool value => boolText value
  | .integer value => signedDigits value
  | .float value => floatText value
  | .string text => Text.quotedInJson text.toList
  | .array elements => '[' :: separated (compactElements elements) ++ [']']
  | .object entries => '\x7b' :: separated ((compactEntries entries).map entryText) ++ ['\x7d']

def compactElements : List Json → List (List Char)
  | [] => []
  | value :: rest => compactChars value :: compactElements rest

/-- The entries in ascending order of their keys. -/
def compactEntries : List (String × Json) → List (String × List Char)
  | [] => []
  | (key, value) :: rest => insertByKey key (compactChars value) (compactEntries rest)

end

def compact (value : Json) : String := String.ofList value.compactChars

end Json

end CrsText
