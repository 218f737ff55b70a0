import CrsText.Text.Unprintable

/-! Strings with escapes, in the two forms that the library writes: inside JSON text and inside a
message.
-/

set_option autoImplicit false

namespace CrsText

namespace Text

def hexDigits (n : Nat) : List Char := Nat.toDigits 16 n

/-- JSON escapes quotes, backslashes and controls, the common controls by a letter. -/
def escapeInJson (c : Char) : List Char :=
  match c with
  | '"' => ['\\', '"']
  | '\\' => ['\\', '\\']
  | '\x08' => ['\\', 'b']
  | '\t' => ['\\', 't']
  | '\n' => ['\\', 'n']
  | '\x0c' => ['\\', 'f']
  | '\r' => ['\\', 'r']
  | c =>
    if c.toNat < 0x20 then
      '\\' :: 'u' :: List.replicate (4 - (hexDigits c.toNat).length) '0' ++ hexDigits c.toNat
    else [c]

/-- A message escapes whatever cannot be seen, by code point unless it has a letter. -/
def escapeInMessage (c : Char) : List Char :=
  match c with
  | '"' => ['\\', '"']
  | '\\' => ['\\', '\\']
  | '\x00' => ['\\', '0']
  | '\t' => ['\\', 't']
  | '\n' => ['\\', 'n']
  | '\r' => ['\\', 'r']
  | c =>
    if unprintable c then '\\' :: 'u' :: '\x7b' :: hexDigits c.toNat ++ ['\x7d']
    else [c]

def quotedInJson (text : List Char) : List Char := '"' :: text.flatMap escapeInJson ++ ['"']

def quotedInMessage (text : List Char) : List Char := '"' :: text.flatMap escapeInMessage ++ ['"']

end Text

end CrsText
