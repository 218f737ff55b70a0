/-! Quoted strings of well-known text. A quote inside a string is written twice, so no other mark of
the format has to be escaped.
-/

set_option autoImplicit false

namespace CrsText

namespace Text

def doubleQuotes : List Char → List Char
  | [] => []
  | c :: rest => if c = '"' then '"' :: '"' :: doubleQuotes rest else c :: doubleQuotes rest

def quoted (text : List Char) : List Char := '"' :: doubleQuotes text ++ ['"']

/-- Leaves out the first occurrence of `word`. -/
def eraseFirst (word : List Char) : List Char → List Char
  | [] => []
  | c :: rest =>
    if word.isPrefixOf (c :: rest) then (c :: rest).drop word.length
    else c :: eraseFirst word rest

end Text

end CrsText
