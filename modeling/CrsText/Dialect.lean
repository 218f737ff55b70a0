import CrsText.Json.Record

/-! The two dialects of well-known text: the older one without metadata and typed units, and the
standard of 2019.
-/

set_option autoImplicit false

namespace CrsText

inductive Dialect where
  | wkt1
  | wkt2
  deriving DecidableEq, Repr, Inhabited

namespace Dialect

def name : Dialect → String
  | .wkt1 => "WKT1"
  | .wkt2 => "WKT2:2019"

def ofName? (name : String) : Option Dialect := [wkt1, wkt2].find? (·.name == name)

def ofJson : Reader Dialect := Reader.choice (wkt1.name, wkt1) (wkt2.name, wkt2)

end Dialect

end CrsText
