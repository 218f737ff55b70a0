/-! How well-known text is broken into lines.
-/

set_option autoImplicit false

namespace CrsText

/-- What stands between nodes. With a separator that is not empty each node is also indented. -/
structure Layout where
  separator : String := "\n"
  deriving DecidableEq, Repr, Inhabited

namespace Layout

def multiline : Layout := { }

def singleLine : Layout := ⟨""⟩

def isMultiline (layout : Layout) : Bool := !layout.separator.isEmpty

/-- The spaces for each open level. -/
def indentWidth : Nat := 4

def indentation (layout : Layout) (depth : Nat) : String :=
  if layout.isMultiline then String.ofList (List.replicate (indentWidth * depth) ' ') else ""

end Layout

end CrsText
