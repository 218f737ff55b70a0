/-! The tree of a well-known text, free of brackets, commas and line breaks, and the steps in which
it is written.
-/

set_option autoImplicit false

namespace CrsText

inductive Item where
  | node (keyword : String) (items : List Item)
  | text (content : String)
  | token (content : String)
  /-- Items that stand one level deeper than their siblings without a node around them. -/
  | group (items : List Item)
  deriving Inhabited

inductive Step where
  | openNode (keyword : String)
  | closeNode
  | openGroup
  | closeGroup
  | text (content : String)
  | token (content : String)
  deriving DecidableEq, Repr

namespace Item

/-- A node whose first item is a name. -/
def named (keyword name : String) (items : List Item) : Item := .node keyword (.text name :: items)

mutual

def steps : Item → List Step
  | .node keyword items => .openNode keyword :: stepsOfAll items ++ [.closeNode]
  | .text content => [.text content]
  | .token content => [.token content]
  | .group items => .openGroup :: stepsOfAll items ++ [.closeGroup]

def stepsOfAll : List Item → List Step
  | [] => []
  | item :: rest => steps item ++ stepsOfAll rest

end

end Item

end CrsText
