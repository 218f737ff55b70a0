import CrsText.Text.Quoted
import CrsText.Wkt.Item
import CrsText.Wkt.Layout

/-! A well-known text under construction. Brackets, commas, line breaks and indentation come from
the levels that are open, so whoever writes only names nodes and values.
-/

set_option autoImplicit false

namespace CrsText

/-- A level that is open. -/
structure Level where
  /-- Whether the next value needs a comma. -/
  hasValues : Bool
  /-- Whether the level only indents, without a keyword and brackets. -/
  isGroup : Bool
  deriving DecidableEq, Repr

/-- The text so far and the open levels, the innermost one first. -/
structure Draft where
  layout : Layout
  text : String := ""
  levels : List Level := []
  deriving Inhabited

namespace Draft

def append (draft : Draft) (text : String) : Draft := { draft with text := draft.text ++ text }

/-- Writes the comma that a value needs after another one. -/
def comma (draft : Draft) : Draft :=
  match draft.levels with
  | [] => draft
  | level :: outer =>
    let text := if level.hasValues then draft.text ++ "," else draft.text
    { draft with text := text, levels := { level with hasValues := true } :: outer }

/-- A node begins on a new line unless it is the first of the text. -/
def lineBreak (draft : Draft) : Draft :=
  match draft.levels with
  | [] => draft
  | levels =>
    draft.append (draft.layout.separator ++ draft.layout.indentation levels.length)

def openLevel (draft : Draft) (level : Level) : Draft :=
  { draft with levels := level :: draft.levels }

def closeLevel (draft : Draft) : Draft := { draft with levels := draft.levels.tail }

def openNode (draft : Draft) (keyword : String) : Draft :=
  (draft.comma.lineBreak.append (keyword ++ "[")).openLevel ⟨false, false⟩

def closeNode (draft : Draft) : Draft := (draft.append "]").closeLevel

/-- A group follows a sibling, so its first value needs a comma already. -/
def openGroup (draft : Draft) : Draft := draft.openLevel ⟨true, true⟩

def closeGroup (draft : Draft) : Draft := draft.closeLevel

def quote (draft : Draft) (content : String) : Draft :=
  draft.comma.append (String.ofList (Text.quoted content.toList))

def token (draft : Draft) (content : String) : Draft := draft.comma.append content

def step (draft : Draft) : Step → Draft
  | .openNode keyword => draft.openNode keyword
  | .closeNode => draft.closeNode
  | .openGroup => draft.openGroup
  | .closeGroup => draft.closeGroup
  | .text content => draft.quote content
  | .token content => draft.token content

def run (draft : Draft) (steps : List Step) : Draft := steps.foldl step draft

def write (draft : Draft) (item : Item) : Draft := draft.run item.steps

end Draft

def Item.write (layout : Layout) (item : Item) : String := (Draft.write { layout } item).text

end CrsText
