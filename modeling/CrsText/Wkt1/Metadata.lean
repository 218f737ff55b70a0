import CrsText.Wkt.Item
import CrsText.Wkt.Report
import CrsText.Wkt.Vocabulary

/-! Metadata in the older dialect. Of all metadata it keeps one identifier; what it drops is noted.
-/

set_option autoImplicit false

namespace CrsText

namespace Wkt1

/-- A code stands between quotes even if it is a number. -/
def authority (identifier : Identifier) : Item :=
  .named "AUTHORITY" identifier.authority [.text identifier.code.spelling]

/-- Whether there is metadata other than identifiers. -/
def dropsUsage (metadata : Metadata) : Bool :=
  metadata.hasOwnUsage || metadata.usages.isSome || metadata.remarks.isSome

def noteIf (condition : Bool) (notice : Notice) : Report PUnit :=
  if condition then .note notice else .ok ⟨⟩

def identifiers (metadata : Metadata) : Report (List Item) :=
  match metadata.identifier, metadata.identifiers with
  | some identifier, _ => .ok [authority identifier]
  | none, some identifiers => do
    Report.note (.identifiersDropped identifiers.length)
    return []
  | none, none => .ok []

def metadata (metadata : Metadata) : Report (List Item) := do
  noteIf (dropsUsage metadata) .usageDropped
  identifiers metadata

def unit (unit : MeasureUnit) : Report Item := do
  let resolved ← unit.resolve
  let keyword ← Dialect.wkt1.unitKeyword resolved.typeTag
  let common ← metadata (resolved.metadata.getD .empty)
  return .named keyword resolved.name (.token (Token.rounded resolved.factor) :: common)

end Wkt1

end CrsText
