import CrsText.Proofs.Definition.Metadata
import CrsText.Proofs.Number.Notation
import CrsText.Proofs.Wkt.Tree
import CrsText.Wkt2.Metadata

/-! A decoder of the metadata of the dialect of 2019. What an object says about itself is read back from
the nodes among which it stands, but for the digits that numbers lose.
-/

set_option autoImplicit false

namespace CrsText

structure BoundingBox.Written where
  south : String
  west : String
  north : String
  east : String
  deriving DecidableEq

structure Usage.Written where
  scope : Option String
  area : Option String
  boundingBox : Option BoundingBox.Written
  deriving DecidableEq

/-- An identifier with the text of its code, and whether that was a text from the start. -/
structure Identifier.Written where
  authority : String
  code : String
  isText : Bool
  deriving DecidableEq

structure Metadata.Written where
  usages : List Usage.Written
  identifiers : List Identifier.Written
  remarks : Option String
  deriving DecidableEq

def BoundingBox.written (box : BoundingBox) : BoundingBox.Written :=
  ⟨Token.rounded box.south, Token.rounded box.west, Token.rounded box.north, Token.rounded box.east⟩

def Usage.written (usage : Usage) : Usage.Written :=
  ⟨usage.scope, usage.area, usage.boundingBox.map BoundingBox.written⟩

def Identifier.written (identifier : Identifier) : Identifier.Written :=
  match identifier.code with
  | .integer value => ⟨identifier.authority, toString value, false⟩
  | .float value => ⟨identifier.authority, Token.plain value, false⟩
  | .text value => ⟨identifier.authority, value, true⟩

def Metadata.written (metadata : Metadata) : Metadata.Written :=
  ⟨metadata.usagesInForce.map Usage.written, metadata.identifiersInForce.map Identifier.written,
    metadata.remarks⟩

namespace Tree

def loneText? : List Tree → Option String
  | [.text content] => some content
  | _ => none

/-- The text in a node of the given keyword that holds nothing else. -/
def content? (keyword : String) : Tree → Option String
  | .node outer items => if outer = keyword then loneText? items else none
  | _ => none

def boundingBox? : Tree → Option BoundingBox.Written
  | .node "BBOX" [.token south, .token west, .token north, .token east] =>
    some ⟨south, west, north, east⟩
  | _ => none

def usage? : Tree → Option Usage.Written
  | .node "USAGE" parts => some
    ⟨parts.findSome? (content? "SCOPE"), parts.findSome? (content? "AREA"),
      parts.findSome? boundingBox?⟩
  | _ => none

def identifier? : Tree → Option Identifier.Written
  | .node "ID" [.text authority, .text code] => some ⟨authority, code, true⟩
  | .node "ID" [.text authority, .token code] => some ⟨authority, code, false⟩
  | _ => none

def metadataKeywords : List String := ["USAGE", "ID", "REMARK"]

/-- What stands in an object before its metadata. -/
def IsOther (tree : Tree) : Prop :=
  ∀ keyword items, tree = .node keyword items → keyword ∉ metadataKeywords

end Tree

def Metadata.decode (parts : List Tree) : Metadata.Written :=
  ⟨parts.filterMap Tree.usage?, parts.filterMap Tree.identifier?,
    (parts.filterMap (Tree.content? "REMARK")).head?⟩

namespace Wkt2

-- Each kind of node is read by its own reader, and by no other one.
@[simp] theorem usages_of_usage (given : Usage) :
    (usage given).trees.filterMap Tree.usage? = [given.written] := by
  obtain ⟨scope, area, box⟩ := given
  cases scope <;> cases area <;> cases box <;>
    simp [usage, boundingBox, Item.trees, Item.treesOfAll, Tree.usage?, Tree.content?,
      Tree.loneText?, Tree.boundingBox?, Usage.written, BoundingBox.written]

@[simp] theorem identifiers_of_usage (given : Usage) :
    (usage given).trees.filterMap Tree.identifier? = [] := by
  simp [usage, Item.trees, Tree.identifier?]

@[simp] theorem remarks_of_usage (given : Usage) :
    (usage given).trees.filterMap (Tree.content? "REMARK") = [] := by
  simp [usage, Item.trees, Tree.content?]

@[simp] theorem usages_of_identifier (given : Identifier) :
    (identifier given).trees.filterMap Tree.usage? = [] := by
  simp [identifier, Item.named, Item.trees, Tree.usage?]

@[simp] theorem identifiers_of_identifier (given : Identifier) :
    (identifier given).trees.filterMap Tree.identifier? = [given.written] := by
  obtain ⟨authority, code⟩ := given
  cases code <;>
    simp [identifier, Wkt2.code, Code.isNumeric, Code.spelling, Item.named, Item.trees,
      Item.treesOfAll, Tree.identifier?, Identifier.written, Token.integer_eq_toString]

@[simp] theorem remarks_of_identifier (given : Identifier) :
    (identifier given).trees.filterMap (Tree.content? "REMARK") = [] := by
  simp [identifier, Item.named, Item.trees, Tree.content?]

@[simp] theorem usages_of_remark (given : String) :
    (remark given).trees.filterMap Tree.usage? = [] := rfl

@[simp] theorem identifiers_of_remark (given : String) :
    (remark given).trees.filterMap Tree.identifier? = [] := rfl

@[simp] theorem remarks_of_remark (given : String) :
    (remark given).trees.filterMap (Tree.content? "REMARK") = [given] := rfl

theorem filterMap_treesOfAll_map {α β : Type} (write : α → Item) (read : Tree → Option β)
    (values : List α) : (Item.treesOfAll (values.map write)).filterMap read =
      values.flatMap fun value => (write value).trees.filterMap read := by
  rw [Item.treesOfAll_eq_flatMap, List.flatMap_map, List.filterMap_flatMap]

/-- No other part of an object is taken for metadata. -/
theorem none_of_isOther {tree : Tree} (other : tree.IsOther) :
    tree.usage? = none ∧ tree.identifier? = none ∧ tree.content? "REMARK" = none := by
  cases tree with
  | text content => exact ⟨rfl, rfl, rfl⟩
  | token content => exact ⟨rfl, rfl, rfl⟩
  | node keyword items =>
    have unknown : keyword ≠ "USAGE" ∧ keyword ≠ "ID" ∧ keyword ≠ "REMARK" := by
      simpa [Tree.metadataKeywords] using other keyword items rfl
    obtain ⟨noUsage, noIdentifier, noRemark⟩ := unknown
    refine ⟨?_, ?_, if_neg noRemark⟩
    · unfold Tree.usage?
      split
      · next same => exact absurd (Tree.node.inj same).1 noUsage
      · rfl
    · unfold Tree.identifier?
      split
      · next same => exact absurd (Tree.node.inj same).1 noIdentifier
      · next same => exact absurd (Tree.node.inj same).1 noIdentifier
      · rfl

/-- The metadata of an object is read from among its other parts as it was given. -/
theorem decode_metadata (given : Metadata) {others : List Tree}
    (all : ∀ tree ∈ others, tree.IsOther) :
    Metadata.decode (others ++ Item.treesOfAll (metadata given)) = given.written := by
  have usages : others.filterMap Tree.usage? = [] :=
    List.filterMap_eq_nil_iff.mpr fun tree member => (none_of_isOther (all tree member)).1
  have identifiers : others.filterMap Tree.identifier? = [] :=
    List.filterMap_eq_nil_iff.mpr fun tree member => (none_of_isOther (all tree member)).2.1
  have remarks : others.filterMap (Tree.content? "REMARK") = [] :=
    List.filterMap_eq_nil_iff.mpr fun tree member => (none_of_isOther (all tree member)).2.2
  have nothing : ∀ {α β : Type} (values : List α), (values.flatMap fun _ => ([] : List β)) = [] :=
    fun values => List.flatMap_eq_nil_iff.mpr fun _ _ => rfl
  simp [Metadata.decode, metadata, Metadata.written, Metadata.effectiveUsages_eq,
    Metadata.effectiveIdentifiers_eq, usages, identifiers, remarks, filterMap_treesOfAll_map, nothing,
    ← List.map_eq_flatMap]

end Wkt2

end CrsText
