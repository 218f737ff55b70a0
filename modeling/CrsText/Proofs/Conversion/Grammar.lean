import CrsText.Conversion
import CrsText.Proofs.Wkt1.Derivation
import CrsText.Proofs.Wkt2.Derivation

/-! What a conversion writes is a single tree, derived in the grammar of the dialect.
-/

set_option autoImplicit false

namespace CrsText

namespace Dialect

def keywords : Dialect → List String
  | .wkt1 => Wkt1.Grammar.keywords
  | .wkt2 => Wkt2.Grammar.keywords

/-- The trees of systems in the dialect; only the newer one has bare tokens that the system gives. -/
def Derivable (bare : String → Prop) : Dialect → Tree → Prop
  | .wkt1 => Wkt1.Grammar.Crs
  | .wkt2 => Wkt2.Grammar.Crs bare

def Bare (bare : String → Prop) : Dialect → String → Prop
  | .wkt1 => Wkt1.Grammar.Bare
  | .wkt2 => Wkt2.Grammar.Bare bare

theorem Derivable.isNode {bare : String → Prop} {dialect : Dialect} {tree : Tree}
    (derived : dialect.Derivable bare tree) : tree.IsNode := by
  cases dialect with
  | wkt1 => exact Wkt1.Grammar.Crs.isNode derived
  | wkt2 => exact Wkt2.Grammar.Crs.isNode derived

theorem Derivable.uses {bare : String → Prop} {dialect : Dialect} {tree : Tree}
    (derived : dialect.Derivable bare tree) :
    tree.Uses (· ∈ dialect.keywords) (dialect.Bare bare) := by
  cases dialect with
  | wkt1 => exact Wkt1.Grammar.Crs.uses derived
  | wkt2 => exact Wkt2.Grammar.Crs.uses derived

end Dialect

namespace Crs

variable {dialect : Dialect} {layout : Layout} {crs : Crs}

theorem toItem_derives {item : Item} (written : (crs.toItem dialect).result = .ok item) :
    Derives [item] (Grammar.single (dialect.Derivable (· ∈ crs.unquoted))) := by
  cases dialect with
  | wkt1 => exact Wkt1.crs_derives written
  | wkt2 => exact Wkt2.crs_derives (fun _ member => member) written

theorem exists_tree {item : Item} (written : (crs.toItem dialect).result = .ok item) :
    ∃ tree, item.trees = [tree] ∧ dialect.Derivable (· ∈ crs.unquoted) tree := by
  obtain ⟨tree, derived, same⟩ := (toItem_derives written).trees
  exact ⟨tree, by simpa using same, derived⟩

/-- The item of a whole system is a node, for a group would have to stand behind something. -/
theorem isNode_of_written {item : Item} (written : (crs.toItem dialect).result = .ok item) :
    item.IsNode := by
  obtain ⟨tree, same, derived⟩ := exists_tree written
  obtain ⟨keyword, inside, rfl⟩ := derived.isNode
  cases item with
  | node keyword items => exact ⟨keyword, items, rfl⟩
  | text content => simp [Item.trees] at same
  | token content => simp [Item.trees] at same
  | group items => exact absurd rfl ((toItem_derives written).first items [])

theorem convert_result : (crs.convert dialect layout).result =
    (crs.toItem dialect).result.map (Item.write layout) := by
  unfold convert
  dsimp only
  split <;> simp [*, Except.map]

theorem convert_eq_ok {text : String} : (crs.convert dialect layout).result = .ok text ↔
    ∃ item, (crs.toItem dialect).result = .ok item ∧ item.write layout = text := by
  rw [convert_result]
  cases (crs.toItem dialect).result <;> simp [Except.map]

/-- The text of a conversion is that of one tree, and the tree is derived in the grammar of the
dialect. Where the newer dialect has a bare token, it is a number or a string of the system. -/
theorem convert_derivable {text : String}
    (converted : (crs.convert dialect layout).result = .ok text) :
    ∃ item tree, (crs.toItem dialect).result = .ok item ∧ item.write layout = text ∧
      item.trees = [tree] ∧ dialect.Derivable (· ∈ crs.unquoted) tree := by
  obtain ⟨item, written, same⟩ := convert_eq_ok.mp converted
  obtain ⟨tree, trees, derived⟩ := exists_tree written
  exact ⟨item, tree, written, same, trees, derived⟩

/-- A compound system of one vertical system, whose names hold quotes and brackets. -/
def heights : Crs :=
  .compound "A \"compound\" [system]" [.vertical
    ⟨"Heights, above \"sea\"", some ⟨none, "Sea level", none, .empty⟩, none,
      ⟨"vertical", [⟨"Gravity-related height", "H", "up", none, none⟩]⟩, .empty⟩] .empty

theorem convert_derivable_heights : ∃ text item tree,
    (heights.convert .wkt2 .multiline).result = .ok text ∧
      (heights.toItem .wkt2).result = .ok item ∧ item.write .multiline = text ∧
      item.trees = [tree] ∧ Wkt2.Grammar.Crs (· ∈ heights.unquoted) tree := by
  obtain ⟨text, converted⟩ : ∃ text, (heights.convert .wkt2 .multiline).result = .ok text :=
    ⟨_, rfl⟩
  obtain ⟨item, tree, facts⟩ := convert_derivable converted
  exact ⟨text, item, tree, converted, facts⟩

end Crs

end CrsText
