import CrsText.Proofs.Conversion.Grammar
import CrsText.Proofs.Wkt.Reading

/-! What a conversion writes is read back as the tree that was written, whatever its texts hold.
-/

set_option autoImplicit false

namespace CrsText

theorem Wkt1.Grammar.direction.isWord {content : String} (known : Wkt1.Grammar.direction content) :
    IsWord content := isWord_of_all (by decide) content known

namespace Dialect

variable {dialect : Dialect} {bare : String → Prop}

theorem isWord_of_mem_keywords : ∀ keyword ∈ dialect.keywords, IsWord keyword := by
  cases dialect <;> exact isWord_of_all (by decide +kernel)

/-- Only the newer dialect depends on what a system gives for words. -/
theorem Bare.isWord_or_given {content : String} (unquoted : dialect.Bare bare content) :
    IsWord content ∨ dialect = .wkt2 ∧ bare content := by
  cases dialect with
  | wkt1 =>
    rcases unquoted with number | known | rfl
    · exact .inl number.isWord
    · exact .inl known.isWord
    · exact .inl (by decide)
  | wkt2 =>
    rcases unquoted with number | number | given
    · exact .inl number.isWord
    · exact .inl number.isWord
    · exact .inr ⟨rfl, given⟩

theorem Bare.isWord (words : dialect = .wkt2 → ∀ content, bare content → IsWord content)
    {content : String} (unquoted : dialect.Bare bare content) : IsWord content := by
  rcases unquoted.isWord_or_given with word | ⟨newer, given⟩
  · exact word
  · exact words newer content given

end Dialect

namespace Crs

/-- The whole text of a conversion is read as the one tree that was written, if only blanks stand
between its lines. In the newer dialect the types of coordinate systems, the directions and the
accuracies that stand without quotes have to be words. -/
theorem read_convert {dialect : Dialect} {layout : Layout} {crs : Crs} {text : String}
    (blank : layout.IsBlank) (words : dialect = .wkt2 → ∀ token ∈ crs.unquoted, IsWord token)
    (converted : (crs.convert dialect layout).result = .ok text) :
    ∃ item tree, (crs.toItem dialect).result = .ok item ∧ item.trees = [tree] ∧
      Tree.read text = some tree := by
  obtain ⟨item, written, rfl⟩ := convert_eq_ok.mp converted
  obtain ⟨tree, same, derived⟩ := exists_tree written
  have derives := toItem_derives written
  -- A group has to stand behind something, so the item of a whole system is none.
  have single : ¬ item.isGroup := by
    cases item with
    | group items => exact absurd rfl (derives.first items [])
    | _ => simp [Item.isGroup]
  have placed : item.Placed := derives.placed item (List.mem_singleton_self item)
  have uses : tree.Uses IsWord IsWord :=
    derived.uses.mono Dialect.isWord_of_mem_keywords fun _ => Dialect.Bare.isWord words
  exact ⟨item, tree, written, same, Item.read_write placed single same uses blank⟩

theorem read_convert_heights : ∃ text item tree,
    Layout.multiline.IsBlank ∧ (∀ token ∈ heights.unquoted, IsWord token) ∧
      (heights.convert .wkt2 .multiline).result = .ok text ∧
      (heights.toItem .wkt2).result = .ok item ∧ item.trees = [tree] ∧
      Tree.read text = some tree := by
  have blank : Layout.multiline.IsBlank := by
    simp [Layout.IsBlank, Layout.multiline, Lexeme.blanks]
  have words : ∀ token ∈ heights.unquoted, IsWord token := isWord_of_all (by decide)
  obtain ⟨text, converted⟩ : ∃ text, (heights.convert .wkt2 .multiline).result = .ok text :=
    ⟨_, rfl⟩
  obtain ⟨item, tree, facts⟩ := read_convert blank (fun _ => words) converted
  exact ⟨text, item, tree, blank, words, converted, facts⟩

end Crs

end CrsText
