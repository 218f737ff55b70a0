import CrsText.Proofs.Wkt.Reading
import CrsText.Proofs.Wkt.Rendering

/-! Items that are written one after the other into a node that is open already. A text between whose
lines only blanks stand tells which items have been added to it.
-/

set_option autoImplicit false

namespace CrsText

namespace Tree

theorem lexemes_injective : Function.Injective lexemes := by
  intro tree other same
  have whole : ∀ tree : Tree, readItem [] tree.lexemes = some tree := by
    intro tree
    simpa [readRest] using readItem_lexemes tree [] [] (by simp)
  exact Option.some.inj (by rw [← whole tree, same, whole])

theorem separated_injective : Function.Injective separated := by
  intro trees others same
  have nodes : (node "" trees).lexemes = (node "" others).lexemes := by simp [lexemes, same]
  cases lexemes_injective nodes
  rfl

theorem following_injective : Function.Injective following := by
  intro trees others same
  have behind : separated (.text "" :: trees) = separated (.text "" :: others) := by
    simp [separated, same]
  exact (List.cons.inj (separated_injective behind)).2

end Tree

namespace Item

variable {layout : Layout} {items others : List Item}

def joined (layout : Layout) (follows : Bool) (depth : Nat) (items : List Item) : String :=
  if follows then String.join ((textsOfAll layout depth items).map ("," ++ ·))
  else ",".intercalate (textsOfAll layout depth items)

theorem not_group_first (single : ∀ item ∈ items, ¬ item.isGroup) :
    ∀ inner rest, items ≠ .group inner :: rest := by
  rintro inner rest rfl
  exact single (.group inner) List.mem_cons_self rfl

theorem fillAll_printedAll (placed : ∀ item ∈ items, item.Placed)
    (single : ∀ item ∈ items, ¬ item.isGroup) (follows : Bool) (depth : Nat) :
    Segment.fillAll layout (printedAll follows depth items) = joined layout follows depth items := by
  have each : ∀ item ∈ items, item.Joins layout := fun item member => (placed item member).joins
  cases follows with
  | true => exact joinsAll each depth
  | false => exact fillAll_printedAll_false each (not_group_first single) depth

/-- Siblings mark the level that they stand in, and leave the outer ones alone. -/
theorem levelsAfterAll_siblings (single : ∀ item ∈ items, ¬ item.isGroup) (level : Level)
    (outer : List Level) : Step.levelsAfterAll (level :: outer) (stepsOfAll items) =
      { level with hasValues := level.hasValues || !items.isEmpty } :: outer := by
  induction items generalizing level with
  | nil => simp [stepsOfAll]
  | cons item rest ih =>
    have head : ¬ item.isGroup := single item List.mem_cons_self
    rw [stepsOfAll, Step.levelsAfterAll_append, item.prints.levels, if_neg head, Level.withValue,
      ih fun other member => single other (List.mem_cons_of_mem item member)]
    simp

/-- Siblings are written into an open node as their texts, with the commas that they need. -/
theorem run_siblings (placed : ∀ item ∈ items, item.Placed)
    (single : ∀ item ∈ items, ¬ item.isGroup) (layout : Layout) (text : String) (level : Level)
    (outer : List Level) :
    Draft.run ⟨layout, text, level :: outer⟩ (stepsOfAll items) =
      ⟨layout, text ++ joined layout level.hasValues (outer.length + 1) items,
        { level with hasValues := level.hasValues || !items.isEmpty } :: outer⟩ := by
  have printed : Step.segmentsOfAll (level :: outer) (stepsOfAll items) =
      printedAll level.hasValues (outer.length + 1) items :=
    (printsAll (fun item _ => item.prints) level outer).1
  simp only [Draft.run_eq, printed, fillAll_printedAll placed single, levelsAfterAll_siblings single]

/-- Items that a reader can tell from each other when they stand side by side. -/
structure Siblings (items : List Item) : Prop where
  placed : ∀ item ∈ items, item.Placed
  single : ∀ item ∈ items, ¬ item.isGroup
  words : ∀ tree ∈ treesOfAll items, tree.Uses IsWord IsWord

theorem Siblings.scan_joined (siblings : Siblings items) (blank : layout.IsBlank) (follows : Bool)
    (depth : Nat) : Lexeme.scan [] (joined layout follows depth items).toList =
      some (if follows then Tree.following (treesOfAll items)
        else Tree.separated (treesOfAll items)) := by
  have each : ∀ item ∈ items, Scanned layout item := fun item member =>
    (siblings.placed item member).scanned blank (uses_of_mem siblings.words member)
  rw [← fillAll_printedAll siblings.placed siblings.single]
  cases follows with
  | true =>
    simpa [Lexeme.scan] using (continues_printedAll each depth).scans [] (by simp [Lexeme.Delimits])
  | false =>
    have first := not_group_first siblings.single
    simpa [Lexeme.scan] using scans_printedAll each first depth [] (by simp [Lexeme.Delimits])

/-- The text that siblings add tells which nodes they are. -/
theorem treesOfAll_eq_of_joined_eq (siblings : Siblings items) (otherSiblings : Siblings others)
    (blank : layout.IsBlank) {follows : Bool} {depth : Nat}
    (same : joined layout follows depth items = joined layout follows depth others) :
    treesOfAll items = treesOfAll others := by
  have scanned := siblings.scan_joined blank follows depth
  rw [same, otherSiblings.scan_joined blank, Option.some.injEq] at scanned
  cases follows with
  | true => exact (Tree.following_injective scanned).symm
  | false => exact (Tree.separated_injective scanned).symm

end Item

end CrsText
