import CrsText.Proofs.Nesting
import CrsText.Proofs.Wkt.Segment

/-! What an item writes, by recursion over the item. Of the open levels it depends only on their
number and on whether the innermost one already has a value.
-/

set_option autoImplicit false

namespace CrsText

namespace Segment

def comma (follows : Bool) : List Segment := if follows then [.text ","] else []

/-- Only the outermost node does not begin on a line of its own. -/
def newLine (depth : Nat) : List Segment := if depth = 0 then [] else [.lineBreak depth]

end Segment

namespace Item

def isGroup : Item → Bool
  | .group _ => true
  | _ => false

mutual

def printed (follows : Bool) (depth : Nat) : Item → List Segment
  | .node keyword items =>
    Segment.comma follows ++ Segment.newLine depth ++
      .text (keyword ++ "[") :: printedAll false (depth + 1) items ++ [.text "]"]
  | .text content => Segment.comma follows ++ [.text (String.ofList (Text.quoted content.toList))]
  | .token content => Segment.comma follows ++ [.text content]
  | .group items => printedAll true (depth + 1) items

def printedAll (follows : Bool) (depth : Nat) : List Item → List Segment
  | [] => []
  | item :: rest => printed follows depth item ++ printedAll (follows || !item.isGroup) depth rest

end

end Item

/-- Behind another value only a comma is added to an item that is no group. -/
theorem Item.printed_true {item : Item} (single : ¬ item.isGroup) (depth : Nat) :
    item.printed true depth = .text "," :: item.printed false depth := by
  cases item with
  | group items => simp [isGroup] at single
  | _ => simp [printed, Segment.comma]

def Level.follows : List Level → Bool
  | [] => false
  | level :: _ => level.hasValues

theorem Level.comma_eq (levels : List Level) : comma levels = Segment.comma (follows levels) := by
  cases levels <;> rfl

theorem Level.lineBreak_eq (levels : List Level) :
    lineBreak levels = Segment.newLine levels.length := by
  cases levels <;> rfl

/-- The steps of an item write what it prints, and leave a value in the innermost level unless they
are those of a group. -/
structure Item.Prints (item : Item) : Prop where
  segments : ∀ levels, Step.segmentsOfAll levels item.steps =
    item.printed (Level.follows levels) levels.length
  levels : ∀ levels, Step.levelsAfterAll levels item.steps =
    if item.isGroup then levels else Level.withValue levels

namespace Item

theorem printsAll {items : List Item} (each : ∀ item ∈ items, item.Prints) (level : Level)
    (outer : List Level) :
    Step.segmentsOfAll (level :: outer) (stepsOfAll items) =
        printedAll level.hasValues (outer.length + 1) items ∧
      (Step.levelsAfterAll (level :: outer) (stepsOfAll items)).tail = outer := by
  induction items generalizing level with
  | nil => exact ⟨rfl, rfl⟩
  | cons item rest ih =>
    have head := each item (by simp)
    -- An item marks the innermost level unless it is a group, and leaves the outer ones alone.
    have after : ∃ next : Level, next.hasValues = (level.hasValues || !item.isGroup) ∧
        Step.levelsAfterAll (level :: outer) item.steps = next :: outer := by
      rw [head.levels]
      cases item.isGroup
      · exact ⟨_, by simp, rfl⟩
      · exact ⟨level, by simp, rfl⟩
    obtain ⟨next, hasValues, same⟩ := after
    obtain ⟨segments, levels⟩ := ih (fun other member => each other (by simp [member])) next
    rw [stepsOfAll, Step.segmentsOfAll_append, Step.levelsAfterAll_append, same, head.segments,
      segments, hasValues]
    exact ⟨rfl, levels⟩

-- Closing a node or a group leaves the levels around it as they were when it was opened, whatever
-- its items have done to the innermost one.
theorem prints (item : Item) : item.Prints := by
  induction item with
  | node keyword items ih =>
    constructor
    · intro levels
      obtain ⟨segments, -⟩ := printsAll ih ⟨false, false⟩ (Level.withValue levels)
      simp [steps, Step.segmentsOfAll, Step.segments, Step.levelsAfter, Step.segmentsOfAll_append,
        printed, Level.comma_eq, Level.lineBreak_eq, segments]
    · intro levels
      obtain ⟨-, after⟩ := printsAll ih ⟨false, false⟩ (Level.withValue levels)
      simp [steps, Step.levelsAfter, Step.levelsAfterAll_append, isGroup, after]
  | text content =>
    constructor <;> intro levels <;>
      simp [steps, Step.segmentsOfAll, Step.segments, Step.levelsAfter, printed, isGroup,
        Level.comma_eq]
  | token content =>
    constructor <;> intro levels <;>
      simp [steps, Step.segmentsOfAll, Step.segments, Step.levelsAfter, printed, isGroup,
        Level.comma_eq]
  | group items ih =>
    constructor
    · intro levels
      obtain ⟨segments, -⟩ := printsAll ih ⟨true, true⟩ levels
      simp [steps, Step.segmentsOfAll, Step.segments, Step.levelsAfter, Step.segmentsOfAll_append,
        printed, segments]
    · intro levels
      obtain ⟨-, after⟩ := printsAll ih ⟨true, true⟩ levels
      simp [steps, Step.levelsAfter, Step.levelsAfterAll_append, isGroup, after]

theorem write_eq_printed (layout : Layout) (item : Item) :
    item.write layout = Segment.fillAll layout (item.printed false 0) := by
  rw [write_eq, item.prints.segments]
  rfl

end Item

end CrsText
