import CrsText.Wkt.Draft

/-! What each step of a draft writes. It depends on the open levels alone, so a text is a list of
segments in which the layout only fills the line breaks.
-/

set_option autoImplicit false

namespace CrsText

/-- Four spaces for each open level, but nothing where the separator is empty. -/
def Layout.inset (layout : Layout) (depth : Nat) : String :=
  if layout.separator = "" then "" else String.ofList (List.replicate (4 * depth) ' ')

theorem Layout.indentation_eq_inset (layout : Layout) (depth : Nat) :
    layout.indentation depth = layout.inset depth := by
  by_cases blank : layout.separator = ""
  · simp [indentation, isMultiline, inset, blank]
  · simp [indentation, isMultiline, indentWidth, inset, blank]

inductive Segment where
  | text (content : String)
  | lineBreak (depth : Nat)
  deriving DecidableEq, Repr

namespace Segment

def fill (layout : Layout) : Segment → String
  | .text content => content
  | .lineBreak depth => layout.separator ++ layout.inset depth

def fillAll (layout : Layout) (segments : List Segment) : String :=
  String.join (segments.map (fill layout))

variable (layout : Layout)

@[simp] theorem fillAll_nil : fillAll layout [] = "" := String.join_nil

@[simp] theorem fillAll_cons (segment : Segment) (rest : List Segment) :
    fillAll layout (segment :: rest) = segment.fill layout ++ fillAll layout rest := by
  simp [fillAll]

@[simp] theorem fillAll_append (segments others : List Segment) :
    fillAll layout (segments ++ others) = fillAll layout segments ++ fillAll layout others := by
  simp [fillAll, String.join_append]

end Segment

namespace Level

def comma : List Level → List Segment
  | [] => []
  | level :: _ => if level.hasValues then [.text ","] else []

def lineBreak : List Level → List Segment
  | [] => []
  | levels => [.lineBreak levels.length]

def withValue : List Level → List Level
  | [] => []
  | level :: outer => { level with hasValues := true } :: outer

@[simp] theorem length_withValue (levels : List Level) :
    (withValue levels).length = levels.length := by
  cases levels <;> rfl

theorem lineBreak_withValue (levels : List Level) : lineBreak (withValue levels) = lineBreak levels := by
  cases levels <;> rfl

end Level

namespace Step

def segments (levels : List Level) : Step → List Segment
  | .openNode keyword => Level.comma levels ++ Level.lineBreak levels ++ [.text (keyword ++ "[")]
  | .closeNode => [.text "]"]
  | .openGroup => []
  | .closeGroup => []
  | .text content => Level.comma levels ++ [.text (String.ofList (Text.quoted content.toList))]
  | .token content => Level.comma levels ++ [.text content]

def levelsAfter (levels : List Level) : Step → List Level
  | .openNode _ => ⟨false, false⟩ :: Level.withValue levels
  | .closeNode => levels.tail
  | .openGroup => ⟨true, true⟩ :: levels
  | .closeGroup => levels.tail
  | .text _ => Level.withValue levels
  | .token _ => Level.withValue levels

def segmentsOfAll (levels : List Level) : List Step → List Segment
  | [] => []
  | step :: rest => step.segments levels ++ segmentsOfAll (step.levelsAfter levels) rest

def levelsAfterAll (levels : List Level) (steps : List Step) : List Level :=
  steps.foldl levelsAfter levels

@[simp] theorem levelsAfterAll_nil (levels : List Level) : levelsAfterAll levels [] = levels := rfl

@[simp] theorem levelsAfterAll_cons (levels : List Level) (step : Step) (rest : List Step) :
    levelsAfterAll levels (step :: rest) = levelsAfterAll (step.levelsAfter levels) rest := rfl

theorem levelsAfterAll_append (levels : List Level) (steps others : List Step) :
    levelsAfterAll levels (steps ++ others) =
      levelsAfterAll (levelsAfterAll levels steps) others := by
  simp [levelsAfterAll]

theorem segmentsOfAll_append (levels : List Level) (steps others : List Step) :
    segmentsOfAll levels (steps ++ others) =
      segmentsOfAll levels steps ++ segmentsOfAll (levelsAfterAll levels steps) others := by
  induction steps generalizing levels with
  | nil => rfl
  | cons step rest ih => simp [segmentsOfAll, ih, List.append_assoc]

end Step

namespace Draft

-- Each operation appends segments that depend on the open levels alone. The text so far and the
-- layout are never looked at.
theorem comma_eq (draft : Draft) :
    draft.comma = { draft with
      text := draft.text ++ Segment.fillAll draft.layout (Level.comma draft.levels)
      levels := Level.withValue draft.levels } := by
  obtain ⟨layout, text, levels⟩ := draft
  cases levels with
  | nil => simp [comma, Level.comma, Level.withValue]
  | cons level outer =>
    cases hasValues : level.hasValues <;>
      simp [comma, Level.comma, Level.withValue, Segment.fill, hasValues]

theorem lineBreak_eq (draft : Draft) :
    draft.lineBreak = { draft with
      text := draft.text ++ Segment.fillAll draft.layout (Level.lineBreak draft.levels) } := by
  obtain ⟨layout, text, levels⟩ := draft
  cases levels <;>
    simp [lineBreak, append, Level.lineBreak, Segment.fill, Layout.indentation_eq_inset]

/-- A step extends the text by its segments, whatever the text is so far. -/
theorem step_eq (draft : Draft) (step : Step) :
    draft.step step = { draft with
      text := draft.text ++ Segment.fillAll draft.layout (step.segments draft.levels)
      levels := step.levelsAfter draft.levels } := by
  cases step <;>
    simp [Draft.step, openNode, closeNode, openGroup, closeGroup, quote, token, openLevel, closeLevel,
      append, comma_eq, lineBreak_eq, Step.segments, Step.levelsAfter, Segment.fill,
      Level.lineBreak_withValue, String.append_assoc]

theorem run_eq (draft : Draft) (steps : List Step) :
    draft.run steps = { draft with
      text := draft.text ++ Segment.fillAll draft.layout (Step.segmentsOfAll draft.levels steps)
      levels := Step.levelsAfterAll draft.levels steps } := by
  induction steps generalizing draft with
  | nil => simp [run, Step.segmentsOfAll]
  | cons step rest ih =>
    have next : draft.run (step :: rest) = (draft.step step).run rest := rfl
    rw [next, ih, step_eq]
    simp [Step.segmentsOfAll, String.append_assoc]

end Draft

theorem Item.write_eq (layout : Layout) (item : Item) :
    item.write layout = Segment.fillAll layout (Step.segmentsOfAll [] item.steps) := by
  simp [Item.write, Draft.write, Draft.run_eq]

end CrsText
