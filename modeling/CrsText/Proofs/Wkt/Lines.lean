import CrsText.Proofs.Wkt.Segment
import Mathlib.Data.List.Basic

/-! A text cut at its line breaks. Each piece after the first one begins where a node is opened inside
another one, and its depth is the number of levels that are open there.
-/

set_option autoImplicit false

namespace CrsText

/-- What stands between one line break and the next, or the end. -/
structure Piece where
  /-- The levels that are open at the line break. -/
  depth : Nat
  text : String
  deriving DecidableEq, Repr

structure Lines where
  first : String
  rest : List Piece
  deriving DecidableEq, Repr

namespace Lines

def fill (layout : Layout) (lines : Lines) : String :=
  lines.first ++
    String.join (lines.rest.map fun piece =>
      layout.separator ++ layout.inset piece.depth ++ piece.text)

def ofSegments : List Segment → Lines
  | [] => ⟨"", []⟩
  | .text content :: rest => { ofSegments rest with first := content ++ (ofSegments rest).first }
  | .lineBreak depth :: rest => ⟨"", ⟨depth, (ofSegments rest).first⟩ :: (ofSegments rest).rest⟩

theorem fill_ofSegments (layout : Layout) (segments : List Segment) :
    (ofSegments segments).fill layout = Segment.fillAll layout segments := by
  induction segments with
  | nil => simp [fill, ofSegments]
  | cons segment rest ih =>
    rw [Segment.fillAll_cons, ← ih]
    cases segment <;> simp [fill, ofSegments, Segment.fill, String.append_assoc]

theorem fill_singleLine (lines : Lines) :
    lines.fill .singleLine = lines.first ++ String.join (lines.rest.map (·.text)) := by
  simp [fill, Layout.singleLine, Layout.inset]

/-- In front of the piece at an index stand exactly the pieces before it. -/
theorem exists_lineBreak {segments : List Segment} {index : Nat} {piece : Piece}
    (selected : (ofSegments segments).rest[index]? = some piece) :
    ∃ before after, segments = before ++ .lineBreak piece.depth :: after ∧
      piece.text = (ofSegments after).first ∧
      ofSegments before = ⟨(ofSegments segments).first, (ofSegments segments).rest.take index⟩ := by
  induction segments generalizing index with
  | nil => simp [ofSegments] at selected
  | cons segment rest ih =>
    cases segment with
    | text content =>
      obtain ⟨before, after, split, text, front⟩ := ih selected
      exact ⟨.text content :: before, after, by rw [split, List.cons_append], text,
        by simp [ofSegments, front]⟩
    | lineBreak depth =>
      cases index with
      | zero =>
        obtain rfl : ⟨depth, (ofSegments rest).first⟩ = piece := by simpa [ofSegments] using selected
        exact ⟨[], rest, rfl, rfl, rfl⟩
      | succ index =>
        obtain ⟨before, after, split, text, front⟩ := ih (by simpa [ofSegments] using selected)
        exact ⟨.lineBreak depth :: before, after, by rw [split, List.cons_append], text,
          by simp [ofSegments, front]⟩

end Lines

/-- An element of two lists in a row lies in the second one or in the first one. -/
private theorem split_append {α : Type} {front back before after : List α} {middle : α}
    (split : front ++ back = before ++ middle :: after) :
    (∃ between, before = front ++ between ∧ back = between ++ middle :: after) ∨
      ∃ between, front = before ++ middle :: between ∧ after = between ++ back := by
  rcases List.append_eq_append_iff.mp split with later | ⟨between, same, rest⟩
  · exact .inl later
  · cases between with
    | nil => exact .inl ⟨[], by simpa using same.symm, rest.symm⟩
    | cons first between =>
      obtain ⟨rfl, remaining⟩ := List.cons.inj rest
      exact .inr ⟨between, same, remaining⟩

namespace Step

/-- Only a node that is opened inside another one stands on a new line. -/
theorem segments_eq_of_lineBreak {levels : List Level} {step : Step} {before after : List Segment}
    {depth : Nat} (split : step.segments levels = before ++ .lineBreak depth :: after) :
    ∃ keyword, step = .openNode keyword ∧ before = Level.comma levels ∧ depth = levels.length ∧
      after = [.text (keyword ++ "[")] := by
  have absent : Segment.lineBreak depth ∉ Level.comma levels := by
    cases levels with
    | nil => simp [Level.comma]
    | cons level outer => cases level.hasValues <;> simp [Level.comma]
  have member : Segment.lineBreak depth ∈ step.segments levels := by simp [split]
  cases step with
  | openNode keyword =>
    cases levels with
    | nil => simp [segments, Level.comma, Level.lineBreak] at member
    | cons level outer =>
      have parts : Level.comma (level :: outer) ++
          .lineBreak (outer.length + 1) :: [.text (keyword ++ "[")] =
          before ++ .lineBreak depth :: after := by
        rw [← split]
        simp [segments, Level.lineBreak]
      obtain ⟨front, same, back⟩ := (List.append_cons_inj_of_notMem absent (by simp)).mp parts
      exact ⟨keyword, rfl, front.symm, (Segment.lineBreak.inj same).symm, back.symm⟩
  | closeNode => simp [segments] at member
  | openGroup => simp [segments] at member
  | closeGroup => simp [segments] at member
  | text content => simp [segments, absent] at member
  | token content => simp [segments, absent] at member

/-- A line break in the text of some steps comes from a step that opens a node, and stands behind
what the steps before it have written and the comma. -/
theorem exists_openNode {levels : List Level} {steps : List Step} {before after : List Segment}
    {depth : Nat} (split : segmentsOfAll levels steps = before ++ .lineBreak depth :: after) :
    ∃ done keyword todo, steps = done ++ .openNode keyword :: todo ∧
      depth = (levelsAfterAll levels done).length ∧
      before = segmentsOfAll levels done ++ Level.comma (levelsAfterAll levels done) ∧
      ∃ others, after = .text (keyword ++ "[") :: others := by
  induction steps generalizing levels before with
  | nil => simp [segmentsOfAll] at split
  | cons step rest ih =>
    -- The line break comes from a later step or from this one.
    rcases split_append split with ⟨between, front, later⟩ | ⟨between, here, back⟩
    · obtain ⟨done, keyword, todo, same, deep, written, tail⟩ := ih later
      refine ⟨step :: done, keyword, todo, by rw [same, List.cons_append], deep, ?_, tail⟩
      rw [front, written, segmentsOfAll, List.append_assoc, levelsAfterAll_cons]
    · obtain ⟨keyword, rfl, written, deep, tail⟩ := segments_eq_of_lineBreak here
      exact ⟨[], keyword, rest, rfl, deep, written, _, by rw [back, tail, List.singleton_append]⟩

end Step

/-- The steps open the node of the given keyword within the levels that lie outside the piece, after
they have written everything in front of it. -/
structure Piece.Opens (steps : List Step) (lines : Lines) (index : Nat) (piece : Piece)
    (keyword : String) : Prop where
  text : ∃ content, piece.text = keyword ++ "[" ++ content
  step : ∃ done todo, steps = done ++ .openNode keyword :: todo ∧
    ∀ layout : Layout, (Draft.run { layout } done).levels.length = piece.depth ∧
      (Draft.run { layout } done).comma.text =
        Lines.fill layout { lines with rest := lines.rest.take index }

theorem Lines.opens_of_steps {steps : List Step} {index : Nat} {piece : Piece}
    (selected : (ofSegments (Step.segmentsOfAll [] steps)).rest[index]? = some piece) :
    ∃ keyword, piece.Opens steps (ofSegments (Step.segmentsOfAll [] steps)) index keyword := by
  obtain ⟨before, after, split, text, front⟩ := exists_lineBreak selected
  obtain ⟨done, keyword, todo, same, deep, written, others, tail⟩ := Step.exists_openNode split
  refine ⟨keyword, ⟨(ofSegments others).first, ?_⟩, done, todo, same, ?_⟩
  · rw [text, tail, ofSegments]
  · intro layout
    constructor
    · rw [Draft.run_eq, deep]
    · rw [← front, fill_ofSegments, written]
      simp [Draft.comma_eq, Draft.run_eq]

end CrsText
