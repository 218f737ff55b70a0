import CrsText.Proofs.Wkt.Lexeme
import CrsText.Proofs.Wkt.Printing
import CrsText.Proofs.Wkt.Tree
import Mathlib.Data.List.Infix

/-! The brackets of a well-known text, counted outside of what stands between quotes. The text of a
node closes every bracket that it opens, and the outermost one only at its end.
-/

set_option autoImplicit false

namespace CrsText

namespace Brackets

/-- The open brackets, and whether a text between quotes has begun. -/
structure State where
  depth : Int
  inText : Bool
  deriving DecidableEq, Repr

def start : State := ⟨0, false⟩

-- A quote that is written twice ends a text and begins it again at once. No bracket stands between
-- the two, so the text might as well go on.
def step (state : State) (c : Char) : State :=
  if c = '"' then { state with inText := !state.inText }
  else if state.inText then state
  else if c = '[' then { state with depth := state.depth + 1 }
  else if c = ']' then { state with depth := state.depth - 1 }
  else state

def scan (state : State) (text : List Char) : State := text.foldl step state

def depth (text : List Char) : Int := (scan start text).depth

/-- No bracket is closed without being open, no text between quotes is left open, and the last
character is the one that closes the last open bracket. -/
structure Balanced (text : List Char) : Prop where
  notEmpty : text ≠ []
  nonneg : ∀ front, front <+: text → 0 ≤ depth front
  closes : ∀ front c back, text = front ++ c :: back →
    ((depth front ≠ 0 ∧ depth (front ++ [c]) = 0) ↔ back = [])
  quoted : (scan start text).inText = false

def Unmarked (text : List Char) : Prop := ∀ c ∈ text, c ≠ '"' ∧ c ≠ '[' ∧ c ≠ ']'

/-- From the given state on, at least so many brackets are open. -/
def Above (floor : Int) (state : State) (text : List Char) : Prop :=
  ∀ front, front <+: text → floor ≤ (scan state front).depth

/-- Between values the text can stand at any depth: it returns there and never falls below. -/
structure Neutral (text : List Char) : Prop where
  returns : ∀ depth, scan ⟨depth, false⟩ text = ⟨depth, false⟩
  above : ∀ depth, Above depth ⟨depth, false⟩ text

variable {state : State} {floor : Int} {text other : List Char}

@[simp] theorem scan_nil : scan state [] = state := rfl

@[simp] theorem scan_cons (c : Char) : scan state (c :: text) = scan (step state c) text := rfl

@[simp] theorem scan_append : scan state (text ++ other) = scan (scan state text) other := by
  simp [scan]

@[simp] theorem above_nil : Above floor state [] ↔ floor ≤ state.depth := by
  simp [Above]

@[simp] theorem above_cons {c : Char} :
    Above floor state (c :: text) ↔ floor ≤ state.depth ∧ Above floor (step state c) text := by
  constructor
  · intro above
    exact ⟨above [] List.nil_prefix,
      fun front within => above (c :: front) ((List.prefix_cons_inj c).mpr within)⟩
  · rintro ⟨here, later⟩ front within
    rcases List.prefix_cons_iff.mp within with rfl | ⟨rest, rfl, behind⟩
    · exact here
    · exact later rest behind

theorem above_append :
    Above floor state (text ++ other) ↔
      Above floor state text ∧ Above floor (scan state text) other := by
  induction text generalizing state with
  | nil =>
    have here : Above floor state other → floor ≤ state.depth :=
      fun above => above [] List.nil_prefix
    simpa using here
  | cons c text ih => simp [ih, and_assoc]

-- Where no mark stands, nothing changes.
theorem step_unmarked {c : Char} (free : c ≠ '"' ∧ c ≠ '[' ∧ c ≠ ']') : step state c = state := by
  simp [step, free]

theorem Unmarked.scan (unmarked : Unmarked text) : scan state text = state := by
  induction text with
  | nil => rfl
  | cons c text ih =>
    have rest : Unmarked text := fun other member => unmarked other (List.mem_cons_of_mem c member)
    rw [scan_cons, step_unmarked (unmarked c (by simp)), ih rest]

theorem Unmarked.of_prefix (unmarked : Unmarked text) (within : other <+: text) :
    Unmarked other := fun c member => unmarked c (within.subset member)

theorem Unmarked.neutral (unmarked : Unmarked text) : Neutral text where
  returns _ := unmarked.scan
  above depth front within := by rw [(unmarked.of_prefix within).scan]

namespace Neutral

theorem nil : Neutral [] := ⟨fun _ => rfl, fun _ => by simp⟩

theorem append (front : Neutral text) (back : Neutral other) : Neutral (text ++ other) where
  returns depth := by rw [scan_append, front.returns, back.returns]
  above depth := by
    rw [above_append, front.returns]
    exact ⟨front.above depth, back.above depth⟩

theorem comma : Neutral [','] := Unmarked.neutral (by simp [Unmarked])

end Neutral

theorem scan_doubleQuotes (depth : Int) (content : List Char) :
    scan ⟨depth, true⟩ (Text.doubleQuotes content) = ⟨depth, true⟩ := by
  induction content with
  | nil => rfl
  | cons c content ih =>
    by_cases quote : c = '"' <;> simpa [Text.doubleQuotes, quote, step] using ih

theorem above_doubleQuotes (depth : Int) (content : List Char) :
    Above depth ⟨depth, true⟩ (Text.doubleQuotes content) := by
  induction content with
  | nil => simp [Text.doubleQuotes]
  | cons c content ih =>
    by_cases quote : c = '"' <;> simpa [Text.doubleQuotes, quote, step] using ih

/-- Whatever a text holds, between quotes it hides its brackets. -/
theorem Neutral.quoted (content : List Char) : Neutral (Text.quoted content) where
  returns depth := by simp [Text.quoted, step, scan_doubleQuotes]
  above depth := by
    simp [Text.quoted, step, above_append, above_doubleQuotes, scan_doubleQuotes]

section Node

variable {keyword inside : List Char}

theorem Neutral.node (unmarked : Unmarked keyword) (neutral : Neutral inside) :
    Neutral (keyword ++ '[' :: inside ++ [']']) where
  returns depth := by simp [unmarked.scan, step, neutral.returns]
  above depth := by
    have deeper : depth ≤ depth + 1 := by omega
    have raised : Above depth ⟨depth + 1, false⟩ inside := fun front within =>
      deeper.trans (neutral.above (depth + 1) front within)
    simp [above_append, unmarked.scan, unmarked.neutral.above, step, neutral.returns, raised, deeper]

/-- Before its last bracket, a node is at depth zero only within its keyword. -/
theorem unmarked_of_depth_eq_zero (unmarked : Unmarked keyword) (neutral : Neutral inside)
    {front : List Char} (within : front <+: keyword ++ '[' :: inside) (zero : depth front = 0) :
    Unmarked front := by
  rcases List.prefix_or_prefix_of_prefix within (List.prefix_append keyword _) with early | ⟨rest, rfl⟩
  · exact unmarked.of_prefix early
  · have later : rest <+: '[' :: inside := (List.prefix_append_right_inj keyword).mp within
    rcases List.prefix_cons_iff.mp later with rfl | ⟨rest, rfl, behind⟩
    · simpa using unmarked
    · have raised : 1 ≤ (scan ⟨1, false⟩ rest).depth := neutral.above 1 rest behind
      simp [depth, unmarked.scan, start, step] at zero
      omega

theorem Balanced.node (unmarked : Unmarked keyword) (neutral : Neutral inside) :
    Balanced (keyword ++ '[' :: inside ++ [']']) where
  notEmpty := by simp
  nonneg := (Neutral.node unmarked neutral).above 0
  quoted := by rw [start, (Neutral.node unmarked neutral).returns]
  closes front c back same := by
    rcases List.eq_nil_or_concat back with rfl | ⟨between, last, rfl⟩
    · -- The closing bracket itself.
      obtain ⟨rfl, last⟩ := List.append_inj' same rfl
      obtain rfl := (List.cons.inj last).1
      have opened : depth (keyword ++ '[' :: inside) = 1 := by
        simp [depth, unmarked.scan, start, step, neutral.returns]
      have closed : depth (keyword ++ '[' :: inside ++ [']']) = 0 := by
        rw [depth, start, (Neutral.node unmarked neutral).returns]
      exact ⟨fun _ => rfl, fun _ => ⟨by simp [opened], closed⟩⟩
    · -- Any other character at depth zero stands in the keyword, where no bracket is open.
      have within : front ++ [c] <+: keyword ++ '[' :: inside := by
        have split : keyword ++ '[' :: inside ++ [']'] = (front ++ c :: between) ++ [last] := by
          simpa using same
        exact ⟨between, by simpa using (List.append_inj' split rfl).1.symm⟩
      constructor
      · rintro ⟨raised, zero⟩
        have free := unmarked_of_depth_eq_zero unmarked neutral within zero
        have flat : depth front = 0 := by
          rw [depth, (free.of_prefix (List.prefix_append front [c])).scan]
          rfl
        exact absurd flat raised
      · simp

end Node

end Brackets

open Brackets

theorem IsWord.unmarked {content : String} (word : IsWord content) : Unmarked content.toList := by
  intro c member
  have letter := word.2 c member
  simp only [IsLetter, boundaries, List.mem_cons, List.not_mem_nil, or_false, not_or] at letter
  exact ⟨letter.1, letter.2.1, letter.2.2.1⟩

namespace Segment

theorem neutral_comma (layout : Layout) (follows : Bool) :
    Neutral (fillAll layout (comma follows)).toList := by
  cases follows with
  | false => exact .nil
  | true => simpa [comma, fill] using Neutral.comma

theorem neutral_newLine {layout : Layout} (separator : Unmarked layout.separator.toList)
    (depth : Nat) : Neutral (fillAll layout (newLine depth)).toList := by
  have inset : Unmarked (layout.inset depth).toList := by
    unfold Layout.inset
    split
    · exact fun _ member => nomatch member
    · intro c member
      rw [String.toList_ofList] at member
      simp [List.eq_of_mem_replicate member]
  unfold newLine
  split
  · exact .nil
  · simpa [fill] using separator.neutral.append inset.neutral

end Segment

namespace Item

variable {layout : Layout}

theorem neutral_printedAll (layout : Layout) {items : List Item}
    (each : ∀ item ∈ items, ∀ follows depth,
      Neutral (Segment.fillAll layout (item.printed follows depth)).toList)
    (follows : Bool) (depth : Nat) :
    Neutral (Segment.fillAll layout (printedAll follows depth items)).toList := by
  induction items generalizing follows with
  | nil => exact .nil
  | cons item rest ih =>
    have head := each item (by simp) follows depth
    have others := ih (fun other member => each other (by simp [member]))
    simpa [printedAll] using head.append (others (follows || !item.isGroup))

/-- In any place of a text, an item leaves the brackets as they are. -/
theorem neutral_printed (separator : Unmarked layout.separator.toList) {item : Item}
    (uses : ∀ tree ∈ item.trees, tree.Uses (Unmarked ·.toList) (Neutral ·.toList))
    (follows : Bool) (depth : Nat) :
    Neutral (Segment.fillAll layout (item.printed follows depth)).toList := by
  induction item generalizing follows depth with
  | node keyword items ih =>
    cases uses _ (List.mem_singleton_self _) with
    | node unmarked within =>
      have inside := neutral_printedAll layout
        (fun item member => ih item member (uses_of_mem within member)) false (depth + 1)
      have whole := (Segment.neutral_comma layout follows).append
        ((Segment.neutral_newLine separator depth).append (inside.node unmarked))
      simpa [printed, Segment.fill] using whole
  | text content =>
    simpa [printed, Segment.fill] using
      (Segment.neutral_comma layout follows).append (.quoted content.toList)
  | token content =>
    cases uses _ (List.mem_singleton_self _) with
    | token neutral =>
      simpa [printed, Segment.fill] using (Segment.neutral_comma layout follows).append neutral
  | group items ih =>
    exact neutral_printedAll layout (fun item member => ih item member (uses_of_mem uses member)) true
      (depth + 1)

/-- The text of a node is balanced if its keywords are free of marks and its tokens leave the
brackets as they are. -/
theorem balanced_write (separator : Unmarked layout.separator.toList) {keyword : String}
    {items : List Item}
    (uses : ∀ tree ∈ (node keyword items).trees, tree.Uses (Unmarked ·.toList) (Neutral ·.toList)) :
    Balanced ((node keyword items).write layout).toList := by
  cases uses _ (List.mem_singleton_self _) with
  | node unmarked within =>
    have inside := neutral_printedAll layout
      (fun item member => neutral_printed separator (uses_of_mem within member)) false 1
    have whole := Balanced.node unmarked inside
    simpa [write_eq_printed, printed, Segment.comma, Segment.newLine, Segment.fill] using whole

end Item

end CrsText
