import CrsText.Proofs.Wkt.Lines
import CrsText.Proofs.Wkt.Printing
import CrsText.Proofs.Wkt.Tree

/-! A node inside of other nodes. It is written as on its own, only that every node in it begins as
many levels deeper as are open around it.
-/

set_option autoImplicit false

namespace CrsText

namespace Segment

def deeper (extra : Nat) : Segment → Segment
  | .text content => .text content
  | .lineBreak depth => .lineBreak (depth + extra)

theorem comma_deeper (extra : Nat) (follows : Bool) :
    (comma follows).map (deeper extra) = comma follows := by
  cases follows <;> rfl

theorem newLine_deeper (extra : Nat) {depth : Nat} (inside : 0 < depth) :
    (newLine depth).map (deeper extra) = newLine (depth + extra) := by
  obtain ⟨depth, rfl⟩ := Nat.exists_eq_add_one.mpr inside
  simp [newLine, deeper]

end Segment

namespace Lines

def deeper (extra : Nat) (lines : Lines) : Lines :=
  { lines with rest := lines.rest.map fun piece => { piece with depth := piece.depth + extra } }

/-- The text of the lines where some levels are open. -/
def nested (layout : Layout) : Nat → Lines → String
  | 0, lines => lines.fill layout
  | depth + 1, lines =>
    layout.separator ++ layout.inset (depth + 1) ++ (lines.deeper (depth + 1)).fill layout

theorem ofSegments_deeper (extra : Nat) (segments : List Segment) :
    ofSegments (segments.map (Segment.deeper extra)) = (ofSegments segments).deeper extra := by
  induction segments with
  | nil => rfl
  | cons segment rest ih => cases segment <;> simp [ofSegments, Segment.deeper, deeper, ih]

theorem nested_eq_fillAll (layout : Layout) (depth : Nat) (segments : List Segment) :
    (ofSegments segments).nested layout depth =
      Segment.fillAll layout (Segment.newLine depth ++ segments.map (Segment.deeper depth)) := by
  cases depth with
  | zero =>
    have same : ∀ segment, Segment.deeper 0 segment = segment := by
      intro segment
      cases segment <;> rfl
    simp [nested, fill_ofSegments, Segment.newLine, funext same]
  | succ depth =>
    simp [nested, ← ofSegments_deeper, fill_ofSegments, Segment.newLine, Segment.fill]

/-- On a single line nothing shows how deep the lines are. -/
theorem nested_singleLine (depth : Nat) (lines : Lines) :
    lines.nested .singleLine depth = lines.fill .singleLine := by
  cases depth with
  | zero => rfl
  | succ depth =>
    have blank : Layout.singleLine.separator ++ Layout.singleLine.inset (depth + 1) = "" := rfl
    simp [nested, blank, fill_singleLine, deeper, Function.comp_def]

end Lines

namespace Item

def lines (item : Item) : Lines := Lines.ofSegments (item.printed false 0)

theorem write_eq_fill (layout : Layout) (item : Item) : item.write layout = item.lines.fill layout := by
  rw [write_eq_printed, lines, Lines.fill_ofSegments]

/-- The items print the same within a node, whatever the number of open levels, except for the depth of
their line breaks. -/
theorem printedAll_deeper {items : List Item} {extra : Nat}
    (each : ∀ item ∈ items, ∀ (follows : Bool) (depth : Nat), 0 < depth →
      (item.printed follows depth).map (Segment.deeper extra) = item.printed follows (depth + extra))
    (follows : Bool) {depth : Nat} (inside : 0 < depth) :
    (printedAll follows depth items).map (Segment.deeper extra) =
      printedAll follows (depth + extra) items := by
  induction items generalizing follows with
  | nil => rfl
  | cons item rest ih =>
    rw [printedAll, List.map_append, each item (by simp) follows depth inside,
      ih (fun other member => each other (by simp [member]))]
    rfl

theorem printed_deeper (item : Item) (extra : Nat) (follows : Bool) (depth : Nat) (inside : 0 < depth) :
    (item.printed follows depth).map (Segment.deeper extra) = item.printed follows (depth + extra) := by
  induction item generalizing follows depth with
  | node keyword items ih =>
    have content := printedAll_deeper ih false (Nat.succ_pos depth)
    simp [printed, Segment.comma_deeper, Segment.newLine_deeper extra inside, content,
      Segment.deeper, Nat.add_right_comm]
  | text content => simp [printed, Segment.comma_deeper, Segment.deeper]
  | token content => simp [printed, Segment.comma_deeper, Segment.deeper]
  | group items ih =>
    have content := printedAll_deeper ih true (Nat.succ_pos depth)
    simpa [printed, Nat.add_right_comm] using content

namespace IsNode

variable {item : Item} {items : List Item}

theorem printed_eq (node : item.IsNode) (depth : Nat) :
    item.printed false depth =
      Segment.newLine depth ++ (item.printed false 0).map (Segment.deeper depth) := by
  obtain ⟨keyword, items, rfl⟩ := node
  have content : (printedAll false 1 items).map (Segment.deeper depth) =
      printedAll false (1 + depth) items :=
    printedAll_deeper (fun item _ => printed_deeper item depth) false Nat.one_pos
  simp [printed, Segment.comma, Segment.newLine, Segment.deeper, content, Nat.add_comm]

theorem fillAll_printed (node : item.IsNode) (layout : Layout) (depth : Nat) :
    Segment.fillAll layout (item.printed false depth) = item.lines.nested layout depth := by
  rw [node.printed_eq, lines, Lines.nested_eq_fillAll]

theorem not_isGroup (node : item.IsNode) : ¬ item.isGroup := by
  obtain ⟨keyword, items, rfl⟩ := node
  simp [isGroup]

end IsNode

theorem fillAll_printedAll_nodes {items : List Item} (nodes : ∀ item ∈ items, item.IsNode)
    (layout : Layout) (depth : Nat) :
    Segment.fillAll layout (printedAll true depth items) =
      String.join (items.map fun item => "," ++ item.lines.nested layout depth) := by
  induction items with
  | nil => rfl
  | cons item rest ih =>
    have node := nodes item (by simp)
    simp [printedAll, printed_true node.not_isGroup, node.fillAll_printed, Segment.fill,
      ih fun other member => nodes other (by simp [member]), String.append_assoc]

/-- A node with a name and other nodes in it. -/
theorem write_named (layout : Layout) (keyword name : String) {items : List Item}
    (nodes : ∀ item ∈ items, item.IsNode) :
    (named keyword name items).write layout =
      keyword ++ "[" ++ String.ofList (Text.quoted name.toList) ++
        String.join (items.map fun item => "," ++ item.lines.nested layout 1) ++ "]" := by
  simp [write_eq_printed, named, printed, printedAll, Segment.comma, Segment.newLine, Segment.fill,
    isGroup, fillAll_printedAll_nodes nodes, String.append_assoc]

/-- Whatever levels are open around the outer item, what it prints contains what the inner one prints
with so many more levels open. -/
def Contains (outer inner : Item) (depth : Nat) : Prop :=
  ∀ around, ∃ before after,
    outer.printed false around = before ++ inner.printed false (around + depth) ++ after

namespace Contains

variable {outer inner middle : Item} {depth more : Nat}

theorem refl (item : Item) : item.Contains item 0 := fun _ => ⟨[], [], by simp⟩

theorem trans (first : outer.Contains middle depth) (second : middle.Contains inner more) :
    outer.Contains inner (depth + more) := by
  intro around
  obtain ⟨before, after, split⟩ := first around
  obtain ⟨left, right, inside⟩ := second (around + depth)
  exact ⟨before ++ left, right ++ after, by simp [split, inside, Nat.add_assoc]⟩

theorem printedAll {item : Item} {items : List Item} (member : item ∈ items) (node : item.IsNode)
    (follows : Bool) (depth : Nat) :
    ∃ before after, Item.printedAll follows depth items =
      before ++ item.printed false depth ++ after := by
  induction items generalizing follows with
  | nil => cases member
  | cons first rest ih =>
    rcases List.mem_cons.mp member with rfl | member
    · cases follows with
      | false => exact ⟨[], _, rfl⟩
      | true => exact ⟨[.text ","], _, by rw [Item.printedAll, printed_true node.not_isGroup]; rfl⟩
    · obtain ⟨before, after, split⟩ := ih member (follows || !first.isGroup)
      exact ⟨first.printed follows depth ++ before, after, by simp [Item.printedAll, split]⟩

theorem of_mem {keyword : String} {items : List Item} {item : Item} (member : item ∈ items)
    (node : item.IsNode) : (Item.node keyword items).Contains item 1 := by
  intro around
  obtain ⟨before, after, split⟩ := printedAll member node false (around + 1)
  refine ⟨Segment.newLine around ++ .text (keyword ++ "[") :: before, after ++ [.text "]"], ?_⟩
  simp [printed, Segment.comma, split]

/-- The text of the outer item contains the lines of the inner node, that much deeper. -/
theorem exists_write (contains : outer.Contains inner depth) (node : inner.IsNode) (layout : Layout) :
    ∃ before after, outer.write layout = before ++ inner.lines.nested layout depth ++ after := by
  obtain ⟨before, after, split⟩ := contains 0
  refine ⟨Segment.fillAll layout before, Segment.fillAll layout after, ?_⟩
  rw [write_eq_printed, split, Segment.fillAll_append, Segment.fillAll_append, Nat.zero_add,
    node.fillAll_printed]

end Contains

end Item

end CrsText
