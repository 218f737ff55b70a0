import CrsText.Proofs.Wkt.Printing
import CrsText.Proofs.Wkt.Tree

/-! A document rendered from its items alone, without levels and flags: every node joins the texts of
what stands in it by commas. A draft writes the same text if no node begins with a group.
-/

set_option autoImplicit false

namespace CrsText

/-- What stands in front of a node with some levels around it. -/
def Layout.lead (layout : Layout) (depth : Nat) : String :=
  if depth = 0 then "" else layout.separator ++ layout.inset depth

namespace Item

def quotation (content : String) : String :=
  "\"" ++ String.ofList (content.toList.flatMap fun c => if c = '"' then ['"', '"'] else [c]) ++ "\""

mutual

/-- The texts that an item adds to those around it. A group adds those of its items, each of them one
level deeper. -/
def texts (layout : Layout) (depth : Nat) : Item → List String
  | .node keyword items =>
    [layout.lead depth ++ keyword ++ "[" ++ ",".intercalate (textsOfAll layout (depth + 1) items) ++ "]"]
  | .text content => [quotation content]
  | .token content => [content]
  | .group items => textsOfAll layout (depth + 1) items

def textsOfAll (layout : Layout) (depth : Nat) : List Item → List String
  | [] => []
  | item :: rest => texts layout depth item ++ textsOfAll layout depth rest

end

def render (layout : Layout) (item : Item) : String := ",".intercalate (item.texts layout 0)

end Item

theorem intercalate_comma (first : String) (rest : List String) :
    ",".intercalate (first :: rest) = first ++ String.join (rest.map ("," ++ ·)) := by
  induction rest generalizing first with
  | nil => simp
  | cons second rest ih => simp [ih, String.append_assoc]

theorem Layout.lead_eq (layout : Layout) (depth : Nat) :
    layout.lead depth = Segment.fillAll layout (Segment.newLine depth) := by
  rw [lead, Segment.newLine]
  split
  · rfl
  · simp [Segment.fill]

theorem Text.doubleQuotes_eq_flatMap (text : List Char) :
    doubleQuotes text = text.flatMap fun c => if c = '"' then ['"', '"'] else [c] := by
  induction text with
  | nil => rfl
  | cons c rest ih => by_cases quote : c = '"' <;> simp [doubleQuotes, ih, quote]

theorem Item.quotation_eq (content : String) :
    quotation content = String.ofList (Text.quoted content.toList) := by
  apply String.toList_inj.mp
  simp [quotation, Text.quoted, Text.doubleQuotes_eq_flatMap]

/-- What an item adds behind other values is its texts, each behind a comma. -/
def Item.Joins (layout : Layout) (item : Item) : Prop :=
  ∀ depth, Segment.fillAll layout (item.printed true depth) =
    String.join ((item.texts layout depth).map ("," ++ ·))

namespace Item

variable {layout : Layout}

theorem joinsAll {items : List Item} (each : ∀ item ∈ items, item.Joins layout) (depth : Nat) :
    Segment.fillAll layout (printedAll true depth items) =
      String.join ((textsOfAll layout depth items).map ("," ++ ·)) := by
  induction items with
  | nil => rfl
  | cons item rest ih =>
    rw [printedAll, textsOfAll, Segment.fillAll_append, each item (by simp), Bool.true_or,
      ih fun other member => each other (by simp [member]), List.map_append, String.join_append]

/-- An item that is no group has a single text, which is what it prints in front. -/
theorem Joins.texts_eq {item : Item} (joins : item.Joins layout) (single : ¬ item.isGroup) (depth : Nat) :
    item.texts layout depth = [Segment.fillAll layout (item.printed false depth)] := by
  obtain ⟨text, same⟩ : ∃ text, item.texts layout depth = [text] := by
    cases item with
    | group items => exact absurd rfl single
    | _ => exact ⟨_, rfl⟩
  have behind : "," ++ Segment.fillAll layout (item.printed false depth) = "," ++ text := by
    simpa [printed_true single, same, Segment.fill] using joins depth
  rw [same, (String.append_right_inj ",").mp behind]

/-- The items of a node are joined by commas, since the first of them is no group. -/
theorem fillAll_printedAll_false {items : List Item} (each : ∀ item ∈ items, item.Joins layout)
    (front : ∀ inner rest, items ≠ .group inner :: rest) (depth : Nat) :
    Segment.fillAll layout (printedAll false depth items) =
      ",".intercalate (textsOfAll layout depth items) := by
  cases items with
  | nil => rfl
  | cons first rest =>
    have single : ¬ first.isGroup := by
      intro group
      cases first with
      | group inner => exact front inner rest rfl
      | _ => cases group
    have later := joinsAll (fun item member => each item (List.mem_cons_of_mem first member)) depth
    rw [textsOfAll, (each first List.mem_cons_self).texts_eq single, List.singleton_append,
      intercalate_comma, ← later]
    simp [printedAll, single]

theorem Placed.joins {item : Item} (placed : item.Placed) : item.Joins layout := by
  induction placed with
  | @node keyword items front _ ih =>
    intro depth
    have inside := fillAll_printedAll_false ih front (depth + 1)
    simp [printed, texts, Segment.comma, Segment.fill, Layout.lead_eq, inside, String.append_assoc]
  | text =>
    intro depth
    simp [printed, texts, Segment.comma, Segment.fill, quotation_eq]
  | token =>
    intro depth
    simp [printed, texts, Segment.comma, Segment.fill]
  | group _ ih =>
    intro depth
    exact joinsAll ih (depth + 1)

/-- The steps of a document, taken by a fresh draft, leave the rendered text and no open level. -/
theorem run_eq_render {item : Item} (node : item.IsNode) (placed : item.Placed) (layout : Layout) :
    Draft.run { layout } item.steps = { layout, text := item.render layout, levels := [] } := by
  have single : ¬ item.isGroup := by
    obtain ⟨keyword, items, rfl⟩ := node
    exact Bool.false_ne_true
  have text : Segment.fillAll layout (Step.segmentsOfAll [] item.steps) = item.render layout := by
    rw [item.prints.segments, render, (placed.joins).texts_eq single, String.intercalate_singleton]
    rfl
  have levels : Step.levelsAfterAll [] item.steps = [] := by
    rw [item.prints.levels, if_neg single]
    rfl
  rw [Draft.run_eq, text, levels, String.empty_append]

theorem run_eq_render_axes :
    let document : Item := .node "CRS" [.text "say \"hi\"", .node "CS" [.token "Cartesian"],
      .group [.node "AXIS" [], .node "AXIS" [.token "1"]], .node "ID" []]
    document.IsNode ∧ document.Placed ∧
      Draft.run { layout := ⟨"\r\n"⟩ } document.steps =
        { layout := ⟨"\r\n"⟩
          text := "CRS[\"say \"\"hi\"\"\",\r\n    CS[Cartesian],\r\n        AXIS[],\r\n" ++
            "        AXIS[1],\r\n    ID[]]"
          levels := [] } := by
  intro document
  have node : document.IsNode := ⟨_, _, rfl⟩
  have leaf : ∀ keyword, (Item.node keyword []).Placed := fun _ => .node (by simp) (by simp)
  have single : ∀ keyword token, (Item.node keyword [.token token]).Placed := fun _ _ =>
    .node (by simp) (by simpa using .token)
  have axes : (Item.group [.node "AXIS" [], .node "AXIS" [.token "1"]]).Placed :=
    .group (by simpa using ⟨leaf "AXIS", single "AXIS" "1"⟩)
  have placed : document.Placed :=
    .node (by simp) (by simpa using ⟨.text, single "CS" "Cartesian", axes, leaf "ID"⟩)
  refine ⟨node, placed, ?_⟩
  rw [run_eq_render node placed]
  rfl

end Item

end CrsText
