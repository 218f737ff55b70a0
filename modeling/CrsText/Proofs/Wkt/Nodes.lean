import CrsText.Proofs.Success
import CrsText.Proofs.Wkt.Rendering

/-! The nodes of an item that have a given keyword, in the order of the text. Each of them is written
within the text of the item, with as many levels around it as there are nodes and groups.
-/

set_option autoImplicit false

namespace CrsText

namespace Item

mutual

/-- The nodes with the keyword; what stands within one of them is not looked at. -/
def nodes (keyword : String) : Item → List Item
  | .node other items => if other = keyword then [.node other items] else nodesOfAll keyword items
  | .text _ => []
  | .token _ => []
  | .group items => nodesOfAll keyword items

def nodesOfAll (keyword : String) : List Item → List Item
  | [] => []
  | item :: rest => nodes keyword item ++ nodesOfAll keyword rest

end

variable {keyword : String} {α : Type}

@[simp] theorem nodesOfAll_nil : nodesOfAll keyword [] = [] := rfl

@[simp] theorem nodesOfAll_cons (item : Item) (rest : List Item) :
    nodesOfAll keyword (item :: rest) = item.nodes keyword ++ nodesOfAll keyword rest := rfl

theorem nodesOfAll_eq_flatMap (items : List Item) :
    nodesOfAll keyword items = items.flatMap (nodes keyword) := by
  induction items with
  | nil => rfl
  | cons item rest ih => simp [ih]

@[simp] theorem nodesOfAll_append (items others : List Item) :
    nodesOfAll keyword (items ++ others) = nodesOfAll keyword items ++ nodesOfAll keyword others := by
  simp [nodesOfAll_eq_flatMap]

@[simp] theorem nodes_text (content : String) : (text content).nodes keyword = [] := rfl

@[simp] theorem nodes_token (content : String) : (token content).nodes keyword = [] := rfl

@[simp] theorem nodes_group (items : List Item) :
    (group items).nodes keyword = nodesOfAll keyword items := rfl

@[simp] theorem nodes_node {other : String} (apart : other ≠ keyword) (items : List Item) :
    (node other items).nodes keyword = nodesOfAll keyword items := by
  rw [nodes, if_neg apart]

@[simp] theorem nodes_named {other : String} (apart : other ≠ keyword) (name : String)
    (items : List Item) : (named other name items).nodes keyword = nodesOfAll keyword items := by
  simp [named, apart]

@[simp] theorem nodes_self (items : List Item) :
    (node keyword items).nodes keyword = [.node keyword items] := by
  rw [nodes, if_pos rfl]

@[simp] theorem nodes_named_self (name : String) (items : List Item) :
    (named keyword name items).nodes keyword = [named keyword name items] := nodes_self _

theorem nodesOfAll_map {write : α → Item} {values : List α} {found : α → List Item}
    (each : ∀ value ∈ values, (write value).nodes keyword = found value) :
    nodesOfAll keyword (values.map write) = values.flatMap found := by
  induction values with
  | nil => rfl
  | cons value rest ih =>
    rw [List.map_cons, nodesOfAll_cons, List.flatMap_cons, each value (.head _),
      ih fun other member => each other (.tail _ member)]

theorem nodesOfAll_map_eq_nil {write : α → Item} {values : List α}
    (each : ∀ value, (write value).nodes keyword = []) :
    nodesOfAll keyword (values.map write) = [] := by
  rw [nodesOfAll_map fun value _ => each value]
  simp

/-- What is written for each value of a traversal. -/
theorem nodesOfAll_mapM {write : α → Except Failure Item} {values : List α} {items : List Item}
    {found : α → List Item}
    (each : ∀ value ∈ values, ∀ item, write value = .ok item → item.nodes keyword = found value)
    (written : values.mapM write = .ok items) :
    nodesOfAll keyword items = values.flatMap found := by
  have pairs := mapM_eq_ok.mp written
  clear written
  induction pairs with
  | nil => rfl
  | cons head _ ih =>
    rw [nodesOfAll_cons, List.flatMap_cons, each _ (.head _) _ head,
      ih fun value member => each value (.tail _ member)]

/-- The item prints the inner one as it is printed at some depth, between other things. -/
def Shows (item inner : Item) : Prop :=
  ∀ follows depth, ∃ before deep after,
    item.printed follows depth = before ++ inner.printed false deep ++ after

theorem showsAll {items : List Item} {inner : Item}
    (within : ∃ item ∈ items, item.Shows inner) (follows : Bool) (depth : Nat) :
    ∃ before deep after,
      printedAll follows depth items = before ++ inner.printed false deep ++ after := by
  obtain ⟨item, member, shows⟩ := within
  induction items generalizing follows with
  | nil => cases member
  | cons first rest ih =>
    rcases List.mem_cons.mp member with rfl | member
    · obtain ⟨before, deep, after, split⟩ := shows follows depth
      exact ⟨before, deep, after ++ printedAll (follows || !item.isGroup) depth rest, by
        simp [printedAll, split]⟩
    · obtain ⟨before, deep, after, split⟩ := ih (follows || !first.isGroup) member
      exact ⟨first.printed follows depth ++ before, deep, after, by simp [printedAll, split]⟩

theorem shows_of_mem_nodes {item inner : Item} (member : inner ∈ item.nodes keyword) :
    item.Shows inner := by
  induction item with
  | node other items ih =>
    intro follows depth
    rw [nodes] at member
    split at member
    · obtain rfl := List.mem_singleton.mp member
      exact ⟨Segment.comma follows, depth, [], by simp [printed, Segment.comma]⟩
    · rw [nodesOfAll_eq_flatMap, List.mem_flatMap] at member
      obtain ⟨child, inItems, member⟩ := member
      obtain ⟨before, deep, after, split⟩ :=
        showsAll ⟨child, inItems, ih child inItems member⟩ false (depth + 1)
      refine ⟨Segment.comma follows ++ Segment.newLine depth ++ .text (other ++ "[") :: before, deep,
        after ++ [.text "]"], by simp [printed, split]⟩
  | text content => cases member
  | token content => cases member
  | group items ih =>
    intro follows depth
    rw [nodes_group, nodesOfAll_eq_flatMap, List.mem_flatMap] at member
    obtain ⟨child, inItems, member⟩ := member
    exact showsAll ⟨child, inItems, ih child inItems member⟩ true (depth + 1)

/-- The text of an item contains those of its nodes, each behind a line break. -/
theorem write_of_mem_nodes {item inner : Item} (member : inner ∈ item.nodes keyword)
    (layout : Layout) : ∃ before deep after,
      item.write layout = before ++ Segment.fillAll layout (inner.printed false deep) ++ after := by
  obtain ⟨before, deep, after, split⟩ := shows_of_mem_nodes member false 0
  exact ⟨Segment.fillAll layout before, deep, Segment.fillAll layout after, by
    rw [write_eq_printed, split, Segment.fillAll_append, Segment.fillAll_append]⟩

end Item

end CrsText
