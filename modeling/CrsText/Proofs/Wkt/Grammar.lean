import CrsText.Proofs.Number.Notation
import CrsText.Proofs.Success
import CrsText.Proofs.Wkt.Tree

/-! Content models of nodes, as languages over trees, and how the items that a dialect writes are
derived in them piece by piece.
-/

set_option autoImplicit false

open scoped Computability

namespace CrsText

namespace Grammar

def text : Language Tree := {trees | ∃ content, trees = [.text content]}

def token (spelling : String → Prop) : Language Tree :=
  {trees | ∃ content, spelling content ∧ trees = [.token content]}

def number : Language Tree := token IsNumber

def plainNumber : Language Tree := token IsPlainNumber

def single (derivable : Tree → Prop) : Language Tree := {trees | ∃ tree, derivable tree ∧ trees = [tree]}

def node (keyword : String) (content : Language Tree) : Language Tree :=
  {trees | ∃ items ∈ content, trees = [.node keyword items]}

variable {keywords tokens : String → Prop} {content : Language Tree}

theorem node_le_single {keyword : String} : node keyword content ≤ single Tree.IsNode := by
  intro trees derived
  obtain ⟨items, -, rfl⟩ := derived
  exact ⟨_, ⟨keyword, items, rfl⟩, rfl⟩

theorem le_single {language : Language Tree} {derivable : Tree → Prop}
    (lone : language ≤ single Tree.IsNode)
    (each : ∀ tree, [tree] ∈ language → derivable tree) : language ≤ single derivable := by
  intro trees derived
  obtain ⟨tree, -, rfl⟩ := lone derived
  exact ⟨tree, each tree derived, rfl⟩

theorem single_le_only {derivable : Tree → Prop} : single derivable ≤ Words.only derivable := by
  intro trees derived other member
  obtain ⟨tree, derived, rfl⟩ := derived
  obtain rfl := List.mem_singleton.mp member
  exact derived

theorem text_le_only : text ≤ Words.only (Tree.Uses keywords tokens) := by
  intro trees derived tree member
  obtain ⟨content, rfl⟩ := derived
  obtain rfl := List.mem_singleton.mp member
  exact .text

theorem token_le_only {spelling : String → Prop}
    (allowed : ∀ content, spelling content → tokens content) :
    token spelling ≤ Words.only (Tree.Uses keywords tokens) := by
  intro trees derived tree member
  obtain ⟨content, spelt, rfl⟩ := derived
  obtain rfl := List.mem_singleton.mp member
  exact .token (allowed content spelt)

theorem node_le_only {keyword : String} (allowed : keywords keyword)
    (inside : content ≤ Words.only (Tree.Uses keywords tokens)) :
    node keyword content ≤ Words.only (Tree.Uses keywords tokens) := by
  intro trees derived tree member
  obtain ⟨items, derived, rfl⟩ := derived
  obtain rfl := List.mem_singleton.mp member
  exact .node allowed (inside derived)

end Grammar

/-- The items are read as a word of the language, and every group among them, or within one of them,
has something in front of it. -/
structure Derives (items : List Item) (language : Language Tree) : Prop where
  trees : Item.treesOfAll items ∈ language
  placed : ∀ item ∈ items, item.Placed
  first : ∀ inner rest, items ≠ .group inner :: rest

namespace Derives

variable {items others : List Item} {item : Item} {first second language : Language Tree}

-- One rule for each way in which items are put together; the places of groups are carried along.
theorem nil : Derives [] 1 := ⟨rfl, by simp, by simp⟩

theorem append (front : Derives items first) (back : Derives others second) :
    Derives (items ++ others) (first * second) where
  trees := by
    rw [Item.treesOfAll_append]
    exact Language.append_mem_mul front.trees back.trees
  placed item member := (List.mem_append.mp member).elim (front.placed item) (back.placed item)
  first inner rest same := by
    cases items with
    | nil => exact back.first inner rest same
    | cons item remaining =>
      obtain ⟨rfl, -⟩ := List.cons.inj same
      exact front.first inner remaining rfl

theorem cons (head : Derives [item] first) (rest : Derives items second) :
    Derives (item :: items) (first * second) := head.append rest

/-- A group is read as what stands in it, behind the item in front of it. -/
theorem cons_group (head : Derives [item] first) (inner : Derives items second) :
    Derives [item, .group items] (first * second) where
  trees := by
    have read := Language.append_mem_mul head.trees inner.trees
    simpa [Item.treesOfAll, Item.trees] using read
  placed other member := by
    rcases List.mem_cons.mp member with rfl | member
    · exact head.placed other (by simp)
    · obtain rfl := List.mem_singleton.mp member
      exact .group inner.placed
  first content rest same := by
    obtain ⟨rfl, -⟩ := List.cons.inj same
    exact head.first content [] rfl

theorem mono (derived : Derives items first) (weaker : first ≤ second) : Derives items second :=
  ⟨weaker derived.trees, derived.placed, derived.first⟩

theorem inl (derived : Derives items first) : Derives items (first + second) :=
  derived.mono le_sup_left

theorem inr (derived : Derives items second) : Derives items (first + second) :=
  derived.mono le_sup_right

theorem none : Derives [] (Words.optional language) := nil.inl

theorem some (derived : Derives items language) : Derives items (Words.optional language) :=
  derived.inr

theorem text {content : String} : Derives [.text content] Grammar.text where
  trees := ⟨content, rfl⟩
  placed := by simpa using Item.Placed.text
  first := by simp

theorem token {spelling : String → Prop} {content : String} (spelt : spelling content) :
    Derives [.token content] (Grammar.token spelling) where
  trees := ⟨content, spelt, rfl⟩
  placed := by simpa using Item.Placed.token
  first := by simp

theorem number (x : Float) : Derives [.token (Token.rounded x)] Grammar.number :=
  token (Token.isNumber_rounded x)

theorem node {keyword : String} (derived : Derives items language) :
    Derives [.node keyword items] (Grammar.node keyword language) where
  trees := ⟨_, derived.trees, rfl⟩
  placed := by simpa using Item.Placed.node derived.first derived.placed
  first := by simp

theorem named {keyword name : String} (derived : Derives items language) :
    Derives [.named keyword name items] (Grammar.node keyword (Grammar.text * language)) :=
  (text.cons derived).node

theorem pow (each : ∀ item ∈ items, Derives [item] language) :
    Derives items (language ^ items.length) := by
  induction items with
  | nil => exact nil
  | cons item rest ih =>
    rw [List.length_cons, pow_succ']
    exact (each item (by simp)).cons (ih fun other member => each other (by simp [member]))

theorem kstar (each : ∀ item ∈ items, Derives [item] language) : Derives items language∗ :=
  (pow each).mono pow_le_kstar

theorem map {α : Type} {write : α → Item} (each : ∀ value, Derives [write value] language)
    (values : List α) : Derives (values.map write) language∗ := by
  refine kstar fun item member => ?_
  obtain ⟨value, -, rfl⟩ := List.mem_map.mp member
  exact each value

theorem optional {α : Type} {write : α → Item} {value? : Option α}
    (each : ∀ value ∈ value?, Derives [write value] language) :
    Derives (value?.toList.map write) (Words.optional language) := by
  cases value? with
  | none => exact none
  | some value => exact (each value rfl).some

theorem optional_text (keyword : String) (content? : Option String) :
    Derives (content?.toList.map fun content => .node keyword [.text content])
      (Words.optional (Grammar.node keyword Grammar.text)) :=
  optional fun _ _ => text.node

/-- What is written for a value that may be missing. -/
theorem elim {α : Type} (write : α → Except Failure Item) (value? : Option α)
    (each : ∀ value item, write value = .ok item → Derives [item] language)
    (written : value?.elim (.ok []) (fun value => do return [← write value]) = .ok items) :
    Derives items (Words.optional language) := by
  cases value? with
  | none =>
    cases written
    exact none
  | some value =>
    simp only [Option.elim_some, bind_eq_ok, pure_eq_ok] at written
    obtain ⟨item, itemWritten, rfl⟩ := written
    exact (each value item itemWritten).some

end Derives

end CrsText
