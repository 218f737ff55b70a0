import CrsText.Proofs.Nesting

/-! The tree that a reader of well-known text sees. It has no groups: what stands in a group is read
as siblings of what stands in front of it.
-/

set_option autoImplicit false

namespace CrsText

inductive Tree where
  | node (keyword : String) (items : List Tree)
  | text (content : String)
  | token (content : String)
  deriving Inhabited

@[induction_eliminator]
theorem Tree.nested {motive : Tree → Prop}
    (node : ∀ keyword items, (∀ item ∈ items, motive item) → motive (.node keyword items))
    (text : ∀ content, motive (.text content))
    (token : ∀ content, motive (.token content)) (tree : Tree) : motive tree :=
  @Tree.rec motive (fun items => ∀ item ∈ items, motive item) node text token
    (fun _ member => nomatch member)
    (fun _ _ head tail => List.forall_mem_cons.mpr ⟨head, tail⟩) tree

def Tree.IsNode (tree : Tree) : Prop := ∃ keyword items, tree = .node keyword items

def Item.IsNode (item : Item) : Prop := ∃ keyword items, item = .node keyword items

namespace Item

mutual

def trees : Item → List Tree
  | .node keyword items => [.node keyword (treesOfAll items)]
  | .text content => [.text content]
  | .token content => [.token content]
  | .group items => treesOfAll items

def treesOfAll : List Item → List Tree
  | [] => []
  | item :: rest => trees item ++ treesOfAll rest

end

@[simp] theorem treesOfAll_append (items others : List Item) :
    treesOfAll (items ++ others) = treesOfAll items ++ treesOfAll others := by
  induction items with
  | nil => rfl
  | cons item rest ih => simp [treesOfAll, ih]

@[simp] theorem treesOfAll_singleton (item : Item) : treesOfAll [item] = item.trees := by
  simp [treesOfAll]

theorem treesOfAll_eq_flatMap (items : List Item) : treesOfAll items = items.flatMap trees := by
  induction items with
  | nil => rfl
  | cons item rest ih => simp [treesOfAll, ih]

theorem stepsOfAll_eq_flatMap (items : List Item) : stepsOfAll items = items.flatMap steps := by
  induction items with
  | nil => rfl
  | cons item rest ih => simp [stepsOfAll, ih]

/-- Every group has something in front of it within its node, so that its first item can be set off
by a comma. -/
inductive Placed : Item → Prop where
  | node {keyword : String} {items : List Item} : (∀ inner rest, items ≠ .group inner :: rest) →
      (∀ item ∈ items, Placed item) → Placed (.node keyword items)
  | text {content : String} : Placed (.text content)
  | token {content : String} : Placed (.token content)
  | group {items : List Item} : (∀ item ∈ items, Placed item) → Placed (.group items)

end Item

inductive Tree.Uses (keywords tokens : String → Prop) : Tree → Prop where
  | node {keyword : String} {items : List Tree} : keywords keyword →
      (∀ item ∈ items, Uses keywords tokens item) → Uses keywords tokens (.node keyword items)
  | text {content : String} : Uses keywords tokens (.text content)
  | token {content : String} : tokens content → Uses keywords tokens (.token content)

theorem Tree.Uses.mono {keywords tokens others free : String → Prop} {tree : Tree}
    (uses : tree.Uses keywords tokens) (keyword : ∀ content, keywords content → others content)
    (token : ∀ content, tokens content → free content) : tree.Uses others free := by
  induction uses with
  | node known _ ih => exact .node (keyword _ known) ih
  | text => exact .text
  | token known => exact .token (token _ known)

theorem Item.uses_of_mem {keywords tokens : String → Prop} {item : Item} {items : List Item}
    (uses : ∀ tree ∈ treesOfAll items, tree.Uses keywords tokens) (member : item ∈ items) :
    ∀ tree ∈ item.trees, tree.Uses keywords tokens := by
  intro tree inItem
  refine uses tree ?_
  rw [treesOfAll_eq_flatMap]
  exact List.mem_flatMap_of_mem member inItem

/-- The nodes that are opened in writing an item are those of its trees. -/
theorem Item.keyword_of_openNode {keywords tokens : String → Prop} {item : Item} {keyword : String}
    (uses : ∀ tree ∈ item.trees, tree.Uses keywords tokens)
    (opened : .openNode keyword ∈ item.steps) : keywords keyword := by
  induction item with
  | node outer items ih =>
    obtain ⟨known, inside⟩ : keywords outer ∧
        ∀ tree ∈ treesOfAll items, tree.Uses keywords tokens := by
      cases uses _ (List.mem_singleton_self _) with
      | node known inside => exact ⟨known, inside⟩
    simp only [treesOfAll_eq_flatMap, List.forall_mem_flatMap] at inside
    simp only [steps, stepsOfAll_eq_flatMap, List.cons_append, List.mem_cons, List.mem_append,
      List.mem_flatMap, Step.openNode.injEq, reduceCtorEq, List.not_mem_nil, or_false] at opened
    rcases opened with rfl | ⟨item, member, opened⟩
    · exact known
    · exact ih item member (inside item member) opened
  | text content => simp [steps] at opened
  | token content => simp [steps] at opened
  | group items ih =>
    -- A group opens no node of its own; its items are trees of the group itself.
    simp only [trees, treesOfAll_eq_flatMap, List.forall_mem_flatMap] at uses
    simp only [steps, stepsOfAll_eq_flatMap, List.cons_append, List.mem_cons, List.mem_append,
      List.mem_flatMap, reduceCtorEq, List.not_mem_nil, or_false, false_or] at opened
    obtain ⟨item, member, opened⟩ := opened
    exact ih item member (uses item member) opened

end CrsText
