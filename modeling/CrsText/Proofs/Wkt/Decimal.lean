import CrsText.Proofs.Number.Finite
import CrsText.Proofs.Success
import CrsText.Wkt.Item
import CrsText.Wkt.Vocabulary

/-! The numbers of a well-known text. They are the tokens without quotes, but for the directions of axes,
the types of coordinate systems and the accuracies of ensembles, which are words.
-/

set_option autoImplicit false

namespace CrsText

namespace Item

/-- The nodes whose first token is a word. -/
@[simp] def wordKeywords : List String := ["AXIS", "CS", "ENSEMBLEACCURACY"]

def isToken : Item → Bool
  | .token _ => true
  | _ => false

mutual

def numbers : Item → List String
  | .node keyword items => numbersOfAll (decide (keyword ∈ wordKeywords)) items
  | .text _ => []
  | .token content => [content]
  | .group items => numbersOfAll false items

/-- The numeric tokens of items of which the first token may be a word. -/
def numbersOfAll : Bool → List Item → List String
  | _, [] => []
  | wordFirst, item :: rest =>
    if wordFirst && item.isToken then numbersOfAll false rest
    else numbers item ++ numbersOfAll wordFirst rest

end

def IsDecimal (item : Item) : Prop := ∀ number ∈ item.numbers, CrsText.IsDecimal number

def AllDecimal (items : List Item) : Prop := ∀ item ∈ items, item.IsDecimal

section AllDecimal

variable {α : Type} {write : α → Item}

@[simp] theorem allDecimal_nil : AllDecimal [] := nofun

@[simp] theorem allDecimal_cons (item : Item) (rest : List Item) :
    AllDecimal (item :: rest) ↔ item.IsDecimal ∧ AllDecimal rest := List.forall_mem_cons

@[simp] theorem allDecimal_append (items others : List Item) :
    AllDecimal (items ++ others) ↔ AllDecimal items ∧ AllDecimal others := List.forall_mem_append

@[simp] theorem allDecimal_map (values : List α) :
    AllDecimal (values.map write) ↔ ∀ value ∈ values, (write value).IsDecimal := List.forall_mem_map

variable {failing : α → Except Failure Item} {items : List Item}

/-- The items of a traversal are decimal as far as each of them is. -/
theorem allDecimal_mapM_iff {values : List α} {holds : α → Prop}
    (each : ∀ value ∈ values, ∀ item, failing value = .ok item → (item.IsDecimal ↔ holds value))
    (written : values.mapM failing = .ok items) :
    AllDecimal items ↔ ∀ value ∈ values, holds value := by
  have pairs := mapM_eq_ok.mp written
  clear written
  induction pairs with
  | nil => simp
  | cons head _ ih =>
    rw [allDecimal_cons, List.forall_mem_cons]
    exact and_congr (each _ (.head _) _ head) (ih fun value member => each value (.tail _ member))

theorem allDecimal_mapM {values : List α}
    (each : ∀ value ∈ values, ∀ item, failing value = .ok item → item.IsDecimal)
    (written : values.mapM failing = .ok items) : AllDecimal items := by
  intro item member
  obtain ⟨value, inValues, here⟩ := exists_of_mem_mapM written member
  exact each value inValues item here

/-- What is written for a part that may be left out. -/
theorem allDecimal_elim {given : Option α}
    (each : ∀ value ∈ given, ∀ item, failing value = .ok item → item.IsDecimal)
    (written : given.elim (pure []) (fun value => do return [← failing value]) = .ok items) :
    AllDecimal items := by
  cases given with
  | none =>
    cases written
    exact allDecimal_nil
  | some value =>
    simp only [Option.elim, bind_eq_ok, pure_eq_ok] at written
    obtain ⟨item, itemWritten, rfl⟩ := written
    simpa using each value rfl item itemWritten

end AllDecimal

theorem forall_mem_numbersOfAll {items : List Item} :
    (∀ number ∈ numbersOfAll false items, CrsText.IsDecimal number) ↔ AllDecimal items := by
  induction items with
  | nil => simp [numbersOfAll]
  | cons item rest ih =>
    rw [allDecimal_cons, ← ih, numbersOfAll, Bool.false_and, if_neg Bool.false_ne_true,
      List.forall_mem_append]
    rfl

@[simp] theorem isDecimal_text (content : String) : (text content).IsDecimal := by
  simp [IsDecimal, numbers]

@[simp] theorem isDecimal_token (content : String) :
    (token content).IsDecimal ↔ CrsText.IsDecimal content := by
  simp [IsDecimal, numbers]

@[simp] theorem isDecimal_group (items : List Item) : (group items).IsDecimal ↔ AllDecimal items := by
  rw [IsDecimal, numbers, forall_mem_numbersOfAll]

@[simp] theorem isDecimal_node {keyword : String} (ordinary : keyword ∉ wordKeywords)
    (items : List Item) : (node keyword items).IsDecimal ↔ AllDecimal items := by
  rw [IsDecimal, numbers, decide_eq_false ordinary, forall_mem_numbersOfAll]

@[simp] theorem isDecimal_named {keyword : String} (ordinary : keyword ∉ wordKeywords) (name : String)
    (items : List Item) : (named keyword name items).IsDecimal ↔ AllDecimal items := by
  rw [named, isDecimal_node ordinary, allDecimal_cons]
  simp

theorem isDecimal_node_word {keyword : String} (known : keyword ∈ wordKeywords) (word : String)
    (items : List Item) : (node keyword (.token word :: items)).IsDecimal ↔ AllDecimal items := by
  rw [IsDecimal, numbers, decide_eq_true known, numbersOfAll, if_pos (by rfl), forall_mem_numbersOfAll]

theorem isDecimal_named_word {keyword : String} (known : keyword ∈ wordKeywords) (name word : String)
    (items : List Item) :
    (named keyword name (.token word :: items)).IsDecimal ↔ AllDecimal items := by
  rw [← isDecimal_node_word known word]
  simp [named, IsDecimal, numbers, numbersOfAll, isToken]

end Item

-- Systems and units are not among the nodes that begin with a word.
theorem UnitKind.keyword_notMem (kind : UnitKind) : kind.keyword ∉ Item.wordKeywords := by
  cases kind <;> decide

theorem Dialect.geodeticKeyword_notMem (dialect : Dialect) (kind : GeodeticKind) :
    dialect.geodeticKeyword kind ∉ Item.wordKeywords := by
  cases dialect <;> cases kind <;> decide

theorem Dialect.baseKeyword_notMem (dialect : Dialect) (kind : GeodeticKind) :
    dialect.baseKeyword kind ∉ Item.wordKeywords := by
  cases dialect <;> cases kind <;> decide

end CrsText
