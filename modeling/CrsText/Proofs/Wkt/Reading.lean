import CrsText.Proofs.Wkt.Lexeme
import CrsText.Proofs.Wkt.Printing
import CrsText.Proofs.Wkt.Tree

/-! A reader of well-known text. It returns the one tree of a text, or nothing if something is left
over; what an item writes is read back as the tree of the item.
-/

set_option autoImplicit false

namespace CrsText

structure Frame where
  keyword : String
  items : List Tree

namespace Tree

mutual

def readItem (outer : List Frame) : List Lexeme → Option Tree
  | .text content :: rest => readRest (.text content) outer rest
  | .word keyword :: .opening :: .closing :: rest => readRest (.node keyword []) outer rest
  | .word keyword :: .opening :: rest => readItem (⟨keyword, []⟩ :: outer) rest
  | .word content :: rest => readRest (.token content) outer rest
  | _ => none

def readRest (item : Tree) : List Frame → List Lexeme → Option Tree
  | [], [] => some item
  | frame :: outer, .comma :: rest => readItem (⟨frame.keyword, frame.items ++ [item]⟩ :: outer) rest
  | frame :: outer, .closing :: rest => readRest (.node frame.keyword (frame.items ++ [item])) outer rest
  | _, _ => none

end

def read (text : String) : Option Tree := (Lexeme.scan [] text.toList).bind (readItem [])

mutual

def lexemes : Tree → List Lexeme
  | .node keyword items => .word keyword :: .opening :: separated items ++ [.closing]
  | .text content => [.text content]
  | .token content => [.word content]

def separated : List Tree → List Lexeme
  | [] => []
  | first :: rest => lexemes first ++ following rest

def following : List Tree → List Lexeme
  | [] => []
  | first :: rest => .comma :: lexemes first ++ following rest

end

theorem following_append (items others : List Tree) :
    following (items ++ others) = following items ++ following others := by
  induction items with
  | nil => rfl
  | cons item rest ih => simp [following, ih]

-- Items are read with any open nodes around them and any lexemes behind them, so that the lemma for
-- one item serves in every place of the tree.
theorem readRest_following {keyword : String} {items : List Tree} {outer : List Frame}
    {rest : List Lexeme}
    (each : ∀ item ∈ items, ∀ (outer : List Frame) (rest : List Lexeme),
      rest.head? ≠ some .opening → readItem outer (item.lexemes ++ rest) = readRest item outer rest)
    (before : List Tree) (item : Tree) :
    readRest item (⟨keyword, before⟩ :: outer) (following items ++ .closing :: rest) =
      readRest (.node keyword (before ++ item :: items)) outer rest := by
  induction items generalizing before item with
  | nil => simp [following, readRest]
  | cons next items ih =>
    have head : (following items ++ .closing :: rest).head? ≠ some .opening := by
      cases items <;> simp [following]
    simp only [following, List.cons_append, List.append_assoc, readRest]
    rw [each next (by simp) _ _ head, ih (fun other member => each other (by simp [member]))]
    simp

/-- The lexemes of an item are read as that item, whatever follows that does not make a token the
keyword of a node. -/
theorem readItem_lexemes (item : Tree) (outer : List Frame) (rest : List Lexeme)
    (head : rest.head? ≠ some .opening) :
    readItem outer (item.lexemes ++ rest) = readRest item outer rest := by
  induction item generalizing outer rest with
  | node keyword items ih =>
    cases items with
    | nil => simp [lexemes, separated, readItem]
    | cons first items =>
      -- No item begins with a closing bracket, so the node is not taken for an empty one.
      have opens : ∀ others, readItem outer
          (.word keyword :: .opening :: (first.lexemes ++ others)) =
            readItem (⟨keyword, []⟩ :: outer) (first.lexemes ++ others) := by
        intro others
        cases first <;> simp [lexemes, readItem]
      have follows : (following items ++ .closing :: rest).head? ≠ some .opening := by
        cases items <;> simp [following]
      have others := fun item (member : item ∈ items) => ih item (List.mem_cons_of_mem first member)
      simp only [lexemes, separated, List.cons_append, List.append_assoc, List.nil_append]
      rw [opens, ih first (by simp) _ _ follows, readRest_following others, List.nil_append]
  | text content => simp [lexemes, readItem]
  | token content =>
    cases rest with
    | nil => simp [lexemes, readItem]
    | cons lexeme rest => cases lexeme <;> simp_all [lexemes, readItem]

theorem read_eq {text : String} {tree : Tree}
    (scanned : Lexeme.scan [] text.toList = some tree.lexemes) : read text = some tree := by
  have whole := readItem_lexemes tree [] [] (by simp)
  rw [List.append_nil] at whole
  rw [read, scanned, Option.bind_some, whole, readRest]

example : read "A[ \"x\"\"y\",\n B[], 1.5 ]" =
    some (.node "A" [.text "x\"y", .node "B" [], .token "1.5"]) := rfl

end Tree

/-- The text is scanned as the lexemes wherever a value can end. -/
def Lexeme.Scans (text : String) (lexemes : List Lexeme) : Prop :=
  ∀ rest, Delimits rest → scan [] (text.toList ++ rest) = (scan [] rest).map (lexemes ++ ·)

namespace Lexeme.Scans

variable {text other : String} {lexemes others : List Lexeme}

theorem empty : Scans "" [] := fun rest _ => by simp

theorem comma (scans : Scans text lexemes) : Scans ("," ++ text) (.comma :: lexemes) := by
  intro rest delimits
  simp [scan, blanks, mark?, scans rest delimits]
  rfl

theorem blank {blank : String} (all : ∀ c ∈ blank.toList, c ∈ blanks) (scans : Scans text lexemes) :
    Scans (blank ++ text) lexemes := by
  intro rest delimits
  rw [String.toList_append, List.append_assoc, scan_blanks all, scans rest delimits]

theorem quoted (content : String) :
    Scans (String.ofList (Text.quoted content.toList)) [.text content] := by
  intro rest delimits
  rw [String.toList_ofList, scan_quoted delimits]

theorem word {content : String} (word : IsWord content) : Scans content [.word content] :=
  fun _ delimits => scan_word word delimits

theorem node {keyword : String} (word : IsWord keyword) (scans : Scans text lexemes) :
    Scans (keyword ++ "[" ++ text ++ "]") (.word keyword :: .opening :: lexemes ++ [.closing]) := by
  intro rest delimits
  have inside := scans (']' :: rest) (by simp [Delimits])
  have closed : scan [] (']' :: rest) = (scan [] rest).map (.closing :: ·) := by
    simp [scan, blanks, mark?]
  rw [closed] at inside
  simp [scan_keyword word, inside, Function.comp_def]

end Lexeme.Scans

/-- The text may stand behind a value: it is scanned as the lexemes and keeps off from the value. -/
structure Lexeme.Continues (text : String) (lexemes : List Lexeme) : Prop where
  scans : Scans text lexemes
  delimits : ∀ rest, Delimits rest → Delimits (text.toList ++ rest)

theorem Lexeme.Scans.append {text other : String} {lexemes others : List Lexeme}
    (front : Scans text lexemes) (back : Continues other others) :
    Scans (text ++ other) (lexemes ++ others) := by
  intro rest delimits
  rw [String.toList_append, List.append_assoc, front _ (back.delimits rest delimits),
    back.scans rest delimits]
  simp [Function.comp_def]

namespace Lexeme.Continues

variable {text other : String} {lexemes others : List Lexeme}

theorem empty : Continues "" [] := ⟨.empty, fun rest delimits => by simpa using delimits⟩

theorem comma (scans : Scans text lexemes) : Continues ("," ++ text) (.comma :: lexemes) :=
  ⟨scans.comma, fun rest _ => by simp [Delimits]⟩

theorem append (front : Continues text lexemes) (back : Continues other others) :
    Continues (text ++ other) (lexemes ++ others) where
  scans := front.scans.append back
  delimits rest delimits := by
    rw [String.toList_append, List.append_assoc]
    exact front.delimits _ (back.delimits rest delimits)

end Lexeme.Continues

def Layout.IsBlank (layout : Layout) : Prop := ∀ c ∈ layout.separator.toList, c ∈ Lexeme.blanks

theorem Layout.IsBlank.newLine {layout : Layout} (blank : layout.IsBlank) (depth : Nat) :
    ∀ c ∈ (Segment.fillAll layout (Segment.newLine depth)).toList, c ∈ Lexeme.blanks := by
  intro c member
  unfold Segment.newLine at member
  split at member
  · simp at member
  · simp only [Segment.fillAll_cons, Segment.fill, Segment.fillAll_nil, String.append_empty,
      String.toList_append, List.mem_append] at member
    rcases member with member | member
    · exact blank c member
    · unfold Layout.inset at member
      split at member
      · simp at member
      · rw [String.toList_ofList] at member
        simp [List.eq_of_mem_replicate member, Lexeme.blanks]

namespace Item

variable {layout : Layout} {item : Item} {items : List Item}

theorem exists_tree_of_not_isGroup (single : ¬ item.isGroup) : ∃ tree, item.trees = [tree] := by
  cases item with
  | group items => simp [isGroup] at single
  | _ => exact ⟨_, rfl⟩

/-- What the item prints is scanned as the lexemes of its trees, in front of other items and behind
them. -/
structure Scanned (layout : Layout) (item : Item) : Prop where
  first : ¬ item.isGroup → ∀ depth,
    Lexeme.Scans (Segment.fillAll layout (item.printed false depth)) (Tree.separated item.trees)
  next : ∀ depth,
    Lexeme.Continues (Segment.fillAll layout (item.printed true depth)) (Tree.following item.trees)

theorem Scanned.of_first (single : ¬ item.isGroup) (first : ∀ depth,
    Lexeme.Scans (Segment.fillAll layout (item.printed false depth)) (Tree.separated item.trees)) :
    Scanned layout item where
  first _ := first
  next depth := by
    obtain ⟨tree, same⟩ := exists_tree_of_not_isGroup single
    have behind := Lexeme.Continues.comma (first depth)
    simpa [printed_true single, same, Tree.separated, Tree.following, Segment.fill] using behind

-- Only the first of several items can stand without a comma, so the items behind it are scanned in
-- one way and the whole list in another.
theorem continues_printedAll (each : ∀ item ∈ items, Scanned layout item) (depth : Nat) :
    Lexeme.Continues (Segment.fillAll layout (printedAll true depth items))
      (Tree.following (treesOfAll items)) := by
  induction items with
  | nil => exact .empty
  | cons item rest ih =>
    have others := ih fun other member => each other (by simp [member])
    simpa [printedAll, treesOfAll, Tree.following_append] using
      ((each item (by simp)).next depth).append others

theorem scans_printedAll (each : ∀ item ∈ items, Scanned layout item)
    (first : ∀ inner rest, items ≠ .group inner :: rest) (depth : Nat) :
    Lexeme.Scans (Segment.fillAll layout (printedAll false depth items))
      (Tree.separated (treesOfAll items)) := by
  cases items with
  | nil => exact .empty
  | cons item rest =>
    have single : ¬ item.isGroup := by
      cases item with
      | group inner => exact absurd rfl (first inner rest)
      | _ => simp [isGroup]
    obtain ⟨tree, same⟩ := exists_tree_of_not_isGroup single
    have head := (each item (by simp)).first single depth
    have others : ∀ other ∈ rest, Scanned layout other :=
      fun other member => each other (List.mem_cons_of_mem item member)
    have whole := head.append (continues_printedAll others depth)
    simpa [printedAll, single, treesOfAll, same, Tree.separated, Tree.following] using whole

theorem Placed.scanned (placed : item.Placed) (blank : layout.IsBlank)
    (words : ∀ tree ∈ item.trees, tree.Uses IsWord IsWord) : Scanned layout item := by
  -- The induction is on the placement, which says of every node that no group comes first in it.
  induction placed with
  | node first _ ih =>
    refine .of_first (by simp [isGroup]) fun depth => ?_
    cases words _ (List.mem_singleton_self _) with
    | node word inside =>
      have content := scans_printedAll (fun item member => ih item member (uses_of_mem inside member))
        first (depth + 1)
      have whole := (content.node word).blank (blank.newLine depth)
      simpa [printed, Segment.comma, Segment.fill, trees, Tree.separated, Tree.following,
        Tree.lexemes, String.append_assoc] using whole
  | @text content =>
    refine .of_first (by simp [isGroup]) fun depth => ?_
    simpa [printed, Segment.comma, Segment.fill, trees, Tree.separated, Tree.following,
      Tree.lexemes] using Lexeme.Scans.quoted content
  | token =>
    refine .of_first (by simp [isGroup]) fun depth => ?_
    cases words _ (List.mem_singleton_self _) with
    | token word =>
      simpa [printed, Segment.comma, Segment.fill, trees, Tree.separated, Tree.following,
        Tree.lexemes] using Lexeme.Scans.word word
  | group _ ih =>
    have each := continues_printedAll fun item member => ih item member (uses_of_mem words member)
    exact ⟨fun single => absurd rfl single, fun depth => each (depth + 1)⟩

/-- What an item of one tree writes is read back as that tree, if its keywords and tokens can be told
from what stands between them. -/
theorem read_write {tree : Tree} (placed : item.Placed) (single : ¬ item.isGroup)
    (same : item.trees = [tree]) (words : tree.Uses IsWord IsWord) (blank : layout.IsBlank) :
    Tree.read (item.write layout) = some tree := by
  have scanned := placed.scanned blank (by simpa [same] using words)
  have scans := scanned.first single 0 [] (by simp [Lexeme.Delimits])
  apply Tree.read_eq
  rw [write_eq_printed]
  simpa [same, Tree.separated, Tree.following, Lexeme.scan] using scans

end Item

end CrsText
