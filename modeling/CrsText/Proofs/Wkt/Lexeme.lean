import CrsText.Proofs.Number.Notation
import CrsText.Text.Quoted

/-! The lexemes of well-known text: marks, texts between quotes, and words that stand free. Blanks
outside texts only end words.
-/

set_option autoImplicit false

open scoped Computability

namespace CrsText

inductive Lexeme where
  | opening
  | closing
  | comma
  | text (content : String)
  | word (content : String)
  deriving DecidableEq, Repr

namespace Lexeme

def mark? : Char → Option Lexeme
  | '[' => some .opening
  | ']' => some .closing
  | ',' => some .comma
  | _ => none

def blanks : List Char := [' ', '\t', '\r', '\n']

/-- The word that ends where its last letter is followed by something else, if there is one. -/
def ofLetters : List Char → List Lexeme
  | [] => []
  | letters => [.word (String.ofList letters)]

mutual

/-- The lexemes of what follows the letters of a word; nothing if a text is not closed. -/
def scan (letters : List Char) : List Char → Option (List Lexeme)
  | [] => some (ofLetters letters)
  | c :: rest =>
    if c = '"' then (scanText [] rest).map (ofLetters letters ++ ·)
    else if c ∈ blanks then (scan [] rest).map (ofLetters letters ++ ·)
    else
      match mark? c with
      | some mark => (scan [] rest).map (ofLetters letters ++ mark :: ·)
      | none => scan (letters ++ [c]) rest

/-- The same within a text, of which a part has been read; a quote in it is written twice. -/
def scanText (content : List Char) : List Char → Option (List Lexeme)
  | [] => none
  | '"' :: '"' :: rest => scanText (content ++ ['"']) rest
  | '"' :: rest => (scan [] rest).map (.text (String.ofList content) :: ·)
  | c :: rest => scanText (content ++ [c]) rest

end

end Lexeme

def boundaries : List Char := ['"', '[', ']', ',', ' ', '\t', '\r', '\n']

def IsLetter (c : Char) : Prop := c ∉ boundaries

instance : DecidablePred IsLetter := fun c =>
  decidable_of_bool (!boundaries.contains c) (by simp [IsLetter])

def IsWord (content : String) : Prop := content.toList ≠ [] ∧ ∀ c ∈ content.toList, IsLetter c

instance : DecidablePred IsWord := fun content =>
  decidable_of_bool (!content.toList.isEmpty && content.toList.all fun c => decide (IsLetter c))
    (by simp [IsWord])

theorem isWord_of_all {contents : List String}
    (all : (contents.all fun content => decide (IsWord content)) = true) :
    ∀ content ∈ contents, IsWord content := by
  simpa using all

namespace Notation

open Words (filled mul_le_filled_left mul_le_filled_right)

/-- None of the letters of numbers is a mark or a blank. -/
theorem isLetter_of_mem : ∀ c ∈ letters, IsLetter c := by
  simp [letters, IsLetter, boundaries]

theorem name_le_filled {word : List Char} (notEmpty : word ≠ []) : name word ≤ filled := by
  rintro _ rfl
  exact notEmpty

theorem number_le_filled {infinity : List Char} (notEmpty : infinity ≠ []) :
    number infinity ≤ filled := by
  have digit : digit ≤ filled := by
    intro word derived
    obtain ⟨c, -, rfl⟩ := derived
    exact List.cons_ne_nil c []
  have decimal : decimal ≤ filled := mul_le_filled_left (mul_le_filled_left digit)
  exact sup_le (mul_le_filled_right (sup_le decimal (name_le_filled notEmpty)))
    (name_le_filled (by decide))

/-- A number is a word if its name for an infinity is one of its letters. -/
theorem isWord_of_mem_number {infinity : List Char} (notEmpty : infinity ≠ [])
    (spelt : ∀ c ∈ infinity, c ∈ letters) {content : String}
    (derived : content.toList ∈ number infinity) : IsWord content :=
  ⟨number_le_filled notEmpty derived,
    fun c member => isLetter_of_mem c (number_le_only spelt derived c member)⟩

end Notation

theorem IsNumber.isWord {content : String} (number : IsNumber content) : IsWord content :=
  Notation.isWord_of_mem_number (by decide) (by simp [Numeral.infinity, Notation.letters]) number

theorem IsPlainNumber.isWord {content : String} (number : IsPlainNumber content) : IsWord content :=
  Notation.isWord_of_mem_number (by decide) (by simp [Numeral.shortInfinity, Notation.letters]) number

namespace Lexeme

@[simp] theorem ofLetters_nil : ofLetters [] = [] := rfl

theorem ofLetters_toList {content : String} (notEmpty : content.toList ≠ []) :
    ofLetters content.toList = [.word content] := by
  cases letters : content.toList with
  | nil => contradiction
  | cons first others => rw [ofLetters, ← letters, String.ofList_toList]; simp

def Delimits (rest : List Char) : Prop := ∀ c ∈ rest.head?, c = ',' ∨ c = ']'

-- How scanning goes on behind a lexeme. A word is known to end only where something else follows,
-- and a text only where no second quote does.
theorem scan_letter {letters : List Char} {c : Char} {rest : List Char} (letter : IsLetter c) :
    scan letters (c :: rest) = scan (letters ++ [c]) rest := by
  simp only [IsLetter, boundaries, List.mem_cons, List.not_mem_nil, or_false, not_or] at letter
  obtain ⟨quote, opening, closing, comma, blank⟩ := letter
  have free : mark? c = none := by
    unfold mark?
    split <;> simp_all
  simp [scan, quote, blanks, blank, free]

theorem scan_letters {letters word rest : List Char} (all : ∀ c ∈ word, IsLetter c) :
    scan letters (word ++ rest) = scan (letters ++ word) rest := by
  induction word generalizing letters with
  | nil => simp
  | cons c word ih =>
    rw [List.cons_append, scan_letter (all c (by simp)), ih fun c member => all c (by simp [member])]
    simp

/-- A word ends at a delimiter. -/
theorem scan_delimits {letters rest : List Char} (delimits : Delimits rest) :
    scan letters rest = (scan [] rest).map (ofLetters letters ++ ·) := by
  cases rest with
  | nil => simp [scan]
  | cons c rest =>
    rcases delimits c rfl with rfl | rfl
    · simp [scan, blanks, mark?]
      rfl
    · simp [scan, blanks, mark?]
      rfl

theorem scan_word {content : String} {rest : List Char} (word : IsWord content)
    (delimits : Delimits rest) :
    scan [] (content.toList ++ rest) = (scan [] rest).map ([.word content] ++ ·) := by
  obtain ⟨notEmpty, all⟩ := word
  rw [scan_letters all, List.nil_append, scan_delimits delimits, ofLetters_toList notEmpty]

theorem scan_keyword {keyword : String} {rest : List Char} (word : IsWord keyword) :
    scan [] (keyword.toList ++ '[' :: rest) =
      (scan [] rest).map ([.word keyword, .opening] ++ ·) := by
  obtain ⟨notEmpty, all⟩ := word
  rw [scan_letters all, List.nil_append]
  simp [scan, blanks, mark?, ofLetters_toList notEmpty]

theorem scan_blanks {blank rest : List Char} (all : ∀ c ∈ blank, c ∈ blanks) :
    scan [] (blank ++ rest) = scan [] rest := by
  induction blank with
  | nil => rfl
  | cons c blank ih =>
    have member : c ∈ blanks := all c (by simp)
    have noQuote : c ≠ '"' := by
      rintro rfl
      simp [blanks] at member
    rw [List.cons_append, scan, if_neg noQuote, if_pos member,
      ih fun c member => all c (by simp [member])]
    simp

theorem scanText_doubleQuotes {before content rest : List Char} (delimits : Delimits rest) :
    scanText before (Text.doubleQuotes content ++ '"' :: rest) =
      (scan [] rest).map (.text (String.ofList (before ++ content)) :: ·) := by
  induction content generalizing before with
  | nil =>
    cases rest with
    | nil => simp [Text.doubleQuotes, scanText]
    | cons c rest =>
      -- The closing quote is not taken for half of a doubled one, since no delimiter is a quote.
      have noQuote : c ≠ '"' := by
        rintro rfl
        simpa using delimits _ rfl
      simp [Text.doubleQuotes, scanText, noQuote]
  | cons c content ih =>
    by_cases quote : c = '"'
    · simp [Text.doubleQuotes, quote, scanText, ih]
    · simp [Text.doubleQuotes, quote, scanText, ih]

theorem scan_quoted {content : String} {rest : List Char} (delimits : Delimits rest) :
    scan [] (Text.quoted content.toList ++ rest) = (scan [] rest).map ([.text content] ++ ·) := by
  simp [Text.quoted, scan, scanText_doubleQuotes delimits]
  rfl

end Lexeme

end CrsText
