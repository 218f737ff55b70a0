import CrsText.Proofs.Conversion.Grammar
import CrsText.Proofs.Json.Outcome
import CrsText.Proofs.Number.Reading
import CrsText.Proofs.Wkt1.Identifiers
import CrsText.Proofs.Wkt2.Identifiers

/-! How integer codes are written. Below 2 ^ 63 every identifier shows the digits of its code, so that
different codes are told apart.
-/

set_option autoImplicit false

namespace CrsText

theorem Token.integer_injective : Function.Injective Token.integer := by
  intro n m same
  have read := Numeral.integer?_signedDigits n
  rw [String.ofList_inj.mp same, Numeral.integer?_signedDigits] at read
  exact (Option.some.inj read).symm

/-- The code in the value of an identifier, in either of its spellings. -/
def Json.code? : Json → Option Json
  | .object entries => entries.lookup "code"
  | .array elements => elements[1]?
  | _ => none

namespace Identifier

/-- The identifier is read from a value whose code is an integer. -/
def IsCoded (identifier : Identifier) (n : Int) : Prop :=
  ∃ value, ofJson value = .ok identifier ∧ value.code? = some (.integer n)

theorem IsCoded.code {identifier : Identifier} {n : Int} (coded : identifier.IsCoded n) :
    Code.ofJson (.integer n) = .ok identifier.code := by
  obtain ⟨value, read, given⟩ := coded
  cases value with
  | object entries =>
    have found : entries.lookup "code" = some (.integer n) := given
    rw [ofJson, Record.reader, Record.readObject_eq_ok, record, Record.required_eq_ok] at read
    obtain ⟨f, token, code, first, same, here, rfl⟩ := read
    obtain ⟨f, -, authority, ⟨⟩, -, -, rfl⟩ := Record.required_eq_ok.mp first
    rw [found] at same
    cases same
    exact here
  | array elements =>
    have found : elements[1]? = some (.integer n) := given
    rw [ofJson, Record.reader, Record.readArray_eq_ok] at read
    obtain ⟨-, read⟩ := read
    simp only [record, Record.required, Record.ofElements, bind_eq_ok, pure_eq_ok] at read
    obtain ⟨f, ⟨g, ⟨⟩, authority, -, rfl⟩, code, here, rfl⟩ := read
    simpa [Record.size, Field.ofElement?, found, Field.readValue, mapError_eq_ok] using here
  | _ => cases given

/-- An integer is kept as it is as long as it fits in 64 bits with a sign. -/
theorem IsCoded.code_eq {identifier : Identifier} {n : Int} (coded : identifier.IsCoded n)
    (small : n < 2 ^ 63) : identifier.code = .integer n := by
  have read := coded.code
  have bound : n < Json.signedBound := small
  rw [Code.ofJson, if_pos bound] at read
  exact (Except.ok.inj read).symm

end Identifier

namespace Dialect

def identifierKeyword : Dialect → String
  | .wkt1 => "AUTHORITY"
  | .wkt2 => "ID"

def identifierNode : Dialect → Identifier → Item
  | .wkt1 => Wkt1.authority
  | .wkt2 => Wkt2.identifier

def numeral (dialect : Dialect) (n : Int) : Item :=
  match dialect with
  | .wkt1 => .text (toString n)
  | .wkt2 => .token (toString n)

def numeralText (dialect : Dialect) (n : Int) : String :=
  match dialect with
  | .wkt1 => Item.quotation (toString n)
  | .wkt2 => toString n

variable {dialect : Dialect} {identifier : Identifier} {n m : Int}

theorem identifierNode_eq (coded : identifier.IsCoded n) (small : n < 2 ^ 63) :
    dialect.identifierNode identifier =
      .named dialect.identifierKeyword identifier.authority [dialect.numeral n] := by
  cases dialect with
  | wkt1 =>
    simp [identifierNode, identifierKeyword, numeral, Wkt1.authority, coded.code_eq small,
      Code.spelling, Token.integer_eq_toString]
  | wkt2 =>
    simp [identifierNode, identifierKeyword, numeral, Wkt2.identifier, Wkt2.code, coded.code_eq small,
      Code.spelling, Code.isNumeric, Token.integer_eq_toString]

theorem numeral_injective (dialect : Dialect) (same : dialect.numeral n = dialect.numeral m) :
    n = m := by
  apply Token.integer_injective
  rw [Token.integer_eq_toString, Token.integer_eq_toString]
  cases dialect with
  | wkt1 => exact Item.text.inj same
  | wkt2 => exact Item.token.inj same

/-- What a node with a numeral adds to the text. -/
theorem fillAll_numeral (dialect : Dialect) (layout : Layout) (keyword authority : String) (n : Int)
    (depth : Nat) :
    Segment.fillAll layout ((Item.named keyword authority [dialect.numeral n]).printed false depth) =
      layout.lead depth ++ (keyword ++ "[" ++ Item.quotation authority ++ "," ++
        dialect.numeralText n ++ "]") := by
  cases dialect <;>
    simp [Item.named, numeral, numeralText, Item.printed, Item.printedAll, Item.isGroup, Segment.comma,
      Segment.fill, Layout.lead_eq, Item.quotation_eq, String.append_assoc]

end Dialect

namespace Crs

variable {dialect : Dialect} {layout : Layout} {crs : Crs} {text : String}

theorem nodes_toItem {item : Item} (written : (crs.toItem dialect).result = .ok item) :
    item.nodes dialect.identifierKeyword =
      (crs.identifiers dialect).map dialect.identifierNode := by
  cases dialect with
  | wkt1 => exact Wkt1.nodes_crs written
  | wkt2 => exact Wkt2.nodes_crs written

/-- A text has one node for each identifier that its dialect keeps, in order. If the code of one is an
integer below 2 ^ 63, then the node holds the digits of that integer and no others, and so no two
identifiers with different ones have the same node. -/
theorem convert_integerCode (converted : (crs.convert dialect layout).result = .ok text) :
    (∃ item, (crs.toItem dialect).result = .ok item ∧ item.write layout = text ∧
      item.nodes dialect.identifierKeyword = (crs.identifiers dialect).map dialect.identifierNode) ∧
    ∀ identifier ∈ crs.identifiers dialect, ∀ n, identifier.IsCoded n → n < 2 ^ 63 →
      dialect.identifierNode identifier =
        .named dialect.identifierKeyword identifier.authority [dialect.numeral n] ∧
      (∃ before after, text = before ++ (dialect.identifierKeyword ++ "[" ++
        Item.quotation identifier.authority ++ "," ++ dialect.numeralText n ++ "]") ++ after) ∧
      ∀ (other : Identifier) (m : Int), other.IsCoded m → m < 2 ^ 63 →
        dialect.identifierNode identifier = dialect.identifierNode other → n = m := by
  obtain ⟨item, written, rfl⟩ := convert_eq_ok.mp converted
  have nodes := nodes_toItem written
  refine ⟨⟨item, written, rfl, nodes⟩, fun identifier member n coded small => ?_⟩
  have node : dialect.identifierNode identifier =
      .named dialect.identifierKeyword identifier.authority [dialect.numeral n] :=
    Dialect.identifierNode_eq coded small
  refine ⟨node, ?_, fun other m codedOther smallOther same => ?_⟩
  · have inside : dialect.identifierNode identifier ∈ item.nodes dialect.identifierKeyword :=
      nodes ▸ List.mem_map_of_mem member
    obtain ⟨before, depth, after, split⟩ := Item.write_of_mem_nodes inside layout
    rw [node, Dialect.fillAll_numeral] at split
    exact ⟨before ++ layout.lead depth, after, by simp [split, String.append_assoc]⟩
  · rw [node, Dialect.identifierNode_eq codedOther smallOther] at same
    have parts : identifier.authority = other.authority ∧ dialect.numeral n = dialect.numeral m := by
      simpa [Item.named] using same
    exact dialect.numeral_injective parts.2

def codedHeights (code : Code) : Crs :=
  .vertical ⟨"Heights", some ⟨none, "Sea level", none, .empty⟩, none,
    ⟨"vertical", [⟨"Height", "H", "up", none, none⟩]⟩, { identifier := some ⟨"EPSG", code⟩ }⟩

/-- The largest code that is kept, in the older dialect. -/
theorem convert_integerCode_largest : ∃ text before after,
    ((codedHeights (.integer 9223372036854775807)).convert .wkt1 .multiline).result = .ok text ∧
      Identifier.IsCoded ⟨"EPSG", .integer 9223372036854775807⟩ 9223372036854775807 ∧
      text = before ++ "AUTHORITY[\"EPSG\",\"9223372036854775807\"]" ++ after := by
  obtain ⟨text, converted⟩ : ∃ text,
      ((codedHeights (.integer 9223372036854775807)).convert .wkt1 .multiline).result = .ok text :=
    ⟨_, rfl⟩
  have coded : Identifier.IsCoded ⟨"EPSG", .integer 9223372036854775807⟩ 9223372036854775807 :=
    ⟨.object [("authority", .string "EPSG"), ("code", .integer 9223372036854775807)], rfl, rfl⟩
  obtain ⟨-, each⟩ := convert_integerCode converted
  obtain ⟨-, ⟨before, after, split⟩, -⟩ := each _ (.head _) _ coded (by decide)
  exact ⟨text, before, after, converted, coded, split⟩

/-- A larger code is written as the nearest double, so that one identifier stands for two codes. -/
theorem convert_largeCode_rounded :
    let identifier : Identifier := ⟨"EPSG", .float (Float.ofInt 9223372036854775809)⟩
    identifier ∈ (codedHeights identifier.code).identifiers .wkt2 ∧
      identifier.IsCoded 9223372036854775809 ∧ identifier.IsCoded 9223372036854775810 ∧
      Dialect.wkt2.identifierNode identifier =
        .named "ID" "EPSG" [.token "9223372036854776000"] ∧
      ∃ text, ((codedHeights identifier.code).convert .wkt2 .singleLine).result = .ok text := by
  intro identifier
  have digits : Token.plain (Float.ofInt 9223372036854775809) = "9223372036854776000" := by
    decide +kernel
  refine ⟨.head _, ⟨.object [("authority", .string "EPSG"), ("code", .integer 9223372036854775809)],
    rfl, rfl⟩, ⟨.array [.string "EPSG", .integer 9223372036854775810], rfl, rfl⟩, ?_, _, rfl⟩
  exact congrArg (fun code => Item.named "ID" "EPSG" [.token code]) digits

end Crs

end CrsText
