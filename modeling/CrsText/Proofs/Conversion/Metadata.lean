import CrsText.Proofs.Conversion.Reading
import CrsText.Proofs.Wkt.Siblings
import CrsText.Proofs.Wkt2.Metadata

/-! The metadata of an object in a text. The newer dialect keeps all of it that counts, the older one an
identifier at most.
-/

set_option autoImplicit false

namespace CrsText

namespace Wkt2

theorem not_isGroup_of_mem_metadata (given : Metadata) : ∀ item ∈ metadata given, ¬ item.isGroup := by
  intro item member
  simp only [metadata, List.mem_append, List.mem_map] at member
  rcases member with (⟨usage, -, rfl⟩ | ⟨identifier, -, rfl⟩) | ⟨remarks, -, rfl⟩ <;>
    exact Bool.false_ne_true

theorem siblings_metadata (given : Metadata) : Item.Siblings (metadata given) where
  placed := (metadata_derives given).placed
  single := not_isGroup_of_mem_metadata given
  words tree member := by
    -- Nothing but numbers stands without quotes in metadata.
    have uses : tree.Uses (· ∈ Grammar.keywords) (Grammar.Bare fun _ => False) :=
      Grammar.metadata_le (metadata_derives given).trees tree member
    refine uses.mono (@Dialect.isWord_of_mem_keywords .wkt2) fun content unquoted => ?_
    rcases unquoted with number | number | none
    · exact number.isWord
    · exact number.isWord
    · exact none.elim

end Wkt2

namespace Metadata

/-- Metadata that is written as the same nodes agrees in all of it that counts. -/
theorem written_eq_of_treesOfAll_eq {given other : Metadata}
    (same : Item.treesOfAll (Wkt2.metadata other) = Item.treesOfAll (Wkt2.metadata given)) :
    other.written = given.written := by
  have alone : ∀ metadata : Metadata,
      decode ([] ++ Item.treesOfAll (Wkt2.metadata metadata)) = metadata.written :=
    fun metadata => Wkt2.decode_metadata metadata (by simp)
  rw [← alone other, same, alone]

/-- What the newer dialect writes for metadata into an open node says again all of it that counts: read
from among the parts of the object, it is as it was given, with the numbers as they are written. The
state of the text does not matter. Two pieces of metadata agree that are written as the same nodes, and
also if they only add the same text, where nothing but blanks stands between its lines. The older
dialect writes the one identifier, if there is one. -/
theorem decode_written (given : Metadata) (layout : Layout) (text : String) (level : Level)
    (outer : List Level) :
    (∀ others : List Tree, (∀ tree ∈ others, tree.IsOther) →
      decode (others ++ Item.treesOfAll (Wkt2.metadata given)) = given.written) ∧
    Draft.run ⟨layout, text, level :: outer⟩ (Item.stepsOfAll (Wkt2.metadata given)) =
      ⟨layout, text ++ Item.joined layout level.hasValues (outer.length + 1) (Wkt2.metadata given),
        { level with hasValues := level.hasValues || !(Wkt2.metadata given).isEmpty } :: outer⟩ ∧
    (∀ other : Metadata,
      Item.treesOfAll (Wkt2.metadata other) = Item.treesOfAll (Wkt2.metadata given) →
      other.written = given.written) ∧
    (layout.IsBlank → ∀ other : Metadata,
      (Draft.run ⟨layout, text, level :: outer⟩ (Item.stepsOfAll (Wkt2.metadata other))).text =
        (Draft.run ⟨layout, text, level :: outer⟩ (Item.stepsOfAll (Wkt2.metadata given))).text →
      other.written = given.written) ∧
    (Wkt1.metadata given).result = .ok (given.identifier.toList.map fun identifier =>
      .node "AUTHORITY" [.text identifier.authority, .text identifier.code.spelling]) := by
  have run : ∀ given : Metadata, _ := fun given => Item.run_siblings (Wkt2.siblings_metadata given).placed
    (Wkt2.siblings_metadata given).single layout text level outer
  refine ⟨fun others all => Wkt2.decode_metadata given all, run given,
    fun other same => written_eq_of_treesOfAll_eq same, fun blank other same => ?_,
    Wkt1.metadata_result given⟩
  rw [run other, run given] at same
  have nodes : Item.treesOfAll (Wkt2.metadata other) = Item.treesOfAll (Wkt2.metadata given) :=
    Item.treesOfAll_eq_of_joined_eq (Wkt2.siblings_metadata other) (Wkt2.siblings_metadata given) blank
      ((String.append_right_inj text).mp same)
  exact written_eq_of_treesOfAll_eq nodes

/-- Lists count where nothing is said inline, even an empty usage in one of them, and otherwise they do
not. A code that looks like a number is told from one that is a number. -/
theorem decode_written_precedence :
    let box : BoundingBox := ⟨-90, -180, 90, 180⟩
    let own : Metadata :=
      { scope := some "Surveying", boundingBox := some box, usages := some [{ area := some "World" }]
        identifier := some ⟨"EPSG", .text "4326"⟩, identifiers := some [⟨"IGNF", .text "WGS84"⟩] }
    let listed (code : Code) : Metadata :=
      { usages := some [{ area := some "World" }, { }]
        identifiers := some [⟨"EPSG", code⟩, ⟨"IGNF", .text "WGS84"⟩], remarks := some "" }
    let name : Tree := .text "WGS 84"
    name.IsOther ∧ Layout.multiline.IsBlank ∧
      decode ([name] ++ Item.treesOfAll (Wkt2.metadata own)) =
        ⟨[⟨some "Surveying", none, some box.written⟩], [⟨"EPSG", "4326", true⟩], none⟩ ∧
      decode ([name] ++ Item.treesOfAll (Wkt2.metadata (listed (.integer 4326)))) =
        ⟨[⟨none, some "World", none⟩, ⟨none, none, none⟩],
          [⟨"EPSG", "4326", false⟩, ⟨"IGNF", "WGS84", true⟩], some ""⟩ ∧
      (Draft.run ⟨.multiline, "", [⟨true, false⟩]⟩
          (Item.stepsOfAll (Wkt2.metadata (listed (.text "4326"))))).text ≠
        (Draft.run ⟨.multiline, "", [⟨true, false⟩]⟩
          (Item.stepsOfAll (Wkt2.metadata (listed (.integer 4326))))).text := by
  intro box own listed name
  have isOther : name.IsOther := fun _ _ same => nomatch same
  have blank : Layout.multiline.IsBlank := by
    simp [Layout.IsBlank, Layout.multiline, Lexeme.blanks]
  obtain ⟨ownDecoded, -⟩ := decode_written own .multiline "" ⟨true, false⟩ []
  obtain ⟨listDecoded, -, -, agree, -⟩ :=
    decode_written (listed (.integer 4326)) .multiline "" ⟨true, false⟩ []
  refine ⟨isOther, blank, ownDecoded [name] (by simpa using isOther),
    listDecoded [name] (by simpa using isOther), fun same => ?_⟩
  exact absurd (agree blank (listed (.text "4326")) same) (by decide)

end Metadata

end CrsText
