import CrsText.Proofs.Conversion.Editing
import CrsText.Proofs.Definition.Transcription

/-! An array says what the object of its elements says, and nothing that is read from a definition or
written for it shows which of the two is given.
-/

set_option autoImplicit false

namespace CrsText

theorem Transcribed.ofJson_eq {value other : Json}
    (transcribed : Relation.EqvGen (Transcribed (.one .crs)) value other) :
    Crs.ofJson value = Crs.ofJson other := by
  induction transcribed with
  | rel value other here => exact here.same.2
  | refl value => rfl
  | symm _ _ _ ih => exact ih.symm
  | trans _ _ _ _ _ first second => exact first.trans second

namespace Json

/-- Whatever may be an array is read from one with an element for each key as it is from the object with
these elements, and from no array of another length, but that a coordinate system may lack its axes.
Within a system any accepted spellings may be exchanged for one another, in any number: what is read, and
the text, the failure and the log of a conversion stay the same. -/
theorem convert_transcribed :
    (∀ entity : Entity, entity.isTuple → ∀ elements : List Json,
      (elements.length = entity.slots.length → ∀ value,
        entity.ofJson (.array elements) = .ok value ↔
          entity.ofJson (.object (entity.keys.zip elements)) = .ok value) ∧
      ((∃ value, entity.ofJson (.array elements) = .ok value) →
        elements.length = entity.slots.length ∨
          entity = .coordinateSystem ∧ elements.length = 1)) ∧
    (∀ (subtype : Json) (value : CoordinateSystem),
      CoordinateSystem.ofJson (.array [subtype]) = .ok value ↔
        CoordinateSystem.ofJson (.object [("subtype", subtype)]) = .ok value) ∧
    ∀ value other : Json, Relation.EqvGen (Transcribed (.one .crs)) value other →
      Crs.ofJson value = Crs.ofJson other ∧
        ∀ dialect layout, value.convert dialect layout = other.convert dialect layout := by
  refine ⟨fun entity spelling elements => ⟨fun size value => ?_, ?_⟩, fun subtype value => ?_,
    fun value other transcribed => ?_⟩
  · exact (Entity.spells_zip spelling size).ofJson_eq_ok_iff
  · exact Entity.length_of_ofJson spelling
  · exact CoordinateSystem.ofJson_subtype rfl rfl
  · have read : Crs.ofJson value = Crs.ofJson other := Transcribed.ofJson_eq transcribed
    refine ⟨read, fun dialect layout => ?_⟩
    simp only [convert, read]

def heightsAlong (axis : Json) : Json :=
  .object [("type", .string "VerticalCRS"), ("name", .string "Heights"),
    ("datum", .object [("name", .string "Sea level")]),
    ("coordinate_system", .array [.string "vertical", .array [axis]])]

/-- An axis as an array with nulls, and as an object that leaves out what is null. -/
theorem convert_transcribed_axis :
    let elements := [.string "Height", .string "H", .string "up", .null, .null]
    let entries := [("direction", .string "up"), ("name", .string "Height"),
      ("abbreviation", .string "H")]
    Entity.axis.isTuple ∧ elements.length = Entity.axis.slots.length ∧
      Axis.ofJson (.object (Entity.axis.keys.zip elements)) =
        .ok ⟨"Height", "H", "up", none, none⟩ ∧
      Relation.EqvGen (Transcribed (.one .crs)) (heightsAlong (.object entries))
        (heightsAlong (.array elements)) ∧
      (heightsAlong (.object entries)).convert .wkt2 .multiline =
        (heightsAlong (.array elements)).convert .wkt2 .multiline := by
  intro elements entries
  obtain ⟨alone, -, within⟩ := convert_transcribed
  have listed : Axis.ofJson (.array elements) = .ok ⟨"Height", "H", "up", none, none⟩ := rfl
  have keyed := ((alone .axis rfl elements).1 rfl _).mp listed
  have spells : Entity.axis.Spells elements entries := by
    refine .full rfl rfl fun index slot selected => ?_
    match index with
    | 0 | 1 | 2 => cases selected; exact .given _
    | 3 | 4 => cases selected; exact .null rfl
  have axis : Transcribed (.list .axis) (.array [.array elements]) (.array [.object entries]) :=
    @Transcribed.item .axis [] [] _ _ (.spelling spells ⟨_, listed⟩)
  have system : Transcribed (.one .coordinateSystem)
      (.array [.string "vertical", .array [.array elements]])
      (.array [.string "vertical", .array [.object entries]]) :=
    @Transcribed.element .coordinateSystem [_] [] (.defaulted "axis" (.list .axis)) _ _ rfl rfl axis
  have heights : Transcribed (.one .crs) (heightsAlong (.array elements))
      (heightsAlong (.object entries)) :=
    @Transcribed.entry .crs [_, _, _] [] (.required "coordinate_system" (.one .coordinateSystem)) _ _
      (by decide) system
  have exchanged := Relation.EqvGen.symm _ _ (.rel _ _ heights)
  exact ⟨rfl, rfl, keyed, exchanged, (within _ _ exchanged).2 .wkt2 .multiline⟩

end Json

end CrsText
