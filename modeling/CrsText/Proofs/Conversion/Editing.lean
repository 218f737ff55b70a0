import CrsText.Conversion
import CrsText.Proofs.Definition.Editing
import Mathlib.Logic.Relation

/-! Unknown keys and keys without a value never matter, neither for what is read from a definition nor
for the text that it is converted to.
-/

set_option autoImplicit false

namespace CrsText

namespace Edited

theorem ofJson_eq {entity : Entity} {value other : Json}
    (edited : Relation.ReflTransGen (Edited (.one entity)) value other) :
    entity.ofJson value = entity.ofJson other := by
  induction edited with
  | refl => rfl
  | tail before last ih => exact ih.trans last.same.2

end Edited

namespace Json

/-- Any number of edits of what is irrelevant leaves the value that is read, or the fault, as it was;
the text, the failure and the log of a conversion then stay the same too. -/
theorem convert_edited :
    (∀ (entity : Entity) (value other : Json),
      Relation.ReflTransGen (Edited (.one entity)) value other →
        entity.ofJson value = entity.ofJson other) ∧
    ∀ value other : Json, Relation.ReflTransGen (Edited (.one .crs)) value other →
      Crs.ofJson value = Crs.ofJson other ∧
        ∀ dialect layout, value.convert dialect layout = other.convert dialect layout := by
  refine ⟨fun entity value other => Edited.ofJson_eq, fun value other edited => ?_⟩
  have read : Crs.ofJson value = Crs.ofJson other := Edited.ofJson_eq edited
  refine ⟨read, fun dialect layout => ?_⟩
  simp only [convert, read]

def heights (beside datum : List (String × Json)) : Json :=
  .object ([("type", .string "VerticalCRS"), ("name", .string "Heights"),
    ("coordinate_system", .object [("subtype", .string "vertical"), ("axis", .array [.object
      [("name", .string "Height"), ("abbreviation", .string "H"), ("direction", .string "up")]])]),
    ("datum", .object ([("name", .string "Sea level")] ++ datum))] ++ beside)

/-- An empty ensemble is removed, a schema is inserted, and so is the anchor of the datum. -/
theorem convert_edited_heights :
    Crs.ofJson (heights [("datum_ensemble", .null)] []) =
        Crs.ofJson (heights [("$schema", .bool true)] [("anchor", .array [])]) ∧
      (heights [("datum_ensemble", .null)] []).convert .wkt2 .multiline =
        (heights [("$schema", .bool true)] [("anchor", .array [])]).convert .wkt2 .multiline := by
  have removed : Edited (.one .crs) (heights [("datum_ensemble", .null)] []) (heights [] []) :=
    @Edited.removeNull .crs _ [] (.optional "datum_ensemble" (.one .datumEnsemble)) (by decide) rfl
      (by decide)
  have inserted : Edited (.one .crs) (heights [] []) (heights [("$schema", .bool true)] []) :=
    @Edited.insert .crs _ [] "$schema" _ (by decide)
  have anchor : Edited (.one .verticalDatum) (.object [("name", .string "Sea level")])
      (.object [("name", .string "Sea level"), ("anchor", .array [])]) :=
    @Edited.insert .verticalDatum [_] [] "anchor" _ (by decide)
  have within : Edited (.one .crs) (heights [("$schema", .bool true)] [])
      (heights [("$schema", .bool true)] [("anchor", .array [])]) :=
    @Edited.entry .crs [_, _, _] [_] (.optional "datum" (.one .verticalDatum)) _ _ (by decide) anchor
  have edited := ((Relation.ReflTransGen.single removed).tail inserted).tail within
  exact ⟨convert_edited.1 .crs _ _ edited, (convert_edited.2 _ _ edited).2 .wkt2 .multiline⟩

end Json

end CrsText
