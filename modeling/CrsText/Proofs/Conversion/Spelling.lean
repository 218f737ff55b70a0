import CrsText.Conversion
import CrsText.Proofs.Wkt1.Spelling
import CrsText.Proofs.Wkt2.Spelling
import Mathlib.Logic.Relation

/-! A conversion does not tell one spelling of a unit from another, and neither does it matter in which
form a definition gives a measure.
-/

set_option autoImplicit false

namespace CrsText

namespace Crs

theorem Respelled.typeName_eq {crs other : Crs} (respelled : crs.Respelled other) :
    crs.typeName = other.typeName := by
  cases respelled with
  | geodetic inside => exact congrArg GeodeticKind.tag inside.kind_eq
  | derivedGeodetic inside => cases inside; rfl
  | _ => rfl

/-- Not even the log of a conversion tells two spellings apart. -/
theorem Respelled.convert_eq {crs other : Crs} (respelled : crs.Respelled other) (dialect : Dialect)
    (layout : Layout) : crs.convert dialect layout = other.convert dialect layout := by
  have items : crs.toItem dialect = other.toItem dialect := by
    cases dialect with
    | wkt1 => exact Wkt1.crs_respelled respelled
    | wkt2 => exact congrArg Report.ofExcept (Wkt2.crs_respelled respelled)
  simp only [convert, items, respelled.typeName_eq]

/-- A system may be respelled any number of times without a change of its text or its failure. A
measure read from an object is the same whether the unit is given as an object of its own or spread out
beside the value, and a number may stand alone, in an object, or beside a unit that is null. -/
theorem convert_respelled :
    (∀ crs other : Crs, Relation.ReflTransGen Respelled crs other →
      ∀ dialect layout, crs.convert dialect layout = other.convert dialect layout) ∧
    (∀ (number factorNumber : Json) (value factor : Float) (name : String),
      Reader.number number = .ok value → Reader.number factorNumber = .ok factor →
      ∀ spread nested unit : List (String × Json),
        spread.Perm
          [("value", number), ("name", .string name), ("conversion_factor", factorNumber)] →
        nested.Perm [("value", number), ("unit", .object unit)] →
        unit.Perm [("name", .string name), ("conversion_factor", factorNumber)] →
        Measure.ofJson (.object spread) =
            .ok ⟨value, some (.defined ⟨none, name, factor, .empty⟩)⟩ ∧
          Measure.ofJson (.object nested) = Measure.ofJson (.object spread)) ∧
    ∀ (number : Json) (value : Float), Reader.number number = .ok value →
      ∀ beside : List (String × Json), beside.Perm [("value", number), ("unit", .null)] →
        Measure.ofJson number = .ok ⟨value, none⟩ ∧
          Measure.ofJson (.object [("value", number)]) = Measure.ofJson number ∧
          Measure.ofJson (.object beside) = Measure.ofJson number := by
  refine ⟨fun crs other respelled dialect layout => ?_, ?_, ?_⟩
  · induction respelled with
    | refl => rfl
    | tail before last ih => exact ih.trans (last.convert_eq dialect layout)
  · intro number factorNumber value factor name isNumber isFactor spread nested unit listedSpread
      listedNested listedUnit
    have read := Measure.ofJson_spread isNumber isFactor listedSpread
    exact ⟨read, (Measure.ofJson_nested isNumber isFactor listedNested listedUnit).trans read.symm⟩
  · intro number value isNumber beside listed
    have read := Measure.ofJson_number isNumber
    exact ⟨read, (Measure.ofJson_alone isNumber).trans read.symm,
      (Measure.ofJson_beside isNumber rfl listed).trans read.symm⟩

def scaledHeights (unit : MeasureUnit) (longitude : Measure) : Crs :=
  .vertical ⟨"Heights", some ⟨none, "Sea level", none, .empty⟩, none,
    ⟨"vertical", [⟨"Height", "H", "up", some unit, some ⟨longitude, .empty⟩⟩]⟩, .empty⟩

theorem Respelled.scaledHeights {unit other : MeasureUnit} {longitude otherLongitude : Measure}
    (respelled : unit.Respelled other) (along : longitude.Respelled .degree otherLongitude) :
    (scaledHeights unit longitude).Respelled (scaledHeights other otherLongitude) :=
  .vertical (.mk _ _ _ .none (.mk _
    (.cons (.mk _ _ _ (.some respelled) (.some (.mk _ along))) .nil)))

/-- A degree that is implied is first named, then spelled out, and then loses its type. -/
theorem convert_respelled_heights :
    (scaledHeights (.named "metre") ⟨0, none⟩).convert .wkt2 .multiline =
        (scaledHeights (.defined KnownUnit.metre.definition) ⟨0, some (.defined
          { KnownUnit.degree.definition with typeTag := none })⟩).convert .wkt2 .multiline ∧
      Measure.ofJson (.object [("unit", .object [("conversion_factor", .integer 2),
          ("name", .string "fathom")]), ("value", .integer 5)]) =
        Measure.ofJson (.object [("value", .integer 5), ("conversion_factor", .integer 2),
          ("name", .string "fathom")]) ∧
      Measure.ofJson (.object [("unit", .null), ("value", .integer 5)]) =
        Measure.ofJson (.integer 5) := by
  have named := Respelled.scaledHeights (.spelledOut .metre) (.named 0)
  have spelledOut := Respelled.scaledHeights (.same (.defined KnownUnit.metre.definition))
    (.unit 0 (.spelledOut .degree))
  have retagged := Respelled.scaledHeights (.same (.defined KnownUnit.metre.definition))
    (.retagged 0 KnownUnit.degree.definition none)
  refine ⟨convert_respelled.1 _ _ (((Relation.ReflTransGen.single named).tail spelledOut).tail
    retagged) .wkt2 .multiline, ?_, ?_⟩
  · exact (convert_respelled.2.1 (.integer 5) (.integer 2) _ _ "fathom" rfl rfl _ _ _
      (List.Perm.cons _ (List.Perm.swap _ _ _)) (List.Perm.swap _ _ _)
      (List.Perm.swap _ _ _)).2
  · exact (convert_respelled.2.2 (.integer 5) _ rfl _ (List.Perm.swap _ _ _)).2.2

end Crs

end CrsText
