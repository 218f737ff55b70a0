import CrsText.Proofs.Conversion.Grammar
import CrsText.Proofs.Writing.Blame

/-! The type that a system is tagged with is the type that it is read with and the one that a conversion
blames, for the system itself and for every system within it.
-/

set_option autoImplicit false

namespace CrsText

theorem Crs.blames_toItem (dialect : Dialect) (crs : Crs) :
    BlamesOnly crs.HasUnsupported (crs.toItem dialect).result := by
  cases dialect with
  | wkt1 => exact Wkt1.blames_crs crs
  | wkt2 => exact Wkt2.blames_crs crs

theorem Crs.blames_convert (dialect : Dialect) (layout : Layout) (crs : Crs) :
    BlamesOnly crs.HasUnsupported (crs.convert dialect layout).result := by
  intro typeName failed
  refine crs.blames_toItem dialect typeName ?_
  rw [convert_result] at failed
  cases written : (crs.toItem dialect).result with
  | ok item => simp [written, Except.map] at failed
  | error failure => simpa [written, Except.map] using failed

namespace Json

/-- Wherever a path leads in a value and in the system that is read from it, the system has the type of
the value, and it is unsupported if that is no tag of a known one. A type that is no string never is
one, and of a value of an unknown type only the type is kept. So only a value of a known type can be
unreadable, and a conversion that fails because of a type names one that is in the value and unknown. -/
theorem convert_typeName (value : Json) :
    (∀ crs, Crs.ofJson value = .ok crs → ∀ path : List Place,
      Option.Rel (fun inner part => Crs.ofJson inner = .ok part ∧
          inner.HasTypeName part.typeName ∧ (part.IsUnsupported ↔ part.typeName ∉ Crs.tags))
        (value.partAt? path) (crs.partAt? path)) ∧
    (∀ type, value.get? "type" = some type → (∀ text, type ≠ .string text) →
      Crs.ofJson value = .ok (.unsupported type.compact)) ∧
    (∀ name, value.HasTypeName name → name ∉ Crs.tags →
      Crs.ofJson value = .ok (.unsupported name)) ∧
    (∀ fault, Crs.ofJson value = .error fault → ∃ tag ∈ Crs.tags, value.HasTypeName tag) ∧
    ∀ dialect layout typeName,
      (value.convert dialect layout).result = .error (.unsupportedType typeName) →
      ∃ path inner, value.partAt? path = some inner ∧ inner.HasTypeName typeName ∧
        typeName ∉ Crs.tags := by
  refine ⟨fun crs read path => ?_, fun type => Crs.ofJson_of_noString,
    fun name => Crs.ofJson_of_notMem, fun fault failed => ?_, fun dialect layout typeName failed => ?_⟩
  · have along := Crs.partAt?_of_ofJson read path
    generalize value.partAt? path = inner?, crs.partAt? path = part? at along
    cases along with
    | some inside => exact .some ⟨inside, Crs.typeName_of_ofJson inside⟩
    | none => exact .none
  · refine ⟨_, ?_, Crs.hasTypeName value⟩
    by_contra unknown
    rw [Crs.ofJson_of_notMem (Crs.hasTypeName value) unknown] at failed
    cases failed
  · rw [convert] at failed
    cases read : Crs.ofJson value with
    | error fault => simp [read] at failed
    | ok crs =>
      rw [read] at failed
      obtain ⟨path, found⟩ := crs.blames_convert dialect layout typeName failed
      have along := Crs.partAt?_of_ofJson read path
      rw [found] at along
      generalize leads : value.partAt? path = inner? at along
      cases along with
      | some inside =>
        obtain ⟨named, unknown⟩ := Crs.typeName_of_ofJson inside
        exact ⟨path, _, leads, named, unknown.mp ⟨typeName, rfl⟩⟩

def numberedComponent : Json :=
  .object [("type", .string "CompoundCRS"), ("name", .string "Compound"),
    ("components", .array [.object [("type", .integer 7)]])]

theorem convert_typeName_numberedComponent :
    Crs.ofJson numberedComponent = .ok (.compound "Compound" [.unsupported "7"] .empty) ∧
      Crs.ofJson (.object [("type", .integer 7)]) = .ok (.unsupported "7") ∧
      Crs.ofJson (.array []) = .ok (.unsupported "") ∧
      (numberedComponent.convert .wkt2 .multiline).result = .error (.unsupportedType "7") ∧
      (∃ path inner, numberedComponent.partAt? path = some inner ∧
        inner.HasTypeName "7" ∧ "7" ∉ Crs.tags) ∧
      (∃ fault, Crs.ofJson (.object [("type", .string "VerticalCRS")]) = .error fault) ∧
      ∃ tag ∈ Crs.tags, (Json.object [("type", .string "VerticalCRS")]).HasTypeName tag := by
  have failed : (numberedComponent.convert .wkt2 .multiline).result =
      .error (.unsupportedType "7") := rfl
  have scalar : (Json.array []).HasTypeName "" := .noObject fun _ => Json.noConfusion
  obtain ⟨-, kept, -⟩ := convert_typeName (.object [("type", .integer 7)])
  obtain ⟨-, -, untyped, -⟩ := convert_typeName (.array [])
  obtain ⟨-, -, -, -, blames⟩ := convert_typeName numberedComponent
  obtain ⟨-, -, -, known, -⟩ := convert_typeName (.object [("type", .string "VerticalCRS")])
  exact ⟨rfl, kept (.integer 7) rfl (fun _ => Json.noConfusion), untyped "" scalar (by decide), failed,
    blames .wkt2 .multiline "7" failed, ⟨_, rfl⟩, known _ rfl⟩

end Json

end CrsText
