import CrsText.Definition.Crs
import CrsText.Proofs.Json.Compact

/-! The type that a value is tagged with. One that is no string counts as its text, which is never the tag
of a system.
-/

set_option autoImplicit false

namespace CrsText

/-- The name of the type of a value. Where there is no type it is empty. -/
inductive Json.HasTypeName : Json → String → Prop where
  | string {entries : List (String × Json)} {name : String} :
      entries.lookup "type" = some (.string name) → HasTypeName (.object entries) name
  | other {entries : List (String × Json)} {type : Json} : entries.lookup "type" = some type →
      (∀ name, type ≠ .string name) → HasTypeName (.object entries) type.compact
  | absent {entries : List (String × Json)} :
      entries.lookup "type" = none → HasTypeName (.object entries) ""
  | noObject {value : Json} : (∀ entries, value ≠ .object entries) → HasTypeName value ""

namespace Crs

variable {value type : Json} {name : String}

def tags : List String :=
  ["GeographicCRS", "GeodeticCRS", "DerivedGeographicCRS", "DerivedGeodeticCRS", "ProjectedCRS",
    "VerticalCRS", "CompoundCRS", "BoundCRS"]

theorem mem_tags : name ∈ tags ↔ ∃ type : CrsType, name = type.tag := by
  have all : ∀ type : CrsType, type ∈ CrsType.all := by
    intro type
    cases type with
    | geodetic kind => cases kind <;> decide
    | derivedGeodetic kind => cases kind <;> decide
    | _ => decide
  have same : tags = CrsType.all.map CrsType.tag := rfl
  rw [same, List.mem_map]
  constructor
  · rintro ⟨type, -, rfl⟩
    exact ⟨type, rfl⟩
  · rintro ⟨type, rfl⟩
    exact ⟨type, all type, rfl⟩

-- What the name is, in each of the cases.
theorem typeNameOfJson_of_string (given : value.get? "type" = some (.string name)) :
    typeNameOfJson value = name := by
  rw [typeNameOfJson, given]

theorem typeNameOfJson_of_noString (given : value.get? "type" = some type)
    (noString : ∀ name, type ≠ .string name) : typeNameOfJson value = type.compact := by
  cases type with
  | string name => exact absurd rfl (noString name)
  | _ => rw [typeNameOfJson, given]

theorem typeNameOfJson_of_none (absent : value.get? "type" = none) : typeNameOfJson value = "" := by
  rw [typeNameOfJson, absent]

theorem typeNameOfJson_of_hasTypeName (named : value.HasTypeName name) : typeNameOfJson value = name := by
  cases named with
  | string given => exact typeNameOfJson_of_string given
  | other given noString => exact typeNameOfJson_of_noString given noString
  | absent nothing => exact typeNameOfJson_of_none nothing
  | noObject scalar =>
    cases value with
    | object entries => exact absurd rfl (scalar entries)
    | _ => rfl

theorem hasTypeName (value : Json) : value.HasTypeName (typeNameOfJson value) := by
  cases value with
  | object entries =>
    cases given : (Json.object entries).get? "type" with
    | none =>
      rw [typeNameOfJson_of_none given]
      exact .absent given
    | some type =>
      by_cases isString : ∃ name, type = .string name
      · obtain ⟨name, rfl⟩ := isString
        rw [typeNameOfJson_of_string given]
        exact .string given
      · have noString := not_exists.mp isString
        rw [typeNameOfJson_of_noString given noString]
        exact .other given noString
  | _ => exact .noObject fun _ => Json.noConfusion

theorem hasTypeName_iff : value.HasTypeName name ↔ typeNameOfJson value = name := by
  constructor
  · exact typeNameOfJson_of_hasTypeName
  · rintro rfl
    exact hasTypeName value

theorem tag_letters : ∀ tag ∈ tags, 'C' ∈ tag.toList ∧ tag.toList.head? ≠ some '[' ∧
    tag.toList.head? ≠ some '\x7b' := by decide

/-- The text of a value that is no string is no tag. -/
theorem compact_notMem_tags (noString : ∀ name, type ≠ .string name) : type.compact ∉ tags := by
  intro known
  obtain ⟨capital, noArray, noObject⟩ := tag_letters _ known
  rw [Json.compact, String.toList_ofList] at capital noArray noObject
  rcases Json.compactChars_cases noString with array | object | plain
  · exact noArray array
  · exact noObject object
  · exact absurd (plain 'C' capital) (by decide)

/-- A tag is a string, and only objects have one. -/
theorem exists_entries {type : CrsType} (tagged : typeNameOfJson value = type.tag) :
    ∃ entries, value = .object entries ∧ entries.lookup "type" = some (.string type.tag) := by
  have known : type.tag ∈ tags := mem_tags.mpr ⟨type, rfl⟩
  have named := hasTypeName_iff.mpr tagged
  generalize type.tag = tag at named known
  cases named with
  | string given => exact ⟨_, rfl, given⟩
  | other _ noString => exact absurd known (compact_notMem_tags noString)
  | absent _ => exact absurd known (by decide)
  | noObject _ => exact absurd known (by decide)

end Crs

end CrsText
