import CrsText.Proofs.Definition.TypeName

/-! The systems within a system, in the definition and in the value that it is read from. A path that
leads to a system in one of the two leads to it in the other.
-/

set_option autoImplicit false

namespace CrsText

/-- Where a system has another one within it. -/
inductive Place where
  | component (index : Nat)
  | source
  | target

namespace Place

def type : Place → CrsType
  | .component _ => .compound
  | .source | .target => .bound

def key : Place → String
  | .component _ => "components"
  | .source => "source_crs"
  | .target => "target_crs"

def select : Place → Json → Option Json
  | .component index, .array values => values[index]?
  | .component _, _ => none
  | .source, value | .target, value => some value

end Place

def Json.part? (value : Json) (place : Place) : Option Json :=
  if Crs.typeNameOfJson value = place.type.tag then (value.get? place.key).bind place.select else none

def Json.partAt? (value : Json) : List Place → Option Json
  | [] => some value
  | place :: path => (value.part? place).bind fun part => part.partAt? path

namespace Crs

def part? : Crs → Place → Option Crs
  | .compound _ components _, .component index => components[index]?
  | .bound source _ _, .source => some source
  | .bound _ target _, .target => some target
  | _, _ => none

def partAt? (crs : Crs) : List Place → Option Crs
  | [] => some crs
  | place :: path => (crs.part? place).bind fun part => part.partAt? path

theorem typeName_of_part? {crs part : Crs} {place : Place} (found : crs.part? place = some part) :
    crs.typeName = place.type.tag := by
  unfold part? at found
  split at found
  · rfl
  · rfl
  · rfl
  · cases found

/-- One step into a system is one step into its value. -/
theorem part?_of_ofJson {value : Json} {crs : Crs} (read : ofJson value = .ok crs) (place : Place) :
    Option.Rel (fun inner part => ofJson inner = .ok part) (value.part? place) (crs.part? place) := by
  by_cases tagged : typeNameOfJson value = place.type.tag
  · obtain ⟨entries, rfl, -⟩ := exists_entries tagged
    rw [ofJson_eq, CrsType.ofTag?_eq_some.mpr tagged] at read
    rw [Json.part?, if_pos tagged]
    cases place with
    | component index =>
      obtain ⟨name, components, metadata, values, rfl, found, each⟩ := compoundOfJson_eq_ok read
      have inside : (Json.object entries).get? "components" = some (.array values) := found
      rw [Place.key, inside]
      exact rel_getElem? each index
    | source =>
      obtain ⟨source, target, transformation, first, second, rfl, found, start, -⟩ :=
        boundOfJson_eq_ok read
      have inside : (Json.object entries).get? "source_crs" = some first := found
      rw [Place.key, inside]
      exact .some start
    | target =>
      obtain ⟨source, target, transformation, first, second, rfl, -, -, found, finish⟩ :=
        boundOfJson_eq_ok read
      have inside : (Json.object entries).get? "target_crs" = some second := found
      rw [Place.key, inside]
      exact .some finish
  · have nothing : crs.part? place = none := by
      by_contra something
      obtain ⟨part, found⟩ := Option.ne_none_iff_exists'.mp something
      have named := hasTypeName_iff.mp (typeName_of_ofJson read).1
      exact tagged (named.trans (typeName_of_part? found))
    rw [Json.part?, if_neg tagged, nothing]
    exact .none

theorem partAt?_of_ofJson {value : Json} {crs : Crs} (read : ofJson value = .ok crs)
    (path : List Place) :
    Option.Rel (fun inner part => ofJson inner = .ok part) (value.partAt? path)
      (crs.partAt? path) := by
  induction path generalizing value crs with
  | nil => exact .some read
  | cons place path ih =>
    rw [Json.partAt?, partAt?]
    have step := part?_of_ofJson read place
    generalize value.part? place = inner?, crs.part? place = part? at step
    cases step with
    | some inside => exact ih inside
    | none => exact .none

end Crs

end CrsText
