import CrsText.Json.Basic
import Mathlib.Order.Lattice

/-! What a JSON value has to be: a scalar, a list, or the fields of a structure. Fields are found by
their keys or by their positions, and none is looked at before another.
-/

set_option autoImplicit false

namespace CrsText

namespace Json

def IsString : Json → Prop
  | .string _ => True
  | _ => False

def IsNumeric : Json → Prop
  | .integer _ => True
  | .float _ => True
  | _ => False

def IsListOf (element : Json → Prop) : Json → Prop
  | .array elements => ∀ value ∈ elements, element value
  | _ => False

/-- One of the names, as a string or as the only key of an object whose value is null. -/
def IsOneOf (names : List String) : Json → Prop
  | .string name => name ∈ names
  | .object entries => ∃ name ∈ names, entries = [(name, .null)]
  | _ => False

end Json

/-- A field that is not required may be left out: it is either empty then, which null says too, or
has a default. -/
inductive Presence where
  | required
  | optional
  | defaulted
  deriving DecidableEq

structure FieldType where
  key : String
  presence : Presence
  type : Json → Prop

namespace FieldType

def required (key : String) (type : Json → Prop) : FieldType := ⟨key, .required, type⟩

def optional (key : String) (type : Json → Prop) : FieldType := ⟨key, .optional, type⟩

def defaulted (key : String) (type : Json → Prop) : FieldType := ⟨key, .defaulted, type⟩

def Admits (field : FieldType) (value : Json) : Prop :=
  field.type value ∨ field.presence = .optional ∧ value = .null

def AdmitsEntry (field : FieldType) : Option Json → Prop
  | some value => field.Admits value
  | none => field.presence ≠ .required

/-- What an array has in the position of the field. Only a default makes up for a missing element. -/
def AdmitsElement (field : FieldType) : Option Json → Prop
  | some value => field.Admits value
  | none => field.presence = .defaulted

theorem AdmitsEntry.imp {key : String} {type other : Json → Prop} {value? : Option Json}
    (admits : (required key type).AdmitsEntry value?)
    (weaker : ∀ value, value? = some value → type value → other value) :
    (required key other).AdmitsEntry value? := by
  cases value? with
  | none => exact admits
  | some value => exact Or.imp_left (weaker value rfl) admits

end FieldType

namespace Json

/-- Keys that no field has are ignored. -/
def FitsEntries (fields : List FieldType) (entries : List (String × Json)) : Prop :=
  ∀ field ∈ fields, field.AdmitsEntry (entries.lookup field.key)

def FitsElements (fields : List FieldType) (elements : List Json) : Prop :=
  elements.length ≤ fields.length ∧
    ∀ (index : Nat) (field : FieldType), fields[index]? = some field →
      field.AdmitsElement elements[index]?

def IsObjectOf (fields : List FieldType) : Json → Prop
  | .object entries => FitsEntries fields entries
  | _ => False

def IsRecordOf (fields : List FieldType) : Json → Prop
  | .object entries => FitsEntries fields entries
  | .array elements => FitsElements fields elements
  | _ => False

theorem fitsEntries_append {fields others : List FieldType} {entries : List (String × Json)} :
    FitsEntries (fields ++ others) entries ↔
      FitsEntries fields entries ∧ FitsEntries others entries :=
  List.forall_mem_append

theorem fitsEntries_cons {field : FieldType} {fields : List FieldType}
    {entries : List (String × Json)} :
    FitsEntries (field :: fields) entries ↔
      field.AdmitsEntry (entries.lookup field.key) ∧ FitsEntries fields entries :=
  List.forall_mem_cons

theorem fitsEntries_singleton {field : FieldType} {entries : List (String × Json)} :
    FitsEntries [field] entries ↔ field.AdmitsEntry (entries.lookup field.key) :=
  List.forall_mem_singleton

-- Whatever stands within an array or an object is less deep.
theorem depth_le_depthOfElements {elements : List Json} {value : Json}
    (member : value ∈ elements) : value.depth ≤ depthOfElements elements := by
  induction elements with
  | nil => cases member
  | cons first rest ih =>
    rw [depthOfElements]
    rcases List.mem_cons.mp member with rfl | member
    · exact le_max_left _ _
    · exact (ih member).trans (le_max_right _ _)

theorem depth_le_depthOfEntries {entries : List (String × Json)} {key : String} {value : Json}
    (found : entries.lookup key = some value) : value.depth ≤ depthOfEntries entries := by
  induction entries with
  | nil => cases found
  | cons first rest ih =>
    obtain ⟨other, here⟩ := first
    rw [depthOfEntries]
    rw [List.lookup_cons] at found
    split at found
    · cases found
      exact le_max_left _ _
    · exact (ih found).trans (le_max_right _ _)

theorem IsListOf.imp {element other : Json → Prop} {value : Json} (typed : IsListOf element value)
    (weaker : ∀ inner : Json, inner.depth < value.depth → element inner → other inner) :
    IsListOf other value := by
  cases value with
  | array elements =>
    intro inner member
    exact weaker inner (Nat.lt_succ_of_le (depth_le_depthOfElements member)) (typed inner member)
  | _ => exact typed

end Json

end CrsText
