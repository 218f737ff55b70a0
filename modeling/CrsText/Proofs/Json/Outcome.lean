import CrsText.Json.Record
import CrsText.Proofs.Success

/-! What readers give where they find no fault. It does not depend on the order in which faults are met,
so each reader is described by its parts.
-/

set_option autoImplicit false

namespace CrsText

theorem mapError_eq_ok {ε ε' α : Type} {computation : Except ε α} {next : ε → ε'} {result : α} :
    computation.mapError next = .ok result ↔ computation = .ok result := by
  cases computation <;> simp [Except.mapError]

namespace Reader

theorem elements_eq_mapM {α : Type} (read : Reader α) (values : List Json) :
    elements read values = values.mapM read := by
  induction values with
  | nil => rfl
  | cons value rest ih => rw [elements, ih, List.mapM_cons]

theorem list_eq_ok {α : Type} {read : Reader α} {value : Json} {results : List α} :
    list read value = .ok results ↔
      ∃ elements, value = .array elements ∧ elements.mapM read = .ok results := by
  cases value <;> simp [list, elements_eq_mapM]

end Reader

namespace Field

variable {α : Type} {field : Field α} {result : α}

theorem readValue_eq_ok {value : Json} :
    field.readValue value = .ok result ↔ field.read value = .ok result := mapError_eq_ok

theorem orMissing_eq_ok {default? : Option α} :
    field.orMissing default? = .ok result ↔ default? = some result := by
  cases default? <;> simp [orMissing]

end Field

namespace Record

variable {α β : Type}

theorem apply_eq_ok {first : Except FieldFault (β → α)} {second : Except FieldFault β} {result : α} :
    apply first second = .ok result ↔
      ∃ f value, first = .ok f ∧ second = .ok value ∧ f value = result := by
  cases first <;> cases second <;> simp [apply]

theorem readObject_eq_ok {record : Record α} {entries : List (String × Json)} {result : α} :
    record.readObject entries = .ok result ↔ record.ofEntries entries = .ok result := by
  rw [readObject]
  cases record.ofEntries entries with
  | ok value => simp
  | error fault => cases fault <;> simp

theorem readArray_eq_ok {record : Record α} {name : String} {elements : List Json} {result : α} :
    record.readArray name elements = .ok result ↔
      elements.length ≤ record.size ∧ record.ofElements elements = .ok result := by
  rw [readArray]
  cases record.ofElements elements with
  | ok value => by_cases short : elements.length ≤ record.size <;> simp [short]
  | error fault => cases fault <;> simp

theorem required_eq_ok {init : Record (β → α)} {key : String} {read : Reader β}
    {entries : List (String × Json)} {result : α} :
    (init.required key read).ofEntries entries = .ok result ↔
      ∃ f given value, init.ofEntries entries = .ok f ∧ entries.lookup key = some given ∧
        read given = .ok value ∧ f value = result := by
  have found : ∀ value, Field.ofEntries entries ⟨key, read, none, none⟩ = .ok value ↔
      ∃ given, entries.lookup key = some given ∧ read given = .ok value := by
    intro value
    rw [Field.ofEntries]
    cases entries.lookup key with
    | some given => simp [Field.readValue_eq_ok]
    | none => simp [Field.orMissing_eq_ok]
  simp only [required, ofEntries, apply_eq_ok, found]
  constructor
  · rintro ⟨f, value, function, ⟨given, here, read⟩, same⟩
    exact ⟨f, given, value, function, here, read, same⟩
  · rintro ⟨f, given, value, function, here, read, same⟩
    exact ⟨f, value, function, ⟨given, here, read⟩, same⟩

/-- A field that may be left out is read as null where its key is absent. -/
theorem optional_eq_ok {init : Record (Option β → α)} {key : String} {read : Reader β}
    {entries : List (String × Json)} {result : α} :
    (init.optional key read).ofEntries entries = .ok result ↔
      ∃ f value, init.ofEntries entries = .ok f ∧
        Reader.nullable read ((entries.lookup key).getD .null) = .ok value ∧ f value = result := by
  have read : Field.ofEntries entries ⟨key, .nullable read, some none, none⟩ =
      (Reader.nullable read ((entries.lookup key).getD .null)).mapError (.unreadable key) := by
    rw [Field.ofEntries]
    cases entries.lookup key <;> rfl
  simp only [optional, ofEntries, apply_eq_ok, read, mapError_eq_ok]

theorem readerWith_eq_ok {record : Record (β → α)} {name : String} {common : Record β}
    {entries : List (String × Json)} {result : α} :
    record.readerWith name common (.object entries) = .ok result ↔
      ∃ f described, record.ofEntries entries = .ok f ∧ common.ofEntries entries = .ok described ∧
        f described = result := by
  simp only [readerWith, bind_eq_ok, pure_eq_ok, mapError_eq_ok, readObject_eq_ok, exists_and_left]

end Record

end CrsText
