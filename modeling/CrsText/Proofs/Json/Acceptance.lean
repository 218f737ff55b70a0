import CrsText.Proofs.Json.Outcome
import CrsText.Proofs.Json.Typed

/-! Which values the readers accept. A reader stops at the first fault, but whether there is one does
not depend on the order in which it looks.
-/

set_option autoImplicit false

namespace CrsText

theorem succeeds_mapError {ε ε' α : Type} {computation : Except ε α} {next : ε → ε'} :
    Succeeds (computation.mapError next) ↔ Succeeds computation := by
  cases computation <;> simp [Except.mapError]

namespace Reader

open Json (IsString IsNumeric IsListOf IsOneOf)

theorem succeeds_string (value : Json) : Succeeds (string value) ↔ IsString value := by
  cases value <;> simp [string, IsString]

theorem succeeds_number (value : Json) : Succeeds (number value) ↔ IsNumeric value := by
  cases value <;> simp [number, IsNumeric]

theorem succeeds_list {α : Type} {read : Reader α} {element : Json → Prop}
    (each : ∀ value, Succeeds (read value) ↔ element value) (value : Json) :
    Succeeds (list read value) ↔ IsListOf element value := by
  cases value with
  | array values => simp only [list, IsListOf, elements_eq_mapM, succeeds_mapM, each]
  | _ => simp [list, IsListOf]

theorem succeeds_nullable {α : Type} {read : Reader α} (value : Json) :
    Succeeds (nullable read value) ↔ Succeeds (read value) ∨ value = .null := by
  cases value <;> simp [nullable]

theorem succeeds_choice {α : Type} (first second : String × α) (value : Json) :
    Succeeds (choice first second value) ↔ IsOneOf [first.1, second.1] value := by
  have known : ∀ name, Succeeds (choice.named first second name) ↔ name = first.1 ∨ name = second.1 := by
    intro name
    unfold choice.named
    split
    · simp [*]
    · split <;> simp [*]
  cases value with
  | string name => simp [choice, IsOneOf, known]
  | object entries =>
    match entries with
    | [] => simp [choice, IsOneOf]
    | [(name, value)] =>
      cases value <;> simp [choice, IsOneOf, known, succeeds_bind]
    | _ :: _ :: _ => simp [choice, IsOneOf]
  | _ => simp [choice, IsOneOf]

end Reader

/-- The field is read from exactly the values that its type admits, and can be left out where its type
says so. -/
structure Field.Reads {α : Type} (field : Field α) (type : FieldType) : Prop where
  key : field.key = type.key
  read : ∀ value, Succeeds (field.read value) ↔ type.Admits value
  absent : field.absent.isSome ↔ type.presence ≠ .required
  truncated : field.truncated.isSome ↔ type.presence = .defaulted

namespace Field.Reads

variable {α : Type} {field : Field α} {type : FieldType}

theorem succeeds_orMissing {default? : Option α} :
    Succeeds (field.orMissing default?) ↔ default?.isSome := by
  cases default? <;> simp [orMissing]

theorem succeeds_ofEntries (reads : field.Reads type) (entries : List (String × Json)) :
    Succeeds (field.ofEntries entries) ↔ type.AdmitsEntry (entries.lookup type.key) := by
  rw [Field.ofEntries, reads.key]
  cases entries.lookup type.key with
  | some value => simp only [readValue, succeeds_mapError, reads.read, FieldType.AdmitsEntry]
  | none => simp only [succeeds_orMissing, reads.absent, FieldType.AdmitsEntry]

theorem succeeds_ofElement? (reads : field.Reads type) (element? : Option Json) :
    Succeeds (field.ofElement? element?) ↔ type.AdmitsElement element? := by
  cases element? with
  | some value =>
    simp only [ofElement?, readValue, succeeds_mapError, reads.read, FieldType.AdmitsElement]
  | none => simp only [ofElement?, succeeds_orMissing, reads.truncated, FieldType.AdmitsElement]

end Field.Reads

namespace Record

inductive Reads : {α : Type} → Record α → List FieldType → Prop where
  | build {α : Type} (value : α) : Reads (.build value) []
  | field {α β : Type} {init : Record (β → α)} {last : Field β} {fields : List FieldType}
      {type : FieldType} : Reads init fields → last.Reads type →
      Reads (.field init last) (fields ++ [type])

variable {α β : Type} {fields : List FieldType}

namespace Reads

variable {init : Record (β → α)} {key : String} {read : Reader β} {type : Json → Prop}

-- One rule for each way in which a record takes a field.
theorem required (reads : Reads init fields) (key : String)
    (accepts : ∀ value, Succeeds (read value) ↔ type value) :
    Reads (init.required key read) (fields ++ [.required key type]) :=
  reads.field ⟨rfl, fun value => by simpa [FieldType.Admits, FieldType.required] using accepts value,
    by simp [FieldType.required], by simp [FieldType.required]⟩

theorem optional {init : Record (Option β → α)} (reads : Reads init fields) (key : String)
    (accepts : ∀ value, Succeeds (read value) ↔ type value) :
    Reads (init.optional key read) (fields ++ [.optional key type]) :=
  reads.field ⟨rfl, fun value => by
      simp [FieldType.Admits, FieldType.optional, Reader.succeeds_nullable, accepts],
    by simp [FieldType.optional], by simp [FieldType.optional]⟩

theorem defaulted (reads : Reads init fields) (key : String) (value : β)
    (accepts : ∀ value, Succeeds (read value) ↔ type value) :
    Reads (init.defaulted key read value) (fields ++ [.defaulted key type]) :=
  reads.field ⟨rfl, fun value => by simpa [FieldType.Admits, FieldType.defaulted] using accepts value,
    by simp [FieldType.defaulted], by simp [FieldType.defaulted]⟩

end Reads

theorem succeeds_apply {first : Except FieldFault (β → α)} {second : Except FieldFault β} :
    Succeeds (apply first second) ↔ Succeeds first ∧ Succeeds second := by
  cases first <;> cases second <;> simp [apply]

variable {record : Record α}

theorem Reads.succeeds_ofEntries (reads : record.Reads fields) (entries : List (String × Json)) :
    Succeeds (record.ofEntries entries) ↔ Json.FitsEntries fields entries := by
  induction reads with
  | build value => simp [ofEntries, Json.FitsEntries]
  | field _ last ih =>
    rw [ofEntries, succeeds_apply, ih, last.succeeds_ofEntries, Json.fitsEntries_append,
      Json.fitsEntries_singleton]

theorem Reads.size_eq (reads : record.Reads fields) : record.size = fields.length := by
  induction reads with
  | build value => rfl
  | field _ _ ih => simp [size, ih]

theorem forall_getElem?_append {ι : Type} {values : List ι} {last : ι} {holds : Nat → ι → Prop} :
    (∀ (index : Nat) (value : ι), (values ++ [last])[index]? = some value → holds index value) ↔
      (∀ (index : Nat) (value : ι), values[index]? = some value → holds index value) ∧
        holds values.length last := by
  constructor
  · intro all
    refine ⟨fun index value selected => all index value ?_, all _ last (by simp)⟩
    rw [List.getElem?_append_left (List.getElem?_eq_some_iff.mp selected).1, selected]
  · rintro ⟨each, final⟩ index value selected
    rw [List.getElem?_append] at selected
    split at selected
    · exact each index value selected
    · next beyond =>
      obtain ⟨bound, rfl⟩ := List.getElem?_eq_some_iff.mp selected
      have same : index = values.length := by simp at bound; omega
      simpa [same] using final

theorem Reads.succeeds_ofElements (reads : record.Reads fields) (elements : List Json) :
    Succeeds (record.ofElements elements) ↔
      ∀ (index : Nat) (field : FieldType), fields[index]? = some field →
        field.AdmitsElement elements[index]? := by
  induction reads with
  | build value => simp [ofElements]
  | field init last ih =>
    rw [forall_getElem?_append, ← ih, ← last.succeeds_ofElement?, ← init.size_eq]
    simp [ofElements, succeeds_bind]

theorem succeeds_readObject (reads : record.Reads fields) (entries : List (String × Json)) :
    Succeeds (record.readObject entries) ↔ Json.FitsEntries fields entries := by
  simp only [← reads.succeeds_ofEntries, Succeeds, readObject_eq_ok]

theorem succeeds_readArray (reads : record.Reads fields) (name : String) (elements : List Json) :
    Succeeds (record.readArray name elements) ↔ Json.FitsElements fields elements := by
  rw [Json.FitsElements, ← reads.succeeds_ofElements, ← reads.size_eq]
  simp only [Succeeds, readArray_eq_ok, exists_and_left]

theorem succeeds_reader (reads : record.Reads fields) (name : String) (value : Json) :
    Succeeds (record.reader name value) ↔ value.IsRecordOf fields := by
  cases value with
  | object entries => exact succeeds_readObject reads entries
  | array elements => exact succeeds_readArray reads name elements
  | _ => simp [reader, Json.IsRecordOf]

theorem succeeds_readerWith {record : Record (β → α)} {common : Record β} {others : List FieldType}
    (reads : record.Reads fields) (commonReads : common.Reads others) (name : String) (value : Json) :
    Succeeds (record.readerWith name common value) ↔ value.IsObjectOf (fields ++ others) := by
  cases value with
  | object entries =>
    rw [Json.IsObjectOf, Json.fitsEntries_append, ← succeeds_readObject reads,
      ← succeeds_readObject commonReads]
    simp [readerWith, succeeds_bind, succeeds_mapError]
  | _ => simp [readerWith, Json.IsObjectOf]

end Record

end CrsText
