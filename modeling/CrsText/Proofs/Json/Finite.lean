import CrsText.Proofs.Json.Outcome

/-! JSON values without infinite numbers, and what is read out of them. A reader that yields results of a
certain kind makes records of such results.
-/

set_option autoImplicit false

namespace CrsText

namespace Json

mutual

/-- Every number is finite, and every integer fits in 64 bits. -/
def IsFinite : Json → Prop
  | .integer value => -signedBound ≤ value ∧ value < unsignedBound
  | .float value => value.isFinite
  | .array elements => ElementsAreFinite elements
  | .object entries => EntriesAreFinite entries
  | _ => True

def ElementsAreFinite : List Json → Prop
  | [] => True
  | value :: rest => IsFinite value ∧ ElementsAreFinite rest

def EntriesAreFinite : List (String × Json) → Prop
  | [] => True
  | (_, value) :: rest => IsFinite value ∧ EntriesAreFinite rest

end

theorem ElementsAreFinite.of_mem {elements : List Json} {value : Json}
    (finite : ElementsAreFinite elements) (member : value ∈ elements) : value.IsFinite := by
  induction member with
  | head => exact finite.1
  | tail _ _ ih => exact ih finite.2

theorem EntriesAreFinite.of_lookup {entries : List (String × Json)} {key : String} {value : Json}
    (finite : EntriesAreFinite entries) (found : entries.lookup key = some value) :
    value.IsFinite := by
  induction entries with
  | nil => cases found
  | cons first rest ih =>
    rw [List.lookup_cons] at found
    split at found
    · cases found
      exact finite.1
    · exact ih finite.2 found

end Json

/-- What is read out of a value without infinite numbers is of the given kind. -/
def Reader.Yields {α : Type} (read : Reader α) (kind : α → Prop) : Prop :=
  ∀ value result, value.IsFinite → read value = .ok result → kind result

namespace Reader

variable {α : Type} {read : Reader α} {kind : α → Prop}

theorem yields_any : read.Yields fun _ => True := fun _ _ _ _ => trivial

theorem Yields.elements (each : read.Yields kind) {values : List Json} {results : List α}
    (finite : Json.ElementsAreFinite values) (succeeded : elements read values = .ok results) :
    ∀ result ∈ results, kind result := by
  induction values generalizing results with
  | nil =>
    cases succeeded
    simp
  | cons value rest ih =>
    simp only [Reader.elements, bind_eq_ok, pure_eq_ok] at succeeded
    obtain ⟨result, head, others, tail, rfl⟩ := succeeded
    exact List.forall_mem_cons.mpr ⟨each value result finite.1 head, ih finite.2 tail⟩

theorem Yields.list (each : read.Yields kind) :
    (list read).Yields fun results => ∀ result ∈ results, kind result := by
  intro value results finite succeeded
  cases value with
  | array values => exact each.elements finite succeeded
  | _ => cases succeeded

theorem Yields.nullable (each : read.Yields kind) :
    (nullable read).Yields fun results => ∀ result ∈ results, kind result := by
  intro value results finite succeeded result member
  obtain rfl : results = some result := member
  cases value with
  | null => cases succeeded
  | _ =>
    simp only [Reader.nullable, bind_eq_ok, pure_eq_ok, Option.some.injEq] at succeeded
    obtain ⟨_, succeeded, rfl⟩ := succeeded
    exact each _ _ finite succeeded

end Reader

/-- Where a field is left out, its default is of the kind as well. -/
structure Field.Yields {α : Type} (field : Field α) (kind : α → Prop) : Prop where
  read : field.read.Yields kind
  absent : ∀ value ∈ field.absent, kind value
  truncated : ∀ value ∈ field.truncated, kind value

namespace Record

inductive Yields : {α : Type} → Record α → (α → Prop) → Prop where
  | build {α : Type} {value : α} {kind : α → Prop} : kind value → Yields (.build value) kind
  | field {α β : Type} {init : Record (β → α)} {last : Field β} {kind : α → Prop}
      {inner : β → Prop} : last.Yields inner →
      Yields init (fun f => ∀ value, inner value → kind (f value)) → Yields (.field init last) kind

variable {α β : Type} {kind : α → Prop} {inner : β → Prop}

namespace Yields

variable {init : Record (β → α)} {key : String} {read : Reader β}

-- One rule for each way in which a record takes a field.
theorem required (each : read.Yields inner)
    (others : Yields init fun f => ∀ value, inner value → kind (f value)) :
    Yields (init.required key read) kind :=
  others.field ⟨each, by simp, by simp⟩

theorem optional {init : Record (Option β → α)} (each : read.Yields inner)
    (others : Yields init fun f => ∀ given, (∀ value ∈ given, inner value) → kind (f given)) :
    Yields (init.optional key read) kind :=
  .field ⟨each.nullable, by simp, by simp⟩ others

theorem defaulted {value : β} (each : read.Yields inner) (initial : inner value)
    (others : Yields init fun f => ∀ value, inner value → kind (f value)) :
    Yields (init.defaulted key read value) kind :=
  .field ⟨each, by simpa using initial, by simpa using initial⟩ others

variable {record : Record α}

theorem of_ofEntries (yields : record.Yields kind) {entries : List (String × Json)} {result : α}
    (finite : Json.EntriesAreFinite entries) (succeeded : record.ofEntries entries = .ok result) :
    kind result := by
  induction yields with
  | build holds =>
    cases succeeded
    exact holds
  | field each _ ih =>
    obtain ⟨f, value, function, argument, rfl⟩ := apply_eq_ok.mp succeeded
    refine ih function value ?_
    rw [Field.ofEntries] at argument
    split at argument
    · next found =>
      exact each.read _ value (finite.of_lookup found) (Field.readValue_eq_ok.mp argument)
    · exact each.absent value (Field.orMissing_eq_ok.mp argument)

theorem of_ofElements (yields : record.Yields kind) {elements : List Json} {result : α}
    (finite : Json.ElementsAreFinite elements)
    (succeeded : record.ofElements elements = .ok result) : kind result := by
  induction yields with
  | build holds =>
    cases succeeded
    exact holds
  | field each _ ih =>
    simp only [ofElements, bind_eq_ok, pure_eq_ok] at succeeded
    obtain ⟨f, function, value, argument, rfl⟩ := succeeded
    refine ih function value ?_
    unfold Field.ofElement? at argument
    split at argument
    · next found =>
      have inside := finite.of_mem (List.mem_of_getElem? found)
      exact each.read _ value inside (Field.readValue_eq_ok.mp argument)
    · exact each.truncated value (Field.orMissing_eq_ok.mp argument)

end Yields

theorem yields_reader {record : Record α} (yields : record.Yields kind) (name : String) :
    (record.reader name).Yields kind := by
  intro value result finite succeeded
  cases value with
  | object entries => exact yields.of_ofEntries finite (readObject_eq_ok.mp succeeded)
  | array elements => exact yields.of_ofElements finite (readArray_eq_ok.mp succeeded).2
  | _ => cases succeeded

theorem yields_readerWith {record : Record (β → α)} {common : Record β}
    (yields : record.Yields fun f => ∀ value, inner value → kind (f value))
    (commonYields : common.Yields inner) (name : String) :
    (record.readerWith name common).Yields kind := by
  intro value result finite succeeded
  cases value with
  | object entries =>
    obtain ⟨f, value, function, argument, rfl⟩ := readerWith_eq_ok.mp succeeded
    exact yields.of_ofEntries finite function value (commonYields.of_ofEntries finite argument)
  | _ => cases succeeded

end Record

end CrsText
