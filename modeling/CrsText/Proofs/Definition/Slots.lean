import CrsText.Proofs.Definition.Entity
import CrsText.Proofs.Json.Acceptance

/-! Records against the slots of entities. A record reads what is under the keys of its slots and
nothing else, and takes null under a key that may be left out as if it were.
-/

set_option autoImplicit false

namespace CrsText

namespace Part

/-- Two values that are read alike as the part. -/
def Same : Part → Json → Json → Prop
  | scalar, value, other => value = other
  | one entity, value, other =>
    (value = .null ↔ other = .null) ∧ entity.ofJson value = entity.ofJson other
  | list entity, value, other =>
    (value = .null ↔ other = .null) ∧
      Reader.list entity.ofJson value = Reader.list entity.ofJson other

theorem Same.refl (part : Part) (value : Json) : part.Same value value := by
  cases part with
  | scalar => rfl
  | one entity => exact ⟨.rfl, rfl⟩
  | list entity => exact ⟨.rfl, rfl⟩

theorem Same.null_iff {part : Part} {value other : Json} (same : part.Same value other) :
    value = .null ↔ other = .null := by
  cases part with
  | scalar => rw [same]
  | one entity => exact same.1
  | list entity => exact same.1

def Respects {α : Type} (part : Part) (read : Reader α) : Prop :=
  ∀ value other, part.Same value other → read value = read other

namespace Respects

theorem scalar {α : Type} {read : Reader α} : Part.scalar.Respects read :=
  fun _ _ same => congrArg read same

theorem one (entity : Entity) : (Part.one entity).Respects entity.ofJson :=
  fun _ _ same => same.2

theorem list (entity : Entity) : (Part.list entity).Respects (Reader.list entity.ofJson) :=
  fun _ _ same => same.2

theorem nullable {α : Type} {part : Part} {read : Reader α} (respects : part.Respects read) :
    part.Respects (Reader.nullable read) := by
  intro value other same
  by_cases empty : value = .null
  · rw [empty, same.null_iff.mp empty]
  · have otherGiven : other ≠ .null := fun here => empty (same.null_iff.mpr here)
    have nullable_eq : ∀ {given : Json}, given ≠ .null →
        Reader.nullable read given = some <$> read given := by
      intro given notNull
      cases given <;> first | rfl | exact absurd rfl notNull
    rw [nullable_eq empty, nullable_eq otherGiven, respects value other same]

end Respects

end Part

/-- What two objects have under the key of a slot, if they are read alike there. -/
inductive Slot.Alike (slot : Slot) : Option Json → Option Json → Prop where
  | given {value? other? : Option Json} (same : Option.Rel slot.part.Same value? other?) :
    Alike slot value? other?
  | null (optional : slot.presence = .optional) : Alike slot (some .null) none

theorem Slot.Alike.refl (slot : Slot) (value? : Option Json) : slot.Alike value? value? := by
  cases value? with
  | none => exact .given .none
  | some value => exact .given (.some (.refl slot.part value))

structure Field.Fills {α : Type} (field : Field α) (slot : Slot) : Prop where
  key : field.key = slot.key
  read : slot.part.Respects field.read
  null : slot.presence = .optional → ∃ value, field.read .null = .ok value ∧ field.absent = some value

theorem Field.Fills.ofEntries_eq {α : Type} {field : Field α} {slot : Slot}
    {entries others : List (String × Json)} (fills : field.Fills slot)
    (alike : slot.Alike (entries.lookup slot.key) (others.lookup slot.key)) :
    field.ofEntries entries = field.ofEntries others := by
  simp only [Field.ofEntries, fills.key]
  generalize entries.lookup slot.key = value? at alike
  generalize others.lookup slot.key = other? at alike
  cases alike with
  | given same =>
    cases same with
    | none => rfl
    | some same => simp only [Field.readValue, fills.read _ _ same]
  | null optional =>
    obtain ⟨value, read, absent⟩ := fills.null optional
    simp only [Field.readValue, read, Field.orMissing, absent, Except.mapError]

theorem Field.Fills.ofElement?_eq {α : Type} {field : Field α} {slot : Slot}
    {element? other? : Option Json} (fills : field.Fills slot)
    (same : Option.Rel slot.part.Same element? other?) :
    field.ofElement? element? = field.ofElement? other? := by
  cases same with
  | none => rfl
  | some same => simp only [Field.ofElement?, Field.readValue, fills.read _ _ same]

def AlikeEntries (slots : List Slot) (entries others : List (String × Json)) : Prop :=
  ∀ slot ∈ slots, slot.Alike (entries.lookup slot.key) (others.lookup slot.key)

def AlikeElements (slots : List Slot) (elements others : List Json) : Prop :=
  elements.length = others.length ∧ ∀ (index : Nat) (slot : Slot), slots[index]? = some slot →
    Option.Rel slot.part.Same elements[index]? others[index]?

namespace Record

/-- The fields of the record fill the slots in the same order. -/
inductive Fills : {α : Type} → Record α → List Slot → Prop where
  | build {α : Type} (value : α) : Fills (.build value) []
  | field {α β : Type} {init : Record (β → α)} {last : Field β} {slots : List Slot} {slot : Slot} :
    Fills init slots → last.Fills slot → Fills (.field init last) (slots ++ [slot])

variable {α β : Type} {slots : List Slot} {entries others : List (String × Json)}
  {elements otherElements : List Json}

namespace Fills

variable {init : Record (β → α)} {part : Part} {read : Reader β}

-- One rule for each way in which a record takes a field.
theorem required (fills : Fills init slots) (key : String) (respects : part.Respects read) :
    Fills (init.required key read) (slots ++ [.required key part]) :=
  fills.field ⟨rfl, respects, fun optional => nomatch optional⟩

theorem optional {init : Record (Option β → α)} (fills : Fills init slots) (key : String)
    (respects : part.Respects read) :
    Fills (init.optional key read) (slots ++ [.optional key part]) :=
  fills.field ⟨rfl, respects.nullable, fun _ => ⟨none, rfl, rfl⟩⟩

theorem defaulted (fills : Fills init slots) (key : String) (value : β)
    (respects : part.Respects read) :
    Fills (init.defaulted key read value) (slots ++ [.defaulted key part]) :=
  fills.field ⟨rfl, respects, fun optional => nomatch optional⟩

variable {record : Record α}

theorem size_eq (fills : record.Fills slots) : record.size = slots.length := by
  induction fills with
  | build value => rfl
  | field _ _ ih => simp [size, ih]

theorem ofEntries_eq (fills : record.Fills slots) (alike : AlikeEntries slots entries others) :
    record.ofEntries entries = record.ofEntries others := by
  induction fills with
  | build value => rfl
  | field init last ih =>
    obtain ⟨before, here⟩ := List.forall_mem_append.mp alike
    rw [ofEntries, ofEntries, ih before, last.ofEntries_eq (here _ List.mem_cons_self)]

theorem ofElements_eq (fills : record.Fills slots)
    (alike : ∀ (index : Nat) (slot : Slot), slots[index]? = some slot →
      Option.Rel slot.part.Same elements[index]? otherElements[index]?) :
    record.ofElements elements = record.ofElements otherElements := by
  induction fills with
  | build value => rfl
  | field init last ih =>
    obtain ⟨before, here⟩ := forall_getElem?_append.mp alike
    rw [← init.size_eq] at here
    rw [ofElements, ofElements, ih before, last.ofElement?_eq here]

theorem readObject_eq (fills : record.Fills slots) (alike : AlikeEntries slots entries others) :
    record.readObject entries = record.readObject others := by
  rw [readObject, readObject, fills.ofEntries_eq alike]

theorem readArray_eq (fills : record.Fills slots) (name : String)
    (alike : AlikeElements slots elements otherElements) :
    record.readArray name elements = record.readArray name otherElements := by
  rw [readArray, readArray, fills.ofElements_eq alike.2, alike.1]

end Fills

end Record

end CrsText
