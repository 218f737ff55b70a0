import CrsText.Proofs.Definition.Editing

/-! The two spellings of what may be an array: by the keys of an object and by the positions of an array.
Either is read as the other, whether it stands alone or anywhere within a definition.
-/

set_option autoImplicit false

namespace CrsText

/-- What an array has in the position of a slot and an object under its key, if they say the same. -/
inductive Slot.Spelt (slot : Slot) : Option Json → Option Json → Prop where
  | given (value : Json) : Spelt slot (some value) (some value)
  | null (optional : slot.presence = .optional) : Spelt slot (some .null) none

namespace Entity

def keys (entity : Entity) : List String := entity.slots.map Slot.key

/-- The array has an element for each key of the object, and the last one of a coordinate system may be
left out. -/
inductive Spells : Entity → List Json → List (String × Json) → Prop where
  | full {entity : Entity} {elements : List Json} {entries : List (String × Json)}
    (spelling : entity.isTuple) (size : elements.length = entity.slots.length)
    (each : ∀ (index : Nat) (slot : Slot), entity.slots[index]? = some slot →
      slot.Spelt elements[index]? (entries.lookup slot.key)) : Spells entity elements entries
  | subtype {value : Json} {entries : List (String × Json)}
    (given : entries.lookup "subtype" = some value) (absent : entries.lookup "axis" = none) :
    Spells .coordinateSystem [value] entries

end Entity

/-- A value with a part of it spelt the other way, anywhere within it. -/
inductive Transcribed : Part → Json → Json → Prop where
  | spelling {entity : Entity} {elements : List Json} {entries : List (String × Json)}
    (spells : entity.Spells elements entries)
    (accepted : ∃ value, entity.ofJson (.array elements) = .ok value) :
    Transcribed (.one entity) (.array elements) (.object entries)
  | entry {entity : Entity} {before after : List (String × Json)} {slot : Slot}
    {value other : Json}
    (known : slot ∈ entity.slotsIn (.object (before ++ (slot.key, value) :: after)))
    (inside : Transcribed slot.part value other) :
    Transcribed (.one entity) (.object (before ++ (slot.key, value) :: after))
      (.object (before ++ (slot.key, other) :: after))
  | element {entity : Entity} {before after : List Json} {slot : Slot} {value other : Json}
    (spelling : entity.isTuple) (position : entity.slots[before.length]? = some slot)
    (inside : Transcribed slot.part value other) :
    Transcribed (.one entity) (.array (before ++ value :: after))
      (.array (before ++ other :: after))
  | item {entity : Entity} {before after : List Json} {value other : Json}
    (inside : Transcribed (.one entity) value other) :
    Transcribed (.list entity) (.array (before ++ value :: after))
      (.array (before ++ other :: after))

variable {elements : List Json} {entries : List (String × Json)}

theorem Field.Fills.ofElement?_eq_ofEntries {α : Type} {field : Field α} {slot : Slot}
    {element? : Option Json} (fills : field.Fills slot)
    (spelt : slot.Spelt element? (entries.lookup slot.key)) :
    field.ofElement? element? = field.ofEntries entries := by
  rw [Field.ofEntries, fills.key]
  generalize entries.lookup slot.key = entry? at spelt
  cases spelt with
  | given value => rfl
  | null optional =>
    obtain ⟨value, read, absent⟩ := fills.null optional
    simp only [Field.ofElement?, Field.readValue, read, absent, Field.orMissing, Except.mapError]

/-- Positions are read one after the other and keys in their own order, but the results are the same. -/
theorem Record.Fills.ofElements_eq_ok_iff {α : Type} {record : Record α} {slots : List Slot}
    (fills : record.Fills slots)
    (each : ∀ (index : Nat) (slot : Slot), slots[index]? = some slot →
      slot.Spelt elements[index]? (entries.lookup slot.key)) {result : α} :
    record.ofElements elements = .ok result ↔ record.ofEntries entries = .ok result := by
  induction fills with
  | build value => rfl
  | field init last ih =>
    obtain ⟨before, here⟩ := forall_getElem?_append.mp each
    rw [← init.size_eq] at here
    simp only [ofElements, ofEntries, bind_eq_ok, pure_eq_ok, apply_eq_ok,
      last.ofElement?_eq_ofEntries here, ih before, exists_and_left]

/-- Without its axes a coordinate system has none. -/
theorem CoordinateSystem.ofJson_subtype {subtype : Json} {value : CoordinateSystem}
    (given : entries.lookup "subtype" = some subtype) (absent : entries.lookup "axis" = none) :
    ofJson (.array [subtype]) = .ok value ↔ ofJson (.object entries) = .ok value := by
  rw [ofJson, Record.reader, Record.reader, Record.readArray_eq_ok, Record.readObject_eq_ok]
  simp [record, Record.required, Record.defaulted, Record.size, Record.ofElements, Record.ofEntries,
    Record.apply_eq_ok, Field.ofElement?, Field.ofEntries, Field.orMissing, given, absent, bind_eq_ok]

namespace Entity

variable {entity : Entity}

theorem Spells.isTuple (spells : entity.Spells elements entries) : entity.isTuple := by
  cases spells with
  | full spelling => exact spelling
  | subtype => rfl

/-- An array is read as the object whose keys it lists. -/
theorem Spells.ofJson_eq_ok_iff (spells : entity.Spells elements entries) {value : entity.Value} :
    entity.ofJson (.array elements) = .ok value ↔ entity.ofJson (.object entries) = .ok value := by
  cases spells with
  | full spelling size each =>
    obtain ⟨record, name, same, fills⟩ := exists_record spelling
    have short : elements.length ≤ record.size := by rw [fills.size_eq, size]
    rw [same, Record.reader, Record.reader, Record.readArray_eq_ok, Record.readObject_eq_ok,
      fills.ofElements_eq_ok_iff each]
    exact and_iff_right short
  | subtype given absent => exact CoordinateSystem.ofJson_subtype given absent

/-- An array and the object that has its elements under the keys, in the same order. -/
theorem spells_zip (spelling : entity.isTuple) (size : elements.length = entity.slots.length) :
    entity.Spells elements (entity.keys.zip elements) := by
  refine .full spelling size fun index slot selected => ?_
  have key : entity.keys[index]? = some slot.key := by simp [keys, selected]
  obtain ⟨element, here⟩ : ∃ element, elements[index]? = some element := by
    obtain ⟨bound, -⟩ := List.getElem?_eq_some_iff.mp selected
    exact ⟨_, List.getElem?_eq_getElem (size ▸ bound)⟩
  have distinct : ((entity.keys.zip elements).map Prod.fst).Nodup := by
    rw [List.map_fst_zip (by simp [keys, size])]
    exact entity.slots_nodup
  have member : (slot.key, element) ∈ entity.keys.zip elements :=
    List.mem_of_getElem? (List.getElem?_zip_eq_some.mpr ⟨key, here⟩)
  rw [here, (lookup_iff_mem distinct).mpr member]
  exact .given element

/-- What may be spelt as an array has a type for each of its slots, present as the slot is. -/
theorem exists_fields (spelling : entity.isTuple) :
    ∃ fields : List FieldType, (∀ value, Succeeds (entity.ofJson value) ↔ value.IsRecordOf fields) ∧
      fields.map FieldType.presence = entity.slots.map Slot.presence := by
  cases entity with
  | boundingBox => exact ⟨_, BoundingBox.succeeds_ofJson, rfl⟩
  | identifier => exact ⟨_, Identifier.succeeds_ofJson, rfl⟩
  | usage => exact ⟨_, Usage.succeeds_ofJson, rfl⟩
  | metadata => exact ⟨_, Record.succeeds_reader Metadata.record_reads _, rfl⟩
  | axis => exact ⟨_, Axis.succeeds_ofJson, rfl⟩
  | coordinateSystem => exact ⟨_, CoordinateSystem.succeeds_ofJson, rfl⟩
  | boundCrs => exact ⟨_, Crs.succeeds_boundOfJson fun _ => .rfl, rfl⟩
  | _ => cases spelling

/-- An array that is read has an element for every slot without a default, and none beyond the slots. -/
theorem length_bounds (spelling : entity.isTuple)
    (accepted : Succeeds (entity.ofJson (.array elements))) :
    elements.length ≤ entity.slots.length ∧ ∀ (index : Nat) (slot : Slot),
      entity.slots[index]? = some slot → slot.presence ≠ .defaulted → index < elements.length := by
  obtain ⟨fields, accepts, same⟩ := exists_fields spelling
  obtain ⟨short, each⟩ := (accepts _).mp accepted
  have sizes : fields.length = entity.slots.length := by simpa using congrArg List.length same
  refine ⟨sizes ▸ short, fun index slot selected needed => ?_⟩
  have presence : (fields.map FieldType.presence)[index]? = some slot.presence := by
    simp [same, selected]
  obtain ⟨field, chosen, alike⟩ := by simpa using presence
  by_contra beyond
  have admits := each index field chosen
  rw [List.getElem?_eq_none (not_lt.mp beyond)] at admits
  exact needed (alike ▸ admits)

/-- Only the axes of a coordinate system may be left out of an array. -/
theorem length_of_ofJson (spelling : entity.isTuple)
    (accepted : Succeeds (entity.ofJson (.array elements))) :
    elements.length = entity.slots.length ∨ entity = .coordinateSystem ∧ elements.length = 1 := by
  obtain ⟨short, needed⟩ := length_bounds spelling accepted
  cases entity with
  | boundingBox => exact .inl (le_antisymm short (needed 3 _ rfl (by decide)))
  | identifier => exact .inl (le_antisymm short (needed 1 _ rfl (by decide)))
  | usage => exact .inl (le_antisymm short (needed 2 _ rfl (by decide)))
  | metadata => exact .inl (le_antisymm short (needed 6 _ rfl (by decide)))
  | axis => exact .inl (le_antisymm short (needed 4 _ rfl (by decide)))
  | boundCrs => exact .inl (le_antisymm short (needed 2 _ rfl (by decide)))
  | coordinateSystem =>
    have atLeast : 0 < elements.length := needed 0 _ rfl (by decide)
    have atMost : elements.length ≤ 2 := short
    rcases (by omega : elements.length = 2 ∨ elements.length = 1) with both | one
    · exact .inl both
    · exact .inr ⟨rfl, one⟩
  | _ => cases spelling

theorem Spells.ofJson_eq (spells : entity.Spells elements entries)
    (accepted : Succeeds (entity.ofJson (.array elements))) :
    entity.ofJson (.array elements) = entity.ofJson (.object entries) := by
  obtain ⟨value, read⟩ := accepted
  rw [read, spells.ofJson_eq_ok_iff.mp read]

end Entity

theorem Transcribed.same {part : Part} {value other : Json}
    (transcribed : Transcribed part value other) :
    part.Same value other := by
  induction transcribed with
  | spelling spells accepted => exact ⟨by simp, spells.ofJson_eq accepted⟩
  | entry known _ ih => exact .entry known ih
  | element spelling position _ ih => exact .element spelling position ih
  | item _ ih => exact .item ih

end CrsText
