import CrsText.Proofs.Definition.Depth
import CrsText.Proofs.Definition.Slots

/-! Reading a value does not depend on what is irrelevant anywhere within it.
-/

set_option autoImplicit false

namespace CrsText

open Record (Fills)

-- The fields of each record are the slots of its entity.
theorem BoundingBox.record_fills : record.Fills Entity.boundingBox.slots :=
  Fills.build _ |>.required _ .scalar |>.required _ .scalar |>.required _ .scalar
    |>.required _ .scalar

theorem Identifier.record_fills : record.Fills Entity.identifier.slots :=
  Fills.build _ |>.required _ .scalar |>.required _ .scalar

theorem Usage.record_fills : record.Fills Usage.slots :=
  Fills.build _ |>.optional _ .scalar |>.optional _ .scalar |>.optional _ (.one .boundingBox)

theorem Metadata.record_fills : record.Fills Metadata.slots :=
  Fills.build _ |>.optional _ .scalar |>.optional _ .scalar |>.optional _ (.one .boundingBox)
    |>.optional _ (.list .usage) |>.optional _ (.one .identifier)
    |>.optional _ (.list .identifier) |>.optional _ .scalar

theorem Axis.record_fills : record.Fills Entity.axis.slots :=
  Fills.build _ |>.required _ .scalar |>.required _ .scalar |>.required _ .scalar
    |>.optional _ (.one .unit) |>.optional _ (.one .meridian)

theorem CoordinateSystem.record_fills : record.Fills Entity.coordinateSystem.slots :=
  Fills.build _ |>.required _ .scalar |>.defaulted _ _ (.list .axis)

theorem Crs.boundRecord_fills : (boundRecord ofJson).Fills Entity.boundCrs.slots :=
  Fills.build _ |>.required _ (.one .crs) |>.required _ (.one .crs)
    |>.required _ (.one .transformation)

theorem Operation.record_fills : record.Fills
    [.required "name" .scalar, .required "method" (.one .method),
      .defaulted "parameters" (.list .parameter)] :=
  Fills.build _ |>.required _ .scalar |>.required _ (.one .method)
    |>.defaulted _ _ (.list .parameter)

/-- The fields of an object and its metadata are read one after the other. -/
theorem Record.Fills.described {α : Type} {record : Record (Metadata → α)} {slots : List Slot}
    {entries others : List (String × Json)} (fills : record.Fills slots) (name : String)
    (alike : AlikeEntries (slots ++ Metadata.slots) entries others) :
    record.describedReader name (.object entries) = record.describedReader name (.object others) := by
  obtain ⟨own, common⟩ := List.forall_mem_append.mp alike
  rw [describedReader, readerWith, readerWith, fills.readObject_eq own,
    Metadata.record_fills.readObject_eq common]

variable {entries others : List (String × Json)}

theorem UnitDefinition.ofJson_alike (alike : AlikeEntries UnitDefinition.slots entries others) :
    ofJson (.object entries) = ofJson (.object others) :=
  Fills.described (Fills.build _ |>.optional _ .scalar |>.required _ .scalar
    |>.optional _ .scalar) _ alike

theorem MeasureUnit.ofJson_alike (alike : AlikeEntries UnitDefinition.slots entries others) :
    ofJson (.object entries) = ofJson (.object others) := by
  simp only [ofJson, UnitDefinition.ofJson_alike alike]

theorem Measure.ofJson_alike (alike : AlikeEntries Entity.measure.slots entries others) :
    ofJson (.object entries) = ofJson (.object others) := by
  have fills : record.Fills Entity.measure.slots :=
    Fills.build _ |>.required _ .scalar |>.optional _ (.one .unit) |>.optional _ .scalar
      |>.optional _ .scalar
  simp only [ofJson, fills.readObject_eq alike]

theorem Operation.conversionOfJson_alike (alike : AlikeEntries Operation.slots entries others) :
    conversionOfJson (.object entries) = conversionOfJson (.object others) :=
  Operation.record_fills.described _ alike

theorem Operation.transformationOfJson_alike (alike : AlikeEntries Operation.slots entries others) :
    transformationOfJson (.object entries) = transformationOfJson (.object others) :=
  Operation.record_fills.described _ alike

theorem Ellipsoid.ofJson_alike (alike : AlikeEntries Entity.ellipsoid.slots entries others) :
    ofJson (.object entries) = ofJson (.object others) :=
  Fills.described (Fills.build _ |>.required _ .scalar |>.required _ (.one .measure)
    |>.optional _ (.one .measure) |>.optional _ .scalar) _ alike

theorem PrimeMeridian.ofJson_alike
    (alike : AlikeEntries Entity.primeMeridian.slots entries others) :
    ofJson (.object entries) = ofJson (.object others) :=
  Fills.described (Fills.build _ |>.required _ .scalar |>.defaulted _ _ (.one .measure)) _ alike

theorem Meridian.ofJson_alike (alike : AlikeEntries Entity.meridian.slots entries others) :
    ofJson (.object entries) = ofJson (.object others) :=
  Fills.described (Fills.build _ |>.required _ (.one .measure)) _ alike

theorem Method.ofJson_alike (alike : AlikeEntries Entity.method.slots entries others) :
    ofJson (.object entries) = ofJson (.object others) :=
  Fills.described (Fills.build _ |>.required _ .scalar) _ alike

theorem Parameter.ofJson_alike (alike : AlikeEntries Entity.parameter.slots entries others) :
    ofJson (.object entries) = ofJson (.object others) :=
  Fills.described (Fills.build _ |>.required _ .scalar |>.required _ .scalar
    |>.optional _ (.one .unit)) _ alike

theorem GeodeticDatum.ofJson_alike
    (alike : AlikeEntries Entity.geodeticDatum.slots entries others) :
    ofJson (.object entries) = ofJson (.object others) :=
  Fills.described (Fills.build _ |>.optional _ .scalar |>.required _ .scalar
    |>.optional _ (.one .ellipsoid) |>.optional _ (.one .primeMeridian) |>.optional _ .scalar) _ alike

theorem VerticalDatum.ofJson_alike
    (alike : AlikeEntries Entity.verticalDatum.slots entries others) :
    ofJson (.object entries) = ofJson (.object others) :=
  Fills.described (Fills.build _ |>.optional _ .scalar |>.required _ .scalar
    |>.optional _ .scalar) _ alike

theorem EnsembleMember.ofJson_alike
    (alike : AlikeEntries Entity.ensembleMember.slots entries others) :
    ofJson (.object entries) = ofJson (.object others) :=
  Fills.described (Fills.build _ |>.required _ .scalar) _ alike

theorem DatumEnsemble.ofJson_alike
    (alike : AlikeEntries Entity.datumEnsemble.slots entries others) :
    ofJson (.object entries) = ofJson (.object others) :=
  Fills.described (Fills.build _ |>.required _ .scalar
    |>.defaulted _ _ (.list .ensembleMember) |>.optional _ (.one .ellipsoid)
    |>.optional _ .scalar) _ alike

theorem GeodeticCrs.ofJson_alike (alike : AlikeEntries Entity.geodeticCrs.slots entries others) :
    ofJson (.object entries) = ofJson (.object others) :=
  Fills.described (Fills.build _ |>.defaulted _ _ .scalar |>.required _ .scalar
    |>.optional _ (.one .geodeticDatum) |>.optional _ (.one .datumEnsemble)
    |>.optional _ (.one .coordinateSystem)) _ alike

theorem DerivedGeodeticCrs.ofJson_alike
    (alike : AlikeEntries Entity.derivedGeodeticCrs.slots entries others) :
    ofJson (.object entries) = ofJson (.object others) :=
  Fills.described (Fills.build _ |>.defaulted _ _ .scalar |>.required _ .scalar
    |>.required _ (.one .geodeticCrs) |>.required _ (.one .conversion)
    |>.required _ (.one .coordinateSystem)) _ alike

theorem ProjectedCrs.ofJson_alike (alike : AlikeEntries ProjectedCrs.slots entries others) :
    ofJson (.object entries) = ofJson (.object others) :=
  Fills.described (Fills.build _ |>.required _ .scalar |>.required _ (.one .geodeticCrs)
    |>.required _ (.one .conversion) |>.required _ (.one .coordinateSystem)) _ alike

theorem VerticalCrs.ofJson_alike (alike : AlikeEntries Entity.verticalCrs.slots entries others) :
    ofJson (.object entries) = ofJson (.object others) :=
  Fills.described (Fills.build _ |>.required _ .scalar |>.optional _ (.one .verticalDatum)
    |>.optional _ (.one .datumEnsemble) |>.required _ (.one .coordinateSystem)) _ alike

theorem Crs.compoundOfJson_alike (alike : AlikeEntries Entity.compoundCrs.slots entries others) :
    compoundOfJson ofJson (.object entries) = compoundOfJson ofJson (.object others) :=
  Fills.described (Fills.build _ |>.required _ .scalar |>.required _ (.list .crs)) _ alike

theorem Entity.ofJson_object_alike {entity : Entity} (apart : entity ≠ .crs)
    (alike : AlikeEntries entity.slots entries others) :
    entity.ofJson (.object entries) = entity.ofJson (.object others) := by
  cases entity with
  | boundingBox => exact BoundingBox.record_fills.readObject_eq alike
  | identifier => exact Identifier.record_fills.readObject_eq alike
  | usage => exact Usage.record_fills.readObject_eq alike
  | metadata => exact Metadata.record_fills.readObject_eq alike
  | axis => exact Axis.record_fills.readObject_eq alike
  | coordinateSystem => exact CoordinateSystem.record_fills.readObject_eq alike
  | boundCrs => exact Crs.boundRecord_fills.readObject_eq alike
  | unitDefinition => exact UnitDefinition.ofJson_alike alike
  | unit => exact MeasureUnit.ofJson_alike alike
  | measure => exact Measure.ofJson_alike alike
  | conversion => exact Operation.conversionOfJson_alike alike
  | transformation => exact Operation.transformationOfJson_alike alike
  | ellipsoid => exact Ellipsoid.ofJson_alike alike
  | primeMeridian => exact PrimeMeridian.ofJson_alike alike
  | meridian => exact Meridian.ofJson_alike alike
  | method => exact Method.ofJson_alike alike
  | parameter => exact Parameter.ofJson_alike alike
  | geodeticDatum => exact GeodeticDatum.ofJson_alike alike
  | verticalDatum => exact VerticalDatum.ofJson_alike alike
  | ensembleMember => exact EnsembleMember.ofJson_alike alike
  | datumEnsemble => exact DatumEnsemble.ofJson_alike alike
  | geodeticCrs => exact GeodeticCrs.ofJson_alike alike
  | derivedGeodeticCrs => exact DerivedGeodeticCrs.ofJson_alike alike
  | projectedCrs => exact ProjectedCrs.ofJson_alike alike
  | verticalCrs => exact VerticalCrs.ofJson_alike alike
  | compoundCrs => exact Crs.compoundOfJson_alike alike
  | crs => exact absurd rfl apart

/-- What may be spelt as an array is read by one record, from either spelling. -/
theorem Entity.exists_record {entity : Entity} (spelling : entity.isTuple) :
    ∃ (record : Record entity.Value) (name : String),
      entity.ofJson = record.reader name ∧ record.Fills entity.slots := by
  cases entity with
  | boundingBox => exact ⟨_, _, rfl, BoundingBox.record_fills⟩
  | identifier => exact ⟨_, _, rfl, Identifier.record_fills⟩
  | usage => exact ⟨_, _, rfl, Usage.record_fills⟩
  | metadata => exact ⟨_, _, rfl, Metadata.record_fills⟩
  | axis => exact ⟨_, _, rfl, Axis.record_fills⟩
  | coordinateSystem => exact ⟨_, _, rfl, CoordinateSystem.record_fills⟩
  | boundCrs => exact ⟨_, _, rfl, Crs.boundRecord_fills⟩
  | _ => cases spelling

/-- Wherever objects may be spelt as arrays, the positions are those of the keys. -/
theorem Entity.ofJson_array_alike {entity : Entity} (spelling : entity.isTuple)
    {elements otherElements : List Json}
    (alike : AlikeElements entity.slots elements otherElements) :
    entity.ofJson (.array elements) = entity.ofJson (.array otherElements) := by
  obtain ⟨record, name, same, fills⟩ := exists_record spelling
  rw [same]
  exact fills.readArray_eq name alike

def CrsType.wrap : (type : CrsType) → type.entity.Value → Crs
  | .geodetic _ => Crs.geodetic
  | .derivedGeodetic _ => Crs.derivedGeodetic
  | .projected => Crs.projected
  | .vertical => Crs.vertical
  | .compound => id
  | .bound => id

theorem Crs.ofJson_tagged {value : Json} {type : CrsType}
    (known : CrsType.ofTag? (typeNameOfJson value) = some type) :
    ofJson value = type.wrap <$> type.entity.ofJson value := by
  rw [ofJson_eq, known]
  cases type with
  | compound => exact (id_map _).symm
  | bound => exact (id_map _).symm
  | _ => rfl

theorem Crs.typeNameOfJson_alike
    (same : entries.lookup "type" = others.lookup "type") :
    typeNameOfJson (.object entries) = typeNameOfJson (.object others) := by
  simp only [typeNameOfJson, Json.get?, same]

theorem CrsType.entity_slots_subset (type : CrsType) : type.entity.slots ⊆ type.slots := by
  cases type with
  | geodetic kind => exact List.Subset.refl _
  | derivedGeodetic kind => exact List.Subset.refl _
  | _ => exact List.subset_cons_self _ _

theorem Slot.Alike.eq_of_scalar {slot : Slot} {value? other? : Option Json}
    (alike : slot.Alike value? other?) (scalar : slot.part = .scalar)
    (present : slot.presence ≠ .optional) : value? = other? := by
  cases alike with
  | given same =>
    rw [scalar] at same
    cases same with
    | none => rfl
    | some same => exact congrArg some same
  | null optional => exact absurd optional present

/-- A system always knows its type. -/
theorem Entity.lookup_type_eq {value : Json}
    (alike : AlikeEntries (Entity.crs.slotsIn value) entries others) :
    entries.lookup "type" = others.lookup "type" := by
  have known : ∃ slot ∈ Entity.crs.slotsIn value, slot.key = "type" ∧ slot.part = .scalar ∧
      slot.presence ≠ .optional := by
    rw [slotsIn]
    split
    · next type _ => cases type <;> exact ⟨_, List.mem_cons_self, rfl, rfl, by decide⟩
    · exact ⟨_, List.mem_cons_self, rfl, rfl, by decide⟩
  obtain ⟨slot, member, key, scalar, present⟩ := known
  have same := (alike slot member).eq_of_scalar scalar present
  rwa [key] at same

theorem Crs.ofJson_object_alike
    (alike : AlikeEntries (Entity.crs.slotsIn (.object entries)) entries others) :
    ofJson (.object entries) = ofJson (.object others) := by
  have typeName := typeNameOfJson_alike (Entity.lookup_type_eq alike)
  cases known : CrsType.ofTag? (typeNameOfJson (.object entries)) with
  | none => rw [ofJson_eq, ofJson_eq, ← typeName, known]
  | some type =>
    have inside : AlikeEntries type.entity.slots entries others := by
      simp only [Entity.slotsIn, known] at alike
      exact fun slot member => alike slot (type.entity_slots_subset member)
    have apart : type.entity ≠ .crs := by
      intro same
      cases type <;> cases same
    rw [ofJson_tagged known, ofJson_tagged (typeName ▸ known),
      Entity.ofJson_object_alike apart inside]

theorem Entity.ofJson_alike (entity : Entity)
    (alike : AlikeEntries (entity.slotsIn (.object entries)) entries others) :
    entity.ofJson (.object entries) = entity.ofJson (.object others) := by
  by_cases same : entity = .crs
  · subst same
    exact Crs.ofJson_object_alike alike
  · rw [slotsIn_of_ne same] at alike
    exact ofJson_object_alike same alike

theorem Slot.Alike.append {slot : Slot} {first? second? : Option Json}
    (alike : slot.Alike first? second?) (before : List (String × Json)) :
    slot.Alike ((before.lookup slot.key).or first?) ((before.lookup slot.key).or second?) := by
  cases before.lookup slot.key with
  | none => exact alike
  | some value => exact .refl slot _

/-- Where the keys are distinct, a change under one key concerns one slot. -/
theorem AlikeEntries.of_slot {slots : List Slot} {slot : Slot} (distinct : (slots.map Slot.key).Nodup)
    (member : slot ∈ slots)
    (elsewhere : ∀ key ≠ slot.key, entries.lookup key = others.lookup key)
    (here : slot.Alike (entries.lookup slot.key) (others.lookup slot.key)) :
    AlikeEntries slots entries others := by
  intro other otherMember
  by_cases same : other.key = slot.key
  · obtain rfl := List.inj_on_of_nodup_map distinct otherMember member same
    exact here
  · rw [elsewhere other.key same]
    exact .refl other _

theorem AlikeElements.of_slot {slots : List Slot} {slot : Slot} {before after : List Json}
    {value other : Json} (position : slots[before.length]? = some slot)
    (same : slot.part.Same value other) :
    AlikeElements slots (before ++ value :: after) (before ++ other :: after) := by
  refine ⟨by simp, fun index otherSlot selected => ?_⟩
  by_cases here : index = before.length
  · subst here
    obtain rfl := Option.some.inj (selected.symm.trans position)
    simpa using same
  · have elsewhere : (before ++ other :: after)[index]? = (before ++ value :: after)[index]? := by
      have set : before ++ other :: after = (before ++ value :: after).set before.length other := by
        simp
      rw [set, List.getElem?_set_ne (Ne.symm here)]
    rw [elsewhere]
    cases (before ++ value :: after)[index]? with
    | none => exact .none
    | some value => exact .some (.refl otherSlot.part value)

namespace Part.Same

variable {entity : Entity} {slot : Slot} {value other : Json}

-- A change within a value is one of the value.
theorem entry {before after : List (String × Json)}
    (known : slot ∈ entity.slotsIn (.object (before ++ (slot.key, value) :: after)))
    (same : slot.part.Same value other) :
    (Part.one entity).Same (.object (before ++ (slot.key, value) :: after))
      (.object (before ++ (slot.key, other) :: after)) := by
  refine ⟨by simp, entity.ofJson_alike ?_⟩
  refine .of_slot (entity.slotsIn_nodup _) known (fun key apart => ?_) ?_
  · simp only [List.lookup_append, List.lookup_cons, beq_false_of_ne apart]
  · simp only [List.lookup_append, List.lookup_cons, beq_self_eq_true]
    exact (Slot.Alike.given (.some same)).append before

theorem element {before after : List Json} (spelling : entity.isTuple)
    (position : entity.slots[before.length]? = some slot) (same : slot.part.Same value other) :
    (Part.one entity).Same (.array (before ++ value :: after)) (.array (before ++ other :: after)) :=
  ⟨by simp, Entity.ofJson_array_alike spelling (.of_slot position same)⟩

theorem item {before after : List Json} (same : (Part.one entity).Same value other) :
    (Part.list entity).Same (.array (before ++ value :: after))
      (.array (before ++ other :: after)) := by
  refine ⟨by simp, ?_⟩
  simp only [Reader.list, Reader.elements_eq_mapM, List.mapM_append, List.mapM_cons, same.2]

end Part.Same

theorem Edited.same {part : Part} {value other : Json} (edited : Edited part value other) :
    part.Same value other := by
  induction edited with
  | @insert entity before after key value unknown =>
    refine ⟨by simp, entity.ofJson_alike fun slot member => ?_⟩
    have apart : (slot.key == key) = false :=
      beq_false_of_ne fun same => unknown (List.mem_map.mpr ⟨slot, member, same⟩)
    simp only [List.lookup_append, List.lookup_cons, apart]
    exact .refl slot _
  | @removeNull entity before after slot known optional last =>
    refine ⟨by simp, entity.ofJson_alike ?_⟩
    refine .of_slot (entity.slotsIn_nodup _) known (fun key apart => ?_) ?_
    · simp only [List.lookup_append, List.lookup_cons, beq_false_of_ne apart]
    · have absent : after.lookup slot.key = none :=
        List.lookup_eq_none_iff.mpr fun entry member =>
          bne_iff_ne.mpr fun same => last (List.mem_map.mpr ⟨entry, member, same.symm⟩)
      simp only [List.lookup_append, List.lookup_cons, beq_self_eq_true, absent]
      exact (Slot.Alike.null optional).append before
  | entry known _ ih => exact .entry known ih
  | element spelling position _ ih => exact .element spelling position ih
  | item _ ih => exact .item ih

end CrsText
