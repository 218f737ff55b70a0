import CrsText.Proofs.Definition.Depth

/-! The type that a system is tagged with, before and after it is read. The tag of a geodetic system is
read twice, and a tag that is no string is kept as text.
-/

set_option autoImplicit false

namespace CrsText

variable {entries : List (String × Json)}

theorem GeodeticKind.choice_tag (kind : GeodeticKind) : ofJson (.string kind.tag) = .ok kind := by
  cases kind <;> rfl

theorem GeodeticKind.choice_derivedTag (kind : GeodeticKind) :
    derivedOfJson (.string kind.derivedTag) = .ok kind := by
  cases kind <;> rfl

/-- What is known before the last field is read stays true. -/
theorem Record.of_field {α β : Type} {init : Record (β → α)} {last : Field β} {known : α → Prop}
    (before : ∀ f, init.ofEntries entries = .ok f → ∀ value, known (f value)) :
    ∀ result, (init.field last).ofEntries entries = .ok result → known result := by
  intro result read
  obtain ⟨f, value, function, -, rfl⟩ := Record.apply_eq_ok.mp read
  exact before f function value

theorem Record.of_first {α β : Type} {make : β → α} {key : String} {read : Reader β} {default : β}
    {given : Json} {value : β} {known : α → Prop} (found : entries.lookup key = some given)
    (here : read given = .ok value) (holds : known (make value)) :
    ∀ result, ((Record.build make).defaulted key read default).ofEntries entries = .ok result →
      known result := by
  intro result first
  obtain ⟨_, other, built, same, rfl⟩ := Record.apply_eq_ok.mp first
  cases built
  cases same.symm.trans (Field.ofEntries_found found here)
  exact holds

theorem GeodeticCrs.kind_of_ofJson {kind : GeodeticKind} {crs : GeodeticCrs}
    (tagged : entries.lookup "type" = some (.string kind.tag))
    (read : ofJson (.object entries) = .ok crs) : crs.kind = kind := by
  have kept : ∀ f, record.ofEntries entries = .ok f → ∀ described, (f described).kind = kind := by
    refine Record.of_field (Record.of_field (Record.of_field (Record.of_field ?_)))
    exact Record.of_first tagged kind.choice_tag fun _ _ _ _ _ => rfl
  rw [ofJson, Record.describedReader, Record.readerWith_eq_ok] at read
  obtain ⟨f, described, own, -, rfl⟩ := read
  exact kept f own described

theorem DerivedGeodeticCrs.kind_of_ofJson {kind : GeodeticKind} {crs : DerivedGeodeticCrs}
    (tagged : entries.lookup "type" = some (.string kind.derivedTag))
    (read : ofJson (.object entries) = .ok crs) : crs.kind = kind := by
  have kept : ∀ f, record.ofEntries entries = .ok f → ∀ described, (f described).kind = kind := by
    refine Record.of_field (Record.of_field (Record.of_field (Record.of_field ?_)))
    exact Record.of_first tagged kind.choice_derivedTag fun _ _ _ _ _ => rfl
  rw [ofJson, Record.describedReader, Record.readerWith_eq_ok] at read
  obtain ⟨f, described, own, -, rfl⟩ := read
  exact kept f own described

namespace Crs

/-- A compound system is read from the list of its components. -/
theorem compoundOfJson_eq_ok {part : Reader Crs} {crs : Crs}
    (read : compoundOfJson part (.object entries) = .ok crs) :
    ∃ name components metadata values, crs = .compound name components metadata ∧
      entries.lookup "components" = some (.array values) ∧
      List.Forall₂ (fun value component => part value = .ok component) values components := by
  rw [compoundOfJson, Record.describedReader, Record.readerWith_eq_ok] at read
  obtain ⟨f, metadata, own, -, rfl⟩ := read
  rw [compoundRecord, Record.required_eq_ok] at own
  obtain ⟨f, given, components, named, found, listed, rfl⟩ := own
  obtain ⟨f, -, name, ⟨⟩, -, -, rfl⟩ := Record.required_eq_ok.mp named
  obtain ⟨values, rfl, each⟩ := Reader.list_eq_ok.mp listed
  exact ⟨name, components, metadata, values, rfl, found, mapM_eq_ok.mp each⟩

/-- A bound system is read from its source and its target. -/
theorem boundOfJson_eq_ok {part : Reader Crs} {crs : Crs}
    (read : boundOfJson part (.object entries) = .ok crs) :
    ∃ source target transformation first second, crs = .bound source target transformation ∧
      entries.lookup "source_crs" = some first ∧ part first = .ok source ∧
      entries.lookup "target_crs" = some second ∧ part second = .ok target := by
  rw [boundOfJson, Record.reader, Record.readObject_eq_ok, boundRecord, Record.required_eq_ok] at read
  obtain ⟨f, -, transformation, ends, -, -, rfl⟩ := read
  obtain ⟨f, second, target, start, toTarget, readTarget, rfl⟩ := Record.required_eq_ok.mp ends
  obtain ⟨f, first, source, ⟨⟩, toSource, readSource, rfl⟩ := Record.required_eq_ok.mp start
  exact ⟨source, target, transformation, first, second, rfl, toSource, readSource, toTarget, readTarget⟩

def IsUnsupported (crs : Crs) : Prop := ∃ typeName, crs = .unsupported typeName

theorem typeName_of_tagged {value : Json} {type : CrsType} {crs : Crs}
    (tagged : typeNameOfJson value = type.tag) (read : ofJson value = .ok crs) :
    crs.typeName = type.tag ∧ ¬ crs.IsUnsupported := by
  obtain ⟨entries, rfl, given⟩ := exists_entries tagged
  rw [ofJson_eq, CrsType.ofTag?_eq_some.mpr tagged] at read
  cases type with
  | geodetic kind =>
    obtain ⟨system, here, rfl⟩ := map_eq_ok.mp read
    exact ⟨congrArg GeodeticKind.tag (GeodeticCrs.kind_of_ofJson given here), nofun⟩
  | derivedGeodetic kind =>
    obtain ⟨system, here, rfl⟩ := map_eq_ok.mp read
    exact ⟨congrArg GeodeticKind.derivedTag (DerivedGeodeticCrs.kind_of_ofJson given here), nofun⟩
  | projected =>
    obtain ⟨system, -, rfl⟩ := map_eq_ok.mp read
    exact ⟨rfl, nofun⟩
  | vertical =>
    obtain ⟨system, -, rfl⟩ := map_eq_ok.mp read
    exact ⟨rfl, nofun⟩
  | compound =>
    obtain ⟨name, components, metadata, values, rfl, -⟩ := compoundOfJson_eq_ok read
    exact ⟨rfl, nofun⟩
  | bound =>
    obtain ⟨source, target, transformation, first, second, rfl, -⟩ := boundOfJson_eq_ok read
    exact ⟨rfl, nofun⟩

/-- Without one of the known types nothing else is read of a value. -/
theorem ofJson_of_notMem {value : Json} {name : String} (named : value.HasTypeName name)
    (unknown : name ∉ tags) : ofJson value = .ok (.unsupported name) := by
  rw [ofJson_eq, hasTypeName_iff.mp named]
  cases known : CrsType.ofTag? name with
  | none => rfl
  | some type => exact absurd (mem_tags.mpr ⟨type, CrsType.ofTag?_eq_some.mp known⟩) unknown

/-- A system has the type that its value is tagged with, and is unsupported if that is none of the known
types. -/
theorem typeName_of_ofJson {value : Json} {crs : Crs} (read : ofJson value = .ok crs) :
    value.HasTypeName crs.typeName ∧ (crs.IsUnsupported ↔ crs.typeName ∉ tags) := by
  have named := hasTypeName value
  by_cases known : typeNameOfJson value ∈ tags
  · obtain ⟨type, tagged⟩ := mem_tags.mp known
    obtain ⟨same, supported⟩ := typeName_of_tagged tagged read
    rw [same, ← tagged]
    exact ⟨named, iff_of_false supported (not_not_intro known)⟩
  · cases (ofJson_of_notMem named known).symm.trans read
    exact ⟨named, iff_of_true ⟨_, rfl⟩ known⟩

/-- A type that is no string is kept as its text, which is no tag. -/
theorem ofJson_of_noString {value type : Json} (given : value.get? "type" = some type)
    (noString : ∀ text, type ≠ .string text) : ofJson value = .ok (.unsupported type.compact) :=
  ofJson_of_notMem (hasTypeName_iff.mpr (typeNameOfJson_of_noString given noString))
    (compact_notMem_tags noString)

end Crs

end CrsText
