import CrsText.Proofs.Definition.WellTyped
import CrsText.Proofs.Json.Acceptance

/-! The values that are accepted as definitions are the well-typed ones. Readers take each other as
parts, and each of them accepts the values of one type.
-/

set_option autoImplicit false

namespace CrsText

open Json (IsString IsNumeric IsListOf IsOneOf IsObjectOf IsRecordOf)
open Reader (succeeds_string succeeds_number succeeds_list succeeds_choice)

-- One lemma for each structure: its record has the fields of the type, read in the same way.
theorem BoundingBox.succeeds_ofJson (value : Json) :
    Succeeds (BoundingBox.ofJson value) ↔ IsRecordOf BoundingBox.fields value :=
  Record.succeeds_reader (Record.Reads.build _ |>.required _ succeeds_number
    |>.required _ succeeds_number |>.required _ succeeds_number
    |>.required _ succeeds_number) _ value

theorem Code.succeeds_ofJson (value : Json) : Succeeds (Code.ofJson value) ↔ Code.IsTyped value := by
  cases value with
  | integer value =>
    by_cases small : value < Json.signedBound <;> simp [ofJson, IsTyped, IsNumeric, small]
  | _ => simp [ofJson, IsTyped, IsNumeric, IsString]

theorem Identifier.succeeds_ofJson (value : Json) :
    Succeeds (Identifier.ofJson value) ↔ IsRecordOf Identifier.fields value :=
  Record.succeeds_reader (Record.Reads.build _ |>.required _ succeeds_string
    |>.required _ Code.succeeds_ofJson) _ value

theorem Usage.succeeds_ofJson (value : Json) :
    Succeeds (Usage.ofJson value) ↔ IsRecordOf Usage.fields value :=
  Record.succeeds_reader (Record.Reads.build _ |>.optional _ succeeds_string
    |>.optional _ succeeds_string |>.optional _ BoundingBox.succeeds_ofJson) _ value

theorem Metadata.record_reads : Metadata.record.Reads Metadata.fields :=
  Record.Reads.build _ |>.optional _ succeeds_string |>.optional _ succeeds_string
    |>.optional _ BoundingBox.succeeds_ofJson |>.optional _ (succeeds_list Usage.succeeds_ofJson)
    |>.optional _ Identifier.succeeds_ofJson |>.optional _ (succeeds_list Identifier.succeeds_ofJson)
    |>.optional _ succeeds_string

/-- An object with metadata beside its own fields. -/
theorem Record.succeeds_describedReader {α : Type} {record : Record (Metadata → α)}
    {fields : List FieldType} (reads : record.Reads fields) (name : String) (value : Json) :
    Succeeds (record.describedReader name value) ↔ IsObjectOf (fields ++ Metadata.fields) value :=
  succeeds_readerWith reads Metadata.record_reads name value

theorem UnitDefinition.succeeds_ofJson (value : Json) :
    Succeeds (UnitDefinition.ofJson value) ↔ IsObjectOf UnitDefinition.fields value :=
  Record.succeeds_describedReader (Record.Reads.build _ |>.optional _ succeeds_string
    |>.required _ succeeds_string |>.optional _ succeeds_number) _ value

theorem MeasureUnit.succeeds_ofJson (value : Json) :
    Succeeds (MeasureUnit.ofJson value) ↔ MeasureUnit.IsTyped value := by
  cases value with
  | string name => simp [ofJson, IsTyped, IsString]
  | _ =>
    simp only [ofJson, IsTyped, IsString, false_or, ← UnitDefinition.succeeds_ofJson]
    split <;> simp [*]

theorem Measure.succeeds_ofJson (value : Json) :
    Succeeds (Measure.ofJson value) ↔ Measure.IsTyped value := by
  have reads : record.Reads fields :=
    Record.Reads.build _ |>.required _ succeeds_number |>.optional _ MeasureUnit.succeeds_ofJson
      |>.optional _ succeeds_string |>.optional _ succeeds_number
  cases value with
  | object entries =>
    rw [IsTyped, IsObjectOf, ← Record.succeeds_readObject reads]
    simp only [ofJson, noAlternative, IsNumeric, false_or]
    split <;> simp [*]
  | _ => simp [ofJson, noAlternative, IsTyped, IsNumeric, IsObjectOf]

theorem Ellipsoid.succeeds_ofJson (value : Json) :
    Succeeds (Ellipsoid.ofJson value) ↔ IsObjectOf Ellipsoid.fields value :=
  Record.succeeds_describedReader (Record.Reads.build _ |>.required _ succeeds_string
    |>.required _ Measure.succeeds_ofJson |>.optional _ Measure.succeeds_ofJson
    |>.optional _ succeeds_number) _ value

theorem PrimeMeridian.succeeds_ofJson (value : Json) :
    Succeeds (PrimeMeridian.ofJson value) ↔ IsObjectOf PrimeMeridian.fields value :=
  Record.succeeds_describedReader (Record.Reads.build _ |>.required _ succeeds_string
    |>.defaulted _ _ Measure.succeeds_ofJson) _ value

theorem Meridian.succeeds_ofJson (value : Json) :
    Succeeds (Meridian.ofJson value) ↔ IsObjectOf Meridian.fields value :=
  Record.succeeds_describedReader (Record.Reads.build _ |>.required _ Measure.succeeds_ofJson) _ value

theorem Axis.succeeds_ofJson (value : Json) :
    Succeeds (Axis.ofJson value) ↔ IsRecordOf Axis.fields value :=
  Record.succeeds_reader (Record.Reads.build _ |>.required _ succeeds_string
    |>.required _ succeeds_string |>.required _ succeeds_string
    |>.optional _ MeasureUnit.succeeds_ofJson |>.optional _ Meridian.succeeds_ofJson) _ value

theorem CoordinateSystem.succeeds_ofJson (value : Json) :
    Succeeds (CoordinateSystem.ofJson value) ↔ IsRecordOf CoordinateSystem.fields value :=
  Record.succeeds_reader (Record.Reads.build _ |>.required _ succeeds_string
    |>.defaulted _ _ (succeeds_list Axis.succeeds_ofJson)) _ value

theorem Method.succeeds_ofJson (value : Json) :
    Succeeds (Method.ofJson value) ↔ IsObjectOf Method.fields value :=
  Record.succeeds_describedReader (Record.Reads.build _ |>.required _ succeeds_string) _ value

theorem ParameterValue.succeeds_ofJson (value : Json) :
    Succeeds (ParameterValue.ofJson value) ↔ ParameterValue.IsTyped value := by
  cases value <;> simp [ofJson, IsTyped, IsNumeric, IsString]

theorem Parameter.succeeds_ofJson (value : Json) :
    Succeeds (Parameter.ofJson value) ↔ IsObjectOf Parameter.fields value :=
  Record.succeeds_describedReader (Record.Reads.build _ |>.required _ succeeds_string
    |>.required _ ParameterValue.succeeds_ofJson |>.optional _ MeasureUnit.succeeds_ofJson) _ value

theorem Operation.succeeds_describedReader (name : String) (value : Json) :
    Succeeds (Operation.record.describedReader name value) ↔ IsObjectOf Operation.fields value :=
  Record.succeeds_describedReader (Record.Reads.build _ |>.required _ succeeds_string
    |>.required _ Method.succeeds_ofJson
    |>.defaulted _ _ (succeeds_list Parameter.succeeds_ofJson)) name value

theorem GeodeticDatum.succeeds_ofJson (value : Json) :
    Succeeds (GeodeticDatum.ofJson value) ↔ IsObjectOf GeodeticDatum.fields value :=
  Record.succeeds_describedReader (Record.Reads.build _ |>.optional _ succeeds_string
    |>.required _ succeeds_string |>.optional _ Ellipsoid.succeeds_ofJson
    |>.optional _ PrimeMeridian.succeeds_ofJson |>.optional _ succeeds_number) _ value

theorem VerticalDatum.succeeds_ofJson (value : Json) :
    Succeeds (VerticalDatum.ofJson value) ↔ IsObjectOf VerticalDatum.fields value :=
  Record.succeeds_describedReader (Record.Reads.build _ |>.optional _ succeeds_string
    |>.required _ succeeds_string |>.optional _ succeeds_number) _ value

theorem EnsembleMember.succeeds_ofJson (value : Json) :
    Succeeds (EnsembleMember.ofJson value) ↔ IsObjectOf EnsembleMember.fields value :=
  Record.succeeds_describedReader (Record.Reads.build _ |>.required _ succeeds_string) _ value

theorem DatumEnsemble.succeeds_ofJson (value : Json) :
    Succeeds (DatumEnsemble.ofJson value) ↔ IsObjectOf DatumEnsemble.fields value :=
  Record.succeeds_describedReader (Record.Reads.build _ |>.required _ succeeds_string
    |>.defaulted _ _ (succeeds_list EnsembleMember.succeeds_ofJson)
    |>.optional _ Ellipsoid.succeeds_ofJson |>.optional _ succeeds_string) _ value

theorem GeodeticCrs.succeeds_ofJson (value : Json) :
    Succeeds (GeodeticCrs.ofJson value) ↔ IsObjectOf GeodeticCrs.fields value :=
  Record.succeeds_describedReader (Record.Reads.build _ |>.defaulted _ _ (succeeds_choice _ _)
    |>.required _ succeeds_string |>.optional _ GeodeticDatum.succeeds_ofJson
    |>.optional _ DatumEnsemble.succeeds_ofJson |>.optional _ CoordinateSystem.succeeds_ofJson) _ value

theorem DerivedGeodeticCrs.succeeds_ofJson (value : Json) :
    Succeeds (DerivedGeodeticCrs.ofJson value) ↔ IsObjectOf DerivedGeodeticCrs.fields value :=
  Record.succeeds_describedReader (Record.Reads.build _ |>.defaulted _ _ (succeeds_choice _ _)
    |>.required _ succeeds_string |>.required _ GeodeticCrs.succeeds_ofJson
    |>.required _ (Operation.succeeds_describedReader _)
    |>.required _ CoordinateSystem.succeeds_ofJson) _ value

theorem ProjectedCrs.succeeds_ofJson (value : Json) :
    Succeeds (ProjectedCrs.ofJson value) ↔ IsObjectOf ProjectedCrs.fields value :=
  Record.succeeds_describedReader (Record.Reads.build _ |>.required _ succeeds_string
    |>.required _ GeodeticCrs.succeeds_ofJson |>.required _ (Operation.succeeds_describedReader _)
    |>.required _ CoordinateSystem.succeeds_ofJson) _ value

theorem VerticalCrs.succeeds_ofJson (value : Json) :
    Succeeds (VerticalCrs.ofJson value) ↔ IsObjectOf VerticalCrs.fields value :=
  Record.succeeds_describedReader (Record.Reads.build _ |>.required _ succeeds_string
    |>.optional _ VerticalDatum.succeeds_ofJson |>.optional _ DatumEnsemble.succeeds_ofJson
    |>.required _ CoordinateSystem.succeeds_ofJson) _ value

namespace CrsType

theorem ofTag?_tag (type : CrsType) : ofTag? type.tag = some type := by
  cases type with
  | geodetic kind => cases kind <;> rfl
  | derivedGeodetic kind => cases kind <;> rfl
  | _ => rfl

theorem ofTag?_eq_some {name : String} {type : CrsType} :
    ofTag? name = some type ↔ name = type.tag := by
  constructor
  · intro found
    unfold ofTag? at found
    have same := List.find?_some found
    exact (eq_of_beq same).symm
  · rintro rfl
    exact ofTag?_tag type

def fields (part : Json → Prop) : CrsType → List FieldType
  | .geodetic _ => GeodeticCrs.fields
  | .derivedGeodetic _ => DerivedGeodeticCrs.fields
  | .projected => ProjectedCrs.fields
  | .vertical => VerticalCrs.fields
  | .compound => Crs.compoundFields part
  | .bound => Crs.boundFields part

theorem lookup_tag (part : Json → Prop) (type : CrsType) :
    (Crs.fieldsByTag part).lookup type.tag = some (type.fields part) := by
  cases type with
  | geodetic kind => cases kind <;> rfl
  | derivedGeodetic kind => cases kind <;> rfl
  | _ => rfl

end CrsType

namespace Crs

variable {part other : Json → Prop}

theorem succeeds_compoundOfJson {read : Reader Crs} (each : ∀ value, Succeeds (read value) ↔ part value)
    (value : Json) :
    Succeeds (compoundOfJson read value) ↔ IsObjectOf (compoundFields part) value :=
  Record.succeeds_describedReader (Record.Reads.build _ |>.required _ succeeds_string
    |>.required _ (succeeds_list each)) _ value

theorem succeeds_boundOfJson {read : Reader Crs} (each : ∀ value, Succeeds (read value) ↔ part value)
    (value : Json) : Succeeds (boundOfJson read value) ↔ IsRecordOf (boundFields part) value :=
  Record.succeeds_reader (Record.Reads.build _ |>.required _ each |>.required _ each
    |>.required _ (Operation.succeeds_describedReader _)) _ value

theorem exists_type_of_lookup {tag : String} {fields : List FieldType}
    (found : (fieldsByTag part).lookup tag = some fields) :
    ∃ type : CrsType, tag = type.tag ∧ fields = type.fields part := by
  have tags_eq : (fieldsByTag part).map Prod.fst = tags := rfl
  obtain ⟨before, after, split, -⟩ := List.lookup_eq_some_iff.mp found
  have known : tag ∈ tags := by simp [← tags_eq, split]
  obtain ⟨type, rfl⟩ := mem_tags.mp known
  rw [type.lookup_tag] at found
  exact ⟨type, rfl, (Option.some.inj found).symm⟩

def Fits (part : Json → Prop) (value : Json) : Prop :=
  ∀ type : CrsType, typeNameOfJson value = type.tag → IsObjectOf (type.fields part) value

theorem fits_iff {value : Json} {type : CrsType} (tagged : typeNameOfJson value = type.tag) :
    Fits part value ↔ IsObjectOf (type.fields part) value := by
  constructor
  · intro fits
    exact fits type tagged
  · intro typed other same
    have known := CrsType.ofTag?_eq_some.mpr tagged
    rw [CrsType.ofTag?_eq_some.mpr same] at known
    exact Option.some.inj known ▸ typed

/-- Parts lie within the value, so it is enough to know them there. -/
theorem Fits.imp {value : Json}
    (weaker : ∀ inner : Json, inner.depth < value.depth → part inner → other inner)
    (fits : Fits part value) : Fits other value := by
  intro type tagged
  obtain ⟨entries, rfl, -⟩ := exists_entries tagged
  have typed := fits type tagged
  have deeper : ∀ {key : String} {inner : Json}, entries.lookup key = some inner →
      inner.depth < (Json.object entries).depth :=
    fun found => Nat.lt_succ_of_le (Json.depth_le_depthOfEntries found)
  cases type with
  | compound =>
    simp only [CrsType.fields, compoundFields, IsObjectOf, Json.fitsEntries_append,
      Json.fitsEntries_cons] at typed ⊢
    obtain ⟨⟨name, components, rest⟩, metadata⟩ := typed
    refine ⟨⟨name, components.imp fun value found typed => ?_, rest⟩, metadata⟩
    exact typed.imp fun inner within => weaker inner (within.trans (deeper found))
  | bound =>
    simp only [CrsType.fields, boundFields, IsObjectOf, Json.fitsEntries_cons] at typed ⊢
    obtain ⟨source, target, rest⟩ := typed
    exact ⟨source.imp fun inner found => weaker inner (deeper found),
      target.imp fun inner found => weaker inner (deeper found), rest⟩
  | _ => exact typed

theorem wellTyped_iff (value : Json) : WellTyped value ↔ Fits WellTyped value := by
  constructor
  · intro typed
    cases typed with
    | unknown named other =>
      intro type tagged
      rw [hasTypeName_iff.mp named] at tagged
      exact absurd (mem_tags.mpr ⟨type, tagged⟩) other
    | @tagged entries _ _ _ given found typed parts =>
      obtain ⟨type, rfl, rfl⟩ := exists_type_of_lookup found
      have tagged : typeNameOfJson (.object entries) = type.tag := typeNameOfJson_of_string given
      exact ((fits_iff tagged).mpr typed).imp fun inner _ => parts inner
  · intro fits
    by_cases known : typeNameOfJson value ∈ tags
    · obtain ⟨type, tagged⟩ := mem_tags.mp known
      obtain ⟨entries, rfl, given⟩ := exists_entries tagged
      exact .tagged given (type.lookup_tag _) (fits type tagged) fun _ typed => typed
    · exact .unknown (hasTypeName value) known

/-- One level of reading asks for what one level of typing does. -/
theorem succeeds_ofJsonWithin_succ (depth : Nat) (value : Json) :
    Succeeds (ofJsonWithin (depth + 1) value) ↔
      Fits (fun inner => Succeeds (ofJsonWithin depth inner)) value := by
  rw [ofJsonWithin]
  cases known : CrsType.ofTag? (typeNameOfJson value) with
  | none =>
    have vacuous : Fits (fun inner => Succeeds (ofJsonWithin depth inner)) value := by
      intro type tagged
      simp [CrsType.ofTag?_eq_some.mpr tagged] at known
    simp [vacuous]
  | some type =>
    have tagged := CrsType.ofTag?_eq_some.mp known
    rw [fits_iff tagged]
    cases type with
    | geodetic kind => simp [GeodeticCrs.succeeds_ofJson, CrsType.fields]
    | derivedGeodetic kind => simp [DerivedGeodeticCrs.succeeds_ofJson, CrsType.fields]
    | projected => simp [ProjectedCrs.succeeds_ofJson, CrsType.fields]
    | vertical => simp [VerticalCrs.succeeds_ofJson, CrsType.fields]
    | compound => exact succeeds_compoundOfJson (fun _ => .rfl) value
    | bound =>
      obtain ⟨entries, rfl, -⟩ := exists_entries tagged
      exact succeeds_boundOfJson (fun _ => .rfl) (.object entries)

theorem succeeds_ofJsonWithin {depth : Nat} {value : Json} (within : value.depth ≤ depth) :
    Succeeds (ofJsonWithin depth value) ↔ WellTyped value := by
  induction depth generalizing value with
  | zero =>
    have noType : typeNameOfJson value ∉ tags := by
      intro known
      obtain ⟨type, tagged⟩ := mem_tags.mp known
      obtain ⟨entries, rfl, -⟩ := exists_entries tagged
      simp [Json.depth] at within
    simp [ofJsonWithin, WellTyped.unknown (hasTypeName value) noType]
  | succ depth ih =>
    have parts : ∀ inner : Json, inner.depth < value.depth →
        (Succeeds (ofJsonWithin depth inner) ↔ WellTyped inner) :=
      fun inner deeper => ih (by omega)
    rw [succeeds_ofJsonWithin_succ, wellTyped_iff]
    exact ⟨Fits.imp fun inner deeper => (parts inner deeper).mp,
      Fits.imp fun inner deeper => (parts inner deeper).mpr⟩

/-- A value is accepted exactly if it is well-typed. -/
theorem ofJson_succeeds_iff (value : Json) :
    (∃ crs, ofJson value = .ok crs) ↔ WellTyped value :=
  succeeds_ofJsonWithin le_rfl

end Crs

end CrsText
