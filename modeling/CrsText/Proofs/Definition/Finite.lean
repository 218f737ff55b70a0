import CrsText.Definition.Crs
import CrsText.Proofs.Json.Finite
import CrsText.Proofs.Number.Finite

/-! Definitions without infinite numbers. A definition has none if the value that it is read from has
none, since integers of 64 bits become finite numbers.
-/

set_option autoImplicit false

namespace CrsText

open Reader (yields_any)

-- One predicate for each structure, over all the numbers that are in it.
structure BoundingBox.IsFinite (box : BoundingBox) : Prop where
  south : box.south.isFinite
  west : box.west.isFinite
  north : box.north.isFinite
  east : box.east.isFinite

def Code.IsFinite : Code → Prop
  | .float value => value.isFinite
  | _ => True

structure Identifier.IsFinite (identifier : Identifier) : Prop where
  code : identifier.code.IsFinite

def Usage.IsFinite (usage : Usage) : Prop := ∀ box ∈ usage.boundingBox, box.IsFinite

structure Metadata.IsFinite (metadata : Metadata) : Prop where
  usage : metadata.toUsage.IsFinite
  usages : ∀ usages ∈ metadata.usages, ∀ usage ∈ usages, usage.IsFinite
  identifier : ∀ identifier ∈ metadata.identifier, identifier.IsFinite
  identifiers : ∀ identifiers ∈ metadata.identifiers, ∀ identifier ∈ identifiers,
    identifier.IsFinite

structure UnitDefinition.IsFinite (definition : UnitDefinition) : Prop where
  factor : ∀ factor ∈ definition.factor, factor.isFinite
  metadata : definition.metadata.IsFinite

def MeasureUnit.IsFinite : MeasureUnit → Prop
  | .named _ => True
  | .defined definition => definition.IsFinite

structure Measure.IsFinite (measure : Measure) : Prop where
  value : measure.value.isFinite
  unit : ∀ unit ∈ measure.unit, unit.IsFinite

structure Ellipsoid.IsFinite (ellipsoid : Ellipsoid) : Prop where
  semiMajorAxis : ellipsoid.semiMajorAxis.IsFinite
  semiMinorAxis : ∀ axis ∈ ellipsoid.semiMinorAxis, axis.IsFinite
  inverseFlattening : ∀ flattening ∈ ellipsoid.inverseFlattening, flattening.isFinite
  metadata : ellipsoid.metadata.IsFinite

structure PrimeMeridian.IsFinite (meridian : PrimeMeridian) : Prop where
  longitude : meridian.longitude.IsFinite
  metadata : meridian.metadata.IsFinite

structure Meridian.IsFinite (meridian : Meridian) : Prop where
  longitude : meridian.longitude.IsFinite
  metadata : meridian.metadata.IsFinite

structure Axis.IsFinite (axis : Axis) : Prop where
  unit : ∀ unit ∈ axis.unit, unit.IsFinite
  meridian : ∀ meridian ∈ axis.meridian, meridian.IsFinite

def CoordinateSystem.IsFinite (system : CoordinateSystem) : Prop :=
  ∀ axis ∈ system.axes, axis.IsFinite

structure Method.IsFinite (method : Method) : Prop where
  metadata : method.metadata.IsFinite

def ParameterValue.IsFinite : ParameterValue → Prop
  | .number value => value.isFinite
  | .file _ => True

structure Parameter.IsFinite (parameter : Parameter) : Prop where
  value : parameter.value.IsFinite
  unit : ∀ unit ∈ parameter.unit, unit.IsFinite
  metadata : parameter.metadata.IsFinite

structure Operation.IsFinite (operation : Operation) : Prop where
  method : operation.method.IsFinite
  parameters : ∀ parameter ∈ operation.parameters, parameter.IsFinite
  metadata : operation.metadata.IsFinite

structure GeodeticDatum.IsFinite (datum : GeodeticDatum) : Prop where
  ellipsoid : ∀ ellipsoid ∈ datum.ellipsoid, ellipsoid.IsFinite
  primeMeridian : ∀ meridian ∈ datum.primeMeridian, meridian.IsFinite
  referenceEpoch : ∀ epoch ∈ datum.referenceEpoch, epoch.isFinite
  metadata : datum.metadata.IsFinite

structure VerticalDatum.IsFinite (datum : VerticalDatum) : Prop where
  referenceEpoch : ∀ epoch ∈ datum.referenceEpoch, epoch.isFinite
  metadata : datum.metadata.IsFinite

structure EnsembleMember.IsFinite (member : EnsembleMember) : Prop where
  metadata : member.metadata.IsFinite

structure DatumEnsemble.IsFinite (ensemble : DatumEnsemble) : Prop where
  members : ∀ member ∈ ensemble.members, member.IsFinite
  ellipsoid : ∀ ellipsoid ∈ ensemble.ellipsoid, ellipsoid.IsFinite
  metadata : ensemble.metadata.IsFinite

structure GeodeticCrs.IsFinite (crs : GeodeticCrs) : Prop where
  datum : ∀ datum ∈ crs.datum, datum.IsFinite
  ensemble : ∀ ensemble ∈ crs.ensemble, ensemble.IsFinite
  coordinateSystem : ∀ system ∈ crs.coordinateSystem, system.IsFinite
  metadata : crs.metadata.IsFinite

structure DerivedGeodeticCrs.IsFinite (crs : DerivedGeodeticCrs) : Prop where
  base : crs.base.IsFinite
  conversion : crs.conversion.IsFinite
  coordinateSystem : crs.coordinateSystem.IsFinite
  metadata : crs.metadata.IsFinite

structure ProjectedCrs.IsFinite (crs : ProjectedCrs) : Prop where
  base : crs.base.IsFinite
  conversion : crs.conversion.IsFinite
  coordinateSystem : crs.coordinateSystem.IsFinite
  metadata : crs.metadata.IsFinite

structure VerticalCrs.IsFinite (crs : VerticalCrs) : Prop where
  datum : ∀ datum ∈ crs.datum, datum.IsFinite
  ensemble : ∀ ensemble ∈ crs.ensemble, ensemble.IsFinite
  coordinateSystem : crs.coordinateSystem.IsFinite
  metadata : crs.metadata.IsFinite

inductive Crs.IsFinite : Crs → Prop where
  | geodetic {crs : GeodeticCrs} : crs.IsFinite → IsFinite (.geodetic crs)
  | derivedGeodetic {crs : DerivedGeodeticCrs} : crs.IsFinite → IsFinite (.derivedGeodetic crs)
  | projected {crs : ProjectedCrs} : crs.IsFinite → IsFinite (.projected crs)
  | vertical {crs : VerticalCrs} : crs.IsFinite → IsFinite (.vertical crs)
  | compound {name : String} {components : List Crs} {metadata : Metadata} :
      (∀ component ∈ components, IsFinite component) → metadata.IsFinite →
      IsFinite (.compound name components metadata)
  | bound {source target : Crs} {transformation : Operation} : IsFinite source → IsFinite target →
      transformation.IsFinite → IsFinite (.bound source target transformation)
  | unsupported (typeName : String) : IsFinite (.unsupported typeName)

theorem isFinite_ofInt_of_json {n : ℤ} (finite : (Json.integer n).IsFinite) :
    (Float.ofInt n).isFinite := by
  obtain ⟨least, greatest⟩ : -Json.signedBound ≤ n ∧ n < Json.unsignedBound := finite
  have signed : Json.signedBound = 2 ^ 63 := rfl
  have unsigned : Json.unsignedBound = 2 ^ 64 := rfl
  exact isFinite_ofInt (by omega)

theorem Reader.yields_number : Reader.number.Yields (·.isFinite) := by
  intro value result finite succeeded
  cases value with
  | integer n =>
    cases succeeded
    exact isFinite_ofInt_of_json finite
  | float x =>
    cases succeeded
    exact finite
  | _ => cases succeeded

open Reader (yields_number)

-- One lemma for each structure: the fields of its record are read from values without infinite
-- numbers, and are put together from the last one on.
theorem BoundingBox.yields_ofJson : BoundingBox.ofJson.Yields BoundingBox.IsFinite :=
  Record.yields_reader (.required yields_number <| .required yields_number <|
    .required yields_number <| .required yields_number <|
    .build fun _ south _ west _ north _ east => ⟨south, west, north, east⟩) _

theorem Code.yields_ofJson : Code.ofJson.Yields Code.IsFinite := by
  intro value result finite succeeded
  cases value with
  | integer n =>
    rw [ofJson] at succeeded
    split at succeeded <;> cases succeeded
    · trivial
    · exact isFinite_ofInt_of_json finite
  | float x =>
    cases succeeded
    exact finite
  | string text =>
    cases succeeded
    trivial
  | _ => cases succeeded

theorem Identifier.yields_ofJson : Identifier.ofJson.Yields Identifier.IsFinite :=
  Record.yields_reader (.required Code.yields_ofJson <| .required yields_any <|
    .build fun _ _ _ code => ⟨code⟩) _

theorem Usage.yields_ofJson : Usage.ofJson.Yields Usage.IsFinite :=
  Record.yields_reader (.optional BoundingBox.yields_ofJson <| .optional yields_any <|
    .optional yields_any <| .build fun _ _ _ _ _ box => box) _

theorem Metadata.yields_record : Metadata.record.Yields Metadata.IsFinite :=
  .optional yields_any <| .optional Identifier.yields_ofJson.list <|
    .optional Identifier.yields_ofJson <| .optional Usage.yields_ofJson.list <|
    .optional BoundingBox.yields_ofJson <| .optional yields_any <| .optional yields_any <|
    .build fun _ _ _ _ _ box _ usages _ identifier _ identifiers _ _ =>
      ⟨box, usages, identifier, identifiers⟩

/-- An object with metadata beside its own fields. -/
theorem Record.yields_describedReader {α : Type} {kind : α → Prop}
    {record : Record (Metadata → α)}
    (yields : record.Yields fun f => ∀ metadata : Metadata, metadata.IsFinite → kind (f metadata))
    (name : String) : (record.describedReader name).Yields kind :=
  yields_readerWith yields Metadata.yields_record name

theorem UnitDefinition.yields_ofJson : UnitDefinition.ofJson.Yields UnitDefinition.IsFinite :=
  Record.yields_describedReader (.optional yields_number <| .required yields_any <|
    .optional yields_any <| .build fun _ _ _ _ _ factor _ metadata => ⟨factor, metadata⟩) _

theorem Metadata.isFinite_empty : Metadata.empty.IsFinite where
  usage := by simp [Usage.IsFinite, Metadata.empty]
  usages := by simp [Metadata.empty]
  identifier := by simp [Metadata.empty]
  identifiers := by simp [Metadata.empty]

theorem MeasureUnit.yields_ofJson : MeasureUnit.ofJson.Yields MeasureUnit.IsFinite := by
  intro value result finite succeeded
  cases value with
  | string name =>
    cases succeeded
    trivial
  | _ =>
    rw [ofJson] at succeeded
    · split at succeeded
      · next definition found =>
        cases succeeded
        exact UnitDefinition.yields_ofJson _ definition finite found
      · cases succeeded
    · simp

theorem Measure.isFinite_ofParts {value : Float} (finite : value.isFinite) {unit : Option MeasureUnit}
    (unitFinite : ∀ given ∈ unit, given.IsFinite) (name : Option String) {factor : Option Float}
    (factorFinite : ∀ given ∈ factor, given.isFinite) :
    (ofParts value unit name factor).IsFinite := by
  cases unit with
  | some unit => exact ⟨finite, unitFinite⟩
  | none =>
    cases name with
    | none => exact ⟨finite, by simp [ofParts]⟩
    | some name =>
      have definition : MeasureUnit.IsFinite (.defined ⟨none, name, factor, .empty⟩) :=
        UnitDefinition.IsFinite.mk factorFinite Metadata.isFinite_empty
      exact ⟨finite, by simpa [ofParts] using definition⟩

theorem Measure.yields_record : Measure.record.Yields Measure.IsFinite :=
  .optional yields_number <| .optional yields_any <| .optional MeasureUnit.yields_ofJson <|
    .required yields_number <| .build fun _ finite _ unit name _ _ factor =>
      isFinite_ofParts finite unit name factor

theorem Measure.yields_ofJson : Measure.ofJson.Yields Measure.IsFinite := by
  intro value result finite succeeded
  cases value with
  | integer n =>
    cases succeeded
    exact ⟨isFinite_ofInt_of_json finite, by simp⟩
  | float x =>
    cases succeeded
    exact ⟨finite, by simp⟩
  | object entries =>
    rw [ofJson] at succeeded
    split at succeeded
    · next measure found =>
      cases succeeded
      exact yields_record.of_ofEntries finite (Record.readObject_eq_ok.mp found)
    · cases succeeded
  | _ => cases succeeded

theorem Ellipsoid.yields_ofJson : Ellipsoid.ofJson.Yields Ellipsoid.IsFinite :=
  Record.yields_describedReader (.optional yields_number <| .optional Measure.yields_ofJson <|
    .required Measure.yields_ofJson <| .required yields_any <|
    .build fun _ _ _ major _ minor _ flattening _ metadata => ⟨major, minor, flattening, metadata⟩) _

theorem Measure.isFinite_zero : (⟨0, none⟩ : Measure).IsFinite := ⟨rfl, by simp⟩

theorem PrimeMeridian.yields_ofJson : PrimeMeridian.ofJson.Yields PrimeMeridian.IsFinite :=
  Record.yields_describedReader (.defaulted Measure.yields_ofJson Measure.isFinite_zero <|
    .required yields_any <| .build fun _ _ _ longitude _ metadata => ⟨longitude, metadata⟩) _

theorem PrimeMeridian.isFinite_greenwich : greenwich.IsFinite :=
  ⟨Measure.isFinite_zero, Metadata.isFinite_empty⟩

theorem Meridian.yields_ofJson : Meridian.ofJson.Yields Meridian.IsFinite :=
  Record.yields_describedReader (.required Measure.yields_ofJson <|
    .build fun _ longitude _ metadata => ⟨longitude, metadata⟩) _

theorem Axis.yields_ofJson : Axis.ofJson.Yields Axis.IsFinite :=
  Record.yields_reader (.optional Meridian.yields_ofJson <| .optional MeasureUnit.yields_ofJson <|
    .required yields_any <| .required yields_any <| .required yields_any <|
    .build fun _ _ _ _ _ _ _ unit _ meridian => ⟨unit, meridian⟩) _

theorem CoordinateSystem.yields_ofJson : CoordinateSystem.ofJson.Yields CoordinateSystem.IsFinite :=
  Record.yields_reader (.defaulted Axis.yields_ofJson.list (by simp) <| .required yields_any <|
    .build fun _ _ _ axes => axes) _

theorem Method.yields_ofJson : Method.ofJson.Yields Method.IsFinite :=
  Record.yields_describedReader (.required yields_any <| .build fun _ _ _ metadata => ⟨metadata⟩) _

theorem ParameterValue.yields_ofJson : ParameterValue.ofJson.Yields ParameterValue.IsFinite := by
  intro value result finite succeeded
  cases value with
  | integer n =>
    cases succeeded
    exact isFinite_ofInt_of_json finite
  | float x =>
    cases succeeded
    exact finite
  | string name =>
    cases succeeded
    trivial
  | _ => cases succeeded

theorem Parameter.yields_ofJson : Parameter.ofJson.Yields Parameter.IsFinite :=
  Record.yields_describedReader (.optional MeasureUnit.yields_ofJson <|
    .required ParameterValue.yields_ofJson <| .required yields_any <|
    .build fun _ _ _ value _ unit _ metadata => ⟨value, unit, metadata⟩) _

theorem Operation.yields_describedReader (name : String) :
    (Operation.record.describedReader name).Yields Operation.IsFinite :=
  Record.yields_describedReader (.defaulted Parameter.yields_ofJson.list (by simp) <|
    .required Method.yields_ofJson <| .required yields_any <|
    .build fun _ _ _ method _ parameters _ metadata => ⟨method, parameters, metadata⟩) name

theorem GeodeticDatum.yields_ofJson : GeodeticDatum.ofJson.Yields GeodeticDatum.IsFinite :=
  Record.yields_describedReader (.optional yields_number <| .optional PrimeMeridian.yields_ofJson <|
    .optional Ellipsoid.yields_ofJson <| .required yields_any <| .optional yields_any <|
    .build fun _ _ _ _ _ ellipsoid _ meridian _ epoch _ metadata =>
      ⟨ellipsoid, meridian, epoch, metadata⟩) _

theorem VerticalDatum.yields_ofJson : VerticalDatum.ofJson.Yields VerticalDatum.IsFinite :=
  Record.yields_describedReader (.optional yields_number <| .required yields_any <|
    .optional yields_any <| .build fun _ _ _ _ _ epoch _ metadata => ⟨epoch, metadata⟩) _

theorem EnsembleMember.yields_ofJson : EnsembleMember.ofJson.Yields EnsembleMember.IsFinite :=
  Record.yields_describedReader (.required yields_any <| .build fun _ _ _ metadata => ⟨metadata⟩) _

theorem DatumEnsemble.yields_ofJson : DatumEnsemble.ofJson.Yields DatumEnsemble.IsFinite :=
  Record.yields_describedReader (.optional yields_any <| .optional Ellipsoid.yields_ofJson <|
    .defaulted EnsembleMember.yields_ofJson.list (by simp) <| .required yields_any <|
    .build fun _ _ _ members _ ellipsoid _ _ _ metadata => ⟨members, ellipsoid, metadata⟩) _

theorem GeodeticCrs.yields_ofJson : GeodeticCrs.ofJson.Yields GeodeticCrs.IsFinite :=
  Record.yields_describedReader (.optional CoordinateSystem.yields_ofJson <|
    .optional DatumEnsemble.yields_ofJson <| .optional GeodeticDatum.yields_ofJson <|
    .required yields_any <| .defaulted yields_any trivial <|
    .build fun _ _ _ _ _ datum _ ensemble _ system _ metadata =>
      ⟨datum, ensemble, system, metadata⟩) _

theorem DerivedGeodeticCrs.yields_ofJson :
    DerivedGeodeticCrs.ofJson.Yields DerivedGeodeticCrs.IsFinite :=
  Record.yields_describedReader (.required CoordinateSystem.yields_ofJson <|
    .required (Operation.yields_describedReader _) <| .required GeodeticCrs.yields_ofJson <|
    .required yields_any <| .defaulted yields_any trivial <|
    .build fun _ _ _ _ _ base _ conversion _ system _ metadata =>
      ⟨base, conversion, system, metadata⟩) _

theorem ProjectedCrs.yields_ofJson : ProjectedCrs.ofJson.Yields ProjectedCrs.IsFinite :=
  Record.yields_describedReader (.required CoordinateSystem.yields_ofJson <|
    .required (Operation.yields_describedReader _) <| .required GeodeticCrs.yields_ofJson <|
    .required yields_any <|
    .build fun _ _ _ base _ conversion _ system _ metadata => ⟨base, conversion, system, metadata⟩) _

theorem VerticalCrs.yields_ofJson : VerticalCrs.ofJson.Yields VerticalCrs.IsFinite :=
  Record.yields_describedReader (.required CoordinateSystem.yields_ofJson <|
    .optional DatumEnsemble.yields_ofJson <| .optional VerticalDatum.yields_ofJson <|
    .required yields_any <|
    .build fun _ _ _ datum _ ensemble _ system _ metadata => ⟨datum, ensemble, system, metadata⟩) _

namespace Crs

theorem yields_compoundOfJson {read : Reader Crs} (each : read.Yields IsFinite) :
    (compoundOfJson read).Yields IsFinite :=
  Record.yields_describedReader (.required each.list <| .required yields_any <|
    .build fun _ _ _ components _ metadata => .compound components metadata) _

theorem yields_boundOfJson {read : Reader Crs} (each : read.Yields IsFinite) :
    (boundOfJson read).Yields IsFinite :=
  Record.yields_reader (.required (Operation.yields_describedReader _) <| .required each <|
    .required each <| .build fun _ source _ target _ transformation =>
      .bound source target transformation) _

theorem yields_ofJsonWithin (depth : ℕ) : (ofJsonWithin depth).Yields IsFinite := by
  induction depth with
  | zero =>
    intro value crs _ succeeded
    cases succeeded
    exact .unsupported _
  | succ depth ih =>
    intro value crs finite succeeded
    rw [ofJsonWithin] at succeeded
    split at succeeded
    · obtain ⟨inner, read, same⟩ := bind_eq_ok.mp succeeded
      exact pure_eq_ok.mp same ▸ .geodetic (GeodeticCrs.yields_ofJson value inner finite read)
    · obtain ⟨inner, read, same⟩ := bind_eq_ok.mp succeeded
      exact pure_eq_ok.mp same ▸
        .derivedGeodetic (DerivedGeodeticCrs.yields_ofJson value inner finite read)
    · obtain ⟨inner, read, same⟩ := bind_eq_ok.mp succeeded
      exact pure_eq_ok.mp same ▸ .projected (ProjectedCrs.yields_ofJson value inner finite read)
    · obtain ⟨inner, read, same⟩ := bind_eq_ok.mp succeeded
      exact pure_eq_ok.mp same ▸ .vertical (VerticalCrs.yields_ofJson value inner finite read)
    · exact yields_compoundOfJson ih value crs finite succeeded
    · exact yields_boundOfJson ih value crs finite succeeded
    · cases succeeded
      exact .unsupported _

/-- A system that is read from a value without infinite numbers has none. -/
theorem yields_ofJson : ofJson.Yields IsFinite :=
  fun value crs finite succeeded => yields_ofJsonWithin value.depth value crs finite succeeded

end Crs

end CrsText
