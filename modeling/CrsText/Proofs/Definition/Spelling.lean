import CrsText.Definition.Crs
import CrsText.Proofs.Alike
import CrsText.Proofs.Definition.Resolution
import CrsText.Proofs.Json.Lookup

/-! Spellings of units. What a place implies may be said by name, what a name says may be spelled out
as an object, and the type of a unit object does not matter where the place tells the kind of the
unit. A definition in turn may give a measure in several forms.
-/

set_option autoImplicit false

namespace CrsText

def KnownUnit.definition (unit : KnownUnit) : UnitDefinition :=
  ⟨some unit.kind.tag, unit.name, some unit.factor, .empty⟩

/-- The same unit, with a name spelled out or not. -/
inductive MeasureUnit.Respelled : MeasureUnit → MeasureUnit → Prop where
  | same (unit : MeasureUnit) : Respelled unit unit
  | spelledOut (unit : KnownUnit) : Respelled (.named unit.name) (.defined unit.definition)

/-- The same measure where a unit of the given kind is implied. -/
inductive Measure.Respelled (implied : KnownUnit) : Measure → Measure → Prop where
  | same (measure : Measure) : Respelled implied measure measure
  | named (value : Float) : Respelled implied ⟨value, none⟩ ⟨value, some (.ofKnown implied)⟩
  | unit {unit other : MeasureUnit} (value : Float) (respelled : unit.Respelled other) :
    Respelled implied ⟨value, some unit⟩ ⟨value, some other⟩
  | retagged (value : Float) (definition : UnitDefinition) (typeTag : Option String) :
    Respelled implied ⟨value, some (.defined definition)⟩
      ⟨value, some (.defined { definition with typeTag := typeTag })⟩

-- In everything that has measures or units, each of them may be respelled where it stands.
inductive Ellipsoid.Respelled : Ellipsoid → Ellipsoid → Prop where
  | mk (name : String) {semiMajor otherMajor : Measure} {semiMinor otherMinor : Option Measure}
    (flattening : Option Float) (metadata : Metadata)
    (major : semiMajor.Respelled .metre otherMajor)
    (minor : Option.Rel (Measure.Respelled .metre) semiMinor otherMinor) :
    Respelled ⟨name, semiMajor, semiMinor, flattening, metadata⟩
      ⟨name, otherMajor, otherMinor, flattening, metadata⟩

inductive PrimeMeridian.Respelled : PrimeMeridian → PrimeMeridian → Prop where
  | mk (name : String) {longitude other : Measure} (metadata : Metadata)
    (respelled : longitude.Respelled .degree other) :
    Respelled ⟨name, longitude, metadata⟩ ⟨name, other, metadata⟩

inductive Meridian.Respelled : Meridian → Meridian → Prop where
  | mk {longitude other : Measure} (metadata : Metadata)
    (respelled : longitude.Respelled .degree other) :
    Respelled ⟨longitude, metadata⟩ ⟨other, metadata⟩

inductive GeodeticDatum.Respelled : GeodeticDatum → GeodeticDatum → Prop where
  | mk (typeTag : Option String) (name : String) {ellipsoid otherEllipsoid : Option Ellipsoid}
    {meridian otherMeridian : Option PrimeMeridian} (epoch : Option Float) (metadata : Metadata)
    (figure : Option.Rel Ellipsoid.Respelled ellipsoid otherEllipsoid)
    (origin : Option.Rel PrimeMeridian.Respelled meridian otherMeridian) :
    Respelled ⟨typeTag, name, ellipsoid, meridian, epoch, metadata⟩
      ⟨typeTag, name, otherEllipsoid, otherMeridian, epoch, metadata⟩

inductive DatumEnsemble.Respelled : DatumEnsemble → DatumEnsemble → Prop where
  | mk (name : String) (members : List EnsembleMember) {ellipsoid other : Option Ellipsoid}
    (accuracy : Option String) (metadata : Metadata)
    (figure : Option.Rel Ellipsoid.Respelled ellipsoid other) :
    Respelled ⟨name, members, ellipsoid, accuracy, metadata⟩
      ⟨name, members, other, accuracy, metadata⟩

inductive Reference.Respelled {δ : Type} (related : δ → δ → Prop) :
    Reference δ → Reference δ → Prop where
  | datum {single other : δ} (respelled : related single other) :
    Respelled related (.datum single) (.datum other)
  | ensemble {several other : DatumEnsemble} (respelled : several.Respelled other) :
    Respelled related (.ensemble several) (.ensemble other)

inductive Axis.Respelled : Axis → Axis → Prop where
  | mk (name abbreviation direction : String) {unit otherUnit : Option MeasureUnit}
    {meridian otherMeridian : Option Meridian}
    (scale : Option.Rel MeasureUnit.Respelled unit otherUnit)
    (along : Option.Rel Meridian.Respelled meridian otherMeridian) :
    Respelled ⟨name, abbreviation, direction, unit, meridian⟩
      ⟨name, abbreviation, direction, otherUnit, otherMeridian⟩

inductive CoordinateSystem.Respelled : CoordinateSystem → CoordinateSystem → Prop where
  | mk (subtype : String) {axes others : List Axis}
    (each : List.Forall₂ Axis.Respelled axes others) : Respelled ⟨subtype, axes⟩ ⟨subtype, others⟩

inductive Parameter.Respelled : Parameter → Parameter → Prop where
  | mk (name : String) (value : ParameterValue) {unit other : Option MeasureUnit}
    (metadata : Metadata) (scale : Option.Rel MeasureUnit.Respelled unit other) :
    Respelled ⟨name, value, unit, metadata⟩ ⟨name, value, other, metadata⟩

inductive Operation.Respelled : Operation → Operation → Prop where
  | mk (name : String) (method : Method) {parameters others : List Parameter} (metadata : Metadata)
    (each : List.Forall₂ Parameter.Respelled parameters others) :
    Respelled ⟨name, method, parameters, metadata⟩ ⟨name, method, others, metadata⟩

inductive GeodeticCrs.Respelled : GeodeticCrs → GeodeticCrs → Prop where
  | mk (kind : GeodeticKind) (name : String) {datum otherDatum : Option GeodeticDatum}
    {ensemble otherEnsemble : Option DatumEnsemble} {system otherSystem : Option CoordinateSystem}
    (metadata : Metadata) (single : Option.Rel GeodeticDatum.Respelled datum otherDatum)
    (several : Option.Rel DatumEnsemble.Respelled ensemble otherEnsemble)
    (coordinates : Option.Rel CoordinateSystem.Respelled system otherSystem) :
    Respelled ⟨kind, name, datum, ensemble, system, metadata⟩
      ⟨kind, name, otherDatum, otherEnsemble, otherSystem, metadata⟩

inductive DerivedGeodeticCrs.Respelled : DerivedGeodeticCrs → DerivedGeodeticCrs → Prop where
  | mk (kind : GeodeticKind) (name : String) {base otherBase : GeodeticCrs}
    {conversion otherConversion : Operation} {system otherSystem : CoordinateSystem}
    (metadata : Metadata) (under : base.Respelled otherBase)
    (derivation : conversion.Respelled otherConversion)
    (coordinates : system.Respelled otherSystem) :
    Respelled ⟨kind, name, base, conversion, system, metadata⟩
      ⟨kind, name, otherBase, otherConversion, otherSystem, metadata⟩

inductive ProjectedCrs.Respelled : ProjectedCrs → ProjectedCrs → Prop where
  | mk (name : String) {base otherBase : GeodeticCrs} {conversion otherConversion : Operation}
    {system otherSystem : CoordinateSystem} (metadata : Metadata)
    (under : base.Respelled otherBase) (derivation : conversion.Respelled otherConversion)
    (coordinates : system.Respelled otherSystem) :
    Respelled ⟨name, base, conversion, system, metadata⟩
      ⟨name, otherBase, otherConversion, otherSystem, metadata⟩

inductive VerticalCrs.Respelled : VerticalCrs → VerticalCrs → Prop where
  | mk (name : String) (datum : Option VerticalDatum) {ensemble otherEnsemble : Option DatumEnsemble}
    {system otherSystem : CoordinateSystem} (metadata : Metadata)
    (several : Option.Rel DatumEnsemble.Respelled ensemble otherEnsemble)
    (coordinates : system.Respelled otherSystem) :
    Respelled ⟨name, datum, ensemble, system, metadata⟩
      ⟨name, datum, otherEnsemble, otherSystem, metadata⟩

inductive Crs.Respelled : Crs → Crs → Prop where
  | geodetic {crs other : GeodeticCrs} (inside : crs.Respelled other) :
    Respelled (.geodetic crs) (.geodetic other)
  | derivedGeodetic {crs other : DerivedGeodeticCrs} (inside : crs.Respelled other) :
    Respelled (.derivedGeodetic crs) (.derivedGeodetic other)
  | projected {crs other : ProjectedCrs} (inside : crs.Respelled other) :
    Respelled (.projected crs) (.projected other)
  | vertical {crs other : VerticalCrs} (inside : crs.Respelled other) :
    Respelled (.vertical crs) (.vertical other)
  | compound (name : String) {components others : List Crs} (metadata : Metadata)
    (each : List.Forall₂ Respelled components others) :
    Respelled (.compound name components metadata) (.compound name others metadata)
  | bound {source otherSource target otherTarget : Crs} {transformation other : Operation}
    (origin : Respelled source otherSource) (destination : Respelled target otherTarget)
    (inside : transformation.Respelled other) :
    Respelled (.bound source target transformation) (.bound otherSource otherTarget other)
  | unsupported (typeName : String) : Respelled (.unsupported typeName) (.unsupported typeName)

theorem GeodeticCrs.Respelled.kind_eq {crs other : GeodeticCrs} (respelled : crs.Respelled other) :
    crs.kind = other.kind := by
  obtain ⟨kind, name, metadata, single, several, coordinates⟩ := respelled
  rfl

/-- What tells whether the base of a projected system is geographic is no unit. -/
theorem ProjectedCrs.Respelled.baseKind_eq {crs other : ProjectedCrs}
    (respelled : crs.Respelled other) : crs.baseKind = other.baseKind := by
  obtain ⟨name, metadata, under, derivation, coordinates⟩ := respelled
  obtain ⟨kind, name, metadata, single, several, coordinates⟩ := under
  cases coordinates with
  | none => rfl
  | some coordinates =>
    obtain ⟨subtype, each⟩ := coordinates
    rfl

/-- Two units with the same content, whatever their types. -/
structure ResolvedUnit.Same (unit other : ResolvedUnit) : Prop where
  name : unit.name = other.name
  factor : unit.factor = other.factor
  metadata : unit.metadata.getD .empty = other.metadata.getD .empty

namespace ResolvedUnit.Same

theorem refl (unit : ResolvedUnit) : unit.Same unit := ⟨rfl, rfl, rfl⟩

/-- A known unit says nothing about itself, and neither does the object that spells it out. -/
theorem definition (unit : KnownUnit) :
    (ResolvedUnit.ofKnown unit).Same
      ⟨unit.kind.tag, unit.name, unit.factor, some unit.definition.metadata⟩ := ⟨rfl, rfl, rfl⟩

end ResolvedUnit.Same

/-- A name stands for a unit with the type, the name and the factor of the object that spells it
out. -/
theorem MeasureUnit.Respelled.resolve {unit other : MeasureUnit} (respelled : unit.Respelled other) :
    Alike (fun resolved second => resolved.Same second ∧ resolved.typeTag = second.typeTag)
      unit.resolve other.resolve := by
  cases respelled with
  | same unit =>
    cases unit.resolve with
    | error failure => exact .error failure
    | ok resolved => exact .ok ⟨.refl resolved, rfl⟩
  | spelledOut known =>
    have found : KnownUnit.ofName? known.name = some known := KnownUnit.ofName?_eq_some.mpr rfl
    simp only [MeasureUnit.resolve, found]
    exact .ok ⟨.definition known, rfl⟩

structure Quantity.SameContent (quantity other : Quantity) : Prop where
  value : quantity.value = other.value
  unit : quantity.unit.Same other.unit

theorem Measure.Respelled.inUnit {implied : KnownUnit} {measure other : Measure}
    (respelled : measure.Respelled implied other) :
    Alike Quantity.SameContent (measure.inUnit implied) (other.inUnit implied) := by
  cases respelled with
  | same measure =>
    cases measure.inUnit implied with
    | error failure => exact .error failure
    | ok quantity => exact .ok ⟨rfl, .refl quantity.unit⟩
  | named value =>
    have found : KnownUnit.ofName? implied.name = some implied :=
      KnownUnit.ofName?_eq_some.mpr rfl
    simp only [Measure.inUnit, MeasureUnit.ofKnown, MeasureUnit.resolve, found]
    exact .ok ⟨rfl, .refl _⟩
  | unit value respelled =>
    exact respelled.resolve.bind fun resolved second same => .ok ⟨rfl, same.1⟩
  | retagged value definition typeTag =>
    obtain ⟨oldTag, name, factor, metadata⟩ := definition
    cases factor with
    | none => exact .error _
    | some factor => exact .ok ⟨rfl, rfl, rfl, rfl⟩

def Ellipsoid.SameContent (figure other : Quantity × Float) : Prop :=
  figure.1.SameContent other.1 ∧ figure.2 = other.2

theorem Ellipsoid.Respelled.figure {ellipsoid other : Ellipsoid}
    (respelled : ellipsoid.Respelled other) :
    Alike Ellipsoid.SameContent ellipsoid.figure other.figure := by
  obtain ⟨name, flattening, metadata, major, minor⟩ := respelled
  refine major.inUnit.bind fun semiMajor otherMajor sameMajor => ?_
  cases flattening with
  | some flattening => exact .ok ⟨sameMajor, rfl⟩
  | none =>
    cases minor with
    | none => exact .error _
    | some minor =>
      refine minor.inUnit.bind fun semiMinor otherMinor sameMinor => ?_
      -- The units agree on both sides or on neither, as only their names and factors are compared.
      have agrees : semiMajor.unit.agrees semiMinor.unit =
          otherMajor.unit.agrees otherMinor.unit := by
        simp only [ResolvedUnit.agrees, sameMajor.unit.name, sameMajor.unit.factor,
          sameMinor.unit.name, sameMinor.unit.factor]
      simp only [agrees, sameMajor.value, sameMinor.value, sameMajor.unit.name, sameMinor.unit.name]
      split
      · exact .ok ⟨sameMajor, rfl⟩
      · exact .error _

theorem Ellipsoid.Respelled.require (datum : String) {ellipsoid other : Option Ellipsoid}
    (figure : Option.Rel Ellipsoid.Respelled ellipsoid other) :
    Alike Ellipsoid.Respelled (Ellipsoid.require datum ellipsoid)
      (Ellipsoid.require datum other) := by
  cases figure with
  | none => exact .error _
  | some respelled => exact .ok respelled

theorem rel_eq {δ : Type} (value : Option δ) : Option.Rel Eq value value := by
  cases value with
  | none => exact .none
  | some value => exact .some rfl

/-- The reference is chosen alike, since nothing comes or goes. -/
theorem Reference.Respelled.select {δ : Type} {related : δ → δ → Prop} (crs : String)
    {datum otherDatum : Option δ} {ensemble otherEnsemble : Option DatumEnsemble}
    (single : Option.Rel related datum otherDatum)
    (several : Option.Rel DatumEnsemble.Respelled ensemble otherEnsemble) :
    Alike (Reference.Respelled related) (Reference.select crs datum ensemble)
      (Reference.select crs otherDatum otherEnsemble) := by
  cases single with
  | none =>
    cases several with
    | none => exact .error _
    | some several => exact .ok (.ensemble several)
  | some single =>
    cases several with
    | none => exact .ok (.datum single)
    | some several => exact .error _

theorem UnitDefinition.ofJson_perm {entries others : List (String × Json)}
    (same : entries.Perm others) (distinct : (others.map Prod.fst).Nodup) :
    ofJson (.object entries) = ofJson (.object others) :=
  Record.readerWith_congr record "UnitDefinition" Metadata.record fun key _ =>
    lookup_perm same distinct key

namespace Measure

variable {number factorNumber : Json} {value factor : Float} {name : String}
  {entries : List (String × Json)}

theorem ofJson_perm {others : List (String × Json)} (same : entries.Perm others)
    (distinct : (others.map Prod.fst).Nodup) :
    ofJson (.object entries) = ofJson (.object others) := by
  simp only [ofJson, Record.readObject_congr record fun key _ => lookup_perm same distinct key]

theorem ofJson_number (isNumber : Reader.number number = .ok value) :
    ofJson number = .ok ⟨value, none⟩ := by
  cases number <;> cases isNumber <;> rfl

theorem ofJson_alone (isNumber : Reader.number number = .ok value) :
    ofJson (.object [("value", number)]) = .ok ⟨value, none⟩ := by
  cases number <;> cases isNumber <;> rfl

theorem ofJson_beside {unit : Json} {given : Option MeasureUnit}
    (isNumber : Reader.number number = .ok value)
    (isUnit : Reader.nullable MeasureUnit.ofJson unit = .ok given)
    (listed : entries.Perm [("value", number), ("unit", unit)]) :
    ofJson (.object entries) = .ok ⟨value, given⟩ := by
  have parts : record.ofEntries [("value", number), ("unit", unit)] =
      .ok (ofParts value given none none) :=
    Record.ofEntries_field (Record.ofEntries_field (Record.ofEntries_field
      (Record.ofEntries_field rfl (Field.ofEntries_found rfl isNumber))
      (Field.ofEntries_found rfl isUnit)) (Field.ofEntries_absent rfl rfl))
      (Field.ofEntries_absent rfl rfl)
  rw [ofJson_perm listed (by simp)]
  simp only [ofJson, Record.readObject, parts]
  cases given <;> rfl

/-- The name and the factor of a unit may be spread out beside the value. -/
theorem ofJson_spread (isNumber : Reader.number number = .ok value)
    (isFactor : Reader.number factorNumber = .ok factor)
    (listed : entries.Perm
      [("value", number), ("name", .string name), ("conversion_factor", factorNumber)]) :
    ofJson (.object entries) = .ok ⟨value, some (.defined ⟨none, name, factor, .empty⟩)⟩ := by
  rw [ofJson_perm listed (by simp)]
  cases number <;> cases isNumber <;> cases factorNumber <;> cases isFactor <;> rfl

theorem ofJson_nested {unit : List (String × Json)} (isNumber : Reader.number number = .ok value)
    (isFactor : Reader.number factorNumber = .ok factor)
    (listed : entries.Perm [("value", number), ("unit", .object unit)])
    (listedUnit : unit.Perm [("name", .string name), ("conversion_factor", factorNumber)]) :
    ofJson (.object entries) = .ok ⟨value, some (.defined ⟨none, name, factor, .empty⟩)⟩ := by
  have definition : UnitDefinition.ofJson (.object unit) = .ok ⟨none, name, factor, .empty⟩ := by
    rw [UnitDefinition.ofJson_perm listedUnit (by simp)]
    cases factorNumber <;> cases isFactor <;> rfl
  refine ofJson_beside isNumber ?_ listed
  simp only [Reader.nullable, MeasureUnit.ofJson, definition, ok_bind]
  rfl

end Measure

end CrsText
