import CrsText.Definition.Crs
import CrsText.Proofs.Json.Typed

/-! What a definition is made of: every type that is read from an object, the keys that it knows, and
what it reads under each of them.
-/

set_option autoImplicit false

namespace CrsText

inductive Entity where
  | boundingBox
  | identifier
  | usage
  | metadata
  | unitDefinition
  | unit
  | measure
  | ellipsoid
  | primeMeridian
  | meridian
  | axis
  | coordinateSystem
  | method
  | parameter
  | conversion
  | transformation
  | geodeticDatum
  | verticalDatum
  | ensembleMember
  | datumEnsemble
  | geodeticCrs
  | derivedGeodeticCrs
  | projectedCrs
  | verticalCrs
  | compoundCrs
  | boundCrs
  | crs
  deriving DecidableEq

namespace Entity

def Value : Entity → Type
  | boundingBox => BoundingBox
  | identifier => Identifier
  | usage => Usage
  | metadata => Metadata
  | unitDefinition => UnitDefinition
  | unit => MeasureUnit
  | measure => Measure
  | ellipsoid => Ellipsoid
  | primeMeridian => PrimeMeridian
  | meridian => Meridian
  | axis => Axis
  | coordinateSystem => CoordinateSystem
  | method => Method
  | parameter => Parameter
  | conversion => Operation
  | transformation => Operation
  | geodeticDatum => GeodeticDatum
  | verticalDatum => VerticalDatum
  | ensembleMember => EnsembleMember
  | datumEnsemble => DatumEnsemble
  | geodeticCrs => GeodeticCrs
  | derivedGeodeticCrs => DerivedGeodeticCrs
  | projectedCrs => ProjectedCrs
  | verticalCrs => VerticalCrs
  | compoundCrs => Crs
  | boundCrs => Crs
  | crs => Crs

def ofJson : (entity : Entity) → Reader entity.Value
  | boundingBox => BoundingBox.ofJson
  | identifier => Identifier.ofJson
  | usage => Usage.ofJson
  | metadata => Metadata.ofJson
  | unitDefinition => UnitDefinition.ofJson
  | unit => MeasureUnit.ofJson
  | measure => Measure.ofJson
  | ellipsoid => Ellipsoid.ofJson
  | primeMeridian => PrimeMeridian.ofJson
  | meridian => Meridian.ofJson
  | axis => Axis.ofJson
  | coordinateSystem => CoordinateSystem.ofJson
  | method => Method.ofJson
  | parameter => Parameter.ofJson
  | conversion => Operation.conversionOfJson
  | transformation => Operation.transformationOfJson
  | geodeticDatum => GeodeticDatum.ofJson
  | verticalDatum => VerticalDatum.ofJson
  | ensembleMember => EnsembleMember.ofJson
  | datumEnsemble => DatumEnsemble.ofJson
  | geodeticCrs => GeodeticCrs.ofJson
  | derivedGeodeticCrs => DerivedGeodeticCrs.ofJson
  | projectedCrs => ProjectedCrs.ofJson
  | verticalCrs => VerticalCrs.ofJson
  | compoundCrs => Crs.compoundOfJson Crs.ofJson
  | boundCrs => Crs.boundOfJson Crs.ofJson
  | crs => Crs.ofJson

/-- The types without metadata beside their fields may also be spelt as arrays. -/
def isTuple : Entity → Bool
  | boundingBox | identifier | usage | metadata | axis | coordinateSystem | boundCrs => true
  | _ => false

end Entity

/-- What stands under a key: nothing with keys of its own, a single entity, or a list of them. -/
inductive Part where
  | scalar
  | one (entity : Entity)
  | list (entity : Entity)
  deriving DecidableEq

structure Slot where
  key : String
  presence : Presence
  part : Part
  deriving DecidableEq

namespace Slot

def required (key : String) (part : Part) : Slot := ⟨key, .required, part⟩

def optional (key : String) (part : Part) : Slot := ⟨key, .optional, part⟩

def defaulted (key : String) (part : Part) : Slot := ⟨key, .defaulted, part⟩

def type : Slot := .required "type" .scalar

end Slot

def Usage.slots : List Slot :=
  [.optional "scope" .scalar, .optional "area" .scalar, .optional "bbox" (.one .boundingBox)]

def Metadata.slots : List Slot :=
  Usage.slots ++ [.optional "usages" (.list .usage), .optional "id" (.one .identifier),
    .optional "ids" (.list .identifier), .optional "remarks" .scalar]

def UnitDefinition.slots : List Slot :=
  [.optional "type" .scalar, .required "name" .scalar, .optional "conversion_factor" .scalar] ++
    Metadata.slots

def Operation.slots : List Slot :=
  [.required "name" .scalar, .required "method" (.one .method),
    .defaulted "parameters" (.list .parameter)] ++ Metadata.slots

/-- What a projected system knows, and a derived geodetic one beside its type. -/
def ProjectedCrs.slots : List Slot :=
  [.required "name" .scalar, .required "base_crs" (.one .geodeticCrs),
    .required "conversion" (.one .conversion),
    .required "coordinate_system" (.one .coordinateSystem)] ++ Metadata.slots

namespace Entity

/-- The keys of each entity in the order of declaration. A system knows at least its type. -/
def slots : Entity → List Slot
  | boundingBox =>
    [.required "south_latitude" .scalar, .required "west_longitude" .scalar,
      .required "north_latitude" .scalar, .required "east_longitude" .scalar]
  | identifier => [.required "authority" .scalar, .required "code" .scalar]
  | usage => Usage.slots
  | metadata => Metadata.slots
  | unitDefinition | unit => UnitDefinition.slots
  | measure =>
    [.required "value" .scalar, .optional "unit" (.one .unit), .optional "name" .scalar,
      .optional "conversion_factor" .scalar]
  | ellipsoid =>
    [.required "name" .scalar, .required "semi_major_axis" (.one .measure),
      .optional "semi_minor_axis" (.one .measure), .optional "inverse_flattening" .scalar] ++
      Metadata.slots
  | primeMeridian =>
    [.required "name" .scalar, .defaulted "longitude" (.one .measure)] ++ Metadata.slots
  | meridian => [.required "longitude" (.one .measure)] ++ Metadata.slots
  | axis =>
    [.required "name" .scalar, .required "abbreviation" .scalar, .required "direction" .scalar,
      .optional "unit" (.one .unit), .optional "meridian" (.one .meridian)]
  | coordinateSystem => [.required "subtype" .scalar, .defaulted "axis" (.list .axis)]
  | method | ensembleMember => [.required "name" .scalar] ++ Metadata.slots
  | parameter =>
    [.required "name" .scalar, .required "value" .scalar, .optional "unit" (.one .unit)] ++
      Metadata.slots
  | conversion | transformation => Operation.slots
  | geodeticDatum =>
    [.optional "type" .scalar, .required "name" .scalar, .optional "ellipsoid" (.one .ellipsoid),
      .optional "prime_meridian" (.one .primeMeridian),
      .optional "frame_reference_epoch" .scalar] ++ Metadata.slots
  | verticalDatum =>
    [.optional "type" .scalar, .required "name" .scalar,
      .optional "frame_reference_epoch" .scalar] ++ Metadata.slots
  | datumEnsemble =>
    [.required "name" .scalar, .defaulted "members" (.list .ensembleMember),
      .optional "ellipsoid" (.one .ellipsoid), .optional "accuracy" .scalar] ++ Metadata.slots
  | geodeticCrs =>
    [.defaulted "type" .scalar, .required "name" .scalar, .optional "datum" (.one .geodeticDatum),
      .optional "datum_ensemble" (.one .datumEnsemble),
      .optional "coordinate_system" (.one .coordinateSystem)] ++ Metadata.slots
  | derivedGeodeticCrs => .defaulted "type" .scalar :: ProjectedCrs.slots
  | projectedCrs => ProjectedCrs.slots
  | verticalCrs =>
    [.required "name" .scalar, .optional "datum" (.one .verticalDatum),
      .optional "datum_ensemble" (.one .datumEnsemble),
      .required "coordinate_system" (.one .coordinateSystem)] ++ Metadata.slots
  | compoundCrs =>
    [.required "name" .scalar, .required "components" (.list .crs)] ++ Metadata.slots
  | boundCrs =>
    [.required "source_crs" (.one .crs), .required "target_crs" (.one .crs),
      .required "transformation" (.one .transformation)]
  | crs => [.type]

end Entity

def CrsType.entity : CrsType → Entity
  | .geodetic _ => .geodeticCrs
  | .derivedGeodetic _ => .derivedGeodeticCrs
  | .projected => .projectedCrs
  | .vertical => .verticalCrs
  | .compound => .compoundCrs
  | .bound => .boundCrs

/-- The keys of a system, with its type even if it is not read again. -/
def CrsType.slots (type : CrsType) : List Slot :=
  match type with
  | .geodetic _ | .derivedGeodetic _ => type.entity.slots
  | _ => .type :: type.entity.slots

/-- The keys that matter in a value. Those of a system depend on its type. -/
def Entity.slotsIn (entity : Entity) (value : Json) : List Slot :=
  match entity with
  | .crs =>
    match CrsType.ofTag? (Crs.typeNameOfJson value) with
    | some type => type.slots
    | none => Entity.crs.slots
  | _ => entity.slots

theorem Entity.slots_nodup (entity : Entity) : (entity.slots.map Slot.key).Nodup := by
  cases entity <;> decide

theorem CrsType.slots_nodup (type : CrsType) : (type.slots.map Slot.key).Nodup := by
  cases type with
  | geodetic kind => exact Entity.slots_nodup .geodeticCrs
  | derivedGeodetic kind => exact Entity.slots_nodup .derivedGeodeticCrs
  | _ => decide

theorem Entity.slotsIn_of_ne {entity : Entity} (apart : entity ≠ .crs) (value : Json) :
    entity.slotsIn value = entity.slots := by
  cases entity with
  | crs => exact absurd rfl apart
  | _ => rfl

theorem Entity.slotsIn_nodup (entity : Entity) (value : Json) :
    ((entity.slotsIn value).map Slot.key).Nodup := by
  by_cases same : entity = .crs
  · subst same
    rw [slotsIn]
    split
    · exact CrsType.slots_nodup _
    · exact slots_nodup .crs
  · rw [slotsIn_of_ne same]
    exact slots_nodup entity

/-- A value with something irrelevant put in or left out, anywhere within it. -/
inductive Edited : Part → Json → Json → Prop where
  /-- A key that the entity does not know. -/
  | insert {entity : Entity} {before after : List (String × Json)} (key : String) (value : Json)
    (unknown : key ∉ (entity.slotsIn (.object (before ++ after))).map Slot.key) :
    Edited (.one entity) (.object (before ++ after)) (.object (before ++ (key, value) :: after))
  /-- A key that may be left out, and under which there is null. -/
  | removeNull {entity : Entity} {before after : List (String × Json)} {slot : Slot}
    (known : slot ∈ entity.slotsIn (.object (before ++ (slot.key, .null) :: after)))
    (optional : slot.presence = .optional) (last : slot.key ∉ after.map Prod.fst) :
    Edited (.one entity) (.object (before ++ (slot.key, .null) :: after))
      (.object (before ++ after))
  /-- A part of an object. -/
  | entry {entity : Entity} {before after : List (String × Json)} {slot : Slot}
    {value other : Json}
    (known : slot ∈ entity.slotsIn (.object (before ++ (slot.key, value) :: after)))
    (inside : Edited slot.part value other) :
    Edited (.one entity) (.object (before ++ (slot.key, value) :: after))
      (.object (before ++ (slot.key, other) :: after))
  /-- A part of an object that is spelt as an array. -/
  | element {entity : Entity} {before after : List Json} {slot : Slot} {value other : Json}
    (spelling : entity.isTuple) (position : entity.slots[before.length]? = some slot)
    (inside : Edited slot.part value other) :
    Edited (.one entity) (.array (before ++ value :: after)) (.array (before ++ other :: after))
  | item {entity : Entity} {before after : List Json} {value other : Json}
    (inside : Edited (.one entity) value other) :
    Edited (.list entity) (.array (before ++ value :: after)) (.array (before ++ other :: after))

end CrsText
