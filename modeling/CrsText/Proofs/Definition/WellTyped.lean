import CrsText.Proofs.Definition.Tag
import CrsText.Proofs.Json.Typed

/-! Which JSON values are well-typed as definitions. Each structure is a list of typed fields, and one
without metadata may also be spelt as an array. A system has the fields of the type that it is tagged
with.
-/

set_option autoImplicit false

namespace CrsText

open Json (IsString IsNumeric IsListOf IsOneOf IsObjectOf IsRecordOf)

def BoundingBox.fields : List FieldType :=
  [.required "south_latitude" IsNumeric, .required "west_longitude" IsNumeric,
    .required "north_latitude" IsNumeric, .required "east_longitude" IsNumeric]

def Code.IsTyped (value : Json) : Prop := IsNumeric value ∨ IsString value

def Identifier.fields : List FieldType :=
  [.required "authority" IsString, .required "code" Code.IsTyped]

def Usage.fields : List FieldType :=
  [.optional "scope" IsString, .optional "area" IsString,
    .optional "bbox" (IsRecordOf BoundingBox.fields)]

def Metadata.fields : List FieldType :=
  Usage.fields ++
    [.optional "usages" (IsListOf (IsRecordOf Usage.fields)),
      .optional "id" (IsRecordOf Identifier.fields),
      .optional "ids" (IsListOf (IsRecordOf Identifier.fields)), .optional "remarks" IsString]

def UnitDefinition.fields : List FieldType :=
  [.optional "type" IsString, .required "name" IsString, .optional "conversion_factor" IsNumeric] ++
    Metadata.fields

def MeasureUnit.IsTyped (value : Json) : Prop :=
  IsString value ∨ IsObjectOf UnitDefinition.fields value

def Measure.fields : List FieldType :=
  [.required "value" IsNumeric, .optional "unit" MeasureUnit.IsTyped, .optional "name" IsString,
    .optional "conversion_factor" IsNumeric]

def Measure.IsTyped (value : Json) : Prop := IsNumeric value ∨ IsObjectOf Measure.fields value

def Ellipsoid.fields : List FieldType :=
  [.required "name" IsString, .required "semi_major_axis" Measure.IsTyped,
    .optional "semi_minor_axis" Measure.IsTyped, .optional "inverse_flattening" IsNumeric] ++
    Metadata.fields

def PrimeMeridian.fields : List FieldType :=
  [.required "name" IsString, .defaulted "longitude" Measure.IsTyped] ++ Metadata.fields

def Meridian.fields : List FieldType :=
  [.required "longitude" Measure.IsTyped] ++ Metadata.fields

def Axis.fields : List FieldType :=
  [.required "name" IsString, .required "abbreviation" IsString, .required "direction" IsString,
    .optional "unit" MeasureUnit.IsTyped, .optional "meridian" (IsObjectOf Meridian.fields)]

def CoordinateSystem.fields : List FieldType :=
  [.required "subtype" IsString, .defaulted "axis" (IsListOf (IsRecordOf Axis.fields))]

def Method.fields : List FieldType := [.required "name" IsString] ++ Metadata.fields

def ParameterValue.IsTyped (value : Json) : Prop := IsNumeric value ∨ IsString value

def Parameter.fields : List FieldType :=
  [.required "name" IsString, .required "value" ParameterValue.IsTyped,
    .optional "unit" MeasureUnit.IsTyped] ++ Metadata.fields

def Operation.fields : List FieldType :=
  [.required "name" IsString, .required "method" (IsObjectOf Method.fields),
    .defaulted "parameters" (IsListOf (IsObjectOf Parameter.fields))] ++ Metadata.fields

def GeodeticDatum.fields : List FieldType :=
  [.optional "type" IsString, .required "name" IsString,
    .optional "ellipsoid" (IsObjectOf Ellipsoid.fields),
    .optional "prime_meridian" (IsObjectOf PrimeMeridian.fields),
    .optional "frame_reference_epoch" IsNumeric] ++ Metadata.fields

def VerticalDatum.fields : List FieldType :=
  [.optional "type" IsString, .required "name" IsString,
    .optional "frame_reference_epoch" IsNumeric] ++ Metadata.fields

def EnsembleMember.fields : List FieldType := [.required "name" IsString] ++ Metadata.fields

def DatumEnsemble.fields : List FieldType :=
  [.required "name" IsString, .defaulted "members" (IsListOf (IsObjectOf EnsembleMember.fields)),
    .optional "ellipsoid" (IsObjectOf Ellipsoid.fields), .optional "accuracy" IsString] ++
    Metadata.fields

def GeodeticCrs.fields : List FieldType :=
  [.defaulted "type" (IsOneOf ["GeographicCRS", "GeodeticCRS"]), .required "name" IsString,
    .optional "datum" (IsObjectOf GeodeticDatum.fields),
    .optional "datum_ensemble" (IsObjectOf DatumEnsemble.fields),
    .optional "coordinate_system" (IsRecordOf CoordinateSystem.fields)] ++ Metadata.fields

/-- What a projected system has, and a derived geodetic one beside its type. -/
def ProjectedCrs.fields : List FieldType :=
  [.required "name" IsString, .required "base_crs" (IsObjectOf GeodeticCrs.fields),
    .required "conversion" (IsObjectOf Operation.fields),
    .required "coordinate_system" (IsRecordOf CoordinateSystem.fields)] ++ Metadata.fields

def DerivedGeodeticCrs.fields : List FieldType :=
  .defaulted "type" (IsOneOf ["DerivedGeographicCRS", "DerivedGeodeticCRS"]) :: ProjectedCrs.fields

def VerticalCrs.fields : List FieldType :=
  [.required "name" IsString, .optional "datum" (IsObjectOf VerticalDatum.fields),
    .optional "datum_ensemble" (IsObjectOf DatumEnsemble.fields),
    .required "coordinate_system" (IsRecordOf CoordinateSystem.fields)] ++ Metadata.fields

namespace Crs

variable (part : Json → Prop)

def compoundFields : List FieldType :=
  [.required "name" IsString, .required "components" (IsListOf part)] ++ Metadata.fields

/-- Only bound systems have no metadata. -/
def boundFields : List FieldType :=
  [.required "source_crs" part, .required "target_crs" part,
    .required "transformation" (IsObjectOf Operation.fields)]

/-- The systems within one are parts. -/
def fieldsByTag : List (String × List FieldType) :=
  [("GeographicCRS", GeodeticCrs.fields), ("GeodeticCRS", GeodeticCrs.fields),
    ("DerivedGeographicCRS", DerivedGeodeticCrs.fields),
    ("DerivedGeodeticCRS", DerivedGeodeticCrs.fields), ("ProjectedCRS", ProjectedCrs.fields),
    ("VerticalCRS", VerticalCrs.fields), ("CompoundCRS", compoundFields part),
    ("BoundCRS", boundFields part)]

/-- A value of one of the known types has its fields, with well-typed systems for parts. A value of
any other type is well-typed whatever it holds, and so is null or an array, which has no type. -/
inductive WellTyped : Json → Prop where
  | unknown {value : Json} {name : String} : value.HasTypeName name → name ∉ tags → WellTyped value
  | tagged {entries : List (String × Json)} {tag : String} {fields : List FieldType}
      {part : Json → Prop} : entries.lookup "type" = some (.string tag) →
      (fieldsByTag part).lookup tag = some fields → IsObjectOf fields (.object entries) →
      (∀ other, part other → WellTyped other) → WellTyped (.object entries)

end Crs

end CrsText
