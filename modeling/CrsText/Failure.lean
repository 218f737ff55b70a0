import CrsText.Dialect
import CrsText.Number.Token

/-! Why a conversion fails. Each cause has its own constructor, and the wording is in one place.
-/

set_option autoImplicit false

namespace CrsText

/-- Something a dialect needs that an object of the given name does not hold. -/
inductive Missing where
  | coordinateSystem (crs : String)
  | reference (crs : String)
  | ellipsoid (datum : String)
  | flattening (ellipsoid : String)
  | epoch (datum : String)
  | axis (subtype : String)
  | factor (unit : String)
  deriving DecidableEq, Repr

inductive Failure where
  | unknownDialect (name : String)
  | unsupportedType (typeName : String)
  | notInDialect (typeName : String) (dialect : Dialect)
  | missing (what : Missing)
  | twoReferences (crs : String)
  | unitMismatch (semiMajor semiMinor : String)
  | notInMetres (factor : Float)
  | unknownUnitType (tag : Option String)
  | unreadable (fault : ReadFault)

namespace Missing

def description : Missing → String
  | .coordinateSystem crs => "coordinate_system in " ++ crs
  | .reference crs => "datum or datum_ensemble in " ++ crs
  | .ellipsoid datum => "ellipsoid in " ++ datum
  | .flattening name => "semi_minor_axis or inverse_flattening in ellipsoid " ++ name
  | .epoch datum => "frame_reference_epoch in " ++ datum
  | .axis subtype => "axis in " ++ subtype ++ " coordinate system"
  | .factor unit => "conversion_factor of unit '" ++ unit ++ "'"

end Missing

namespace Failure

def message : Failure → String
  | .unknownDialect name => "Unsupported WKT format: " ++ name
  | .unsupportedType typeName => "Unsupported object type: " ++ typeName
  | .notInDialect typeName dialect => typeName ++ " unsupported in " ++ dialect.name
  | .missing what => "Missing required field: " ++ what.description
  | .twoReferences crs => "Conflicting fields: datum and datum_ensemble both present in " ++ crs
  | .unitMismatch semiMajor semiMinor =>
    "Unit or conversion factor mismatch: " ++ semiMajor ++ " vs " ++ semiMinor
  | .notInMetres factor =>
    "Conversion factor " ++ Token.plain factor ++ " != 1 unsupported for WKT1"
  | .unknownUnitType tag => "Unexpected unit type: " ++ tag.getD "<missing>"
  | .unreadable fault => "Invalid PROJJSON: " ++ fault.message

end Failure

def Dialect.ofName (name : String) : Except Failure Dialect :=
  match ofName? name with
  | some dialect => .ok dialect
  | none => .error (.unknownDialect name)

end CrsText
