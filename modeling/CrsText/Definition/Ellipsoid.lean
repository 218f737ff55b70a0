import CrsText.Definition.Measure

/-! The figure of the earth and the meridian from which longitudes are counted.
-/

set_option autoImplicit false

namespace CrsText

/-- A figure of the earth; its second parameter is the inverse flattening or, without it, the
semi-minor axis. -/
structure Ellipsoid where
  name : String
  semiMajorAxis : Measure
  semiMinorAxis : Option Measure
  inverseFlattening : Option Float
  metadata : Metadata
  deriving Inhabited

namespace Ellipsoid

def record : Record (Metadata → Ellipsoid) :=
  Record.build Ellipsoid.mk
    |>.required "name" Reader.string
    |>.required "semi_major_axis" Measure.ofJson
    |>.optional "semi_minor_axis" Measure.ofJson
    |>.optional "inverse_flattening" Reader.number

def ofJson : Reader Ellipsoid := record.describedReader "Ellipsoid"

end Ellipsoid

structure PrimeMeridian where
  name : String
  longitude : Measure
  metadata : Metadata
  deriving Inhabited

namespace PrimeMeridian

def record : Record (Metadata → PrimeMeridian) :=
  Record.build PrimeMeridian.mk
    |>.required "name" Reader.string
    |>.defaulted "longitude" Measure.ofJson ⟨0, none⟩

def ofJson : Reader PrimeMeridian := record.describedReader "PrimeMeridian"

/-- The meridian of every datum that names none. -/
def greenwich : PrimeMeridian := ⟨"Greenwich", ⟨0, none⟩, .empty⟩

end PrimeMeridian

/-- The semi-major axis and the inverse flattening. Where the flattening follows from the two axes,
they have to be in the same unit; the flattening of a sphere is infinite. -/
def Ellipsoid.figure (ellipsoid : Ellipsoid) : Except Failure (Quantity × Float) := do
  let semiMajor ← ellipsoid.semiMajorAxis.inUnit .metre
  match ellipsoid.inverseFlattening, ellipsoid.semiMinorAxis with
  | some inverseFlattening, _ => return (semiMajor, inverseFlattening)
  | none, some semiMinorAxis =>
    let semiMinor ← semiMinorAxis.inUnit .metre
    if semiMajor.unit.agrees semiMinor.unit then
      return (semiMajor, semiMajor.value / (semiMajor.value - semiMinor.value))
    else
      throw (.unitMismatch semiMajor.unit.name semiMinor.unit.name)
  | none, none => throw (.missing (.flattening ellipsoid.name))

end CrsText
