import CrsText.Definition.Crs

/-! Prime meridians and the units that their longitudes may be taken to be in: their own, the one of the
first axis, or any other.
-/

set_option autoImplicit false

namespace CrsText

def PrimeMeridian.relabelled (unit : MeasureUnit) (meridian : PrimeMeridian) : PrimeMeridian :=
  { meridian with longitude := ⟨meridian.longitude.value, some unit⟩ }

def GeodeticDatum.relabelled (unit : MeasureUnit) (datum : GeodeticDatum) : GeodeticDatum :=
  { datum with primeMeridian := datum.primeMeridian.map (·.relabelled unit) }

namespace GeodeticCrs

def primeMeridian (crs : GeodeticCrs) : Option PrimeMeridian := crs.datum.bind (·.primeMeridian)

def axisUnit (crs : GeodeticCrs) : Option MeasureUnit :=
  crs.coordinateSystem.bind fun system => system.axes.head?.bind (·.unit)

def relabelled (unit : MeasureUnit) (crs : GeodeticCrs) : GeodeticCrs :=
  { crs with datum := crs.datum.map (·.relabelled unit) }

end GeodeticCrs

/-- The geodetic system is the system itself, the base of a projected one, or within a component of a
compound one. -/
inductive Crs.Holds (given : GeodeticCrs) : Crs → Prop where
  | geodetic : Holds given (.geodetic given)
  | base {crs : ProjectedCrs} : crs.base = given → Holds given (.projected crs)
  | component {name : String} {components : List Crs} {metadata : Metadata} {crs : Crs} :
      crs ∈ components → Holds given crs → Holds given (.compound name components metadata)

mutual

def Crs.relabelled (unit : MeasureUnit) : Crs → Crs
  | .geodetic crs => .geodetic (crs.relabelled unit)
  | .derivedGeodetic crs => .derivedGeodetic { crs with base := crs.base.relabelled unit }
  | .projected crs => .projected { crs with base := crs.base.relabelled unit }
  | .vertical crs => .vertical crs
  | .compound name components metadata =>
    .compound name (Crs.relabelledAll unit components) metadata
  | .bound source target transformation =>
    .bound (source.relabelled unit) (target.relabelled unit) transformation
  | .unsupported typeName => .unsupported typeName

def Crs.relabelledAll (unit : MeasureUnit) : List Crs → List Crs
  | [] => []
  | first :: rest => first.relabelled unit :: Crs.relabelledAll unit rest

end

theorem Crs.relabelledAll_eq_map (unit : MeasureUnit) (components : List Crs) :
    relabelledAll unit components = components.map (relabelled unit) := by
  induction components with
  | nil => rfl
  | cons first rest ih => rw [relabelledAll, ih, List.map_cons]

end CrsText
