import CrsText.Proofs.Definition.Spelling
import CrsText.Proofs.Nesting
import CrsText.Proofs.Wkt1.Derivation

/-! The older dialect does not tell one spelling of a unit from another: where a unit matters at all,
it is looked up first, and only its name, its factor and its identifier are written.
-/

set_option autoImplicit false

namespace CrsText

namespace Wkt1

theorem unit_respelled {given other : MeasureUnit} (respelled : given.Respelled other) :
    unit given = unit other := by
  refine respelled.resolve.lift_bind_eq fun resolved second same => ?_
  obtain ⟨⟨name, factor, metadata⟩, -⟩ := same
  simp only [Dialect.unitKeyword, name, factor, metadata]

theorem ellipsoid_respelled {given other : Ellipsoid} (respelled : given.Respelled other) :
    ellipsoid given = ellipsoid other := by
  have figure := respelled.figure
  obtain ⟨name, flattening, metadata, major, minor⟩ := respelled
  refine figure.lift_bind_eq fun figure other same => ?_
  obtain ⟨⟨value, unit⟩, flattening⟩ := same
  simp only [value, unit.factor, flattening]

theorem primeMeridian_respelled {given other : PrimeMeridian} (respelled : given.Respelled other) :
    primeMeridian given = primeMeridian other := by
  obtain ⟨name, metadata, longitude⟩ := respelled
  refine longitude.inUnit.lift_bind_eq fun quantity other same => ?_
  simp only [same.value]

theorem datumNode_respelled (name : String) {figure otherFigure : Ellipsoid} (common : Metadata)
    {meridian otherMeridian : Option PrimeMeridian} (shape : figure.Respelled otherFigure)
    (origin : Option.Rel PrimeMeridian.Respelled meridian otherMeridian) :
    datumNode name figure common meridian = datumNode name otherFigure common otherMeridian := by
  have longitude : primeMeridian (meridian.getD .greenwich) =
      primeMeridian (otherMeridian.getD .greenwich) := by
    cases origin with
    | none => rfl
    | some respelled => exact primeMeridian_respelled respelled
  simp only [datumNode, ellipsoid_respelled shape, longitude]

theorem geodeticReference_respelled {given other : Reference GeodeticDatum}
    (respelled : given.Respelled GeodeticDatum.Respelled other) :
    geodeticReference given = geodeticReference other := by
  cases respelled with
  | datum respelled =>
    obtain ⟨typeTag, name, epoch, metadata, figure, origin⟩ := respelled
    refine bind_congr fun _ => ?_
    exact (Ellipsoid.Respelled.require name figure).lift_bind_eq fun figure other shape =>
      datumNode_respelled name metadata shape origin
  | ensemble respelled =>
    obtain ⟨name, members, accuracy, metadata, figure⟩ := respelled
    refine (Ellipsoid.Respelled.require name figure).lift_bind_eq fun figure other shape => ?_
    exact bind_congr fun _ => datumNode_respelled _ metadata shape .none

/-- Of an ensemble of vertical datums no ellipsoid is written. -/
theorem verticalReference_respelled {given other : Reference VerticalDatum}
    (respelled : given.Respelled Eq other) : verticalReference given = verticalReference other := by
  cases respelled with
  | datum same => rw [same]
  | ensemble respelled =>
    obtain ⟨name, members, accuracy, metadata, figure⟩ := respelled
    rfl

theorem axisUnit_respelled {given other : Option MeasureUnit}
    (respelled : Option.Rel MeasureUnit.Respelled given other) : axisUnit given = axisUnit other := by
  cases respelled with
  | none => rfl
  | some respelled => simp only [axisUnit, unit_respelled respelled]

/-- Besides the unit of the first axis only words are written of the axes. -/
theorem coordinateSystem_respelled {given other : CoordinateSystem}
    (respelled : given.Respelled other) : coordinateSystem given = coordinateSystem other := by
  obtain ⟨subtype, each⟩ := respelled
  have words : ∀ {axes others : List Axis}, List.Forall₂ Axis.Respelled axes others →
      axes.map axis = others.map axis := by
    intro axes others each
    induction each with
    | nil => rfl
    | cons head tail ih =>
      obtain ⟨name, abbreviation, direction, scale, along⟩ := head
      exact congrArg (List.cons _) ih
  cases each with
  | nil => rfl
  | cons head tail =>
    have same := words (.cons head tail)
    obtain ⟨name, abbreviation, direction, scale, along⟩ := head
    simp only [coordinateSystem, axisUnit_respelled scale, same]

theorem optionalCoordinateSystem_respelled {given other : Option CoordinateSystem}
    (respelled : Option.Rel CoordinateSystem.Respelled given other) :
    optionalCoordinateSystem given = optionalCoordinateSystem other := by
  cases respelled with
  | none => rfl
  | some respelled => exact coordinateSystem_respelled respelled

/-- A parameter is written without its unit. -/
theorem parameter_respelled {given other : Parameter} (respelled : given.Respelled other) :
    parameter given = parameter other := by
  obtain ⟨name, value, metadata, scale⟩ := respelled
  rfl

theorem conversion_respelled {given other : Operation} (respelled : given.Respelled other) :
    conversion given = conversion other := by
  obtain ⟨name, method, metadata, each⟩ := respelled
  have parameters := mapM_eq_of_forall₂ each fun _ _ _ respelled => parameter_respelled respelled
  simp only [conversion, parameters]

theorem geodeticNode_respelled (keyword : String) {given other : GeodeticCrs}
    (respelled : given.Respelled other) : geodeticNode keyword given = geodeticNode keyword other := by
  obtain ⟨kind, name, metadata, single, several, coordinates⟩ := respelled
  refine (Reference.Respelled.select name single several).lift_bind_eq fun first second chosen => ?_
  simp only [geodeticReference_respelled chosen, optionalCoordinateSystem_respelled coordinates]

theorem geodetic_respelled {given other : GeodeticCrs} (respelled : given.Respelled other) :
    geodetic given = geodetic other := by
  have inside := respelled
  obtain ⟨kind, name, metadata, single, several, coordinates⟩ := inside
  cases coordinates with
  | none => rfl
  | some coordinates => exact geodeticNode_respelled _ respelled

theorem projected_respelled {given other : ProjectedCrs} (respelled : given.Respelled other) :
    projected given = projected other := by
  have kind := respelled.baseKind_eq
  obtain ⟨name, metadata, under, derivation, coordinates⟩ := respelled
  simp only [projected, kind, geodeticNode_respelled _ under, conversion_respelled derivation,
    coordinateSystem_respelled coordinates]

theorem vertical_respelled {given other : VerticalCrs} (respelled : given.Respelled other) :
    vertical given = vertical other := by
  obtain ⟨name, datum, metadata, several, coordinates⟩ := respelled
  refine (Reference.Respelled.select name (rel_eq datum) several).lift_bind_eq
    fun first second chosen => ?_
  simp only [verticalReference_respelled chosen, coordinateSystem_respelled coordinates]

theorem crs_respelled {given other : CrsText.Crs} (respelled : given.Respelled other) :
    crs given = crs other := by
  induction given generalizing other with
  | geodetic given =>
    cases respelled with | geodetic inside => exact geodetic_respelled inside
  | derivedGeodetic given =>
    cases respelled with | derivedGeodetic inside => cases inside; rfl
  | projected given =>
    cases respelled with | projected inside => exact projected_respelled inside
  | vertical given =>
    cases respelled with | vertical inside => exact vertical_respelled inside
  | compound name components common ih =>
    cases respelled with
    | compound name common each =>
      have items := mapM_eq_of_forall₂ each fun component member _ respelled =>
        ih component member respelled
      simp only [crs, crsList_eq_mapM, items]
  | bound source target transformation => cases respelled; rfl
  | unsupported typeName => cases respelled; rfl

end Wkt1

end CrsText
