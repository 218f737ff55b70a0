import CrsText.Proofs.Definition.Spelling
import CrsText.Proofs.Nesting
import CrsText.Proofs.Wkt2.Derivation

/-! The dialect of 2019 does not tell one spelling of a unit from another. It writes the type of a
unit on its own, but where the unit of a length or an angle is written the type is implied.
-/

set_option autoImplicit false

namespace CrsText

namespace Wkt2

/-- Empty metadata is written as no metadata at all. -/
theorem unitNode_eq (keyword : String) (unit : ResolvedUnit) :
    unitNode keyword unit = .named keyword unit.name
      (.token (Token.rounded unit.factor) :: metadata (unit.metadata.getD .empty)) := by
  obtain ⟨typeTag, name, factor, common⟩ := unit
  cases common <;> rfl

theorem unitNode_same (keyword : String) {unit other : ResolvedUnit} (same : unit.Same other) :
    unitNode keyword unit = unitNode keyword other := by
  simp only [unitNode_eq, same.name, same.factor, same.metadata]

theorem unit_respelled {given other : MeasureUnit} (respelled : given.Respelled other) :
    unit given = unit other := by
  refine respelled.resolve.bind_eq fun resolved second same => ?_
  obtain ⟨content, typeTag⟩ := same
  simp only [typeTag, unitNode_same _ content]

theorem optionalUnit_respelled {given other : Option MeasureUnit}
    (respelled : Option.Rel MeasureUnit.Respelled given other) :
    optionalUnit given = optionalUnit other := by
  cases respelled with
  | none => rfl
  | some respelled => simp only [optionalUnit, unit_respelled respelled]

theorem longitude_respelled {given other : Measure} (respelled : given.Respelled .degree other) :
    longitude given = longitude other := by
  refine respelled.inUnit.bind_eq fun quantity second same => ?_
  simp only [same.value, unitNode_same _ same.unit]

theorem ellipsoid_respelled {given other : Ellipsoid} (respelled : given.Respelled other) :
    ellipsoid given = ellipsoid other := by
  have figure := respelled.figure
  obtain ⟨name, flattening, metadata, major, minor⟩ := respelled
  refine figure.bind_eq fun figure other same => ?_
  obtain ⟨⟨value, unit⟩, flattening⟩ := same
  simp only [value, unitNode_same _ unit, flattening]

theorem primeMeridian_respelled {given other : PrimeMeridian} (respelled : given.Respelled other) :
    primeMeridian given = primeMeridian other := by
  obtain ⟨name, metadata, longitude⟩ := respelled
  simp only [primeMeridian, longitude_respelled longitude]

theorem optionalPrimeMeridian_respelled {given other : Option PrimeMeridian}
    (respelled : Option.Rel PrimeMeridian.Respelled given other) :
    optionalPrimeMeridian given = optionalPrimeMeridian other := by
  cases respelled with
  | none => rfl
  | some respelled => simp only [optionalPrimeMeridian, primeMeridian_respelled respelled]

theorem geodeticReference_respelled {given other : Reference GeodeticDatum}
    (respelled : given.Respelled GeodeticDatum.Respelled other) :
    geodeticReference given = geodeticReference other := by
  cases respelled with
  | datum respelled =>
    obtain ⟨typeTag, name, epoch, metadata, figure, origin⟩ := respelled
    refine bind_congr fun _ => ?_
    refine (Ellipsoid.Respelled.require name figure).bind_eq fun figure other shape => ?_
    simp only [ellipsoid_respelled shape, optionalPrimeMeridian_respelled origin]
  | ensemble respelled =>
    obtain ⟨name, members, accuracy, metadata, figure⟩ := respelled
    simp only [geodeticReference, geodeticEnsemble, bind_assoc]
    refine (Ellipsoid.Respelled.require name figure).bind_eq fun figure other shape => ?_
    simp only [ellipsoid_respelled shape, ensembleNode]

/-- Of an ensemble of vertical datums no ellipsoid is written. -/
theorem verticalReference_respelled {given other : Reference VerticalDatum}
    (respelled : given.Respelled Eq other) : verticalReference given = verticalReference other := by
  cases respelled with
  | datum same => rw [same]
  | ensemble respelled =>
    obtain ⟨name, members, accuracy, metadata, figure⟩ := respelled
    rfl

theorem meridian_respelled {given other : Meridian} (respelled : given.Respelled other) :
    meridian given = meridian other := by
  obtain ⟨metadata, longitude⟩ := respelled
  simp only [meridian, longitude_respelled longitude]

theorem optionalMeridian_respelled {given other : Option Meridian}
    (respelled : Option.Rel Meridian.Respelled given other) :
    optionalMeridian given = optionalMeridian other := by
  cases respelled with
  | none => rfl
  | some respelled => simp only [optionalMeridian, meridian_respelled respelled]

theorem axis_respelled {given other : Axis} (respelled : given.Respelled other) :
    axis given = axis other := by
  obtain ⟨name, abbreviation, direction, scale, along⟩ := respelled
  simp only [axis, optionalMeridian_respelled along, optionalUnit_respelled scale]

theorem coordinateSystem_respelled {given other : CoordinateSystem}
    (respelled : given.Respelled other) : coordinateSystem given = coordinateSystem other := by
  obtain ⟨subtype, each⟩ := respelled
  have items := mapM_eq_of_forall₂ each fun _ _ _ respelled => axis_respelled respelled
  cases each with
  | nil => rfl
  | cons head tail =>
    have length := (List.Forall₂.cons head tail).length_eq
    simp only [coordinateSystem, List.isEmpty_cons, items, length]

theorem parameter_respelled {given other : Parameter} (respelled : given.Respelled other) :
    parameter given = parameter other := by
  obtain ⟨name, value, metadata, scale⟩ := respelled
  simp only [parameter, optionalUnit_respelled scale]

theorem operation_respelled (keyword : String) {given other : Operation}
    (respelled : given.Respelled other) : operation keyword given = operation keyword other := by
  obtain ⟨name, method, metadata, each⟩ := respelled
  have parameters := mapM_eq_of_forall₂ each fun _ _ _ respelled => parameter_respelled respelled
  simp only [operation, parameters]

theorem geodeticItems_respelled {given other : GeodeticCrs} (respelled : given.Respelled other)
    {system otherSystem : Option CoordinateSystem}
    (coordinates : Option.Rel CoordinateSystem.Respelled system otherSystem) :
    geodeticItems given system = geodeticItems other otherSystem := by
  obtain ⟨kind, name, metadata, single, several, -⟩ := respelled
  have items : system.elim (pure []) coordinateSystem = otherSystem.elim (pure []) coordinateSystem := by
    cases coordinates with
    | none => rfl
    | some respelled => exact coordinateSystem_respelled respelled
  rw [geodeticItems_eq, geodeticItems_eq, items]
  refine (Reference.Respelled.select name single several).bind_eq fun first second chosen => ?_
  rw [geodeticReference_respelled chosen]

theorem geodetic_respelled {given other : GeodeticCrs} (respelled : given.Respelled other) :
    geodetic given = geodetic other := by
  have inside := respelled
  obtain ⟨kind, name, metadata, single, several, coordinates⟩ := inside
  cases coordinates with
  | none => rfl
  | some coordinates => simp only [geodetic, geodeticItems_respelled respelled (.some coordinates)]

theorem base_respelled (kind : GeodeticKind) {given other : GeodeticCrs}
    (respelled : given.Respelled other) : base kind given = base kind other := by
  have items := geodeticItems_respelled respelled .none
  obtain ⟨kind, name, metadata, single, several, coordinates⟩ := respelled
  simp only [base, items]

theorem derivedGeodetic_respelled {given other : DerivedGeodeticCrs}
    (respelled : given.Respelled other) : derivedGeodetic given = derivedGeodetic other := by
  obtain ⟨kind, name, metadata, under, derivation, coordinates⟩ := respelled
  simp only [derivedGeodetic, under.kind_eq, base_respelled _ under, operation_respelled _ derivation,
    coordinateSystem_respelled coordinates]

theorem projected_respelled {given other : ProjectedCrs} (respelled : given.Respelled other) :
    projected given = projected other := by
  have kind := respelled.baseKind_eq
  obtain ⟨name, metadata, under, derivation, coordinates⟩ := respelled
  simp only [projected, kind, base_respelled _ under, operation_respelled _ derivation,
    coordinateSystem_respelled coordinates]

theorem vertical_respelled {given other : VerticalCrs} (respelled : given.Respelled other) :
    vertical given = vertical other := by
  obtain ⟨name, datum, metadata, several, coordinates⟩ := respelled
  refine (Reference.Respelled.select name (rel_eq datum) several).bind_eq
    fun first second chosen => ?_
  simp only [verticalReference_respelled chosen, coordinateSystem_respelled coordinates]

theorem crs_respelled {given other : CrsText.Crs} (respelled : given.Respelled other) :
    crs given = crs other := by
  induction given generalizing other with
  | geodetic given =>
    cases respelled with | geodetic inside => exact geodetic_respelled inside
  | derivedGeodetic given =>
    cases respelled with | derivedGeodetic inside => exact derivedGeodetic_respelled inside
  | projected given =>
    cases respelled with | projected inside => exact projected_respelled inside
  | vertical given =>
    cases respelled with | vertical inside => exact vertical_respelled inside
  | compound name components common ih =>
    cases respelled with
    | compound name common each =>
      have items := mapM_eq_of_forall₂ each fun component member _ respelled =>
        ih component member respelled
      simp only [crs, crsList_eq_mapM, items]
  | bound source target transformation source_ih target_ih =>
    cases respelled with
    | bound origin destination inside =>
      simp only [crs, source_ih origin, target_ih destination, operation_respelled _ inside]
  | unsupported typeName => cases respelled; rfl

end Wkt2

end CrsText
