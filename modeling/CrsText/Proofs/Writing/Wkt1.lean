import CrsText.Proofs.Writing.Methods
import CrsText.Proofs.Wkt1.Derivation

/-! What is written in the older dialect are the steps of the tree of a system.
-/

set_option autoImplicit false

namespace CrsText

namespace Writing

@[simp] theorem metadata_wkt1 (given : Metadata) :
    (metadata .wkt1 given).outcome =
      .ok (Item.stepsOfAll (given.identifier.toList.map Wkt1.authority)) := by
  have own : ∀ given, (identifier .wkt1 given).outcome = .ok (Wkt1.authority given).steps := by
    intro given
    simp [identifier, code, Wkt1.authority, Item.named, Item.steps, Item.stepsOfAll]
  obtain ⟨usage, usages, identifier, identifiers, remarks⟩ := given
  cases identifier with
  | some identifier => simp [metadata, Writing.identifiers, own, Item.stepsOfAll]
  | none => cases identifiers <;> rfl

@[simp] theorem unit_wkt1 (given : MeasureUnit) :
    (unit .wkt1 given).outcome = Item.steps <$> (Wkt1.unit given).result := by
  have common : ∀ resolved : ResolvedUnit,
      (whenGiven resolved.metadata (metadata .wkt1)).outcome =
        .ok (Item.stepsOfAll
          ((resolved.metadata.getD .empty).identifier.toList.map Wkt1.authority)) := by
    intro resolved
    cases resolved.metadata with
    | none => rfl
    | some common => exact metadata_wkt1 common
  simp [unit, unitNode, common, Wkt1.unit, Wkt1.metadata_result, Dialect.unitKeyword, Item.named,
    Item.steps, Item.stepsOfAll]

@[simp] theorem longitude_wkt1 (given : Measure) :
    (longitude .wkt1 given).outcome =
      (fun quantity => [.token (Token.rounded quantity.value)]) <$> given.inUnit .degree := by
  simp [bind_ok_eq_map, longitude]

@[simp] theorem primeMeridian_wkt1 (given : PrimeMeridian) :
    (primeMeridian .wkt1 given).outcome = Item.steps <$> (Wkt1.primeMeridian given).result := by
  simp [primeMeridian, Wkt1.primeMeridian, Wkt1.metadata_result, Item.named, Item.steps,
    Item.stepsOfAll]

theorem ellipsoid_result (given : Ellipsoid) :
    (Wkt1.ellipsoid given).result = given.figure >>= fun figure =>
      figure.1.unit.requireMetres >>= fun _ =>
        .ok (.named "SPHEROID" given.name
          ([.token (Token.rounded figure.1.value), .token (Token.rounded figure.2)] ++
            given.metadata.identifier.toList.map Wkt1.authority)) := by
  simp only [Wkt1.ellipsoid, Report.result_bind, Report.result_lift]
  refine bind_congr fun figure => ?_
  simp only [ResolvedUnit.requireMetres]
  split <;> simp [Wkt1.metadata_result]

/-- The unit of the semi-major axis is looked at only once the flattening has been written. -/
@[simp] theorem ellipsoid_wkt1 (given : Ellipsoid) :
    (ellipsoid .wkt1 given).outcome = Item.steps <$> (Wkt1.ellipsoid given).result := by
  simp [ellipsoid, ellipsoid_result, Ellipsoid.figure_eq, Item.named, Item.steps, Item.stepsOfAll]

@[simp] theorem frameEpoch_wkt1 (dynamic : Bool) (epoch : Option Float) (datum : String) :
    (whenHolds dynamic (frameEpoch .wkt1 epoch datum)).outcome = .ok [] := by
  cases dynamic <;> rfl

@[simp] theorem geodeticReference_wkt1 (given : Reference GeodeticDatum) :
    (geodeticReference .wkt1 given).outcome =
      Item.stepsOfAll <$> (Wkt1.geodeticReference given).result := by
  cases given with
  | datum given =>
    obtain ⟨typeTag, name, figure, meridian, epoch, common⟩ := given
    cases meridian <;>
      simp [geodeticReference, datum, implicitMeridian, Wkt1.geodeticReference, Wkt1.geodeticDatum,
        Wkt1.dropEpoch, Wkt1.datumNode, Wkt1.metadata_result, Item.named, Item.steps,
        Item.stepsOfAll]
  | ensemble given =>
    simp [geodeticReference, geodeticEnsemble, implicitMeridian, Wkt1.geodeticReference,
      Wkt1.geodeticEnsemble, Wkt1.datumNode, Wkt1.metadata_result, Item.named, Item.steps,
      Item.stepsOfAll]

@[simp] theorem verticalReference_wkt1 (given : Reference VerticalDatum) :
    (verticalReference .wkt1 given).outcome =
      Item.stepsOfAll <$> (Wkt1.verticalReference given).result := by
  cases given with
  | datum given =>
    simp [verticalReference, verticalDatum, verticalDatumType, Wkt1.verticalReference,
      Wkt1.dropEpoch, Wkt1.verticalNode, Wkt1.metadata_result, Item.named, Item.steps,
      Item.stepsOfAll]
  | ensemble given =>
    simp [verticalReference, verticalEnsemble, verticalDatumType, Wkt1.verticalReference,
      Wkt1.verticalNode, Wkt1.metadata_result, Item.named, Item.steps, Item.stepsOfAll]

@[simp] theorem axis_wkt1 (given : Axis) :
    (axis .wkt1 given).outcome = .ok (Wkt1.axis given).steps := by
  simp [axis, Wkt1.axis, Item.named, Item.steps, Item.stepsOfAll]

@[simp] theorem coordinateSystem_wkt1 (given : CoordinateSystem) :
    (coordinateSystem .wkt1 given).outcome =
      Item.stepsOfAll <$> (Wkt1.coordinateSystem given).result := by
  obtain ⟨subtype, axes⟩ := given
  cases axes with
  | nil => rfl
  | cons first rest =>
    have axes := outcome_forM_ok rest fun given _ => axis_wkt1 given
    have unit : (whenGiven first.unit (unit .wkt1)).outcome =
        Item.stepsOfAll <$> (Wkt1.axisUnit first.unit).result := by
      cases first.unit with
      | none => rfl
      | some given => simp [whenGiven, Wkt1.axisUnit, Item.stepsOfAll]
    simp [bind_ok_eq_map, coordinateSystem, axes, unit, Wkt1.coordinateSystem, Item.stepsOfAll]

theorem parameter_wkt1 (given : Parameter) :
    (parameter .wkt1 given).outcome = Item.steps <$> (Wkt1.parameter given).result := by
  obtain ⟨name, value, unit, common⟩ := given
  cases value <;>
    simp [parameter, Wkt1.parameter, Wkt1.metadata_result, Item.named, Item.steps, Item.stepsOfAll]

@[simp] theorem conversion_wkt1 (keyword : String) (given : Operation) :
    (conversion .wkt1 keyword given).outcome =
      Item.stepsOfAll <$> (Wkt1.conversion given).result := by
  have parameters := outcome_forM given.parameters fun given _ => parameter_wkt1 given
  simp [conversion, parameters, Wkt1.conversion, Item.named, Item.steps, Item.stepsOfAll]

theorem geodeticCrs_wkt1 (keyword : String) (given : GeodeticCrs) :
    (geodeticCrs .wkt1 keyword given given.coordinateSystem).outcome =
      Item.steps <$> (Wkt1.geodeticNode keyword given).result := by
  have system : (whenGiven given.coordinateSystem (coordinateSystem .wkt1)).outcome =
      Item.stepsOfAll <$> (Wkt1.optionalCoordinateSystem given.coordinateSystem).result := by
    cases given.coordinateSystem with
    | none => rfl
    | some system => simp [whenGiven, Wkt1.optionalCoordinateSystem]
  simp [geodeticCrs, system, Wkt1.geodeticNode, Wkt1.metadata_result, Item.named, Item.steps,
    Item.stepsOfAll]

theorem topGeodeticCrs_wkt1 (given : GeodeticCrs) :
    (topGeodeticCrs .wkt1 given).outcome = Item.steps <$> (Wkt1.geodetic given).result := by
  have node := geodeticCrs_wkt1 (Dialect.wkt1.geodeticKeyword given.kind) given
  cases present : given.coordinateSystem with
  | none => simp [topGeodeticCrs, Wkt1.geodetic, present]
  | some system =>
    rw [present] at node
    simpa [topGeodeticCrs, Wkt1.geodetic, present] using node

theorem projectedCrs_wkt1 (given : ProjectedCrs) :
    (projectedCrs .wkt1 given).outcome = Item.steps <$> (Wkt1.projected given).result := by
  simp [projectedCrs, geodeticCrs_wkt1, Wkt1.projected, Wkt1.metadata_result, Item.named, Item.steps,
    Item.stepsOfAll]

theorem verticalCrs_wkt1 (given : VerticalCrs) :
    (verticalCrs .wkt1 given).outcome = Item.steps <$> (Wkt1.vertical given).result := by
  simp [verticalCrs, Wkt1.vertical, Wkt1.metadata_result, Item.named, Item.steps, Item.stepsOfAll]

theorem crs_wkt1 (given : Crs) :
    (crs .wkt1 given).outcome = Item.steps <$> (Wkt1.crs given).result := by
  induction given with
  | geodetic given => exact topGeodeticCrs_wkt1 given
  | derivedGeodetic given => rfl
  | projected given => exact projectedCrs_wkt1 given
  | vertical given => exact verticalCrs_wkt1 given
  | compound name components common ih =>
    simp [crs, compoundCrs, crsAll_eq_forM, outcome_forM components ih, Wkt1.crs,
      Wkt1.metadata_result, Wkt1.crsList_eq_mapM, Item.named, Item.steps, Item.stepsOfAll]
  | bound source target given => rfl
  | unsupported typeName => rfl

end Writing

end CrsText
