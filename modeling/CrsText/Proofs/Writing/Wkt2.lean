import CrsText.Proofs.Writing.Methods
import CrsText.Proofs.Wkt2.Derivation

/-! What is written in the dialect of 2019 are the steps of the tree of a system.
-/

set_option autoImplicit false

namespace CrsText

namespace Writing

theorem usageNode_outcome (given : Usage) :
    (usageNode given.scope given.area given.boundingBox).outcome = .ok (Wkt2.usage given).steps := by
  obtain ⟨scope, area, box⟩ := given
  cases scope <;> cases area <;> cases box <;>
    simp [usageNode, Wkt2.usage, whenGiven, Item.steps, Item.stepsOfAll, Wkt2.boundingBox]

@[simp] theorem identifier_wkt2 (given : Identifier) :
    (identifier .wkt2 given).outcome = .ok (Wkt2.identifier given).steps := by
  cases numeric : given.code.isNumeric <;>
    simp [identifier, Wkt2.identifier, code, Wkt2.code, numeric, Item.named, Item.steps,
      Item.stepsOfAll]

theorem usages_outcome (given : Metadata) :
    (usages given).outcome = .ok (Item.stepsOfAll (given.effectiveUsages.map Wkt2.usage)) := by
  unfold usages Metadata.effectiveUsages
  split
  · simp [usageNode_outcome, Item.stepsOfAll]
  · cases given.usages with
    | none => rfl
    | some listed => exact outcome_forM_ok listed fun usage _ => usageNode_outcome usage

theorem identifiers_wkt2 (given : Metadata) :
    (identifiers .wkt2 given).outcome =
      .ok (Item.stepsOfAll (given.effectiveIdentifiers.map Wkt2.identifier)) := by
  unfold identifiers Metadata.effectiveIdentifiers
  cases given.identifier with
  | some own => simp [Item.stepsOfAll]
  | none =>
    cases given.identifiers with
    | none => rfl
    | some listed => exact outcome_forM_ok listed fun identifier _ => identifier_wkt2 identifier

theorem remarks_outcome (given : Metadata) :
    (remarks given).outcome = .ok (Item.stepsOfAll (given.remarks.toList.map Wkt2.remark)) := by
  unfold remarks
  cases given.remarks <;> rfl

@[simp] theorem metadata_wkt2 (given : Metadata) :
    (metadata .wkt2 given).outcome = .ok (Item.stepsOfAll (Wkt2.metadata given)) := by
  simp [metadata, usages_outcome, identifiers_wkt2, remarks_outcome, Wkt2.metadata]

theorem unitNode_wkt2 (given : ResolvedUnit) :
    (unitNode .wkt2 given).outcome = (fun keyword => (Wkt2.unitNode keyword given).steps) <$>
      Dialect.wkt2.unitKeyword given.typeTag := by
  obtain ⟨typeTag, name, factor, common⟩ := given
  cases common <;>
    simp [bind_ok_eq_map, unitNode, Wkt2.unitNode, whenGiven, Item.named, Item.steps,
      Item.stepsOfAll]

@[simp] theorem unit_wkt2 (given : MeasureUnit) :
    (unit .wkt2 given).outcome = Item.steps <$> Wkt2.unit given := by
  simp [unit, unitNode_wkt2, Wkt2.unit]

@[simp] theorem optionalUnit_wkt2 (given : Option MeasureUnit) :
    (whenGiven given (unit .wkt2)).outcome = Item.stepsOfAll <$> Wkt2.optionalUnit given := by
  cases given with
  | none => rfl
  | some given => simp [whenGiven, Wkt2.optionalUnit, Item.stepsOfAll]

/-- The keyword of a kind is found under its own tag. -/
@[simp] theorem unitNode_ofKind (given : ResolvedUnit) (kind : UnitKind) :
    (unitNode .wkt2 (given.ofKind kind)).outcome = .ok (Wkt2.unitNode kind.keyword given).steps := by
  rw [unitNode_wkt2]
  cases kind <;> rfl

@[simp] theorem longitude_wkt2 (given : Measure) :
    (longitude .wkt2 given).outcome = Item.stepsOfAll <$> Wkt2.longitude given := by
  simp [bind_ok_eq_map, longitude, Wkt2.longitude, Item.stepsOfAll, Item.steps]

@[simp] theorem meridian_wkt2 (given : Meridian) :
    (meridian .wkt2 given).outcome = Item.steps <$> Wkt2.meridian given := by
  simp [bind_ok_eq_map, meridian, Wkt2.meridian, Item.steps]

@[simp] theorem primeMeridian_wkt2 (given : PrimeMeridian) :
    (primeMeridian .wkt2 given).outcome = Item.steps <$> Wkt2.primeMeridian given := by
  simp [bind_ok_eq_map, primeMeridian, Wkt2.primeMeridian, Item.named, Item.steps, Item.stepsOfAll]

/-- The numbers of an ellipsoid are found one after the other, as they are written. -/
@[simp] theorem ellipsoid_wkt2 (given : Ellipsoid) :
    (ellipsoid .wkt2 given).outcome = Item.steps <$> Wkt2.ellipsoid given := by
  simp [bind_ok_eq_map, ellipsoid, Wkt2.ellipsoid, Ellipsoid.figure_eq, Item.named, Item.steps,
    Item.stepsOfAll]

@[simp] theorem frameEpoch_wkt2 (dynamic : Bool) (epoch : Option Float) (datum : String) :
    (whenHolds dynamic (frameEpoch .wkt2 epoch datum)).outcome =
      Item.stepsOfAll <$> Wkt2.frameEpoch dynamic epoch datum := by
  cases dynamic with
  | false => rfl
  | true => cases epoch <;> rfl

@[simp] theorem ensemble_wkt2 (given : DatumEnsemble) (figure : Option Ellipsoid) :
    (ensemble .wkt2 given figure).outcome =
      (fun items => (Wkt2.ensembleNode given items).steps) <$>
        figure.elim (.ok []) fun figure => ([·]) <$> Wkt2.ellipsoid figure := by
  have members : ∀ members : List EnsembleMember, (forM members (ensembleMember .wkt2)).outcome =
      .ok (Item.stepsOfAll (members.map Wkt2.ensembleMember)) := fun members =>
    outcome_forM_ok members fun member _ => by
      simp [ensembleMember, Wkt2.ensembleMember, Item.named, Item.steps, Item.stepsOfAll]
  obtain ⟨name, listed, own, accuracy, common⟩ := given
  cases figure <;> cases accuracy <;>
    simp [bind_ok_eq_map, ensemble, members, whenGiven, Wkt2.ensembleNode, Item.named, Item.steps,
      Item.stepsOfAll]

@[simp] theorem geodeticReference_wkt2 (given : Reference GeodeticDatum) :
    (geodeticReference .wkt2 given).outcome = Item.stepsOfAll <$> Wkt2.geodeticReference given := by
  cases given with
  | datum given =>
    obtain ⟨typeTag, name, figure, meridian, epoch, common⟩ := given
    cases meridian <;>
      simp [geodeticReference, datum, implicitMeridian, Wkt2.geodeticReference, Wkt2.geodeticDatum,
        Wkt2.optionalPrimeMeridian, Item.named, Item.steps, Item.stepsOfAll]
  | ensemble given =>
    simp [geodeticReference, geodeticEnsemble, implicitMeridian, Wkt2.geodeticReference,
      Wkt2.geodeticEnsemble, Item.stepsOfAll]

@[simp] theorem verticalReference_wkt2 (given : Reference VerticalDatum) :
    (verticalReference .wkt2 given).outcome = Item.stepsOfAll <$> Wkt2.verticalReference given := by
  cases given with
  | datum given =>
    simp [bind_ok_eq_map, verticalReference, verticalDatum, verticalDatumType,
      Wkt2.verticalReference, Wkt2.verticalDatum, Item.named, Item.steps, Item.stepsOfAll]
  | ensemble given =>
    simp [verticalReference, verticalEnsemble, Wkt2.verticalReference, Item.stepsOfAll]

@[simp] theorem axis_wkt2 (given : Axis) :
    (axis .wkt2 given).outcome = Item.steps <$> Wkt2.axis given := by
  have along : (whenGiven given.meridian (meridian .wkt2)).outcome =
      Item.stepsOfAll <$> Wkt2.optionalMeridian given.meridian := by
    cases given.meridian with
    | none => rfl
    | some given => simp [whenGiven, Wkt2.optionalMeridian, Item.stepsOfAll]
  simp [bind_ok_eq_map, axis, along, Wkt2.axis, Item.named, Item.steps, Item.stepsOfAll]

/-- What is between the opening and the closing of the group are its items. -/
@[simp] theorem coordinateSystem_wkt2 (given : CoordinateSystem) :
    (coordinateSystem .wkt2 given).outcome = Item.stepsOfAll <$> Wkt2.coordinateSystem given := by
  obtain ⟨subtype, axes⟩ := given
  cases axes with
  | nil => rfl
  | cons first rest =>
    have axes := outcome_forM rest fun given _ => axis_wkt2 given
    simp [bind_ok_eq_map, coordinateSystem, axes, Wkt2.coordinateSystem, Item.steps,
      Item.stepsOfAll]

@[simp] theorem method_wkt2 (given : Method) :
    (method .wkt2 given).outcome = .ok (Wkt2.method given).steps := by
  simp [method, Wkt2.method, Item.named, Item.steps, Item.stepsOfAll]

theorem parameter_wkt2 (given : Parameter) :
    (parameter .wkt2 given).outcome = Item.steps <$> Wkt2.parameter given := by
  obtain ⟨name, value, unit, common⟩ := given
  cases value <;> simp [bind_ok_eq_map, parameter, Wkt2.parameter, Item.named, Item.steps,
    Item.stepsOfAll]

@[simp] theorem operationNode_wkt2 (keyword : String) (given : Operation) :
    (operationNode .wkt2 keyword given).outcome = Item.steps <$> Wkt2.operation keyword given := by
  have parameters := outcome_forM given.parameters fun given _ => parameter_wkt2 given
  simp [bind_ok_eq_map, operationNode, parameters, Wkt2.operation, Item.named, Item.steps,
    Item.stepsOfAll]

theorem geodeticCrs_wkt2 (keyword : String) (given : GeodeticCrs)
    (system : Option CoordinateSystem) :
    (geodeticCrs .wkt2 keyword given system).outcome =
      (fun items => (Item.named keyword given.name items).steps) <$>
        Wkt2.geodeticItems given system := by
  cases system <;>
    simp [bind_ok_eq_map, geodeticCrs, whenGiven, Wkt2.geodeticItems_eq, Item.named, Item.steps,
      Item.stepsOfAll]

theorem topGeodeticCrs_wkt2 (given : GeodeticCrs) :
    (topGeodeticCrs .wkt2 given).outcome = Item.steps <$> Wkt2.geodetic given := by
  obtain ⟨kind, name, datum, ensemble, system, common⟩ := given
  cases system <;> simp [topGeodeticCrs, geodeticCrs_wkt2, Wkt2.geodetic]

theorem derivedGeodeticCrs_wkt2 (given : DerivedGeodeticCrs) :
    (derivedGeodeticCrs .wkt2 given).outcome = Item.steps <$> Wkt2.derivedGeodetic given := by
  simp [bind_ok_eq_map, derivedGeodeticCrs, supported, geodeticCrs_wkt2, conversion,
    Wkt2.derivedGeodetic, Wkt2.base, Item.named, Item.steps, Item.stepsOfAll]

theorem projectedCrs_wkt2 (given : ProjectedCrs) :
    (projectedCrs .wkt2 given).outcome = Item.steps <$> Wkt2.projected given := by
  simp [bind_ok_eq_map, projectedCrs, geodeticCrs_wkt2, conversion, Wkt2.projected, Wkt2.base,
    Item.named, Item.steps, Item.stepsOfAll]

theorem verticalCrs_wkt2 (given : VerticalCrs) :
    (verticalCrs .wkt2 given).outcome = Item.steps <$> Wkt2.vertical given := by
  simp [bind_ok_eq_map, verticalCrs, Wkt2.vertical, Item.named, Item.steps, Item.stepsOfAll]

theorem crs_wkt2 (given : Crs) : (crs .wkt2 given).outcome = Item.steps <$> Wkt2.crs given := by
  induction given with
  | geodetic given => exact topGeodeticCrs_wkt2 given
  | derivedGeodetic given => exact derivedGeodeticCrs_wkt2 given
  | projected given => exact projectedCrs_wkt2 given
  | vertical given => exact verticalCrs_wkt2 given
  | compound name components common ih =>
    simp [bind_ok_eq_map, crs, compoundCrs, crsAll_eq_forM, outcome_forM components ih, Wkt2.crs,
      Wkt2.crsList_eq_mapM, Item.named, Item.steps, Item.stepsOfAll]
  | bound source target given source_ih target_ih =>
    simp [bind_ok_eq_map, crs, boundCrs, supported, transformation, source_ih, target_ih, Wkt2.crs,
      Item.steps, Item.stepsOfAll]
  | unsupported typeName => rfl

end Writing

end CrsText
