import CrsText.Proofs.Alike
import CrsText.Proofs.Definition.Unshadowed
import CrsText.Proofs.Nesting
import CrsText.Proofs.Wkt2.Derivation

/-! The dialect of 2019 writes a system in the same way with and without what is shadowed in it, and
fails in the same way. What is shadowed may be anything, even a unit that cannot be looked up.
-/

set_option autoImplicit false

namespace CrsText

namespace Wkt2

-- One lemma for each function that writes items: it gives the same items, or the same failure, for
-- what it is given without what is shadowed.
@[simp] theorem metadata_unshadowed (given : Metadata) :
    metadata given.unshadowed = metadata given := by
  have remarks : given.unshadowed.remarks = given.remarks := rfl
  simp only [metadata, Metadata.effectiveUsages_unshadowed, Metadata.effectiveIdentifiers_unshadowed,
    remarks]

@[simp] theorem unit_unshadowed (given : MeasureUnit) : unit given.unshadowed = unit given := by
  cases given with
  | named name => rfl
  | defined definition =>
    obtain ⟨typeTag, name, factor, common⟩ := definition
    cases factor with
    | none => rfl
    | some factor =>
      simp [unit, MeasureUnit.unshadowed, MeasureUnit.mapDefinition, UnitDefinition.unshadowed,
        MeasureUnit.resolve, ResolvedUnit.ofDefinition, unitNode]

@[simp] theorem optionalUnit_unshadowed (given : Option MeasureUnit) :
    optionalUnit (given.map MeasureUnit.unshadowed) = optionalUnit given := by
  cases given with
  | none => rfl
  | some given => simp [optionalUnit]

/-- The same value in units that are written alike under every keyword. -/
structure SameQuantity (quantity other : Quantity) : Prop where
  value : quantity.value = other.value
  name : quantity.unit.name = other.unit.name
  factor : quantity.unit.factor = other.unit.factor
  node : ∀ keyword, unitNode keyword quantity.unit = unitNode keyword other.unit

theorem inUnit_unshadowed (implied : KnownUnit) (given : Measure) :
    Alike SameQuantity (given.unshadowed.inUnit implied) (given.inUnit implied) := by
  obtain ⟨value, unit⟩ := given
  cases unit with
  | none => exact .ok ⟨rfl, rfl, rfl, fun _ => rfl⟩
  | some unit =>
    cases unit with
    | named name =>
      simp only [Measure.unshadowed, Measure.inUnit, Option.map_some, MeasureUnit.mapDefinition]
      cases (MeasureUnit.named name).resolve with
      | error failure => exact .error failure
      | ok resolved => exact .ok ⟨rfl, rfl, rfl, fun _ => rfl⟩
    | defined definition =>
      obtain ⟨typeTag, name, factor, common⟩ := definition
      cases factor with
      | none => exact .error _
      | some factor =>
        refine .ok ⟨rfl, rfl, rfl, fun keyword => ?_⟩
        simp [unitNode, UnitDefinition.untyped, UnitDefinition.unshadowed]

@[simp] theorem longitude_unshadowed (given : Measure) :
    longitude given.unshadowed = longitude given := by
  refine (inUnit_unshadowed .degree given).bind_eq fun quantity other same => ?_
  simp only [same.value, same.node]

/-- A flattening is not looked for in the axes if it is given, so a semi-minor axis beside it cannot
even fail. -/
theorem figure_unshadowed (given : Ellipsoid) :
    Alike (fun figure other => SameQuantity figure.1 other.1 ∧ figure.2 = other.2)
      given.unshadowed.figure given.figure := by
  obtain ⟨name, semiMajorAxis, semiMinorAxis, inverseFlattening, common⟩ := given
  refine (inUnit_unshadowed .metre semiMajorAxis).bind fun semiMajor other major => ?_
  cases inverseFlattening with
  | some inverseFlattening => exact .ok ⟨major, rfl⟩
  | none =>
    cases semiMinorAxis with
    | none => exact .error _
    | some semiMinorAxis =>
      refine (inUnit_unshadowed .metre semiMinorAxis).bind fun semiMinor otherMinor minor => ?_
      have agrees : semiMajor.unit.agrees semiMinor.unit = other.unit.agrees otherMinor.unit := by
        simp [ResolvedUnit.agrees, major.name, major.factor, minor.name, minor.factor]
      simp only [agrees, major.value, minor.value, major.name, minor.name]
      split
      · exact .ok ⟨major, rfl⟩
      · exact .error _

@[simp] theorem ellipsoid_unshadowed (given : Ellipsoid) :
    ellipsoid given.unshadowed = ellipsoid given := by
  refine (figure_unshadowed given).bind_eq fun figure other same => ?_
  obtain ⟨axis, flattening⟩ := same
  simp only [axis.value, axis.node, flattening]
  simp [Ellipsoid.unshadowed]

@[simp] theorem optionalPrimeMeridian_unshadowed (given : Option PrimeMeridian) :
    optionalPrimeMeridian (given.map PrimeMeridian.unshadowed) = optionalPrimeMeridian given := by
  cases given with
  | none => rfl
  | some given => simp [optionalPrimeMeridian, primeMeridian, PrimeMeridian.unshadowed]

/-- The epoch matters in a dynamic datum only. -/
@[simp] theorem frameEpoch_unshadowed (isDynamic : Bool) (epoch : Option Float) (datum : String) :
    frameEpoch isDynamic (if isDynamic then epoch else none) datum =
      frameEpoch isDynamic epoch datum := by
  cases isDynamic <;> rfl

@[simp] theorem require_unshadowed (datum : String) (given : Option Ellipsoid) :
    (Ellipsoid.require datum (given.map Ellipsoid.unshadowed) >>= ellipsoid) =
      Ellipsoid.require datum given >>= ellipsoid := by
  cases given with
  | none => rfl
  | some given => exact ellipsoid_unshadowed given

theorem geodeticDatum_unshadowed (given : GeodeticDatum) :
    geodeticDatum given.unshadowed = geodeticDatum given := by
  simp only [geodeticDatum, GeodeticDatum.isDynamic_unshadowed, ← bind_assoc]
  simp only [GeodeticDatum.unshadowed, frameEpoch_unshadowed, require_unshadowed,
    optionalPrimeMeridian_unshadowed, metadata_unshadowed]

theorem verticalDatum_unshadowed (given : VerticalDatum) :
    verticalDatum given.unshadowed = verticalDatum given := by
  simp only [verticalDatum, VerticalDatum.isDynamic_unshadowed]
  simp only [VerticalDatum.unshadowed, frameEpoch_unshadowed, metadata_unshadowed]

theorem ensembleMember_unshadowed (given : EnsembleMember) :
    ensembleMember given.unshadowed = ensembleMember given := by
  simp [ensembleMember, EnsembleMember.unshadowed]

theorem ensembleNode_unshadowed (given : DatumEnsemble) (figure : List Item) :
    ensembleNode given.unshadowed figure = ensembleNode given figure := by
  simp [ensembleNode, DatumEnsemble.unshadowed, Function.comp_def, ensembleMember_unshadowed]

theorem geodeticEnsemble_unshadowed (given : DatumEnsemble) :
    geodeticEnsemble given.unshadowed = geodeticEnsemble given := by
  simp only [geodeticEnsemble, ensembleNode_unshadowed, ← bind_assoc]
  simp only [DatumEnsemble.unshadowed, require_unshadowed]

theorem geodeticReference_unshadowed (given : GeodeticCrs) :
    (Reference.select given.name given.unshadowed.datum given.unshadowed.ensemble >>=
        geodeticReference) =
      Reference.select given.name given.datum given.ensemble >>= geodeticReference := by
  obtain ⟨kind, name, datum, ensemble, system, common⟩ := given
  cases datum with
  | none =>
    cases ensemble with
    | none => rfl
    | some ensemble =>
      exact congrArg (· >>= fun item => pure [item]) (geodeticEnsemble_unshadowed ensemble)
  | some datum =>
    cases ensemble with
    | none => exact geodeticDatum_unshadowed datum
    | some ensemble => rfl

/-- Of an ensemble of vertical datums no ellipsoid is written. -/
theorem verticalReference_unshadowed (given : VerticalCrs) :
    (Reference.select given.name given.unshadowed.datum given.unshadowed.ensemble >>=
        verticalReference) =
      Reference.select given.name given.datum given.ensemble >>= verticalReference := by
  obtain ⟨name, datum, ensemble, system, common⟩ := given
  cases datum with
  | none =>
    cases ensemble with
    | none => rfl
    | some ensemble =>
      exact congrArg (fun item => Except.ok [item]) (ensembleNode_unshadowed ensemble [])
  | some datum =>
    cases ensemble with
    | none => exact verticalDatum_unshadowed datum
    | some ensemble => rfl

@[simp] theorem optionalMeridian_unshadowed (given : Option Meridian) :
    optionalMeridian (given.map Meridian.unshadowed) = optionalMeridian given := by
  cases given with
  | none => rfl
  | some given => simp [optionalMeridian, meridian, Meridian.unshadowed]

theorem axis_unshadowed (given : Axis) : axis given.unshadowed = axis given := by
  simp [axis, Axis.unshadowed]

@[simp] theorem coordinateSystem_unshadowed (given : CoordinateSystem) :
    coordinateSystem given.unshadowed = coordinateSystem given := by
  simp [coordinateSystem, CoordinateSystem.unshadowed, List.mapM_map, Function.comp_def,
    axis_unshadowed]

theorem method_unshadowed (given : Method) : method given.unshadowed = method given := by
  simp [method, Method.unshadowed]

theorem parameter_unshadowed (given : Parameter) : parameter given.unshadowed = parameter given := by
  obtain ⟨name, value, unit, common⟩ := given
  cases value <;> simp [parameter, Parameter.unshadowed]

@[simp] theorem operation_unshadowed (keyword : String) (given : Operation) :
    operation keyword given.unshadowed = operation keyword given := by
  simp [operation, Operation.unshadowed, List.mapM_map, Function.comp_def, parameter_unshadowed,
    method_unshadowed]

theorem geodeticItems_unshadowed (given : GeodeticCrs) (system : Option CoordinateSystem) :
    geodeticItems given.unshadowed (system.map CoordinateSystem.unshadowed) =
      geodeticItems given system := by
  have items : (system.map CoordinateSystem.unshadowed).elim (pure []) coordinateSystem =
      system.elim (pure []) coordinateSystem := by
    cases system <;> simp
  have name : given.unshadowed.name = given.name := rfl
  have common : given.unshadowed.metadata = given.metadata.unshadowed := rfl
  simp only [geodeticItems_eq, items, name, common, metadata_unshadowed]
  rw [← bind_assoc, geodeticReference_unshadowed, bind_assoc]

theorem geodetic_unshadowed (given : GeodeticCrs) :
    geodetic given.unshadowed = geodetic given := by
  have items := geodeticItems_unshadowed given given.coordinateSystem
  obtain ⟨kind, name, datum, ensemble, system, common⟩ := given
  cases system with
  | none => rfl
  | some system =>
    exact congrArg
      (· >>= fun items => pure (Item.named (Dialect.wkt2.geodeticKeyword kind) name items)) items

/-- As a base a system is written without its coordinate system, under the keyword of the kind that
it counts as. -/
theorem base_unshadowed (kind other : GeodeticKind) (given : GeodeticCrs) :
    base kind (given.unshadowedBase other) = base kind given := by
  have items : geodeticItems (given.unshadowedBase other) none = geodeticItems given none :=
    geodeticItems_unshadowed given none
  simp only [base, items]
  rfl

theorem derivedGeodetic_unshadowed (given : DerivedGeodeticCrs) :
    derivedGeodetic given.unshadowed = derivedGeodetic given := by
  have kind : given.unshadowed.base.kind = given.base.kind := rfl
  simp only [derivedGeodetic, kind]
  simp [DerivedGeodeticCrs.unshadowed, base_unshadowed]

theorem projected_unshadowed (given : ProjectedCrs) :
    projected given.unshadowed = projected given := by
  simp only [projected, ProjectedCrs.baseKind_unshadowed]
  simp [ProjectedCrs.unshadowed, base_unshadowed]

theorem vertical_unshadowed (given : VerticalCrs) :
    vertical given.unshadowed = vertical given := by
  have name : given.unshadowed.name = given.name := rfl
  have system : given.unshadowed.coordinateSystem = given.coordinateSystem.unshadowed := rfl
  have common : given.unshadowed.metadata = given.metadata.unshadowed := rfl
  simp only [vertical, name, system, common, coordinateSystem_unshadowed, metadata_unshadowed]
  rw [← bind_assoc, verticalReference_unshadowed, bind_assoc]

theorem crs_unshadowed (given : CrsText.Crs) : crs given.unshadowed = crs given := by
  induction given with
  | geodetic given => exact geodetic_unshadowed given
  | derivedGeodetic given => exact derivedGeodetic_unshadowed given
  | projected given => exact projected_unshadowed given
  | vertical given => exact vertical_unshadowed given
  | compound name components common ih =>
    have inside : components.mapM (fun component => crs component.unshadowed) =
        components.mapM crs := mapM_congr ih
    simp [crs, Crs.unshadowed, Crs.unshadowedAll_eq_map, crsList_eq_mapM, List.mapM_map,
      Function.comp_def, inside]
  | bound source target transformation source_ih target_ih =>
    simp [crs, Crs.unshadowed, source_ih, target_ih]
  | unsupported typeName => rfl

end Wkt2

end CrsText
