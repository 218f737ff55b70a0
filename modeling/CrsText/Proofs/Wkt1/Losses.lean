import CrsText.Proofs.Definition.Objects
import CrsText.Proofs.Definition.Resolution
import CrsText.Proofs.Nesting
import CrsText.Proofs.Notices
import CrsText.Proofs.Wkt1.Derivation

/-! The older dialect tells what it leaves out of each object that it looks at. Of an operation it looks
at the parameters that are files, so what it leaves out of the others is not told.
-/

set_option autoImplicit false

namespace CrsText

namespace Object

/-- What is left out of an object is its metadata, and of some objects something of their own. -/
theorem losses_singleton {object : Object} {own : Set Notice} (announced : object.IsAnnounced)
    (told : ∀ notice ∈ own, object.Loses notice)
    (complete : ∀ notice, object.Loses notice → notice ∈ own ∨ notice ∈ object.metadata.notices) :
    losses [object] = own ∪ {notice | notice ∈ object.metadata.notices} := by
  ext notice
  simp only [losses, List.mem_singleton, exists_eq_left, announced, true_and]
  exact ⟨complete notice, fun lost => lost.elim (told notice) .metadata⟩

theorem losses_described {object : Object} (announced : object.IsAnnounced)
    (plain : ∀ notice, object.Loses notice → notice ∈ object.metadata.notices) :
    losses [object] = {notice | notice ∈ object.metadata.notices} :=
  (losses_singleton announced (fun _ => False.elim) fun notice lost => .inr (plain notice lost)).trans
    (Set.empty_union _)

@[simp] theorem losses_system (metadata : Metadata) :
    losses [.system metadata] = {notice | notice ∈ metadata.notices} :=
  losses_described trivial fun _ lost => by cases lost; assumption

@[simp] theorem losses_ellipsoid (figure : Ellipsoid) :
    losses [.ellipsoid figure] = {notice | notice ∈ figure.metadata.notices} :=
  losses_described trivial fun _ lost => by cases lost; assumption

@[simp] theorem losses_primeMeridian (meridian : PrimeMeridian) :
    losses [.primeMeridian meridian] = {notice | notice ∈ meridian.metadata.notices} :=
  losses_described trivial fun _ lost => by cases lost; assumption

@[simp] theorem losses_unit (unit : MeasureUnit) :
    losses [.unit unit] = {notice | notice ∈ unit.metadata.notices} :=
  losses_described trivial fun _ lost => by cases lost; assumption

@[simp] theorem losses_geodeticDatum (datum : GeodeticDatum) :
    losses [.geodeticDatum datum] =
      {notice | datum.isDynamic ∧ notice = .epochDropped datum.name} ∪
        {notice | notice ∈ datum.metadata.notices} := by
  refine losses_singleton trivial ?_ fun notice lost => ?_
  · rintro notice ⟨dynamic, rfl⟩
    exact .geodeticEpoch dynamic
  · cases lost with
    | metadata member => exact .inr member
    | geodeticEpoch dynamic => exact .inl ⟨dynamic, rfl⟩

@[simp] theorem losses_verticalDatum (datum : VerticalDatum) :
    losses [.verticalDatum datum] =
      {notice | datum.isDynamic ∧ notice = .epochDropped datum.name} ∪
        {notice | notice ∈ datum.metadata.notices} := by
  refine losses_singleton trivial ?_ fun notice lost => ?_
  · rintro notice ⟨dynamic, rfl⟩
    exact .verticalEpoch dynamic
  · cases lost with
    | metadata member => exact .inr member
    | verticalEpoch dynamic => exact .inl ⟨dynamic, rfl⟩

@[simp] theorem losses_ensemble (several : DatumEnsemble) :
    losses [.ensemble several] =
      {.ensembleCollapsed several.name} ∪ {notice | notice ∈ several.metadata.notices} := by
  refine losses_singleton trivial ?_ fun notice lost => ?_
  · rintro notice rfl
    exact .collapsed several
  · cases lost with
    | metadata member => exact .inr member
    | collapsed => exact .inl rfl

@[simp] theorem losses_conversion (operation : Operation) : losses [.conversion operation] = ∅ := by
  ext notice
  simp [losses, IsAnnounced]

@[simp] theorem losses_method (applied : Method) : losses [.method applied] = ∅ := by
  ext notice
  simp [losses, IsAnnounced]

end Object

open Object

open Report (Tells notices_bind_ok)

namespace Wkt1

theorem metadata_notices (given : Metadata) : (metadata given).notices = given.notices := by
  obtain ⟨usage, usages, identifier, listed, remarks⟩ := given
  have dropped : ∀ condition notice,
      (noteIf condition notice).notices = if condition then [notice] else [] := by
    intro condition notice
    cases condition <;> rfl
  rw [metadata, notices_bind_ok (noteIf_result _ _), dropped]
  cases identifier <;> cases listed <;>
    simp [Metadata.notices, dropsUsage, Metadata.hasOwnUsage_iff, identifiers, or_assoc]
  all_goals rfl

theorem metadata_tells (given : Metadata) :
    (metadata given).Tells {notice | notice ∈ given.notices} := fun _ notice => by
  rw [metadata_notices]
  exact .rfl

/-- A unit that is known by name has no metadata. -/
theorem metadata_of_resolve {given : MeasureUnit} {resolved : ResolvedUnit}
    (found : given.resolve = .ok resolved) :
    resolved.metadata.getD .empty = given.metadata := by
  rcases MeasureUnit.resolve_cases found with ⟨known, rfl, rfl⟩ | ⟨definition, factor, rfl, -, rfl⟩
  · rfl
  · rfl

-- One lemma for each function that writes items: it tells what its objects lose.
theorem unit_tells (given : MeasureUnit) : (unit given).Tells (losses [.unit given]) := by
  rw [losses_unit]
  refine .lift_bind fun resolved found => .lift_bind fun keyword _ => ?_
  rw [metadata_of_resolve found]
  exact (metadata_tells given.metadata).map _

theorem ellipsoid_tells (given : Ellipsoid) :
    (ellipsoid given).Tells (losses [.ellipsoid given]) := by
  rw [losses_ellipsoid]
  refine .lift_bind fun figure _ => ?_
  obtain ⟨semiMajor, inverseFlattening⟩ := figure
  dsimp only
  split
  · exact .fail _ _
  · exact (metadata_tells given.metadata).map _

theorem primeMeridian_tells (given : PrimeMeridian) :
    (primeMeridian given).Tells (losses [.primeMeridian given]) := by
  rw [losses_primeMeridian]
  exact .lift_bind fun longitude _ => (metadata_tells given.metadata).map _

/-- The meridian of Greenwich, which stands where none is given, has nothing to lose. -/
theorem givenMeridian_tells (given : Option PrimeMeridian) :
    (primeMeridian (given.getD .greenwich)).Tells
      (losses (given.toList.map .primeMeridian)) := by
  cases given with
  | none =>
    have nothing : PrimeMeridian.greenwich.metadata.notices = [] := rfl
    refine (primeMeridian_tells .greenwich).congr ?_
    simp [nothing]
  | some given => exact primeMeridian_tells given

theorem datumNode_tells (name : String) (figure : Ellipsoid) (common : Metadata)
    (meridian : Option PrimeMeridian) :
    (datumNode name figure common meridian).Tells (losses [.ellipsoid figure] ∪
      ({notice | notice ∈ common.notices} ∪ losses (meridian.toList.map .primeMeridian))) :=
  (ellipsoid_tells figure).bind fun _ _ => (metadata_tells common).bind fun _ _ =>
    (givenMeridian_tells meridian).map _

theorem dropEpoch_tells (isDynamic : Bool) (datum : String) :
    (dropEpoch isDynamic datum).Tells {notice | isDynamic ∧ notice = .epochDropped datum} := by
  cases isDynamic with
  | false => exact (Tells.pure _).congr (by simp)
  | true => exact (Tells.note _).congr (by ext; simp)

theorem geodeticDatum_tells (given : GeodeticDatum) :
    (geodeticDatum given).Tells (losses given.objects) := by
  have tells : (geodeticDatum given).Tells
      ({notice | given.isDynamic ∧ notice = .epochDropped given.name} ∪
        (losses (given.ellipsoid.toList.map .ellipsoid) ∪ ({notice | notice ∈ given.metadata.notices} ∪
          losses (given.primeMeridian.toList.map .primeMeridian)))) := by
    refine (dropEpoch_tells _ _).bind fun _ _ => .lift_bind fun figure found => ?_
    rw [Ellipsoid.require_eq_ok.mp found]
    exact datumNode_tells _ _ _ _
  refine tells.congr ?_
  rw [GeodeticDatum.objects, losses_append, losses_cons, losses_geodeticDatum]
  ext notice
  simp only [Set.mem_union]
  tauto

theorem geodeticEnsemble_tells (given : DatumEnsemble) :
    (geodeticEnsemble given).Tells (losses given.geodeticObjects) := by
  have tells : (geodeticEnsemble given).Tells ({.ensembleCollapsed given.name} ∪
      (losses (given.ellipsoid.toList.map .ellipsoid) ∪
        ({notice | notice ∈ given.metadata.notices} ∪ losses []))) := by
    refine .lift_bind fun figure found => (Tells.note _).bind fun _ _ => ?_
    rw [Ellipsoid.require_eq_ok.mp found]
    exact datumNode_tells _ _ _ none
  refine tells.congr ?_
  rw [DatumEnsemble.geodeticObjects, losses_cons, losses_ensemble, losses_nil]
  ext notice
  simp only [Set.mem_union, Set.mem_empty_iff_false]
  tauto

theorem geodeticReference_tells (given : GeodeticCrs) :
    ((liftM (Reference.select given.name given.datum given.ensemble) : Report _) >>=
        geodeticReference).Tells
      (losses (given.datum.toList.flatMap GeodeticDatum.objects ++
        given.ensemble.toList.flatMap DatumEnsemble.geodeticObjects)) := by
  refine .lift_bind fun selected isSelected => ?_
  rcases Reference.select_cases isSelected with
    ⟨single, datum, ensemble, rfl⟩ | ⟨several, datum, ensemble, rfl⟩
  · refine (geodeticDatum_tells single).congr ?_
    simp [datum, ensemble]
  · refine (geodeticEnsemble_tells several).congr ?_
    simp [datum, ensemble]

theorem verticalNode_tells (name : String) (common : Metadata) :
    (verticalNode name common).Tells {notice | notice ∈ common.notices} :=
  (metadata_tells common).map _

theorem verticalReference_tells (given : VerticalCrs) :
    ((liftM (Reference.select given.name given.datum given.ensemble) : Report _) >>=
        verticalReference).Tells
      (losses (given.datum.toList.map .verticalDatum ++ given.ensemble.toList.map .ensemble)) := by
  refine .lift_bind fun selected isSelected => ?_
  rcases Reference.select_cases isSelected with
    ⟨single, datum, ensemble, rfl⟩ | ⟨several, datum, ensemble, rfl⟩
  · refine ((dropEpoch_tells single.isDynamic single.name).bind fun _ _ =>
      verticalNode_tells single.name single.metadata).congr ?_
    simp [datum, ensemble]
  · refine ((Tells.note (.ensembleCollapsed several.name)).bind fun _ _ =>
      verticalNode_tells several.name several.metadata).congr ?_
    simp [datum, ensemble]

theorem axisUnit_tells (given : Option MeasureUnit) :
    (axisUnit given).Tells (losses (given.toList.map .unit)) := by
  cases given with
  | none => exact (Tells.pure []).congr losses_nil.symm
  | some given => exact (unit_tells given).map _

theorem coordinateSystem_tells (given : CoordinateSystem) :
    (coordinateSystem given).Tells (losses given.objects) := by
  obtain ⟨subtype, axes⟩ := given
  cases axes with
  | nil => exact .fail _ _
  | cons first rest => exact (axisUnit_tells first.unit).map _

theorem optionalCoordinateSystem_tells (given : Option CoordinateSystem) :
    (optionalCoordinateSystem given).Tells
      (losses (given.toList.flatMap CoordinateSystem.objects)) := by
  cases given with
  | none => exact (Tells.pure []).congr losses_nil.symm
  | some given => exact (coordinateSystem_tells given).congr (by simp)

/-- A number is written without a look at what else its parameter says. -/
theorem parameter_tells (given : Parameter) :
    (parameter given).Tells (losses [.parameter given]) := by
  obtain ⟨name, value, unit, common⟩ := given
  cases value with
  | number value =>
    refine (Tells.pure _).congr ?_
    ext notice
    simp [losses, IsAnnounced]
  | file file =>
    have plain : losses [.parameter ⟨name, .file file, unit, common⟩] =
        {notice | notice ∈ common.notices} :=
      losses_described ⟨file, rfl⟩ fun _ lost => by cases lost; assumption
    rw [plain]
    exact (metadata_tells common).map _

theorem conversion_tells (given : Operation) : (conversion given).Tells (losses given.objects) := by
  have tells : (conversion given).Tells
      {notice | ∃ parameter ∈ given.parameters, notice ∈ losses [.parameter parameter]} :=
    (Tells.mapM fun parameter _ => parameter_tells parameter).map _
  refine tells.congr ?_
  rw [Operation.objects, losses_cons, losses_conversion, losses_cons (.method _), losses_method,
    Set.empty_union, Set.empty_union, List.map_eq_flatMap, losses_flatMap]

theorem geodeticNode_tells (keyword : String) (given : GeodeticCrs) :
    (geodeticNode keyword given).Tells (losses given.objects) := by
  have tells : (geodeticNode keyword given).Tells
      (losses (given.datum.toList.flatMap GeodeticDatum.objects ++
          given.ensemble.toList.flatMap DatumEnsemble.geodeticObjects) ∪
        (losses (given.coordinateSystem.toList.flatMap CoordinateSystem.objects) ∪
          {notice | notice ∈ given.metadata.notices})) := by
    rw [geodeticNode, ← bind_assoc]
    exact (geodeticReference_tells given).bind fun _ _ =>
      (optionalCoordinateSystem_tells _).bind fun _ _ => (metadata_tells _).map _
  refine tells.congr ?_
  rw [GeodeticCrs.objects, losses_append, losses_append, losses_append, losses_cons, losses_system]
  ext notice
  simp only [Set.mem_union]
  tauto

theorem geodetic_tells (given : GeodeticCrs) : (geodetic given).Tells (losses given.objects) := by
  unfold geodetic
  split
  · exact geodeticNode_tells _ given
  · exact .fail _ _

theorem projected_tells (given : ProjectedCrs) : (projected given).Tells (losses given.objects) := by
  refine ((geodeticNode_tells _ given.base).bind fun _ _ =>
    (conversion_tells given.conversion).bind fun _ _ =>
      (coordinateSystem_tells given.coordinateSystem).bind fun _ _ =>
        (metadata_tells given.metadata).map _).congr ?_
  rw [ProjectedCrs.objects, losses_append, losses_append, losses_cons, losses_system]
  ext notice
  simp only [Set.mem_union]
  tauto

theorem vertical_tells (given : VerticalCrs) : (vertical given).Tells (losses given.objects) := by
  have tells : (vertical given).Tells
      (losses (given.datum.toList.map .verticalDatum ++ given.ensemble.toList.map .ensemble) ∪
        (losses given.coordinateSystem.objects ∪ {notice | notice ∈ given.metadata.notices})) := by
    rw [vertical, ← bind_assoc]
    exact (verticalReference_tells given).bind fun _ _ =>
      (coordinateSystem_tells _).bind fun _ _ => (metadata_tells _).map _
  refine tells.congr ?_
  rw [VerticalCrs.objects, losses_append, losses_append, losses_append, losses_cons, losses_system]
  ext notice
  simp only [Set.mem_union]
  tauto

theorem crs_tells (given : CrsText.Crs) : (crs given).Tells (losses given.objects) := by
  induction given with
  | geodetic given => exact geodetic_tells given
  | derivedGeodetic given => exact .fail _ _
  | projected given => exact projected_tells given
  | vertical given => exact vertical_tells given
  | compound name components common ih =>
    rw [crs, crsList_eq_mapM]
    refine ((Tells.mapM ih).bind fun _ _ => (metadata_tells common).map _).congr ?_
    rw [Crs.objects, Crs.objectsOfAll_eq_flatMap, losses_cons, losses_system, losses_flatMap,
      Set.union_comm]
  | bound source target transformation => exact .fail _ _
  | unsupported typeName => exact .fail _ _

end Wkt1

end CrsText
