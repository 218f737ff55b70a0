import CrsText.Proofs.Definition.Figure
import CrsText.Proofs.Wkt.Decimal
import CrsText.Proofs.Wkt2.Derivation

/-! The numbers that the dialect of 2019 writes for a system without infinite numbers are decimal, unless
the flattening of a sphere is among them.
-/

set_option autoImplicit false

namespace CrsText

namespace Wkt2

open Token (isDecimal_rounded_iff isDecimal_copied_iff isDecimal_plain_iff isDecimal_integer)

-- One lemma for each function that writes items; the numbers in them are those of its argument.
theorem boundingBox_isDecimal {box : BoundingBox} (finite : box.IsFinite) :
    (boundingBox box).IsDecimal := by
  simp [boundingBox, isDecimal_rounded_iff, finite.south, finite.west, finite.north, finite.east]

theorem usage_isDecimal {given : Usage} (finite : given.IsFinite) : (usage given).IsDecimal := by
  simp only [Usage.IsFinite, Option.mem_def] at finite
  simp +contextual [usage, boundingBox_isDecimal, finite]

theorem code_isDecimal {given : Code} (finite : given.IsFinite) : (code given).IsDecimal := by
  cases given with
  | integer value => exact (Item.isDecimal_token _).mpr (isDecimal_integer value)
  | float value => exact (Item.isDecimal_token _).mpr ((isDecimal_plain_iff value).mpr finite)
  | text value => exact Item.isDecimal_text value

theorem identifier_isDecimal {given : Identifier} (finite : given.IsFinite) :
    (identifier given).IsDecimal := by
  simp [identifier, code_isDecimal finite.code]

theorem metadata_allDecimal {given : Metadata} (finite : given.IsFinite) :
    Item.AllDecimal (metadata given) := by
  have usages := finite.effectiveUsages
  have identifiers := finite.effectiveIdentifiers
  simp +contextual [metadata, remark, usage_isDecimal, identifier_isDecimal, usages, identifiers]

theorem unitNode_isDecimal {keyword : String} (ordinary : keyword ∉ Item.wordKeywords)
    {given : ResolvedUnit} (finite : given.IsFinite) : (unitNode keyword given).IsDecimal := by
  have described : Item.AllDecimal (given.metadata.elim [] metadata) := by
    cases present : given.metadata with
    | none => exact Item.allDecimal_nil
    | some common => exact metadata_allDecimal (finite.metadata common present)
  rw [unitNode, Item.isDecimal_named ordinary]
  simp [isDecimal_rounded_iff, finite.factor, described]

theorem unit_isDecimal {given : MeasureUnit} (finite : given.IsFinite) {item : Item}
    (written : unit given = .ok item) : item.IsDecimal := by
  simp only [unit, Dialect.unitKeyword, bind_eq_ok, pure_eq_ok] at written
  obtain ⟨resolved, found, keyword, ⟨kind, -, rfl⟩, rfl⟩ := written
  exact unitNode_isDecimal kind.keyword_notMem (finite.resolve found)

theorem optionalUnit_allDecimal {given : Option MeasureUnit} (finite : ∀ unit ∈ given, unit.IsFinite)
    {items : List Item} (written : optionalUnit given = .ok items) : Item.AllDecimal items := by
  apply Item.allDecimal_elim fun value member _ => unit_isDecimal (finite value member)
  cases given <;> exact written

theorem longitude_allDecimal {given : Measure} (finite : given.IsFinite) {items : List Item}
    (written : longitude given = .ok items) : Item.AllDecimal items := by
  simp only [longitude, bind_eq_ok, pure_eq_ok] at written
  obtain ⟨quantity, found, rfl⟩ := written
  have quantityFinite := finite.inUnit found
  simp [isDecimal_rounded_iff, quantityFinite.value,
    unitNode_isDecimal (UnitKind.keyword_notMem _) quantityFinite.unit]

/-- Only the flattening is not a number of the ellipsoid itself. -/
theorem ellipsoid_isDecimal_iff {given : Ellipsoid} (finite : given.IsFinite) {item : Item}
    (written : ellipsoid given = .ok item) : item.IsDecimal ↔ ¬ given.HasEqualAxes := by
  simp only [ellipsoid, bind_eq_ok, pure_eq_ok] at written
  obtain ⟨⟨semiMajor, flattening⟩, found, rfl⟩ := written
  obtain ⟨semiMajorFinite, flattened⟩ := finite.figure found
  simp [isDecimal_rounded_iff, semiMajorFinite.value, flattened,
    unitNode_isDecimal (UnitKind.keyword_notMem _) semiMajorFinite.unit,
    metadata_allDecimal finite.metadata]

theorem primeMeridian_isDecimal {given : PrimeMeridian} (finite : given.IsFinite) {item : Item}
    (written : primeMeridian given = .ok item) : item.IsDecimal := by
  simp only [primeMeridian, bind_eq_ok, pure_eq_ok] at written
  obtain ⟨items, longitudeWritten, rfl⟩ := written
  simp [longitude_allDecimal finite.longitude longitudeWritten, metadata_allDecimal finite.metadata]

theorem optionalPrimeMeridian_allDecimal {given : Option PrimeMeridian}
    (finite : ∀ meridian ∈ given, meridian.IsFinite) {items : List Item}
    (written : optionalPrimeMeridian given = .ok items) : Item.AllDecimal items := by
  apply Item.allDecimal_elim fun value member _ => primeMeridian_isDecimal (finite value member)
  cases given <;> exact written

theorem frameEpoch_allDecimal {isDynamic : Bool} {epoch : Option Float}
    (finite : ∀ given ∈ epoch, given.isFinite) {datum : String} {items : List Item}
    (written : frameEpoch isDynamic epoch datum = .ok items) : Item.AllDecimal items := by
  unfold frameEpoch at written
  split at written <;> cases written
  · exact Item.allDecimal_nil
  · simp [isDecimal_copied_iff, finite _ rfl]

theorem geodeticDatum_allDecimal_iff {given : GeodeticDatum} (finite : given.IsFinite)
    {items : List Item} (written : geodeticDatum given = .ok items) :
    Item.AllDecimal items ↔ ¬ (Reference.datum given).HasSphere := by
  simp only [geodeticDatum, bind_eq_ok, pure_eq_ok, Ellipsoid.require_eq_ok] at written
  obtain ⟨dynamic, framed, figure, present, _, figureWritten, _, meridianWritten, rfl⟩ := written
  have figureFinite := finite.ellipsoid figure present
  simp [Reference.HasSphere, present, ellipsoid_isDecimal_iff figureFinite figureWritten,
    frameEpoch_allDecimal finite.referenceEpoch framed, metadata_allDecimal finite.metadata,
    optionalPrimeMeridian_allDecimal finite.primeMeridian meridianWritten]

theorem verticalDatum_allDecimal {given : VerticalDatum} (finite : given.IsFinite)
    {items : List Item} (written : verticalDatum given = .ok items) : Item.AllDecimal items := by
  simp only [verticalDatum, bind_eq_ok, pure_eq_ok] at written
  obtain ⟨dynamic, framed, rfl⟩ := written
  simp [frameEpoch_allDecimal finite.referenceEpoch framed, metadata_allDecimal finite.metadata]

theorem ensembleMember_isDecimal {given : EnsembleMember} (finite : given.IsFinite) :
    (ensembleMember given).IsDecimal := by
  simp [ensembleMember, metadata_allDecimal finite.metadata]

/-- The accuracy of an ensemble is no number but a string. -/
theorem ensembleNode_isDecimal_iff {given : DatumEnsemble} (finite : given.IsFinite)
    (figure : List Item) : (ensembleNode given figure).IsDecimal ↔ Item.AllDecimal figure := by
  have members := finite.members
  have accuracy : ∀ content, (Item.node "ENSEMBLEACCURACY" [.token content]).IsDecimal :=
    fun content => (Item.isDecimal_node_word (by decide) content []).mpr Item.allDecimal_nil
  simp +contextual [ensembleNode, ensembleMember_isDecimal, members, accuracy,
    metadata_allDecimal finite.metadata]

theorem geodeticReference_allDecimal_iff {given : Reference GeodeticDatum}
    (finite : given.IsFinite GeodeticDatum.IsFinite) {items : List Item}
    (written : geodeticReference given = .ok items) :
    Item.AllDecimal items ↔ ¬ given.HasSphere := by
  cases given with
  | datum datum => exact geodeticDatum_allDecimal_iff finite written
  | ensemble ensemble =>
    simp only [geodeticReference, geodeticEnsemble, bind_eq_ok, pure_eq_ok,
      Ellipsoid.require_eq_ok] at written
    obtain ⟨_, ⟨figure, present, _, figureWritten, rfl⟩, rfl⟩ := written
    have several : ensemble.IsFinite := finite
    have figureFinite := several.ellipsoid figure present
    simp [Reference.HasSphere, present, ensembleNode_isDecimal_iff several,
      ellipsoid_isDecimal_iff figureFinite figureWritten]

theorem verticalReference_allDecimal {given : Reference VerticalDatum}
    (finite : given.IsFinite VerticalDatum.IsFinite) {items : List Item}
    (written : verticalReference given = .ok items) : Item.AllDecimal items := by
  cases given with
  | datum datum => exact verticalDatum_allDecimal finite written
  | ensemble ensemble =>
    cases written
    have several : ensemble.IsFinite := finite
    simp [ensembleNode_isDecimal_iff several]

theorem meridian_isDecimal {given : Meridian} (finite : given.IsFinite) {item : Item}
    (written : meridian given = .ok item) : item.IsDecimal := by
  simp only [meridian, bind_eq_ok, pure_eq_ok] at written
  obtain ⟨items, longitudeWritten, rfl⟩ := written
  simp [longitude_allDecimal finite.longitude longitudeWritten, metadata_allDecimal finite.metadata]

theorem optionalMeridian_allDecimal {given : Option Meridian}
    (finite : ∀ meridian ∈ given, meridian.IsFinite) {items : List Item}
    (written : optionalMeridian given = .ok items) : Item.AllDecimal items := by
  apply Item.allDecimal_elim fun value member _ => meridian_isDecimal (finite value member)
  cases given <;> exact written

theorem axis_isDecimal {given : Axis} (finite : given.IsFinite) {item : Item}
    (written : axis given = .ok item) : item.IsDecimal := by
  simp only [axis, bind_eq_ok, pure_eq_ok] at written
  obtain ⟨along, alongWritten, unit, unitWritten, rfl⟩ := written
  rw [List.cons_append, Item.isDecimal_named_word (by decide)]
  simp [optionalMeridian_allDecimal finite.meridian alongWritten,
    optionalUnit_allDecimal finite.unit unitWritten]

theorem coordinateSystem_allDecimal {given : CoordinateSystem} (finite : given.IsFinite)
    {items : List Item} (written : coordinateSystem given = .ok items) : Item.AllDecimal items := by
  unfold coordinateSystem at written
  split at written
  · cases written
  · simp only [bind_eq_ok, pure_eq_ok] at written
    obtain ⟨axes, axesWritten, rfl⟩ := written
    have each := Item.allDecimal_mapM (fun axis member _ => axis_isDecimal (finite axis member))
      axesWritten
    rw [Item.allDecimal_cons, Item.isDecimal_node_word (by decide)]
    simp [isDecimal_integer, each]

theorem parameter_isDecimal {given : Parameter} (finite : given.IsFinite) {item : Item}
    (written : parameter given = .ok item) : item.IsDecimal := by
  have valueFinite := finite.value
  unfold parameter at written
  split at written
  · cases written
    simp [metadata_allDecimal finite.metadata]
  · next value isNumber =>
    rw [isNumber] at valueFinite
    simp only [bind_eq_ok, pure_eq_ok] at written
    obtain ⟨unit, unitWritten, rfl⟩ := written
    simp [(isDecimal_rounded_iff value).mpr valueFinite, metadata_allDecimal finite.metadata,
      optionalUnit_allDecimal finite.unit unitWritten]

theorem operation_isDecimal {keyword : String} (ordinary : keyword ∉ Item.wordKeywords)
    {given : Operation} (finite : given.IsFinite) {item : Item}
    (written : operation keyword given = .ok item) : item.IsDecimal := by
  simp only [operation, bind_eq_ok, pure_eq_ok] at written
  obtain ⟨parameters, parametersWritten, rfl⟩ := written
  have each := Item.allDecimal_mapM
    (fun parameter member _ => parameter_isDecimal (finite.parameters parameter member)) parametersWritten
  rw [Item.isDecimal_named ordinary]
  simp [method, each, metadata_allDecimal finite.method.metadata, metadata_allDecimal finite.metadata]

/-- A coordinate system adds no numbers that are not decimal. -/
theorem geodeticItems_allDecimal_iff {given : GeodeticCrs} (finite : given.IsFinite)
    {system : Option CoordinateSystem} (systemFinite : ∀ given ∈ system, given.IsFinite)
    {items : List Item} (written : geodeticItems given system = .ok items) :
    Item.AllDecimal items ↔ ¬ given.HasSphere := by
  simp only [geodeticItems_eq, bind_eq_ok, pure_eq_ok] at written
  obtain ⟨selected, isSelected, reference, referenceWritten, axes, axesWritten, rfl⟩ := written
  have selectedFinite := Reference.isFinite_of_select finite.datum finite.ensemble isSelected
  have axesDecimal : Item.AllDecimal axes := by
    cases system with
    | none =>
      cases axesWritten
      exact Item.allDecimal_nil
    | some system => exact coordinateSystem_allDecimal (systemFinite system rfl) axesWritten
  simp [given.hasSphere_iff isSelected, geodeticReference_allDecimal_iff selectedFinite referenceWritten,
    axesDecimal, metadata_allDecimal finite.metadata]

theorem geodetic_isDecimal_iff {given : GeodeticCrs} (finite : given.IsFinite) {item : Item}
    (written : geodetic given = .ok item) : item.IsDecimal ↔ ¬ given.HasSphere := by
  unfold geodetic at written
  split at written
  · next system present =>
    simp only [bind_eq_ok, pure_eq_ok] at written
    obtain ⟨items, itemsWritten, rfl⟩ := written
    have systemFinite := finite.coordinateSystem
    rw [present] at systemFinite
    rw [Item.isDecimal_named (Dialect.geodeticKeyword_notMem _ _)]
    exact geodeticItems_allDecimal_iff finite systemFinite itemsWritten
  · cases written

theorem base_isDecimal_iff {kind : GeodeticKind} {given : GeodeticCrs} (finite : given.IsFinite)
    {item : Item} (written : base kind given = .ok item) : item.IsDecimal ↔ ¬ given.HasSphere := by
  simp only [base, bind_eq_ok, pure_eq_ok] at written
  obtain ⟨items, itemsWritten, rfl⟩ := written
  rw [Item.isDecimal_named (Dialect.baseKeyword_notMem _ _)]
  exact geodeticItems_allDecimal_iff finite (by simp) itemsWritten

theorem derivedGeodetic_isDecimal_iff {given : DerivedGeodeticCrs} (finite : given.IsFinite)
    {item : Item} (written : derivedGeodetic given = .ok item) :
    item.IsDecimal ↔ ¬ given.base.HasSphere := by
  simp only [derivedGeodetic, bind_eq_ok, pure_eq_ok] at written
  obtain ⟨origin, originWritten, conversion, conversionWritten, axes, axesWritten, rfl⟩ := written
  rw [Item.isDecimal_named (Dialect.geodeticKeyword_notMem _ _)]
  simp [base_isDecimal_iff finite.base originWritten,
    operation_isDecimal (by decide) finite.conversion conversionWritten,
    coordinateSystem_allDecimal finite.coordinateSystem axesWritten, metadata_allDecimal finite.metadata]

theorem projected_isDecimal_iff {given : ProjectedCrs} (finite : given.IsFinite) {item : Item}
    (written : projected given = .ok item) : item.IsDecimal ↔ ¬ given.base.HasSphere := by
  simp only [projected, bind_eq_ok, pure_eq_ok] at written
  obtain ⟨origin, originWritten, conversion, conversionWritten, axes, axesWritten, rfl⟩ := written
  simp [base_isDecimal_iff finite.base originWritten,
    operation_isDecimal (by decide) finite.conversion conversionWritten,
    coordinateSystem_allDecimal finite.coordinateSystem axesWritten, metadata_allDecimal finite.metadata]

theorem vertical_isDecimal {given : VerticalCrs} (finite : given.IsFinite) {item : Item}
    (written : vertical given = .ok item) : item.IsDecimal := by
  simp only [vertical, bind_eq_ok, pure_eq_ok] at written
  obtain ⟨selected, isSelected, reference, referenceWritten, axes, axesWritten, rfl⟩ := written
  have selectedFinite := Reference.isFinite_of_select finite.datum finite.ensemble isSelected
  simp [verticalReference_allDecimal selectedFinite referenceWritten,
    coordinateSystem_allDecimal finite.coordinateSystem axesWritten, metadata_allDecimal finite.metadata]

theorem crs_isDecimal_iff {given : CrsText.Crs} (finite : given.IsFinite) {item : Item}
    (written : crs given = .ok item) : item.IsDecimal ↔ ¬ given.HasSphere := by
  induction finite generalizing item with
  | geodetic finite => simpa using geodetic_isDecimal_iff finite written
  | derivedGeodetic finite => simpa using derivedGeodetic_isDecimal_iff finite written
  | projected finite => simpa using projected_isDecimal_iff finite written
  | vertical finite => simpa using vertical_isDecimal finite written
  | compound _ common ih =>
    simp only [crs, crsList_eq_mapM, bind_eq_ok, pure_eq_ok] at written
    obtain ⟨items, itemsWritten, rfl⟩ := written
    have each := Item.allDecimal_mapM_iff (fun component member _ => ih component member) itemsWritten
    simp [each, metadata_allDecimal common]
  | bound _ _ transformation sourceIh targetIh =>
    simp only [crs, bind_eq_ok, pure_eq_ok] at written
    obtain ⟨first, sourceWritten, second, targetWritten, third, operationWritten, rfl⟩ := written
    simp [sourceIh sourceWritten, targetIh targetWritten,
      operation_isDecimal (by decide) transformation operationWritten]
  | unsupported typeName => cases written

end Wkt2

end CrsText
