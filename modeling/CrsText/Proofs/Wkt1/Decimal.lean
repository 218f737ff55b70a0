import CrsText.Proofs.Definition.Figure
import CrsText.Proofs.Wkt.Decimal
import CrsText.Proofs.Wkt1.Derivation

/-! The numbers that the older dialect writes for a system without infinite numbers are decimal, unless
the flattening of a sphere is among them.
-/

set_option autoImplicit false

namespace CrsText

namespace Wkt1

open Token (isDecimal_rounded_iff)

-- One lemma for each function that writes items; the numbers in them are those of its argument.
theorem metadata_allDecimal {given : Metadata} {items : List Item}
    (written : (metadata given).result = .ok items) : Item.AllDecimal items := by
  rw [metadata_result] at written
  cases written
  simp [authority]

theorem unit_isDecimal {given : MeasureUnit} (finite : given.IsFinite) {item : Item}
    (written : (unit given).result = .ok item) : item.IsDecimal := by
  simp only [unit, Report.result_bind, Report.result_lift, bind_eq_ok] at written
  obtain ⟨resolved, found, keyword, same, rest, described, written⟩ := written
  cases same
  cases written
  simp [isDecimal_rounded_iff, (finite.resolve found).factor, metadata_allDecimal described]

/-- Only the flattening is not a number of the ellipsoid itself. -/
theorem ellipsoid_isDecimal_iff {given : Ellipsoid} (finite : given.IsFinite) {item : Item}
    (written : (ellipsoid given).result = .ok item) : item.IsDecimal ↔ ¬ given.HasEqualAxes := by
  simp only [ellipsoid, Report.result_bind, Report.result_lift, bind_eq_ok] at written
  obtain ⟨⟨semiMajor, flattening⟩, found, written⟩ := written
  obtain ⟨semiMajorFinite, flattened⟩ := finite.figure found
  split at written
  · cases written
  · simp only [Report.result_bind, bind_eq_ok] at written
    obtain ⟨rest, described, written⟩ := written
    cases written
    simp [isDecimal_rounded_iff, semiMajorFinite.value, flattened, metadata_allDecimal described]

theorem primeMeridian_isDecimal {given : PrimeMeridian} (finite : given.IsFinite) {item : Item}
    (written : (primeMeridian given).result = .ok item) : item.IsDecimal := by
  simp only [primeMeridian, Report.result_bind, Report.result_lift, bind_eq_ok] at written
  obtain ⟨longitude, found, rest, described, written⟩ := written
  cases written
  simp [isDecimal_rounded_iff, (finite.longitude.inUnit found).value, metadata_allDecimal described]

theorem datumNode_allDecimal_iff {name : String} {figure : Ellipsoid} (finite : figure.IsFinite)
    {common : Metadata} {meridian : Option PrimeMeridian}
    (meridianFinite : ∀ given ∈ meridian, given.IsFinite) {items : List Item}
    (written : (datumNode name figure common meridian).result = .ok items) :
    Item.AllDecimal items ↔ ¬ figure.HasEqualAxes := by
  simp only [datumNode, Report.result_bind, bind_eq_ok] at written
  obtain ⟨spheroid, figureWritten, rest, described, origin, meridianWritten, written⟩ := written
  cases written
  have originFinite : (meridian.getD .greenwich).IsFinite := by
    cases meridian with
    | none => exact PrimeMeridian.isFinite_greenwich
    | some meridian => exact meridianFinite meridian rfl
  simp [ellipsoid_isDecimal_iff finite figureWritten, metadata_allDecimal described,
    primeMeridian_isDecimal originFinite meridianWritten]

theorem geodeticReference_allDecimal_iff {given : Reference GeodeticDatum}
    (finite : given.IsFinite GeodeticDatum.IsFinite) {items : List Item}
    (written : (geodeticReference given).result = .ok items) :
    Item.AllDecimal items ↔ ¬ given.HasSphere := by
  cases given with
  | datum datum =>
    have single : datum.IsFinite := finite
    simp only [geodeticReference, geodeticDatum, Report.result_bind, Report.result_lift, bind_eq_ok,
      Ellipsoid.require_eq_ok] at written
    obtain ⟨-, -, figure, present, written⟩ := written
    simp [Reference.HasSphere, present, datumNode_allDecimal_iff (single.ellipsoid figure present)
      single.primeMeridian written]
  | ensemble ensemble =>
    have several : ensemble.IsFinite := finite
    simp only [geodeticReference, geodeticEnsemble, Report.result_bind, Report.result_lift,
      bind_eq_ok, Ellipsoid.require_eq_ok] at written
    obtain ⟨figure, present, -, -, written⟩ := written
    simp [Reference.HasSphere, present, datumNode_allDecimal_iff (several.ellipsoid figure present)
      (by simp) written]

/-- The type of a vertical datum is a number, the same for all. -/
theorem verticalNode_allDecimal {name : String} {common : Metadata} {items : List Item}
    (written : (verticalNode name common).result = .ok items) : Item.AllDecimal items := by
  simp only [verticalNode, Report.result_bind, bind_eq_ok] at written
  obtain ⟨rest, described, written⟩ := written
  cases written
  have type : CrsText.IsDecimal verticalDatumType := Token.isDecimal_integer 2005
  simp [type, metadata_allDecimal described]

theorem verticalReference_allDecimal {given : Reference VerticalDatum} {items : List Item}
    (written : (verticalReference given).result = .ok items) : Item.AllDecimal items := by
  cases given with
  | datum datum =>
    simp only [verticalReference, Report.result_bind, bind_eq_ok] at written
    obtain ⟨-, -, written⟩ := written
    exact verticalNode_allDecimal written
  | ensemble ensemble =>
    simp only [verticalReference, Report.result_bind, bind_eq_ok] at written
    obtain ⟨-, -, written⟩ := written
    exact verticalNode_allDecimal written

theorem axis_isDecimal (given : Axis) : (axis given).IsDecimal :=
  (Item.isDecimal_named_word (by decide) _ _ []).mpr Item.allDecimal_nil

theorem coordinateSystem_allDecimal {given : CoordinateSystem} (finite : given.IsFinite)
    {items : List Item} (written : (coordinateSystem given).result = .ok items) :
    Item.AllDecimal items := by
  unfold coordinateSystem at written
  split at written
  · cases written
  · next first rest axes =>
    simp only [Report.result_bind, bind_eq_ok] at written
    obtain ⟨unit, unitWritten, written⟩ := written
    cases written
    have firstFinite : first.IsFinite := finite first (by simp [axes])
    have unitDecimal : Item.AllDecimal unit := by
      cases present : first.unit with
      | none =>
        rw [present] at unitWritten
        cases unitWritten
        exact Item.allDecimal_nil
      | some given =>
        rw [present] at unitWritten
        simp only [axisUnit, Report.result_bind, bind_eq_ok] at unitWritten
        obtain ⟨item, itemWritten, same⟩ := unitWritten
        cases same
        simpa using unit_isDecimal (firstFinite.unit given present) itemWritten
    simp [unitDecimal, axis_isDecimal]

theorem optionalCoordinateSystem_allDecimal {given : Option CoordinateSystem}
    (finite : ∀ system ∈ given, system.IsFinite) {items : List Item}
    (written : (optionalCoordinateSystem given).result = .ok items) : Item.AllDecimal items := by
  cases given with
  | none =>
    cases written
    exact Item.allDecimal_nil
  | some given => exact coordinateSystem_allDecimal (finite given rfl) written

theorem parameter_isDecimal {given : Parameter} (finite : given.IsFinite) {item : Item}
    (written : (parameter given).result = .ok item) : item.IsDecimal := by
  have valueFinite := finite.value
  unfold parameter at written
  split at written
  · simp only [Report.result_bind, bind_eq_ok] at written
    obtain ⟨rest, described, written⟩ := written
    cases written
    simp [metadata_allDecimal described]
  · next value isNumber =>
    rw [isNumber] at valueFinite
    cases written
    simpa using (isDecimal_rounded_iff value).mpr valueFinite

theorem conversion_allDecimal {given : Operation} (finite : given.IsFinite) {items : List Item}
    (written : (conversion given).result = .ok items) : Item.AllDecimal items := by
  simp only [conversion, Report.result_bind, Report.result_mapM, bind_eq_ok] at written
  obtain ⟨parameters, parametersWritten, written⟩ := written
  cases written
  have each := Item.allDecimal_mapM
    (fun parameter member _ => parameter_isDecimal (finite.parameters parameter member)) parametersWritten
  simp [each]

theorem geodeticNode_isDecimal_iff {keyword : String} (ordinary : keyword ∉ Item.wordKeywords)
    {given : GeodeticCrs} (finite : given.IsFinite) {item : Item}
    (written : (geodeticNode keyword given).result = .ok item) :
    item.IsDecimal ↔ ¬ given.HasSphere := by
  simp only [geodeticNode, Report.result_bind, Report.result_lift, bind_eq_ok] at written
  obtain ⟨selected, isSelected, reference, referenceWritten, axes, axesWritten, rest, described,
    written⟩ := written
  cases written
  have selectedFinite := Reference.isFinite_of_select finite.datum finite.ensemble isSelected
  rw [Item.isDecimal_named ordinary]
  simp [given.hasSphere_iff isSelected, geodeticReference_allDecimal_iff selectedFinite referenceWritten,
    optionalCoordinateSystem_allDecimal finite.coordinateSystem axesWritten,
    metadata_allDecimal described]

theorem geodetic_isDecimal_iff {given : GeodeticCrs} (finite : given.IsFinite) {item : Item}
    (written : (geodetic given).result = .ok item) : item.IsDecimal ↔ ¬ given.HasSphere := by
  unfold geodetic at written
  split at written
  · exact geodeticNode_isDecimal_iff (Dialect.geodeticKeyword_notMem _ _) finite written
  · cases written

theorem projected_isDecimal_iff {given : ProjectedCrs} (finite : given.IsFinite) {item : Item}
    (written : (projected given).result = .ok item) : item.IsDecimal ↔ ¬ given.base.HasSphere := by
  simp only [projected, Report.result_bind, bind_eq_ok] at written
  obtain ⟨base, baseWritten, conversion, conversionWritten, axes, axesWritten, rest, described,
    written⟩ := written
  cases written
  simp [geodeticNode_isDecimal_iff (Dialect.baseKeyword_notMem _ _) finite.base baseWritten,
    conversion_allDecimal finite.conversion conversionWritten,
    coordinateSystem_allDecimal finite.coordinateSystem axesWritten, metadata_allDecimal described]

theorem vertical_isDecimal {given : VerticalCrs} (finite : given.IsFinite) {item : Item}
    (written : (vertical given).result = .ok item) : item.IsDecimal := by
  simp only [vertical, Report.result_bind, Report.result_lift, bind_eq_ok] at written
  obtain ⟨selected, -, reference, referenceWritten, axes, axesWritten, rest, described, written⟩ :=
    written
  cases written
  simp [verticalReference_allDecimal referenceWritten,
    coordinateSystem_allDecimal finite.coordinateSystem axesWritten, metadata_allDecimal described]

theorem crs_isDecimal_iff {given : CrsText.Crs} (finite : given.IsFinite) {item : Item}
    (written : (crs given).result = .ok item) : item.IsDecimal ↔ ¬ given.HasSphere := by
  induction finite generalizing item with
  | geodetic finite => simpa using geodetic_isDecimal_iff finite written
  | derivedGeodetic => cases written
  | projected finite => simpa using projected_isDecimal_iff finite written
  | vertical finite => simpa using vertical_isDecimal finite written
  | compound _ _ ih =>
    simp only [crs, crsList_eq_mapM, Report.result_bind, Report.result_mapM, bind_eq_ok] at written
    obtain ⟨items, itemsWritten, rest, described, written⟩ := written
    cases written
    have each := Item.allDecimal_mapM_iff (fun component member _ => ih component member) itemsWritten
    simp [each, metadata_allDecimal described]
  | bound => cases written
  | unsupported typeName => cases written

end Wkt1

end CrsText
