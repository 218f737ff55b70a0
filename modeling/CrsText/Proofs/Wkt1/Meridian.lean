import CrsText.Proofs.Alike
import CrsText.Proofs.Definition.Meridian
import CrsText.Proofs.Definition.Resolution
import CrsText.Proofs.Wkt.Nodes
import CrsText.Proofs.Wkt1.Derivation

/-! Where the older dialect writes a geodetic system, and what stands in it. The longitude of the prime
meridian is a bare number, whatever its unit, and behind it follows the unit of the first axis.
-/

set_option autoImplicit false

namespace CrsText

namespace Wkt1

variable {keyword : String} {given : GeodeticCrs} {item : Item}

theorem geodeticNode_named (written : (geodeticNode keyword given).result = .ok item) :
    ∃ items, item = .named keyword given.name items := by
  simp only [geodeticNode, Report.result_bind, bind_eq_ok] at written
  obtain ⟨_, -, reference, -, system, -, common, -, written⟩ := written
  cases written
  exact ⟨_, rfl⟩

/-- A geodetic system is written within every system that holds it, under one of the two keywords. -/
theorem exists_mem_nodes {whole : CrsText.Crs} (holds : whole.Holds given)
    (written : (crs whole).result = .ok item) :
    ∃ (kind : GeodeticKind) (node : Item),
      (geodeticNode (Dialect.wkt1.geodeticKeyword kind) given).result = .ok node ∧
        node ∈ item.nodes (Dialect.wkt1.geodeticKeyword kind) := by
  induction holds generalizing item with
  | geodetic =>
    simp only [crs, geodetic] at written
    split at written
    · obtain ⟨items, rfl⟩ := geodeticNode_named written
      exact ⟨given.kind, _, written, by simp⟩
    · cases written
  | @base projection same =>
    simp only [crs, projected, Report.result_bind, bind_eq_ok] at written
    obtain ⟨node, nodeWritten, conversion, -, axes, -, common, -, written⟩ := written
    cases written
    rw [same, baseKeyword_eq] at nodeWritten
    obtain ⟨items, rfl⟩ := geodeticNode_named nodeWritten
    have apart : "PROJCS" ≠ Dialect.wkt1.geodeticKeyword projection.baseKind := by
      cases projection.baseKind <;> decide
    exact ⟨projection.baseKind, _, nodeWritten, by simp [apart]⟩
  | component inside _ ih =>
    simp only [crs, crsList_eq_mapM, Report.result_bind, Report.result_mapM, bind_eq_ok] at written
    obtain ⟨items, itemsWritten, common, -, written⟩ := written
    cases written
    obtain ⟨component, member, componentWritten⟩ := exists_result_of_mem_mapM itemsWritten inside
    obtain ⟨kind, node, nodeWritten, within⟩ := ih componentWritten
    have apart : "COMPD_CS" ≠ Dialect.wkt1.geodeticKeyword kind := by cases kind <;> decide
    refine ⟨kind, node, nodeWritten, ?_⟩
    rw [Item.nodes_named apart, Item.nodesOfAll_append, List.mem_append, Item.nodesOfAll_eq_flatMap,
      List.mem_flatMap]
    exact .inl ⟨component, member, within⟩

theorem primeMeridian_named {meridian : PrimeMeridian}
    (written : (primeMeridian meridian).result = .ok item) :
    ∃ longitude common, meridian.longitude.inUnit .degree = .ok longitude ∧
      item = .named "PRIMEM" meridian.name (.token (Token.rounded longitude.value) :: common) := by
  simp only [primeMeridian, Report.result_bind, Report.result_lift, bind_eq_ok] at written
  obtain ⟨longitude, known, common, -, written⟩ := written
  cases written
  exact ⟨longitude, common, known, rfl⟩

theorem unit_named {unit : MeasureUnit} (written : (Wkt1.unit unit).result = .ok item) :
    ∃ resolved common, unit.resolve = .ok resolved ∧
      item = .named "UNIT" resolved.name (.token (Token.rounded resolved.factor) :: common) := by
  simp only [Wkt1.unit, Report.result_bind, Report.result_lift, bind_eq_ok] at written
  obtain ⟨resolved, found, keyword, same, common, -, written⟩ := written
  cases same
  cases written
  exact ⟨resolved, common, found, rfl⟩

/-- The datum and the prime meridian that it names. -/
theorem geodeticReference_items {meridian : PrimeMeridian} {reference : Reference GeodeticDatum}
    {items : List Item} (counted : given.primeMeridian = some meridian)
    (selected : Reference.select given.name given.datum given.ensemble = .ok reference)
    (written : (geodeticReference reference).result = .ok items) :
    ∃ name inside origin, items = [.named "DATUM" name inside, origin] ∧
      (primeMeridian meridian).result = .ok origin := by
  obtain ⟨datum, present, named⟩ := Option.bind_eq_some_iff.mp counted
  rcases Reference.select_cases selected with ⟨single, one, -, rfl⟩ | ⟨several, none, -, rfl⟩
  · rw [present] at one
    cases one
    simp only [geodeticReference, geodeticDatum, datumNode, Report.result_bind, bind_eq_ok,
      named, Option.getD_some] at written
    obtain ⟨-, -, figure, -, spheroid, -, common, -, origin, originWritten, written⟩ := written
    cases written
    exact ⟨_, _, origin, rfl, originWritten⟩
  · rw [present] at none
    cases none

/-- The unit of the first axis comes before the axes. -/
theorem coordinateSystem_items {unit : MeasureUnit} {items : List Item}
    (measured : given.axisUnit = some unit)
    (written : (optionalCoordinateSystem given.coordinateSystem).result = .ok items) :
    ∃ unitItem axes, items = unitItem :: axes ∧ (Wkt1.unit unit).result = .ok unitItem := by
  obtain ⟨⟨subtype, axes⟩, present, leads⟩ := Option.bind_eq_some_iff.mp measured
  obtain ⟨first, head, given⟩ := Option.bind_eq_some_iff.mp leads
  obtain ⟨rest, rfl⟩ := List.head?_eq_some_iff.mp head
  simp only [present, optionalCoordinateSystem, coordinateSystem, given, axisUnit,
    Report.result_bind, bind_eq_ok] at written
  obtain ⟨units, ⟨unitItem, unitWritten, same⟩, written⟩ := written
  cases same
  cases written
  exact ⟨unitItem, _, rfl, unitWritten⟩

/-- The number of the prime meridian is that of its longitude, and the unit behind it that of the first
axis. -/
theorem geodeticNode_items {meridian : PrimeMeridian} {unit : MeasureUnit}
    (counted : given.primeMeridian = some meridian) (measured : given.axisUnit = some unit)
    (written : (geodeticNode keyword given).result = .ok item) :
    ∃ longitude resolved datum inside common described rest,
      meridian.longitude.inUnit .degree = .ok longitude ∧ unit.resolve = .ok resolved ∧
      item = .named keyword given.name (.named "DATUM" datum inside ::
        .named "PRIMEM" meridian.name (.token (Token.rounded longitude.value) :: common) ::
        .named "UNIT" resolved.name (.token (Token.rounded resolved.factor) :: described) :: rest) := by
  simp only [geodeticNode, Report.result_bind, Report.result_lift, bind_eq_ok] at written
  obtain ⟨reference, selected, items, referenceWritten, system, systemWritten, others, -, written⟩ :=
    written
  cases written
  obtain ⟨datum, inside, origin, rfl, originWritten⟩ :=
    geodeticReference_items counted selected referenceWritten
  obtain ⟨unitItem, axes, rfl, unitWritten⟩ := coordinateSystem_items measured systemWritten
  obtain ⟨longitude, common, known, rfl⟩ := primeMeridian_named originWritten
  obtain ⟨resolved, described, found, rfl⟩ := unit_named unitWritten
  exact ⟨longitude, resolved, datum, inside, common, described, axes ++ others, known, found, by simp⟩

section Relabelled

variable {unit : MeasureUnit}

-- One lemma for each function that is given a prime meridian: what it writes stays the same when the
-- meridian gets another unit that can be looked up.
theorem primeMeridian_relabelled (resolvable : unit.Resolvable) {meridian : PrimeMeridian}
    (written : (primeMeridian meridian).result = .ok item) :
    (primeMeridian (meridian.relabelled unit)).result = .ok item := by
  obtain ⟨resolved, found⟩ := MeasureUnit.succeeds_resolve.mpr resolvable
  simp only [primeMeridian, Report.result_bind, Report.result_lift, bind_eq_ok] at written ⊢
  obtain ⟨longitude, known, common, described, same⟩ := written
  obtain ⟨value, -⟩ := Measure.inUnit_eq_ok.mp known
  rw [value] at same
  exact ⟨⟨meridian.longitude.value, resolved⟩, Measure.inUnit_eq_ok.mpr ⟨rfl, .inr ⟨unit, rfl, found⟩⟩,
    common, described, same⟩

theorem datumNode_relabelled (resolvable : unit.Resolvable) {name : String} {figure : Ellipsoid}
    {common : Metadata} {meridian : Option PrimeMeridian} {items : List Item}
    (written : (datumNode name figure common meridian).result = .ok items) :
    (datumNode name figure common (meridian.map (·.relabelled unit))).result = .ok items := by
  simp only [datumNode, Report.result_bind, bind_eq_ok] at written ⊢
  obtain ⟨spheroid, figureWritten, rest, described, origin, originWritten, same⟩ := written
  refine ⟨spheroid, figureWritten, rest, described, origin, ?_, same⟩
  cases meridian with
  | none => exact originWritten
  | some meridian => exact primeMeridian_relabelled resolvable originWritten

theorem geodeticDatum_relabelled (resolvable : unit.Resolvable) {datum : GeodeticDatum}
    {items : List Item} (written : (geodeticDatum datum).result = .ok items) :
    (geodeticDatum (datum.relabelled unit)).result = .ok items := by
  simp only [geodeticDatum, Report.result_bind, bind_eq_ok] at written ⊢
  obtain ⟨dropped, isDropped, figure, present, nodeWritten⟩ := written
  exact ⟨dropped, isDropped, figure, present, datumNode_relabelled resolvable nodeWritten⟩

theorem geodeticNode_relabelled (resolvable : unit.Resolvable)
    (written : (geodeticNode keyword given).result = .ok item) :
    (geodeticNode keyword (given.relabelled unit)).result = .ok item := by
  simp only [geodeticNode, Report.result_bind, Report.result_lift, bind_eq_ok] at written ⊢
  obtain ⟨selected, isSelected, reference, referenceWritten, behind⟩ := written
  rcases Reference.select_cases isSelected with ⟨single, one, none, rfl⟩ | ⟨several, none, one, rfl⟩
  · refine ⟨.datum (single.relabelled unit), ?_, reference, ?_, behind⟩
    · simp [GeodeticCrs.relabelled, Reference.select, one, none]
    · exact geodeticDatum_relabelled resolvable referenceWritten
  · refine ⟨.ensemble several, ?_, reference, referenceWritten, behind⟩
    simp [GeodeticCrs.relabelled, Reference.select, one, none]

theorem geodetic_relabelled (resolvable : unit.Resolvable)
    (written : (geodetic given).result = .ok item) :
    (geodetic (given.relabelled unit)).result = .ok item := by
  have system : (given.relabelled unit).coordinateSystem = given.coordinateSystem := rfl
  unfold geodetic at written ⊢
  rw [system]
  split at written
  · next present =>
    rw [if_pos present]
    exact geodeticNode_relabelled resolvable written
  · cases written

theorem projected_relabelled (resolvable : unit.Resolvable) {whole : ProjectedCrs}
    (written : (projected whole).result = .ok item) :
    (projected { whole with base := whole.base.relabelled unit }).result = .ok item := by
  simp only [projected, Report.result_bind, bind_eq_ok] at written ⊢
  obtain ⟨node, nodeWritten, behind⟩ := written
  exact ⟨node, geodeticNode_relabelled resolvable nodeWritten, behind⟩

/-- A system that can be written is written alike with its prime meridians in any other unit. -/
theorem crs_relabelled (resolvable : unit.Resolvable) {whole : CrsText.Crs}
    (written : (crs whole).result = .ok item) : (crs (whole.relabelled unit)).result = .ok item := by
  induction whole generalizing item with
  | geodetic given => exact geodetic_relabelled resolvable written
  | derivedGeodetic given => cases written
  | projected given => exact projected_relabelled resolvable written
  | vertical given => exact written
  | compound name components common ih =>
    simp only [CrsText.Crs.relabelled, CrsText.Crs.relabelledAll_eq_map, crs, crsList_eq_mapM,
      Report.result_bind, Report.result_mapM, bind_eq_ok, List.mapM_map] at written ⊢
    obtain ⟨items, itemsWritten, behind⟩ := written
    have same : ∀ component ∈ components,
        (crs (component.relabelled unit)).result = (crs component).result := by
      intro component member
      obtain ⟨item, -, componentWritten⟩ := exists_result_of_mem_mapM itemsWritten member
      rw [componentWritten, ih component member componentWritten]
    exact ⟨items, (mapM_congr same).trans itemsWritten, behind⟩
  | bound source target transformation => cases written
  | unsupported typeName => cases written

end Relabelled

end Wkt1

end CrsText
