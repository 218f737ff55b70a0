import CrsText.Proofs.Definition.Identifiers
import CrsText.Proofs.Wkt.Nodes
import CrsText.Proofs.Wkt1.Derivation

/-! The nodes with identifiers in the older dialect: one for each object that is written and has an
identifier of its own, in order.
-/

set_option autoImplicit false

namespace CrsText

namespace Wkt1

open Item (nodesOfAll nodesOfAll_map nodesOfAll_map_eq_nil nodesOfAll_mapM)

-- One lemma for each function that writes items; no keyword but that of an identifier is "AUTHORITY".
theorem nodes_metadata {given : Metadata} {items : List Item}
    (written : (metadata given).result = .ok items) :
    nodesOfAll "AUTHORITY" items = (given.kept .wkt1).map authority := by
  rw [metadata_result] at written
  cases written
  exact (nodesOfAll_map fun identifier _ => Item.nodes_named_self _ _).trans List.map_eq_flatMap.symm

theorem nodes_unit {given : MeasureUnit} {item : Item} (written : (unit given).result = .ok item) :
    item.nodes "AUTHORITY" = (given.identifiers .wkt1).map authority := by
  simp only [unit, Report.result_bind, Report.result_lift, bind_eq_ok] at written
  obtain ⟨resolved, found, keyword, same, rest, described, written⟩ := written
  cases same
  cases written
  simp [nodes_metadata described, MeasureUnit.metadata_of_resolve found, MeasureUnit.identifiers]

theorem nodes_ellipsoid {given : Ellipsoid} {item : Item}
    (written : (ellipsoid given).result = .ok item) :
    item.nodes "AUTHORITY" = (given.identifiers .wkt1).map authority := by
  simp only [ellipsoid, Report.result_bind, Report.result_lift, bind_eq_ok] at written
  obtain ⟨⟨semiMajor, flattening⟩, -, written⟩ := written
  split at written
  · cases written
  · simp only [Report.result_bind, bind_eq_ok] at written
    obtain ⟨rest, described, written⟩ := written
    cases written
    simp [nodes_metadata described, Ellipsoid.identifiers, Measure.identifiers]

theorem nodes_primeMeridian {given : PrimeMeridian} {item : Item}
    (written : (primeMeridian given).result = .ok item) :
    item.nodes "AUTHORITY" = (given.identifiers .wkt1).map authority := by
  simp only [primeMeridian, Report.result_bind, Report.result_lift, bind_eq_ok] at written
  obtain ⟨longitude, -, rest, described, written⟩ := written
  cases written
  simp [nodes_metadata described, PrimeMeridian.identifiers, Measure.identifiers]

/-- The meridian of Greenwich has no identifier. -/
theorem nodes_datumNode {name : String} {figure : Ellipsoid} {common : Metadata}
    {meridian : Option PrimeMeridian} {items : List Item}
    (written : (datumNode name figure common meridian).result = .ok items) :
    nodesOfAll "AUTHORITY" items = (figure.identifiers .wkt1 ++ common.kept .wkt1 ++
      meridian.toList.flatMap (·.identifiers .wkt1)).map authority := by
  simp only [datumNode, Report.result_bind, bind_eq_ok] at written
  obtain ⟨spheroid, figureWritten, rest, described, origin, meridianWritten, written⟩ := written
  cases written
  have inOrigin : origin.nodes "AUTHORITY" =
      (meridian.toList.flatMap (·.identifiers .wkt1)).map authority := by
    cases meridian with
    | none => exact nodes_primeMeridian meridianWritten
    | some meridian => simpa using nodes_primeMeridian meridianWritten
  simp [nodes_ellipsoid figureWritten, nodes_metadata described, inOrigin]

theorem nodes_geodeticDatum {given : GeodeticDatum} {items : List Item}
    (written : (geodeticDatum given).result = .ok items) :
    nodesOfAll "AUTHORITY" items = (given.identifiers .wkt1).map authority := by
  simp only [geodeticDatum, Report.result_bind, Report.result_lift, bind_eq_ok,
    Ellipsoid.require_eq_ok] at written
  obtain ⟨-, -, figure, present, written⟩ := written
  simp [nodes_datumNode written, GeodeticDatum.identifiers, present]

theorem nodes_geodeticEnsemble {given : DatumEnsemble} {items : List Item}
    (written : (geodeticEnsemble given).result = .ok items) :
    nodesOfAll "AUTHORITY" items = (given.geodeticIdentifiers .wkt1).map authority := by
  simp only [geodeticEnsemble, Report.result_bind, Report.result_lift, bind_eq_ok,
    Ellipsoid.require_eq_ok] at written
  obtain ⟨figure, present, -, -, written⟩ := written
  simp [nodes_datumNode written, DatumEnsemble.geodeticIdentifiers, DatumEnsemble.memberIdentifiers,
    present]

theorem nodes_verticalNode {name : String} {common : Metadata} {items : List Item}
    (written : (verticalNode name common).result = .ok items) :
    nodesOfAll "AUTHORITY" items = (common.kept .wkt1).map authority := by
  simp only [verticalNode, Report.result_bind, bind_eq_ok] at written
  obtain ⟨rest, described, written⟩ := written
  cases written
  simp [nodes_metadata described]

theorem nodes_coordinateSystem {given : CoordinateSystem} {items : List Item}
    (written : (coordinateSystem given).result = .ok items) :
    nodesOfAll "AUTHORITY" items = (given.identifiers .wkt1).map authority := by
  unfold coordinateSystem at written
  split at written
  · cases written
  · next first rest axes =>
    simp only [Report.result_bind, bind_eq_ok] at written
    obtain ⟨unit, unitWritten, written⟩ := written
    cases written
    have inUnit : nodesOfAll "AUTHORITY" unit =
        (first.unit.toList.flatMap (·.identifiers .wkt1)).map authority := by
      cases present : first.unit with
      | none =>
        rw [present] at unitWritten
        cases unitWritten
        rfl
      | some given =>
        rw [present] at unitWritten
        simp only [axisUnit, Report.result_bind, bind_eq_ok] at unitWritten
        obtain ⟨item, itemWritten, same⟩ := unitWritten
        cases same
        simp [nodes_unit itemWritten]
    have inAxes : nodesOfAll "AUTHORITY" ((first :: rest).map axis) = [] :=
      nodesOfAll_map_eq_nil fun given => by simp [axis]
    simp only [Item.nodesOfAll_append, inUnit, inAxes, List.append_nil, CoordinateSystem.identifiers,
      axes, List.head?_cons, Option.bind_some]

theorem nodes_parameter {given : Parameter} {item : Item}
    (written : (parameter given).result = .ok item) :
    item.nodes "AUTHORITY" = (given.identifiers .wkt1).map authority := by
  unfold parameter at written
  split at written
  · next file isFile =>
    simp only [Report.result_bind, bind_eq_ok] at written
    obtain ⟨rest, described, written⟩ := written
    cases written
    simp [nodes_metadata described, Parameter.identifiers, isFile]
  · next value isNumber =>
    cases written
    simp [Parameter.identifiers, isNumber]

theorem nodes_conversion {given : Operation} {items : List Item}
    (written : (conversion given).result = .ok items) :
    nodesOfAll "AUTHORITY" items = (given.identifiers .wkt1).map authority := by
  simp only [conversion, Report.result_bind, Report.result_mapM, bind_eq_ok] at written
  obtain ⟨parameters, parametersWritten, written⟩ := written
  cases written
  have each := nodesOfAll_mapM (fun parameter _ _ => nodes_parameter) parametersWritten
  simp [Operation.identifiers, each, List.map_flatMap]

theorem nodes_geodeticNode {keyword : String} (apart : keyword ≠ "AUTHORITY") {given : GeodeticCrs}
    {item : Item} (written : (geodeticNode keyword given).result = .ok item) :
    item.nodes "AUTHORITY" = (given.identifiers .wkt1).map authority := by
  simp only [geodeticNode, Report.result_bind, Report.result_lift, bind_eq_ok] at written
  obtain ⟨selected, isSelected, reference, referenceWritten, axes, axesWritten, rest, described,
    written⟩ := written
  cases written
  have inReference : nodesOfAll "AUTHORITY" reference =
      (given.referenceIdentifiers .wkt1).map authority := by
    rcases Reference.select_cases isSelected with ⟨single, one, none, rfl⟩ | ⟨several, none, one, rfl⟩
    · simpa [GeodeticCrs.referenceIdentifiers, one, none] using nodes_geodeticDatum referenceWritten
    · simpa [GeodeticCrs.referenceIdentifiers, one, none] using
        nodes_geodeticEnsemble referenceWritten
  have inSystem : nodesOfAll "AUTHORITY" axes =
      (given.coordinateSystem.toList.flatMap (·.identifiers .wkt1)).map authority := by
    cases present : given.coordinateSystem with
    | none =>
      rw [present] at axesWritten
      cases axesWritten
      rfl
    | some system =>
      rw [present] at axesWritten
      simpa using nodes_coordinateSystem axesWritten
  simp [apart, GeodeticCrs.identifiers, inReference, inSystem, nodes_metadata described]

theorem nodes_geodetic {given : GeodeticCrs} {item : Item}
    (written : (geodetic given).result = .ok item) :
    item.nodes "AUTHORITY" = (given.identifiers .wkt1).map authority := by
  unfold geodetic at written
  split at written
  · exact nodes_geodeticNode (by cases given.kind <;> decide) written
  · cases written

theorem nodes_projected {given : ProjectedCrs} {item : Item}
    (written : (projected given).result = .ok item) :
    item.nodes "AUTHORITY" = (given.identifiers .wkt1).map authority := by
  simp only [projected, Report.result_bind, bind_eq_ok] at written
  obtain ⟨base, baseWritten, conversion, conversionWritten, axes, axesWritten, rest, described,
    written⟩ := written
  cases written
  have inBase := nodes_geodeticNode (by cases given.baseKind <;> decide) baseWritten
  simp [ProjectedCrs.identifiers, GeodeticCrs.baseIdentifiers, inBase,
    nodes_conversion conversionWritten, nodes_coordinateSystem axesWritten, nodes_metadata described]

theorem nodes_vertical {given : VerticalCrs} {item : Item}
    (written : (vertical given).result = .ok item) :
    item.nodes "AUTHORITY" = (given.identifiers .wkt1).map authority := by
  simp only [vertical, Report.result_bind, Report.result_lift, bind_eq_ok] at written
  obtain ⟨selected, isSelected, reference, referenceWritten, axes, axesWritten, rest, described,
    written⟩ := written
  cases written
  rcases Reference.select_cases isSelected with ⟨single, one, none, rfl⟩ | ⟨several, none, one, rfl⟩
  · simp only [verticalReference, Report.result_bind, bind_eq_ok] at referenceWritten
    obtain ⟨-, -, nodeWritten⟩ := referenceWritten
    simp [VerticalCrs.identifiers, one, none, nodes_verticalNode nodeWritten,
      nodes_coordinateSystem axesWritten, nodes_metadata described]
  · simp only [verticalReference, Report.result_bind, bind_eq_ok] at referenceWritten
    obtain ⟨-, -, nodeWritten⟩ := referenceWritten
    simp [VerticalCrs.identifiers, DatumEnsemble.verticalIdentifiers, DatumEnsemble.memberIdentifiers,
      one, none, nodes_verticalNode nodeWritten, nodes_coordinateSystem axesWritten,
      nodes_metadata described]

/-- Each identifier that is kept of something that is written has a node of its own. -/
theorem nodes_crs {given : CrsText.Crs} {item : Item} (written : (crs given).result = .ok item) :
    item.nodes "AUTHORITY" = (given.identifiers .wkt1).map authority := by
  induction given generalizing item with
  | geodetic given => exact nodes_geodetic written
  | derivedGeodetic given => cases written
  | projected given => exact nodes_projected written
  | vertical given => exact nodes_vertical written
  | compound name components common ih =>
    simp only [crs, crsList_eq_mapM, Report.result_bind, Report.result_mapM, bind_eq_ok] at written
    obtain ⟨items, itemsWritten, rest, described, written⟩ := written
    cases written
    have each := nodesOfAll_mapM (fun component member _ => ih component member) itemsWritten
    simp [Crs.identifiers, Crs.identifiersOfAll_eq_flatMap, each, List.map_flatMap,
      nodes_metadata described]
  | bound source target transformation => cases written
  | unsupported typeName => cases written

end Wkt1

end CrsText
