import CrsText.Proofs.Definition.Identifiers
import CrsText.Proofs.Definition.Resolution
import CrsText.Proofs.Wkt.Nodes
import CrsText.Proofs.Wkt2.Derivation

/-! The nodes with identifiers in the dialect of 2019: one for each identifier that counts, in order.
-/

set_option autoImplicit false

namespace CrsText

theorem UnitKind.keyword_ne_identifier (kind : UnitKind) : kind.keyword ≠ "ID" := by
  cases kind <;> decide

namespace Wkt2

open Item (nodesOfAll nodesOfAll_map nodesOfAll_map_eq_nil nodesOfAll_mapM)

-- One lemma for each function that writes items; no keyword but that of an identifier is "ID".
@[simp] theorem nodes_usage (given : Usage) : (usage given).nodes "ID" = [] := by
  have box : ∀ box, (boundingBox box).nodes "ID" = [] := fun box => by simp [boundingBox]
  obtain ⟨scope, area, boundingBox?⟩ := given
  cases scope <;> cases area <;> cases boundingBox? <;> simp [usage, box]

@[simp] theorem nodes_identifier (given : Identifier) :
    (identifier given).nodes "ID" = [identifier given] := Item.nodes_named_self _ _

@[simp] theorem nodes_remark (remarks : String) : (remark remarks).nodes "ID" = [] := by
  simp [remark]

@[simp] theorem nodes_metadata (given : Metadata) :
    nodesOfAll "ID" (metadata given) = (given.kept .wkt2).map identifier := by
  have identifiers : nodesOfAll "ID" (given.identifiersInForce.map identifier) =
      given.identifiersInForce.map identifier :=
    (nodesOfAll_map fun value _ => nodes_identifier value).trans List.map_eq_flatMap.symm
  simp [metadata, Metadata.kept, Metadata.effectiveIdentifiers_eq, nodesOfAll_map_eq_nil, nodes_usage,
    nodes_remark, identifiers]

theorem nodes_unitNode {keyword : String} (apart : keyword ≠ "ID") (given : ResolvedUnit) :
    (unitNode keyword given).nodes "ID" =
      ((given.metadata.getD .empty).kept .wkt2).map identifier := by
  cases present : given.metadata with
  | none =>
    simp [unitNode, apart, present, Metadata.kept, Metadata.identifiersInForce, Metadata.empty]
  | some common => simp [unitNode, apart, present]

theorem nodes_unit {given : MeasureUnit} {item : Item} (written : unit given = .ok item) :
    item.nodes "ID" = (given.identifiers .wkt2).map identifier := by
  simp only [unit, Dialect.unitKeyword, bind_eq_ok, pure_eq_ok] at written
  obtain ⟨resolved, found, keyword, ⟨kind, -, rfl⟩, rfl⟩ := written
  rw [nodes_unitNode kind.keyword_ne_identifier, MeasureUnit.metadata_of_resolve found]
  rfl

theorem nodes_optionalUnit {given : Option MeasureUnit} {items : List Item}
    (written : optionalUnit given = .ok items) :
    nodesOfAll "ID" items = (given.toList.flatMap (·.identifiers .wkt2)).map identifier := by
  cases given with
  | none =>
    cases written
    rfl
  | some given =>
    simp only [optionalUnit, bind_eq_ok, pure_eq_ok] at written
    obtain ⟨item, unitWritten, rfl⟩ := written
    simp [nodes_unit unitWritten]

theorem nodes_quantity {given : Measure} {implied : KnownUnit} {quantity : Quantity}
    (found : given.inUnit implied = .ok quantity) {keyword : String} (apart : keyword ≠ "ID") :
    (unitNode keyword quantity.unit).nodes "ID" = (given.identifiers .wkt2).map identifier := by
  rw [nodes_unitNode apart]
  obtain ⟨-, ⟨absent, known⟩ | ⟨unit, given, resolved⟩⟩ := Measure.inUnit_eq_ok.mp found
  · rw [known, Measure.identifiers, absent]
    rfl
  · simp [Measure.identifiers, Option.mem_def.mp given, MeasureUnit.identifiers,
      MeasureUnit.metadata_of_resolve resolved]

theorem nodes_longitude {given : Measure} {items : List Item} (written : longitude given = .ok items) :
    nodesOfAll "ID" items = (given.identifiers .wkt2).map identifier := by
  simp only [longitude, bind_eq_ok, pure_eq_ok] at written
  obtain ⟨quantity, found, rfl⟩ := written
  simp [nodes_quantity found (UnitKind.keyword_ne_identifier _)]

/-- Of the axes of an ellipsoid only the semi-major one is written with its unit. -/
theorem nodes_ellipsoid {given : Ellipsoid} {item : Item} (written : ellipsoid given = .ok item) :
    item.nodes "ID" = (given.identifiers .wkt2).map identifier := by
  simp only [ellipsoid, bind_eq_ok, pure_eq_ok] at written
  obtain ⟨⟨semiMajor, flattening⟩, figured, rfl⟩ := written
  have found := (Ellipsoid.figure_eq_ok.mp figured).1
  simp [nodes_quantity found (UnitKind.keyword_ne_identifier _), Ellipsoid.identifiers]

theorem nodes_primeMeridian {given : PrimeMeridian} {item : Item}
    (written : primeMeridian given = .ok item) :
    item.nodes "ID" = (given.identifiers .wkt2).map identifier := by
  simp only [primeMeridian, bind_eq_ok, pure_eq_ok] at written
  obtain ⟨items, longitudeWritten, rfl⟩ := written
  simp [nodes_longitude longitudeWritten, PrimeMeridian.identifiers]

theorem nodes_optionalPrimeMeridian {given : Option PrimeMeridian} {items : List Item}
    (written : optionalPrimeMeridian given = .ok items) :
    nodesOfAll "ID" items = (given.toList.flatMap (·.identifiers .wkt2)).map identifier := by
  cases given with
  | none =>
    cases written
    rfl
  | some given =>
    simp only [optionalPrimeMeridian, bind_eq_ok, pure_eq_ok] at written
    obtain ⟨item, meridianWritten, rfl⟩ := written
    simp [nodes_primeMeridian meridianWritten]

@[simp] theorem nodes_frameEpoch {isDynamic : Bool} {epoch : Option Float} {datum : String}
    {items : List Item} (written : frameEpoch isDynamic epoch datum = .ok items) :
    nodesOfAll "ID" items = [] := by
  unfold frameEpoch at written
  split at written <;> cases written <;> simp

theorem nodes_geodeticDatum {given : GeodeticDatum} {items : List Item}
    (written : geodeticDatum given = .ok items) :
    nodesOfAll "ID" items = (given.identifiers .wkt2).map identifier := by
  simp only [geodeticDatum, bind_eq_ok, pure_eq_ok, Ellipsoid.require_eq_ok] at written
  obtain ⟨dynamic, framed, figure, present, _, figureWritten, _, meridianWritten, rfl⟩ := written
  simp [GeodeticDatum.identifiers, present, nodes_frameEpoch framed, nodes_ellipsoid figureWritten,
    nodes_optionalPrimeMeridian meridianWritten]

theorem nodes_verticalDatum {given : VerticalDatum} {items : List Item}
    (written : verticalDatum given = .ok items) :
    nodesOfAll "ID" items = (given.metadata.kept .wkt2).map identifier := by
  simp only [verticalDatum, bind_eq_ok, pure_eq_ok] at written
  obtain ⟨dynamic, framed, rfl⟩ := written
  simp [nodes_frameEpoch framed]

theorem nodes_ensembleNode (given : DatumEnsemble) (figure : List Item) :
    (ensembleNode given figure).nodes "ID" =
      (given.memberIdentifiers .wkt2).map identifier ++ nodesOfAll "ID" figure ++
        (given.metadata.kept .wkt2).map identifier := by
  have members : nodesOfAll "ID" (given.members.map ensembleMember) =
      (given.memberIdentifiers .wkt2).map identifier := by
    have each : ∀ member ∈ given.members,
        (ensembleMember member).nodes "ID" = (member.metadata.kept .wkt2).map identifier :=
      fun member _ => by simp [ensembleMember]
    simp [nodesOfAll_map each, DatumEnsemble.memberIdentifiers, List.map_flatMap]
  simp [ensembleNode, members, nodesOfAll_map_eq_nil]

theorem nodes_geodeticEnsemble {given : DatumEnsemble} {item : Item}
    (written : geodeticEnsemble given = .ok item) :
    item.nodes "ID" = (given.geodeticIdentifiers .wkt2).map identifier := by
  simp only [geodeticEnsemble, bind_eq_ok, pure_eq_ok, Ellipsoid.require_eq_ok] at written
  obtain ⟨figure, present, _, figureWritten, rfl⟩ := written
  simp [nodes_ensembleNode, DatumEnsemble.geodeticIdentifiers, present, nodes_ellipsoid figureWritten]

theorem nodes_meridian {given : Meridian} {item : Item} (written : meridian given = .ok item) :
    item.nodes "ID" = (given.identifiers .wkt2).map identifier := by
  simp only [meridian, bind_eq_ok, pure_eq_ok] at written
  obtain ⟨items, longitudeWritten, rfl⟩ := written
  simp [nodes_longitude longitudeWritten, Meridian.identifiers]

theorem nodes_optionalMeridian {given : Option Meridian} {items : List Item}
    (written : optionalMeridian given = .ok items) :
    nodesOfAll "ID" items = (given.toList.flatMap (·.identifiers .wkt2)).map identifier := by
  cases given with
  | none =>
    cases written
    rfl
  | some given =>
    simp only [optionalMeridian, bind_eq_ok, pure_eq_ok] at written
    obtain ⟨item, meridianWritten, rfl⟩ := written
    simp [nodes_meridian meridianWritten]

theorem nodes_axis {given : Axis} {item : Item} (written : axis given = .ok item) :
    item.nodes "ID" = (given.identifiers .wkt2).map identifier := by
  simp only [axis, bind_eq_ok, pure_eq_ok] at written
  obtain ⟨along, alongWritten, unit, unitWritten, rfl⟩ := written
  simp [Axis.identifiers, nodes_optionalMeridian alongWritten, nodes_optionalUnit unitWritten]

theorem nodes_coordinateSystem {given : CoordinateSystem} {items : List Item}
    (written : coordinateSystem given = .ok items) :
    nodesOfAll "ID" items = (given.identifiers .wkt2).map identifier := by
  unfold coordinateSystem at written
  split at written
  · cases written
  · simp only [bind_eq_ok, pure_eq_ok] at written
    obtain ⟨axes, axesWritten, rfl⟩ := written
    have each := nodesOfAll_mapM (fun axis _ _ => nodes_axis) axesWritten
    simp [CoordinateSystem.identifiers, each, List.map_flatMap]

theorem nodes_parameter {given : Parameter} {item : Item} (written : parameter given = .ok item) :
    item.nodes "ID" = (given.identifiers .wkt2).map identifier := by
  unfold parameter at written
  split at written
  · next file isFile =>
    cases written
    simp [Parameter.identifiers, isFile]
  · next value isNumber =>
    simp only [bind_eq_ok, pure_eq_ok] at written
    obtain ⟨unit, unitWritten, rfl⟩ := written
    simp [Parameter.identifiers, isNumber, nodes_optionalUnit unitWritten]

theorem nodes_operation {keyword : String} (apart : keyword ≠ "ID") {given : Operation} {item : Item}
    (written : operation keyword given = .ok item) :
    item.nodes "ID" = (given.identifiers .wkt2).map identifier := by
  simp only [operation, bind_eq_ok, pure_eq_ok] at written
  obtain ⟨parameters, parametersWritten, rfl⟩ := written
  have each := nodesOfAll_mapM (fun parameter _ _ => nodes_parameter) parametersWritten
  simp [Operation.identifiers, apart, method, each, List.map_flatMap]

/-- Exactly one of datum and ensemble is given, so either is written alone. -/
theorem nodes_geodeticItems {given : GeodeticCrs} {system : Option CoordinateSystem}
    {items : List Item} (written : geodeticItems given system = .ok items) :
    nodesOfAll "ID" items = (given.referenceIdentifiers .wkt2 ++
      system.toList.flatMap (·.identifiers .wkt2) ++ given.metadata.kept .wkt2).map identifier := by
  simp only [geodeticItems_eq, bind_eq_ok, pure_eq_ok] at written
  obtain ⟨selected, isSelected, reference, referenceWritten, axes, axesWritten, rfl⟩ := written
  have inReference : nodesOfAll "ID" reference =
      (given.referenceIdentifiers .wkt2).map identifier := by
    rcases Reference.select_cases isSelected with ⟨single, one, none, rfl⟩ | ⟨several, none, one, rfl⟩
    · simpa [GeodeticCrs.referenceIdentifiers, one, none] using nodes_geodeticDatum referenceWritten
    · simp only [geodeticReference, bind_eq_ok, pure_eq_ok] at referenceWritten
      obtain ⟨item, ensembleWritten, rfl⟩ := referenceWritten
      simp [GeodeticCrs.referenceIdentifiers, one, none, nodes_geodeticEnsemble ensembleWritten]
  have inSystem : nodesOfAll "ID" axes =
      (system.toList.flatMap (·.identifiers .wkt2)).map identifier := by
    cases system with
    | none =>
      cases axesWritten
      rfl
    | some system => simpa using nodes_coordinateSystem axesWritten
  simp [inReference, inSystem]

theorem nodes_geodetic {given : GeodeticCrs} {item : Item} (written : geodetic given = .ok item) :
    item.nodes "ID" = (given.identifiers .wkt2).map identifier := by
  unfold geodetic at written
  split at written
  · next system present =>
    simp only [bind_eq_ok, pure_eq_ok] at written
    obtain ⟨items, itemsWritten, rfl⟩ := written
    rw [Item.nodes_named (by cases given.kind <;> decide), nodes_geodeticItems itemsWritten,
      GeodeticCrs.identifiers, present]
  · cases written

theorem nodes_base {kind : GeodeticKind} {given : GeodeticCrs} {item : Item}
    (written : base kind given = .ok item) :
    item.nodes "ID" = (given.baseIdentifiers .wkt2).map identifier := by
  simp only [base, bind_eq_ok, pure_eq_ok] at written
  obtain ⟨items, itemsWritten, rfl⟩ := written
  rw [Item.nodes_named (by cases kind <;> decide), nodes_geodeticItems itemsWritten]
  simp [GeodeticCrs.baseIdentifiers]

theorem nodes_derivedGeodetic {given : DerivedGeodeticCrs} {item : Item}
    (written : derivedGeodetic given = .ok item) :
    item.nodes "ID" = (given.identifiers .wkt2).map identifier := by
  simp only [derivedGeodetic, bind_eq_ok, pure_eq_ok] at written
  obtain ⟨origin, originWritten, conversion, conversionWritten, axes, axesWritten, rfl⟩ := written
  rw [Item.nodes_named (by decide)]
  simp [DerivedGeodeticCrs.identifiers, nodes_base originWritten,
    nodes_operation (by decide) conversionWritten, nodes_coordinateSystem axesWritten]

theorem nodes_projected {given : ProjectedCrs} {item : Item} (written : projected given = .ok item) :
    item.nodes "ID" = (given.identifiers .wkt2).map identifier := by
  simp only [projected, bind_eq_ok, pure_eq_ok] at written
  obtain ⟨origin, originWritten, conversion, conversionWritten, axes, axesWritten, rfl⟩ := written
  simp [ProjectedCrs.identifiers, nodes_base originWritten,
    nodes_operation (by decide) conversionWritten, nodes_coordinateSystem axesWritten]

theorem nodes_vertical {given : VerticalCrs} {item : Item} (written : vertical given = .ok item) :
    item.nodes "ID" = (given.identifiers .wkt2).map identifier := by
  simp only [vertical, bind_eq_ok, pure_eq_ok] at written
  obtain ⟨selected, isSelected, reference, referenceWritten, axes, axesWritten, rfl⟩ := written
  rcases Reference.select_cases isSelected with ⟨single, one, none, rfl⟩ | ⟨several, none, one, rfl⟩
  · simp [VerticalCrs.identifiers, one, none, nodes_verticalDatum referenceWritten,
      nodes_coordinateSystem axesWritten]
  · cases referenceWritten
    simp [VerticalCrs.identifiers, DatumEnsemble.verticalIdentifiers, one, none, nodes_ensembleNode,
      nodes_coordinateSystem axesWritten]

/-- Each identifier that counts for something that is written has a node of its own. -/
theorem nodes_crs {given : CrsText.Crs} {item : Item} (written : crs given = .ok item) :
    item.nodes "ID" = (given.identifiers .wkt2).map identifier := by
  induction given generalizing item with
  | geodetic given => exact nodes_geodetic written
  | derivedGeodetic given => exact nodes_derivedGeodetic written
  | projected given => exact nodes_projected written
  | vertical given => exact nodes_vertical written
  | compound name components common ih =>
    simp only [crs, crsList_eq_mapM, bind_eq_ok, pure_eq_ok] at written
    obtain ⟨items, itemsWritten, rfl⟩ := written
    have each := nodesOfAll_mapM (fun component member _ => ih component member) itemsWritten
    simp [Crs.identifiers, Crs.identifiersOfAll_eq_flatMap, each, List.map_flatMap]
  | bound source target transformation sourceIh targetIh =>
    simp only [crs, bind_eq_ok, pure_eq_ok] at written
    obtain ⟨first, sourceWritten, second, targetWritten, third, operationWritten, rfl⟩ := written
    simp [Crs.identifiers, sourceIh sourceWritten, targetIh targetWritten,
      nodes_operation (by decide) operationWritten]
  | unsupported typeName => cases written

end Wkt2

end CrsText
