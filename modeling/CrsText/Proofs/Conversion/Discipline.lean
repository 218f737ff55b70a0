import CrsText.Proofs.Conversion.Grammar
import CrsText.Proofs.Writing.Balanced
import CrsText.Proofs.Writing.Wkt1
import CrsText.Proofs.Writing.Wkt2

/-! No part of a system touches the brackets of another one, wherever it is written and however far it
gets. A conversion is the case of a whole system, written where no level is open.
-/

set_option autoImplicit false

namespace CrsText

/-- A part of a system that is written on its own, with all it is written from. -/
inductive Call where
  | crs (given : Crs)
  | geodeticCrs (keyword : String) (given : GeodeticCrs) (system : Option CoordinateSystem)
  | derivedGeodeticCrs (given : DerivedGeodeticCrs)
  | projectedCrs (given : ProjectedCrs)
  | verticalCrs (given : VerticalCrs)
  | compoundCrs (name : String) (components : List Crs) (common : Metadata)
  | boundCrs (source target : Crs) (given : Operation)
  | frameEpoch (epoch : Option Float) (name : String)
  | datum (given : GeodeticDatum)
  | verticalDatum (given : VerticalDatum)
  | geodeticEnsemble (given : DatumEnsemble)
  | verticalEnsemble (given : DatumEnsemble)
  | ensemble (given : DatumEnsemble) (figure : Option Ellipsoid)
  | ensembleMember (given : EnsembleMember)
  | ellipsoid (given : Ellipsoid)
  | primeMeridian (given : PrimeMeridian)
  | meridian (given : Meridian)
  | longitude (given : Measure)
  | unit (given : MeasureUnit)
  | unitNode (given : ResolvedUnit)
  | coordinateSystem (given : CoordinateSystem)
  | axis (given : Axis)
  | conversion (keyword : String) (given : Operation)
  | transformation (given : Operation)
  | method (given : Method)
  | parameter (given : Parameter)
  | metadata (given : Metadata)
  | usageNode (scope area : Option String) (box : Option BoundingBox)
  | identifier (given : Identifier)

namespace Call

def writing (dialect : Dialect) : Call → Writing Unit
  | .crs given => Writing.crs dialect given
  | .geodeticCrs keyword given system => Writing.geodeticCrs dialect keyword given system
  | .derivedGeodeticCrs given => Writing.derivedGeodeticCrs dialect given
  | .projectedCrs given => Writing.projectedCrs dialect given
  | .verticalCrs given => Writing.verticalCrs dialect given
  | .compoundCrs name components common =>
    Writing.compoundCrs dialect name (Writing.crsAll dialect components) common
  | .boundCrs source target given =>
    Writing.boundCrs dialect (Writing.crs dialect source) (Writing.crs dialect target) given
  | .frameEpoch epoch name => Writing.frameEpoch dialect epoch name
  | .datum given => Writing.datum dialect given
  | .verticalDatum given => Writing.verticalDatum dialect given
  | .geodeticEnsemble given => Writing.geodeticEnsemble dialect given
  | .verticalEnsemble given => Writing.verticalEnsemble dialect given
  | .ensemble given figure => Writing.ensemble dialect given figure
  | .ensembleMember given => Writing.ensembleMember dialect given
  | .ellipsoid given => Writing.ellipsoid dialect given
  | .primeMeridian given => Writing.primeMeridian dialect given
  | .meridian given => Writing.meridian dialect given
  | .longitude given => Writing.longitude dialect given
  | .unit given => Writing.unit dialect given
  | .unitNode given => Writing.unitNode dialect given
  | .coordinateSystem given => Writing.coordinateSystem dialect given
  | .axis given => Writing.axis dialect given
  | .conversion keyword given => Writing.conversion dialect keyword given
  | .transformation given => Writing.transformation dialect given
  | .method given => Writing.method dialect given
  | .parameter given => Writing.parameter dialect given
  | .metadata given => Writing.metadata dialect given
  | .usageNode scope area box => Writing.usageNode scope area box
  | .identifier given => Writing.identifier dialect given

/-- Axes are grouped behind the node of their coordinate system, which takes a level around both. -/
def NeedsLevel : Call → Prop
  | .coordinateSystem _ => True
  | _ => False

theorem closes (dialect : Dialect) (call : Call) {start : List Level}
    (level : call.NeedsLevel → start ≠ []) :
    Writing.Closes start [] false (call.writing dialect) := by
  cases call with
  | crs given => exact Writing.crs_balanced dialect given start
  | geodeticCrs keyword given system =>
    exact Writing.geodeticCrs_balanced dialect keyword given system start
  | derivedGeodeticCrs given => exact Writing.derivedGeodeticCrs_balanced dialect given start
  | projectedCrs given => exact Writing.projectedCrs_balanced dialect given start
  | verticalCrs given => exact Writing.verticalCrs_balanced dialect given start
  | compoundCrs name components common =>
    exact Writing.crs_balanced dialect (.compound name components common) start
  | boundCrs source target given =>
    exact Writing.crs_balanced dialect (.bound source target given) start
  | frameEpoch epoch name => exact Writing.frameEpoch_balanced dialect epoch name start
  | datum given => exact Writing.datum_balanced dialect given start
  | verticalDatum given => exact Writing.verticalDatum_balanced dialect given start
  | geodeticEnsemble given => exact Writing.geodeticEnsemble_balanced dialect given start
  | verticalEnsemble given => exact Writing.verticalEnsemble_balanced dialect given start
  | ensemble given figure => exact Writing.ensemble_balanced dialect given figure start
  | ensembleMember given => exact Writing.ensembleMember_balanced dialect given start
  | ellipsoid given => exact Writing.ellipsoid_balanced dialect given start
  | primeMeridian given => exact Writing.primeMeridian_balanced dialect given start
  | meridian given => exact Writing.meridian_balanced dialect given start
  | longitude given => exact Writing.longitude_balanced dialect given start
  | unit given => exact Writing.unit_balanced dialect given start
  | unitNode given => exact Writing.unitNode_balanced dialect given start
  | coordinateSystem given =>
    exact Writing.coordinateSystem_balanced dialect given start (level trivial)
  | axis given => exact Writing.axis_balanced dialect given start
  | conversion keyword given => exact Writing.conversion_balanced dialect keyword given start
  | transformation given => exact Writing.operationNode_balanced dialect _ given start
  | method given => exact Writing.method_balanced dialect given start
  | parameter given => exact Writing.parameter_balanced dialect given start
  | metadata given => exact Writing.metadata_balanced dialect given start
  | usageNode scope area box => exact Writing.usageNode_balanced scope area box start
  | identifier given => exact Writing.identifier_balanced dialect given start

end Call

/-- What a step that closes a level takes for granted of the innermost one. -/
def Step.Asserted (levels : List Level) : Step → Prop
  | .closeNode => ∃ level, levels.head? = some level ∧ level.isGroup = false
  | .closeGroup => ∃ level, levels.head? = some level ∧ level.isGroup = true
  | .openNode _ | .openGroup | .text _ | .token _ => True

theorem Step.InOrder.asserted {start levels : List Level} {step : Step}
    (ordered : step.InOrder start levels) : step.Asserted levels := by
  cases step with
  | closeNode =>
    obtain ⟨level, outer, rfl, isNode, -⟩ := ordered
    exact ⟨level, rfl, isNode⟩
  | closeGroup =>
    obtain ⟨level, outer, rfl, isGroup, -⟩ := ordered
    exact ⟨level, rfl, isGroup⟩
  | openNode keyword => trivial
  | openGroup => trivial
  | text content => trivial
  | token content => trivial

/-- A part written on a draft closes only what it opens, only adds to the text, and leaves the levels
as it found them if it comes to its end. -/
structure Writing.Orderly (draft : Draft) (written : Writing Unit) : Prop where
  inOrder : ∀ done step todo, written.steps = done ++ step :: todo →
    step.InOrder draft.levels (draft.run done).levels
  onlyAdds : ∀ done step todo, written.steps = done ++ step :: todo →
    ∃ more, ((draft.run done).step step).text = (draft.run done).text ++ more
  kept : written.result = .ok () → Level.Kept draft.levels (draft.run written.steps).levels

theorem Writing.Closes.orderly {draft : Draft} {written : Writing Unit}
    (closes : Writing.Closes draft.levels [] false written) : written.Orderly draft := by
  obtain ⟨ordered, kept⟩ := closes draft.levels (.refl draft.levels)
  refine ⟨fun done step todo same => ?_, fun done step todo _ => ?_, fun finished => ?_⟩
  · rw [same] at ordered
    rw [Draft.run_eq]
    exact ordered.inOrder
  · rw [Draft.step_eq]
    exact ⟨_, rfl⟩
  · rw [Draft.run_eq]
    exact kept finished

namespace Crs

def draft (dialect : Dialect) (layout : Layout) (crs : Crs) : Draft :=
  Draft.run { layout } (Writing.crs dialect crs).steps

theorem outcome_eq (dialect : Dialect) (crs : Crs) :
    (Writing.crs dialect crs).outcome = Item.steps <$> (crs.toItem dialect).result := by
  cases dialect with
  | wkt1 => exact Writing.crs_wkt1 crs
  | wkt2 => exact Writing.crs_wkt2 crs

/-- The text of a conversion is that of the draft, and the failure is the one that ended it. -/
theorem convert_eq_draft (dialect : Dialect) (layout : Layout) (crs : Crs) :
    (crs.convert dialect layout).result =
      (fun _ => (crs.draft dialect layout).text) <$> (Writing.crs dialect crs).result := by
  have same := outcome_eq dialect crs
  rw [convert_result, draft]
  simp only [Writing.outcome] at same
  cases written : (crs.toItem dialect).result with
  | error failure =>
    rw [written] at same
    cases result : (Writing.crs dialect crs).result <;> simp_all [Except.map]
  | ok item =>
    rw [written] at same
    cases result : (Writing.crs dialect crs).result <;>
      simp_all [Except.map, Item.write, Draft.write]

/-- Whatever part is written on whatever draft, it keeps to its own levels. So a conversion ends with
no level open, and none of its steps, whether it succeeds or not, finds another level than the one
it means to close. -/
theorem convert_disciplined (dialect : Dialect) :
    (∀ (call : Call) (draft : Draft), (call.NeedsLevel → draft.levels ≠ []) →
      (call.writing dialect).Orderly draft) ∧
    ∀ (crs : Crs) (layout : Layout),
      (crs.convert dialect layout).result =
        (fun _ => (crs.draft dialect layout).text) <$> (Writing.crs dialect crs).result ∧
      ((Writing.crs dialect crs).result = .ok () → (crs.draft dialect layout).levels = []) ∧
      ∀ done step todo, (Writing.crs dialect crs).steps = done ++ step :: todo →
        step.Asserted (Draft.run { layout } done).levels := by
  refine ⟨fun call draft level => (call.closes dialect level).orderly, fun crs layout => ?_⟩
  have orderly : (Writing.crs dialect crs).Orderly { layout } :=
    (Writing.crs_balanced dialect crs []).orderly
  refine ⟨convert_eq_draft dialect layout crs, fun finished => ?_, fun done step todo same => ?_⟩
  · exact (orderly.kept finished).eq_nil
  · exact (orderly.inOrder done step todo same).asserted

/-- A compound system whose second component is of an unknown type, so that its text breaks off. -/
def heightsAndMore : Crs := .compound "Both" [heights, .unsupported "TemporalCRS"] .empty

def heightSystem : CoordinateSystem :=
  ⟨"vertical", [⟨"Gravity-related height", "H", "up", none, none⟩]⟩

theorem convert_disciplined_heights :
    (Call.writing .wkt2 (.coordinateSystem heightSystem)).Orderly
      ⟨.multiline, "VERTCRS[\"Heights\"", [⟨true, false⟩]⟩ ∧
    (heights.draft .wkt2 .multiline).levels = [] ∧
    (Writing.crs .wkt2 heightsAndMore).result = .error (.unsupportedType "TemporalCRS") ∧
    Step.closeGroup.Asserted
      (Draft.run { layout := .multiline }
        ((Writing.crs .wkt2 heightsAndMore).steps.take 18)).levels := by
  obtain ⟨parts, whole⟩ := convert_disciplined .wkt2
  refine ⟨parts (.coordinateSystem heightSystem) _ fun _ => List.cons_ne_nil _ _, ?_, rfl, ?_⟩
  · exact (whole heights .multiline).2.1 rfl
  · exact (whole heightsAndMore .multiline).2.2 _ .closeGroup [.closeNode, .closeNode] rfl

end Crs

end CrsText
