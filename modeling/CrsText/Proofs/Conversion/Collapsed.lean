import CrsText.Proofs.Alike
import CrsText.Proofs.Conversion.Grammar
import CrsText.Proofs.Definition.Collapsed

/-! The older dialect writes a system as if all its ensembles were single datums and all its prime
meridians were named. Only the notices tell the two apart.
-/

set_option autoImplicit false

namespace CrsText

namespace Wkt1

theorem datumName_eq (ensemble : String) :
    datumName ensemble = String.ofList (Text.withoutFirst " ensemble".toList ensemble.toList) := by
  rw [datumName, ensembleWord, Text.eraseFirst_eq]

/-- Greenwich is written for a datum without a prime meridian in any case. -/
theorem geodeticDatum_withMeridian (given : GeodeticDatum) :
    geodeticDatum given.withMeridian = geodeticDatum given := by
  obtain ⟨typeTag, name, figure, meridian, epoch, common⟩ := given
  cases meridian <;> rfl

/-- What is written for an ensemble with an ellipsoid is what is written for the datum that stands for
it. -/
theorem geodeticEnsemble_eq {given : DatumEnsemble} {figure : Ellipsoid}
    (present : given.ellipsoid = some figure) :
    (geodeticEnsemble given).result =
      (geodeticDatum (given.geodeticDatum figure).withMeridian).result := by
  rw [geodeticDatum_withMeridian]
  simp [geodeticEnsemble, geodeticDatum, DatumEnsemble.geodeticDatum, GeodeticDatum.isDynamic,
    Ellipsoid.require, dropEpoch, present, datumName_eq]

theorem geodeticReference_withMeridian (given : GeodeticCrs) :
    (Reference.select given.name given.withMeridian.datum given.ensemble >>=
        fun selected => (geodeticReference selected).result) =
      Reference.select given.name given.datum given.ensemble >>=
        fun selected => (geodeticReference selected).result := by
  obtain ⟨kind, name, datum, ensemble, system, common⟩ := given
  cases datum with
  | none => rfl
  | some datum =>
    cases ensemble with
    | none => exact congrArg Report.result (geodeticDatum_withMeridian datum)
    | some ensemble => rfl

theorem geodeticReference_collapsed (given : GeodeticCrs) :
    (Reference.select given.name given.collapsed.datum given.collapsed.ensemble >>=
        fun selected => (geodeticReference selected).result) =
      Reference.select given.name given.datum given.ensemble >>=
        fun selected => (geodeticReference selected).result := by
  obtain ⟨kind, name, datum, ensemble, system, common⟩ := given
  cases datum with
  | some datum => exact geodeticReference_withMeridian ⟨kind, name, some datum, ensemble, system, common⟩
  | none =>
    cases ensemble with
    | none => rfl
    | some ensemble =>
      cases present : ensemble.ellipsoid with
      -- An ensemble without an ellipsoid stays, and fails under its own name.
      | none => simp [GeodeticCrs.collapsed, GeodeticCrs.withMeridian, present]
      | some figure =>
        simpa [GeodeticCrs.collapsed, present, Reference.select, geodeticReference] using
          (geodeticEnsemble_eq present).symm

theorem geodeticNode_collapsed (keyword : String) (given : GeodeticCrs) :
    (geodeticNode keyword given.collapsed).result = (geodeticNode keyword given).result := by
  simp only [geodeticNode, Report.result_bind, Report.result_lift, GeodeticCrs.collapsed_name,
    GeodeticCrs.collapsed_coordinateSystem, GeodeticCrs.collapsed_metadata]
  rw [← bind_assoc, geodeticReference_collapsed, bind_assoc]

theorem geodetic_collapsed (given : GeodeticCrs) :
    (geodetic given.collapsed).result = (geodetic given).result := by
  simp only [geodetic, GeodeticCrs.collapsed_kind, GeodeticCrs.collapsed_name,
    GeodeticCrs.collapsed_coordinateSystem]
  split
  · exact geodeticNode_collapsed _ given
  · rfl

/-- The kind of the base is told by parts of it that stay. -/
theorem projected_collapsed (given : ProjectedCrs) :
    (projected { given with base := given.base.collapsed }).result = (projected given).result := by
  simp only [projected, Report.result_bind, ProjectedCrs.baseKind, GeodeticCrs.collapsed_kind,
    GeodeticCrs.collapsed_coordinateSystem, geodeticNode_collapsed]

theorem vertical_collapsed (given : VerticalCrs) :
    (vertical given.collapsed).result = (vertical given).result := by
  obtain ⟨name, datum, ensemble, system, common⟩ := given
  cases datum with
  | some datum => rfl
  | none =>
    cases ensemble with
    | none => rfl
    | some ensemble =>
      simp [vertical, VerticalCrs.collapsed, DatumEnsemble.verticalDatum, VerticalDatum.isDynamic,
        Reference.select, verticalReference, dropEpoch]

theorem crs_collapsed (given : CrsText.Crs) :
    (crs given.collapsed).result = (crs given).result := by
  induction given with
  | geodetic given => exact geodetic_collapsed given
  | derivedGeodetic given => rfl
  | projected given => exact projected_collapsed given
  | vertical given => exact vertical_collapsed given
  | compound name components common ih =>
    have inside : components.mapM (fun component => (crs component.collapsed).result) =
        components.mapM fun component => (crs component).result := mapM_congr ih
    simp [crs, Crs.collapsed, Crs.collapsedAll_eq_map, crsList_eq_mapM, List.mapM_map, inside,
      Function.comp_def]
  | bound source target transformation => rfl
  | unsupported typeName => rfl

end Wkt1

namespace Crs

/-- The older dialect has the same text for a system and for its collapsed form, or fails in the same
way. -/
theorem convert_collapsed (layout : Layout) (crs : Crs) :
    (crs.convert .wkt1 layout).result = (crs.collapsed.convert .wkt1 layout).result := by
  rw [convert_result, convert_result]
  exact congrArg (Except.map (Item.write layout)) (Wkt1.crs_collapsed crs).symm

end Crs

end CrsText
