import CrsText.Proofs.Conversion.Log
import CrsText.Proofs.Conversion.Success

/-! The first ellipsoid that cannot be written decides how a conversion fails. One whose axes are in
different units is of that kind, unless its flattening is given.
-/

set_option autoImplicit false

namespace CrsText

/-- The axes of an ellipsoid are in units with these names, and the names or the factors differ. -/
def Ellipsoid.Mismatch (ellipsoid : Ellipsoid) (major minor : String) : Prop :=
  ∃ axis factor other, ellipsoid.semiMinorAxis = some axis ∧
    ellipsoid.semiMajorAxis.Means .metre major factor ∧ axis.Means .metre minor other ∧
    ¬ (major = minor ∧ factor == other)

/-- With nothing but its axes to go by, such an ellipsoid has no figure. -/
theorem Ellipsoid.Mismatch.figure_eq {ellipsoid : Ellipsoid} {major minor : String}
    (mismatch : ellipsoid.Mismatch major minor) (axesOnly : ellipsoid.inverseFlattening = none) :
    ellipsoid.figure = .error (.unitMismatch major minor) := by
  obtain ⟨axis, factor, other, given, meansMajor, meansMinor, differ⟩ := mismatch
  obtain ⟨quantity, inMajor, rfl, rfl⟩ := Measure.means_iff.mp meansMajor
  obtain ⟨second, inMinor, rfl, rfl⟩ := Measure.means_iff.mp meansMinor
  have disagrees : ¬ quantity.unit.agrees second.unit := by
    simpa [ResolvedUnit.agrees, Bool.and_eq_true] using differ
  simp [Ellipsoid.figure, axesOnly, given, inMajor, inMinor, disagrees, throw, throwThe,
    MonadExceptOf.throw]

/-- The reference of a system has the ellipsoid, and nothing that is written in front of it fails. -/
def GeodeticCrs.Rests (crs : GeodeticCrs) (dialect : Dialect) (figure : Ellipsoid) : Prop :=
  Reference.Only crs.datum crs.ensemble fun
    | .datum datum =>
      dialect.HasEpoch datum.isDynamic datum.referenceEpoch ∧ datum.ellipsoid = some figure
    | .ensemble ensemble => ensemble.ellipsoid = some figure

/-- The ellipsoid is that of a system, or of one within it, and all that is written in front of it can
be written. -/
inductive Crs.Reaches (dialect : Dialect) (figure : Ellipsoid) : Crs → Prop where
  | geodetic {crs : GeodeticCrs} : crs.coordinateSystem.isSome → crs.Rests dialect figure →
      Reaches dialect figure (.geodetic crs)
  | derivedGeodetic {crs : DerivedGeodeticCrs} : dialect = .wkt2 → crs.base.Rests dialect figure →
      Reaches dialect figure (.derivedGeodetic crs)
  | projected {crs : ProjectedCrs} : crs.base.Rests dialect figure →
      Reaches dialect figure (.projected crs)
  | component {name : String} {before after : List Crs} {crs : Crs} {metadata : Metadata} :
      (∀ other ∈ before, other.Convertible dialect) → Reaches dialect figure crs →
      Reaches dialect figure (.compound name (before ++ crs :: after) metadata)
  | source {source target : Crs} {transformation : Operation} : dialect = .wkt2 →
      Reaches dialect figure source → Reaches dialect figure (.bound source target transformation)
  | target {source target : Crs} {transformation : Operation} : dialect = .wkt2 →
      source.Convertible dialect → Reaches dialect figure target →
      Reaches dialect figure (.bound source target transformation)

variable {figure : Ellipsoid} {failure : Failure}

namespace Wkt1

theorem ellipsoid_fails (failed : figure.figure = .error failure) :
    (ellipsoid figure).result = .error failure := by
  simp [ellipsoid, failed]

theorem geodeticNode_fails {given : GeodeticCrs} (rests : given.Rests .wkt1 figure)
    (failed : figure.figure = .error failure) (keyword : String) :
    (geodeticNode keyword given).result = .error failure := by
  obtain ⟨selected, isSelected, holds⟩ := (Reference.only_iff given.name).mp rests
  cases selected with
  | datum datum =>
    simp [geodeticNode, isSelected, geodeticReference, geodeticDatum, dropEpoch, holds.2,
      Ellipsoid.require, datumNode, ellipsoid_fails failed]
  | ensemble ensemble =>
    have present : ensemble.ellipsoid = some figure := holds
    simp [geodeticNode, isSelected, geodeticReference, geodeticEnsemble, present,
      Ellipsoid.require, datumNode, ellipsoid_fails failed]

theorem crs_fails {given : CrsText.Crs} (reaches : given.Reaches .wkt1 figure)
    (failed : figure.figure = .error failure) : (crs given).result = .error failure := by
  induction reaches with
  | geodetic present rests => simp [crs, geodetic, present, geodeticNode_fails rests failed]
  | derivedGeodetic newer => cases newer
  | projected rests => simp [crs, projected, geodeticNode_fails rests failed]
  | @component _ before after given _ convertible _ ih =>
    have written : ∀ other ∈ before, Succeeds (crs other).result :=
      fun other member => (succeeds_crs other).mpr (convertible other member)
    have components : (before ++ given :: after).mapM (fun other => (crs other).result) =
        .error failure := mapM_eq_error.mpr ⟨before, given, after, rfl, written, ih⟩
    simp only [crs, Report.result_bind, crsList_eq_mapM, Report.result_mapM, components, error_bind]
  | source newer => cases newer
  | target newer => cases newer

end Wkt1

namespace Wkt2

theorem ellipsoid_fails (failed : figure.figure = .error failure) :
    ellipsoid figure = .error failure := by
  simp [ellipsoid, failed]

theorem geodeticItems_fails {given : GeodeticCrs} (rests : given.Rests .wkt2 figure)
    (failed : figure.figure = .error failure) (system : Option CoordinateSystem) :
    geodeticItems given system = .error failure := by
  obtain ⟨selected, isSelected, holds⟩ := (Reference.only_iff given.name).mp rests
  cases selected with
  | datum datum =>
    obtain ⟨epoch, present⟩ := holds
    obtain ⟨dynamic, framed⟩ := (succeeds_frameEpoch _ _ datum.name).mpr epoch
    simp [geodeticItems, isSelected, geodeticReference, geodeticDatum, framed, present,
      Ellipsoid.require, ellipsoid_fails failed]
  | ensemble ensemble =>
    have present : ensemble.ellipsoid = some figure := holds
    simp [geodeticItems, isSelected, geodeticReference, geodeticEnsemble, present,
      Ellipsoid.require, ellipsoid_fails failed]

theorem crs_fails {given : CrsText.Crs} (reaches : given.Reaches .wkt2 figure)
    (failed : figure.figure = .error failure) : crs given = .error failure := by
  induction reaches with
  | @geodetic given present rests =>
    obtain ⟨system, same⟩ := Option.isSome_iff_exists.mp present
    simp [crs, geodetic, same, geodeticItems_fails rests failed]
  | derivedGeodetic _ rests =>
    simp [crs, derivedGeodetic, base, geodeticItems_fails rests failed]
  | projected rests => simp [crs, projected, base, geodeticItems_fails rests failed]
  | @component _ before after given _ convertible _ ih =>
    have written : ∀ other ∈ before, Succeeds (crs other) :=
      fun other member => (succeeds_crs other).mpr (convertible other member)
    have components : (before ++ given :: after).mapM crs = .error failure :=
      mapM_eq_error.mpr ⟨before, given, after, rfl, written, ih⟩
    simp only [crs, crsList_eq_mapM, components, error_bind]
  | source _ _ ih => simp [crs, ih]
  | target _ convertible _ ih =>
    obtain ⟨item, written⟩ := (succeeds_crs _).mpr convertible
    simp [crs, written, ih]

end Wkt2

namespace Crs

variable {dialect : Dialect} {layout : Layout} {crs : Crs}

/-- The first ellipsoid without a figure decides how a conversion fails. -/
theorem convert_fails (reaches : crs.Reaches dialect figure)
    (failed : figure.figure = .error failure) :
    (crs.convert dialect layout).result = .error failure := by
  have fails : (crs.toItem dialect).result = .error failure := by
    cases dialect with
    | wkt1 => exact Wkt1.crs_fails reaches failed
    | wkt2 => exact Wkt2.crs_fails reaches failed
  rw [convert_result, fails]
  rfl

/-- An ellipsoid whose axes are in different units is not written. Once a conversion to either dialect
comes to one that gives no flattening, it fails with the names of both units, and the log tells of no
text. -/
theorem convert_unitMismatch {major minor : String} (reaches : crs.Reaches dialect figure)
    (mismatch : figure.Mismatch major minor) (axesOnly : figure.inverseFlattening = none) :
    (crs.convert dialect layout).result = .error (.unitMismatch major minor) ∧
      ∀ entry ∈ (crs.convert dialect layout).log, entry.level ≠ .trace := by
  have failed : (crs.convert dialect layout).result = .error (.unitMismatch major minor) :=
    convert_fails reaches (mismatch.figure_eq axesOnly)
  refine ⟨failed, fun entry member length => ?_⟩
  obtain ⟨text, converted, -⟩ := mem_log_and_trace_iff.mp ⟨member, length⟩
  rw [failed] at converted
  cases converted

def mixedFigure (inverseFlattening : Option Float) : Ellipsoid :=
  ⟨"Mixed", ⟨6378206.4, some (.named "metre")⟩,
    some ⟨20855233, some (.defined ⟨none, "foot", some 0.3048, .empty⟩)⟩, inverseFlattening, .empty⟩

theorem mismatch_mixedFigure (inverseFlattening : Option Float) :
    (mixedFigure inverseFlattening).Mismatch "metre" "foot" :=
  ⟨_, _, _, rfl, .known .metre, .defined rfl, fun same => absurd same.1 (by decide)⟩

def withFigure (figure : Ellipsoid) : Crs :=
  .geodetic
    ⟨.geographic, "Geographic", some ⟨none, "Datum", some figure, none, none, .empty⟩, none,
      some ⟨"ellipsoidal", [⟨"Latitude", "lat", "north", none, none⟩]⟩, .empty⟩

theorem reaches_withFigure (dialect : Dialect) (figure : Ellipsoid) :
    (withFigure figure).Reaches dialect figure := by
  have static : dialect.HasEpoch false none := fun _ dynamic => nomatch dynamic
  exact .geodetic rfl (.inl ⟨_, rfl, rfl, static, rfl⟩)

theorem convert_unitMismatch_mixedFigure :
    (withFigure (mixedFigure none)).Reaches .wkt1 (mixedFigure none) ∧
      (withFigure (mixedFigure none)).Reaches .wkt2 (mixedFigure none) ∧
      (mixedFigure none).Mismatch "metre" "foot" ∧ (mixedFigure none).inverseFlattening = none ∧
      ((withFigure (mixedFigure none)).convert .wkt1 .multiline).result =
        .error (.unitMismatch "metre" "foot") ∧
      ((withFigure (mixedFigure none)).convert .wkt2 .singleLine).result =
        .error (.unitMismatch "metre" "foot") := by
  have older := reaches_withFigure .wkt1 (mixedFigure none)
  have newer := reaches_withFigure .wkt2 (mixedFigure none)
  have mismatch := mismatch_mixedFigure none
  exact ⟨older, newer, mismatch, rfl, (convert_unitMismatch older mismatch rfl).1,
    (convert_unitMismatch newer mismatch rfl).1⟩

/-- With a flattening the semi-minor axis is passed over, and the units are never compared. -/
theorem convert_flattened_succeeds :
    (withFigure (mixedFigure (some 294.978698213898))).Reaches .wkt2
        (mixedFigure (some 294.978698213898)) ∧
      (mixedFigure (some 294.978698213898)).Mismatch "metre" "foot" ∧
      ∃ text, ((withFigure (mixedFigure (some 294.978698213898))).convert .wkt2 .singleLine).result =
        .ok text :=
  ⟨reaches_withFigure _ _, mismatch_mixedFigure _, _, rfl⟩

end Crs

end CrsText
