import CrsText.Proofs.Definition.Objects
import CrsText.Proofs.Definition.Resolution
import CrsText.Proofs.Json.Outcome
import CrsText.Proofs.Nesting
import CrsText.Proofs.Number.Spacing

/-! Conversion factors that stand beside a value. Such a factor counts if there is a name for it, and
what an ellipsoid of the older dialect is measured by has no factor but one.
-/

set_option autoImplicit false

namespace CrsText

namespace Measure

/-- The entries of a measure object give a factor, but no unit. -/
structure GivesFactor (entries : List (String × Json)) (factor : Float) : Prop where
  unitless : ∀ unit ∈ entries.lookup "unit", unit = .null
  factor : ∃ token ∈ entries.lookup "conversion_factor", Reader.number token = .ok factor

def IsNamed (entries : List (String × Json)) : Prop :=
  ∃ name, entries.lookup "name" = some (.string name)

variable {entries : List (String × Json)} {measure : Measure} {factor : Float}

/-- A measure object is put together from its parts, where one that is absent is taken as null. -/
theorem eq_ofParts (read : ofJson (.object entries) = .ok measure) :
    ∃ value unit name given, measure = ofParts value unit name given ∧
      Reader.nullable MeasureUnit.ofJson ((entries.lookup "unit").getD .null) = .ok unit ∧
      Reader.nullable Reader.string ((entries.lookup "name").getD .null) = .ok name ∧
      Reader.nullable Reader.number ((entries.lookup "conversion_factor").getD .null) = .ok given := by
  have fields : record.readObject entries = .ok measure := by
    rw [ofJson] at read
    split at read
    · next found => exact found.trans read
    · cases read
  rw [Record.readObject_eq_ok] at fields
  obtain ⟨f, given, named, factorRead, rfl⟩ := Record.optional_eq_ok.mp fields
  obtain ⟨g, name, united, nameRead, rfl⟩ := Record.optional_eq_ok.mp named
  obtain ⟨h, unit, valued, unitRead, rfl⟩ := Record.optional_eq_ok.mp united
  obtain ⟨_, _, value, ⟨⟩, -, -, rfl⟩ := Record.required_eq_ok.mp valued
  exact ⟨value, unit, name, given, rfl, unitRead, nameRead, factorRead⟩

namespace GivesFactor

/-- The factor is that of a unit with the name, and without a name it is dropped. -/
theorem unit_cases (gives : GivesFactor entries factor)
    (read : ofJson (.object entries) = .ok measure) :
    (∃ name, entries.lookup "name" = some (.string name) ∧
        measure.unit = some (.defined ⟨none, name, factor, .empty⟩)) ∨
      ¬ IsNamed entries ∧ measure.unit = none := by
  obtain ⟨value, unit, name, given, rfl, unitRead, nameRead, factorRead⟩ := eq_ofParts read
  have noUnit : unit = none := by
    have null : (entries.lookup "unit").getD .null = .null := by
      cases here : entries.lookup "unit" with
      | none => rfl
      | some other => exact gives.unitless other here
    rw [null] at unitRead
    exact (Except.ok.inj unitRead).symm
  have same : given = some factor := by
    obtain ⟨token, here, number⟩ := gives.factor
    rw [Option.mem_def.mp here] at factorRead
    cases token <;> cases number <;> exact (Except.ok.inj factorRead).symm
  subst noUnit same
  cases here : entries.lookup "name" with
  | none =>
    rw [here] at nameRead
    cases nameRead
    exact .inr ⟨by simp [IsNamed, here], rfl⟩
  | some other =>
    rw [here] at nameRead
    cases other with
    | string text => cases nameRead; exact .inl ⟨text, rfl, rfl⟩
    | null => cases nameRead; exact .inr ⟨by simp [IsNamed, here], rfl⟩
    | _ => cases nameRead

/-- The measure has a unit wherever it stands. -/
theorem exists_inUnit (gives : GivesFactor entries factor)
    (read : ofJson (.object entries) = .ok measure) (implied : KnownUnit) :
    ∃ quantity, measure.inUnit implied = .ok quantity ∧
      (quantity.unit.factor = factor ↔ IsNamed entries ∨ factor = implied.factor) := by
  rcases gives.unit_cases read with ⟨name, named, unit⟩ | ⟨unnamed, unit⟩
  · refine ⟨⟨measure.value, none, name, factor, some .empty⟩, ?_, ?_⟩
    · simp only [inUnit, unit]
      rfl
    · exact iff_of_true rfl (.inl ⟨name, named⟩)
  · refine ⟨⟨measure.value, .ofKnown implied⟩, by simp only [inUnit, unit], ?_⟩
    simp [unnamed, ResolvedUnit.ofKnown, eq_comm]

theorem means (gives : GivesFactor entries factor) (read : ofJson (.object entries) = .ok measure)
    (named : IsNamed entries) (implied : KnownUnit) : ∃ name, measure.Means implied name factor := by
  obtain ⟨quantity, resolved, same⟩ := gives.exists_inUnit read implied
  exact ⟨_, means_iff.mpr ⟨quantity, resolved, rfl, same.mpr (.inl named)⟩⟩

end GivesFactor

theorem Means.factor_unique {implied : KnownUnit} {name name' : String} {factor' : Float}
    (first : measure.Means implied name factor) (second : measure.Means implied name' factor') :
    factor = factor' := by
  obtain ⟨quantity, resolved, -, rfl⟩ := means_iff.mp first
  obtain ⟨other, resolvedOther, -, rfl⟩ := means_iff.mp second
  rw [resolved] at resolvedOther
  cases resolvedOther
  rfl

end Measure

namespace Ellipsoid

def IsMeasuredBy (ellipsoid : Ellipsoid) (measure : Measure) : Prop :=
  ellipsoid.semiMajorAxis = measure ∨
    ellipsoid.inverseFlattening = none ∧ ellipsoid.semiMinorAxis = some measure

/-- The older dialect takes no axis whose factor is not one. -/
theorem Convertible.factor_eq_one {ellipsoid : Ellipsoid} {measure : Measure} {name : String}
    {factor : Float} (convertible : ellipsoid.Convertible .wkt1)
    (measured : ellipsoid.IsMeasuredBy measure) (means : measure.Means .metre name factor) :
    factor = 1 := by
  have one : exactValue 1 ≠ 0 := by decide +kernel
  obtain ⟨major, ⟨majorName, majorMeans, figure⟩, metres⟩ := convertible
  obtain rfl : 1 = major := eq_of_exactValue_eq one (exactValue_eq_of_beq (metres rfl)).symm
  rcases measured with rfl | ⟨absent, given⟩
  · exact means.factor_unique majorMeans
  · simp only [absent, Option.isSome_none, Bool.false_eq_true, given, false_or, Option.mem_def,
      Option.some.injEq] at figure
    obtain ⟨axis, rfl, other, minorMeans, equal⟩ := figure
    obtain rfl := minorMeans.factor_unique means
    exact (eq_of_exactValue_eq one (exactValue_eq_of_beq equal)).symm

end Ellipsoid

variable {figure : Ellipsoid}

theorem GeodeticCrs.convertible_of_mem_objects {crs : GeodeticCrs}
    (only : Reference.Only crs.datum crs.ensemble Dialect.wkt1.AcceptsGeodetic)
    (member : .ellipsoid figure ∈ crs.objects) : figure.Convertible .wkt1 := by
  rcases only with ⟨datum, present, absent, -, ⟨given, has, convertible⟩, -⟩ |
    ⟨ensemble, absent, present, given, has, convertible⟩
  all_goals
    simp only [Option.mem_def] at has
    simp [objects, GeodeticDatum.objects, DatumEnsemble.geodeticObjects, CoordinateSystem.objects,
      present, absent, has] at member
    exact member ▸ convertible

/-- Every ellipsoid in a system of the older dialect has a figure in metres. -/
theorem Crs.Convertible.ellipsoid {crs : Crs} (convertible : crs.Convertible .wkt1)
    (member : .ellipsoid figure ∈ crs.objects) : figure.Convertible .wkt1 := by
  induction crs with
  | geodetic crs => exact crs.convertible_of_mem_objects convertible.1 member
  | derivedGeodetic crs => cases member
  | projected crs =>
    have inBase : .ellipsoid figure ∈ crs.base.objects := by
      simpa [objects, ProjectedCrs.objects, Operation.objects, CoordinateSystem.objects] using member
    exact crs.base.convertible_of_mem_objects convertible.1.1 inBase
  | vertical crs => simp [objects, VerticalCrs.objects, CoordinateSystem.objects] at member
  | compound name components metadata ih =>
    simp only [objects, objectsOfAll_eq_flatMap, List.mem_cons, reduceCtorEq, false_or,
      List.mem_flatMap] at member
    obtain ⟨component, inside, member⟩ := member
    exact ih component inside (allConvertible_iff.mp convertible component inside) member
  | bound source target transformation => cases member
  | unsupported typeName => cases member

end CrsText
