import CrsText.Proofs.Definition.Convertible
import CrsText.Proofs.Success

/-! When units, figures and references can be looked up, as far as both dialects do it alike.
-/

set_option autoImplicit false

namespace CrsText

theorem KnownUnit.ofName?_eq_some {name : String} {unit : KnownUnit} :
    ofName? name = some unit ↔ name = unit.name := by
  constructor
  · intro found
    have same := List.find?_some found
    exact (beq_iff_eq.mp same).symm
  · rintro rfl
    cases unit <;> rfl

namespace MeasureUnit

variable {unit : MeasureUnit} {name : String} {factor : Float}

/-- What is resolved is a known unit, or an object with its factor. -/
theorem resolve_cases {resolved : ResolvedUnit} (found : unit.resolve = .ok resolved) :
    (∃ known : KnownUnit, unit = .named known.name ∧ resolved = .ofKnown known) ∨
      ∃ definition factor, unit = .defined definition ∧ definition.factor = some factor ∧
        resolved = ⟨definition.typeTag, definition.name, factor, some definition.metadata⟩ := by
  cases unit with
  | named name =>
    simp only [resolve] at found
    split at found
    · next known same =>
      cases found
      exact .inl ⟨known, by rw [KnownUnit.ofName?_eq_some.mp same], rfl⟩
    · cases found
  | defined definition =>
    simp only [resolve, ResolvedUnit.ofDefinition] at found
    split at found
    · next factor given =>
      cases found
      exact .inr ⟨definition, factor, rfl, given, rfl⟩
    · cases found

-- The tag and the metadata of a resolved unit do not matter for its meaning.
theorem means_iff : unit.Means name factor ↔
    ∃ resolved, unit.resolve = .ok resolved ∧ resolved.name = name ∧ resolved.factor = factor := by
  constructor
  · intro means
    cases means with
    | known known =>
      have found := KnownUnit.ofName?_eq_some.mpr (Eq.refl known.name)
      exact ⟨.ofKnown known, by simp [resolve, found], rfl, rfl⟩
    | defined given =>
      exact ⟨_, by simp [resolve, ResolvedUnit.ofDefinition, given]; rfl, rfl, rfl⟩
  · intro resolves
    obtain ⟨resolved, found, rfl, rfl⟩ := resolves
    rcases resolve_cases found with ⟨known, rfl, rfl⟩ | ⟨definition, factor, rfl, given, rfl⟩
    · exact .known known
    · exact .defined given

theorem succeeds_resolve : Succeeds unit.resolve ↔ unit.Resolvable := by
  simp only [Resolvable, means_iff]
  constructor
  · intro succeeded
    obtain ⟨resolved, found⟩ := succeeded
    exact ⟨_, _, resolved, found, rfl, rfl⟩
  · intro resolvable
    obtain ⟨_, _, resolved, found, -, -⟩ := resolvable
    exact ⟨resolved, found⟩

/-- A known unit has a kind, and the kind of a unit object is its tag. -/
theorem typeTag_of_resolve {resolved : ResolvedUnit} (found : unit.resolve = .ok resolved) :
    (∃ kind : UnitKind, resolved.typeTag = some kind.tag) ↔
      ∀ definition, unit = .defined definition →
        ∃ kind : UnitKind, definition.typeTag = some kind.tag := by
  rcases resolve_cases found with ⟨known, rfl, rfl⟩ | ⟨definition, factor, rfl, given, rfl⟩
  · simp only [reduceCtorEq, false_implies, implies_true, iff_true]
    exact ⟨known.kind, rfl⟩
  · simp

end MeasureUnit

namespace Measure

variable {measure : Measure} {implied : KnownUnit}

/-- The implied unit stands in only for one that is not given. -/
theorem inUnit_eq_ok {quantity : Quantity} : measure.inUnit implied = .ok quantity ↔
    quantity.value = measure.value ∧ (measure.unit = none ∧ quantity.unit = .ofKnown implied ∨
      ∃ unit ∈ measure.unit, unit.resolve = .ok quantity.unit) := by
  obtain ⟨value, given⟩ := measure
  obtain ⟨amount, resolved⟩ := quantity
  cases given with
  | none => simp [inUnit, eq_comm]
  | some unit =>
    simp only [inUnit, bind_eq_ok, pure_eq_ok, Quantity.mk.injEq, reduceCtorEq, false_and, false_or,
      Option.mem_def, Option.some.injEq, exists_eq_left']
    constructor
    · rintro ⟨_, found, same, rfl⟩
      exact ⟨same.symm, found⟩
    · rintro ⟨same, found⟩
      exact ⟨_, found, same.symm, rfl⟩

theorem means_iff {name : String} {factor : Float} : measure.Means implied name factor ↔
    ∃ quantity, measure.inUnit implied = .ok quantity ∧ quantity.unit.name = name ∧
      quantity.unit.factor = factor := by
  obtain ⟨value, given⟩ := measure
  cases given with
  | none => simp [Means, inUnit, ResolvedUnit.ofKnown, eq_comm]
  | some unit =>
    simp only [Means, inUnit, MeasureUnit.means_iff, bind_eq_ok, pure_eq_ok]
    constructor
    · intro resolves
      obtain ⟨resolved, found, same⟩ := resolves
      exact ⟨_, ⟨resolved, found, rfl⟩, same⟩
    · intro resolves
      obtain ⟨_, ⟨resolved, found, rfl⟩, same⟩ := resolves
      exact ⟨resolved, found, same⟩

theorem succeeds_inUnit : Succeeds (measure.inUnit implied) ↔ measure.Resolvable := by
  obtain ⟨value, given⟩ := measure
  cases given with
  | none => simp [Resolvable, inUnit]
  | some unit => simp [Resolvable, inUnit, MeasureUnit.succeeds_resolve]

end Measure

namespace Ellipsoid

variable {ellipsoid : Ellipsoid}

/-- The semi-minor axis is looked up only if there is no flattening. -/
theorem figure_eq_ok {semiMajor : Quantity} {flattening : Float} :
    ellipsoid.figure = .ok (semiMajor, flattening) ↔
      ellipsoid.semiMajorAxis.inUnit .metre = .ok semiMajor ∧
        (ellipsoid.inverseFlattening = some flattening ∨
          ellipsoid.inverseFlattening = none ∧ ∃ axis ∈ ellipsoid.semiMinorAxis, ∃ semiMinor,
            axis.inUnit .metre = .ok semiMinor ∧ semiMajor.unit.agrees semiMinor.unit ∧
              semiMajor.value / (semiMajor.value - semiMinor.value) = flattening) := by
  simp only [figure, bind_eq_ok]
  cases ellipsoid.inverseFlattening with
  | some inverseFlattening => simp [pure_eq_ok]
  | none =>
    cases ellipsoid.semiMinorAxis with
    | none => simp
    | some axis =>
      simp only [bind_eq_ok, reduceCtorEq, false_or, true_and, Option.mem_def, Option.some.injEq,
        exists_eq_left']
      constructor
      · rintro ⟨quantity, major, semiMinor, minor, found⟩
        split at found
        · next agrees =>
          cases found
          exact ⟨major, semiMinor, minor, agrees, rfl⟩
        · cases found
      · rintro ⟨major, semiMinor, minor, agrees, rfl⟩
        exact ⟨semiMajor, major, semiMinor, minor, if_pos agrees⟩

theorem hasFigure_iff {factor : Float} :
    ellipsoid.HasFigure factor ↔ ∃ semiMajor inverseFlattening,
      ellipsoid.figure = .ok (semiMajor, inverseFlattening) ∧ semiMajor.unit.factor = factor := by
  simp only [HasFigure, Measure.means_iff, figure_eq_ok]
  constructor
  · rintro ⟨name, ⟨quantity, major, rfl, rfl⟩, given⟩
    cases present : ellipsoid.inverseFlattening with
    | some flattening => exact ⟨quantity, flattening, ⟨major, .inl rfl⟩, rfl⟩
    | none =>
      simp only [present, Option.isSome_none, Bool.false_eq_true, false_or] at given
      obtain ⟨axis, given, _, ⟨other, minor, name, rfl⟩, factor⟩ := given
      have agrees : quantity.unit.agrees other.unit := by simp [ResolvedUnit.agrees, name, factor]
      exact ⟨quantity, _, ⟨major, .inr ⟨rfl, axis, given, other, minor, agrees, rfl⟩⟩, rfl⟩
  · rintro ⟨quantity, flattening, ⟨major, given⟩, rfl⟩
    refine ⟨_, ⟨quantity, major, rfl, rfl⟩, ?_⟩
    rcases given with present | ⟨-, axis, given, other, minor, agrees, -⟩
    · exact .inl (by simp [present])
    · simp only [ResolvedUnit.agrees, Bool.and_eq_true, beq_iff_eq] at agrees
      exact .inr ⟨axis, given, _, ⟨other, minor, agrees.1.symm, rfl⟩, agrees.2⟩

theorem require_eq_ok {name : String} {given : Option Ellipsoid} :
    require name given = .ok ellipsoid ↔ given = some ellipsoid := by
  cases given <;> simp [require]

end Ellipsoid

theorem Reference.select_cases {δ : Type} {name : String} {datum : Option δ}
    {ensemble : Option DatumEnsemble} {selected : Reference δ}
    (isSelected : select name datum ensemble = .ok selected) :
    (∃ single, datum = some single ∧ ensemble = none ∧ selected = .datum single) ∨
      ∃ several, datum = none ∧ ensemble = some several ∧ selected = .ensemble several := by
  cases datum <;> cases ensemble <;> cases isSelected
  · exact .inr ⟨_, rfl, rfl, rfl⟩
  · exact .inl ⟨_, rfl, rfl, rfl⟩

theorem Reference.only_iff {δ : Type} (name : String) {datum : Option δ}
    {ensemble : Option DatumEnsemble} {property : Reference δ → Prop} :
    Only datum ensemble property ↔
      ∃ selected, select name datum ensemble = .ok selected ∧ property selected := by
  constructor
  · intro only
    rcases only with ⟨single, rfl, rfl, holds⟩ | ⟨several, rfl, rfl, holds⟩
    · exact ⟨_, rfl, holds⟩
    · exact ⟨_, rfl, holds⟩
  · intro selects
    obtain ⟨selected, isSelected, holds⟩ := selects
    rcases select_cases isSelected with ⟨single, rfl, rfl, rfl⟩ | ⟨several, rfl, rfl, rfl⟩
    · exact .inl ⟨single, rfl, rfl, holds⟩
    · exact .inr ⟨several, rfl, rfl, holds⟩

end CrsText
