import CrsText.Proofs.Definition.Finite
import CrsText.Proofs.Definition.Resolution

/-! What is taken and computed out of a definition before it is written. Units that are looked up are
finite, and so is the inverse flattening of every ellipsoid but that of a sphere.
-/

set_option autoImplicit false

namespace CrsText

namespace Metadata.IsFinite

variable {metadata : Metadata}

theorem effectiveUsages (finite : metadata.IsFinite) :
    ∀ usage ∈ metadata.effectiveUsages, usage.IsFinite := by
  intro usage member
  rw [Metadata.effectiveUsages] at member
  split at member
  · exact List.mem_singleton.mp member ▸ finite.usage
  · cases listed : metadata.usages with
    | none => simp [listed] at member
    | some usages => exact finite.usages usages listed usage (by simpa [listed] using member)

theorem effectiveIdentifiers (finite : metadata.IsFinite) :
    ∀ identifier ∈ metadata.effectiveIdentifiers, identifier.IsFinite := by
  intro identifier member
  rw [Metadata.effectiveIdentifiers] at member
  split at member
  · next own given => exact List.mem_singleton.mp member ▸ finite.identifier own given
  · cases listed : metadata.identifiers with
    | none => simp [listed] at member
    | some identifiers =>
      exact finite.identifiers identifiers listed identifier (by simpa [listed] using member)

end Metadata.IsFinite

structure ResolvedUnit.IsFinite (unit : ResolvedUnit) : Prop where
  factor : unit.factor.isFinite
  metadata : ∀ metadata ∈ unit.metadata, metadata.IsFinite

structure Quantity.IsFinite (quantity : Quantity) : Prop where
  value : quantity.value.isFinite
  unit : quantity.unit.IsFinite

theorem ResolvedUnit.isFinite_ofKnown (unit : KnownUnit) : (ofKnown unit).IsFinite :=
  ⟨by cases unit <;> rfl, by simp [ofKnown]⟩

theorem MeasureUnit.IsFinite.resolve {unit : MeasureUnit} (finite : unit.IsFinite)
    {resolved : ResolvedUnit} (found : unit.resolve = .ok resolved) : resolved.IsFinite := by
  rcases resolve_cases found with ⟨known, rfl, rfl⟩ | ⟨definition, factor, rfl, given, rfl⟩
  · exact ResolvedUnit.isFinite_ofKnown known
  · exact ⟨finite.factor factor given, by simpa using finite.metadata⟩

theorem Measure.IsFinite.inUnit {measure : Measure} (finite : measure.IsFinite) {implied : KnownUnit}
    {quantity : Quantity} (known : measure.inUnit implied = .ok quantity) : quantity.IsFinite := by
  obtain ⟨value, ⟨-, known⟩ | ⟨unit, given, found⟩⟩ := inUnit_eq_ok.mp known
  · exact ⟨value ▸ finite.value, known ▸ ResolvedUnit.isFinite_ofKnown implied⟩
  · exact ⟨value ▸ finite.value, (finite.unit unit given).resolve found⟩

/-- A unit that is looked up does not change the value. -/
theorem Measure.value_of_inUnit {measure : Measure} {implied : KnownUnit} {quantity : Quantity}
    (known : measure.inUnit implied = .ok quantity) : quantity.value = measure.value :=
  (inUnit_eq_ok.mp known).1

namespace Ellipsoid

def HasEqualAxes (ellipsoid : Ellipsoid) : Prop :=
  ellipsoid.inverseFlattening = none ∧
    ∃ axis ∈ ellipsoid.semiMinorAxis, exactValue axis.value = exactValue ellipsoid.semiMajorAxis.value

/-- The flattening that is computed from two axes is finite unless they are equal. -/
theorem IsFinite.figure {ellipsoid : Ellipsoid} (finite : ellipsoid.IsFinite) {semiMajor : Quantity}
    {flattening : Float} (known : ellipsoid.figure = .ok (semiMajor, flattening)) :
    semiMajor.IsFinite ∧ (flattening.isFinite ↔ ¬ ellipsoid.HasEqualAxes) := by
  obtain ⟨inMajor, given⟩ := figure_eq_ok.mp known
  have majorFinite := finite.semiMajorAxis.inUnit inMajor
  refine ⟨majorFinite, ?_⟩
  rcases given with given | ⟨absent, axis, given, minor, inMinor, -, rfl⟩
  · refine iff_of_true (finite.inverseFlattening _ given) ?_
    rintro ⟨absent, -⟩
    rw [given] at absent
    cases absent
  · have minorFinite := (finite.semiMinorAxis axis given).inUnit inMinor
    rw [isFinite_div_sub majorFinite.value minorFinite.value, Measure.value_of_inUnit inMajor,
      Measure.value_of_inUnit inMinor]
    simp [HasEqualAxes, absent, Option.mem_def.mp given, eq_comm]

end Ellipsoid

namespace Reference

def HasSphere : Reference GeodeticDatum → Prop
  | .datum single => ∃ figure ∈ single.ellipsoid, figure.HasEqualAxes
  | .ensemble several => ∃ figure ∈ several.ellipsoid, figure.HasEqualAxes

def IsFinite {δ : Type} (datumFinite : δ → Prop) : Reference δ → Prop
  | .datum single => datumFinite single
  | .ensemble several => several.IsFinite

theorem isFinite_of_select {δ : Type} {datumFinite : δ → Prop} {name : String} {datum : Option δ}
    {ensemble : Option DatumEnsemble} {selected : Reference δ}
    (datumsFinite : ∀ single ∈ datum, datumFinite single)
    (ensemblesFinite : ∀ several ∈ ensemble, several.IsFinite)
    (isSelected : select name datum ensemble = .ok selected) : selected.IsFinite datumFinite := by
  rcases select_cases isSelected with ⟨single, rfl, rfl, rfl⟩ | ⟨several, rfl, rfl, rfl⟩
  · exact datumsFinite single rfl
  · exact ensemblesFinite several rfl

end Reference

def GeodeticCrs.HasSphere (crs : GeodeticCrs) : Prop :=
  (∃ datum ∈ crs.datum, ∃ figure ∈ datum.ellipsoid, figure.HasEqualAxes) ∨
    ∃ ensemble ∈ crs.ensemble, ∃ figure ∈ ensemble.ellipsoid, figure.HasEqualAxes

theorem GeodeticCrs.hasSphere_iff {crs : GeodeticCrs} {selected : Reference GeodeticDatum}
    (isSelected : Reference.select crs.name crs.datum crs.ensemble = .ok selected) :
    crs.HasSphere ↔ selected.HasSphere := by
  rcases Reference.select_cases isSelected with
    ⟨single, datum, ensemble, rfl⟩ | ⟨several, datum, ensemble, rfl⟩ <;>
    simp [HasSphere, Reference.HasSphere, datum, ensemble]

/-- The system, or one within it, is on a geodetic datum or ensemble with such an ellipsoid. -/
inductive Crs.HasSphere : Crs → Prop where
  | geodetic {crs : GeodeticCrs} : crs.HasSphere → HasSphere (.geodetic crs)
  | derivedGeodetic {crs : DerivedGeodeticCrs} : crs.base.HasSphere → HasSphere (.derivedGeodetic crs)
  | projected {crs : ProjectedCrs} : crs.base.HasSphere → HasSphere (.projected crs)
  | component {name : String} {components : List Crs} {metadata : Metadata} {crs : Crs} :
      crs ∈ components → HasSphere crs → HasSphere (.compound name components metadata)
  | source {source target : Crs} {transformation : Operation} : HasSphere source →
      HasSphere (.bound source target transformation)
  | target {source target : Crs} {transformation : Operation} : HasSphere target →
      HasSphere (.bound source target transformation)

namespace Crs

-- Where a system has a sphere follows its constructors.
@[simp] theorem hasSphere_geodetic (crs : GeodeticCrs) : HasSphere (.geodetic crs) ↔ crs.HasSphere :=
  ⟨fun | .geodetic sphere => sphere, .geodetic⟩

@[simp] theorem hasSphere_derivedGeodetic (crs : DerivedGeodeticCrs) :
    HasSphere (.derivedGeodetic crs) ↔ crs.base.HasSphere :=
  ⟨fun | .derivedGeodetic sphere => sphere, .derivedGeodetic⟩

@[simp] theorem hasSphere_projected (crs : ProjectedCrs) :
    HasSphere (.projected crs) ↔ crs.base.HasSphere :=
  ⟨fun | .projected sphere => sphere, .projected⟩

@[simp] theorem not_hasSphere_vertical (crs : VerticalCrs) : ¬ HasSphere (.vertical crs) := nofun

@[simp] theorem hasSphere_compound (name : String) (components : List Crs) (metadata : Metadata) :
    HasSphere (.compound name components metadata) ↔ ∃ crs ∈ components, HasSphere crs :=
  ⟨fun | .component member sphere => ⟨_, member, sphere⟩,
    fun ⟨_, member, sphere⟩ => .component member sphere⟩

@[simp] theorem hasSphere_bound (source target : Crs) (transformation : Operation) :
    HasSphere (.bound source target transformation) ↔ HasSphere source ∨ HasSphere target :=
  ⟨fun | .source sphere => .inl sphere | .target sphere => .inr sphere, Or.rec .source .target⟩

end Crs

end CrsText
