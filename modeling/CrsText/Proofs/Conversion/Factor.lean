import CrsText.Proofs.Conversion.Mismatch
import CrsText.Proofs.Definition.Factor

/-! A conversion factor beside a value is kept together with a name for it. Without one the value is
taken to be in the unit that its place implies, even if the factor is another one.
-/

set_option autoImplicit false

namespace CrsText

namespace Measure

variable {entries : List (String × Json)} {measure : Measure} {factor : Float}

/-- A measure object that gives a factor, but no unit, has a unit in every place. The factor is that of
the unit if and only if the object gives a name, too, or the factor is the implied one. A named factor
other than one keeps every ellipsoid that is measured by it out of the older dialect. -/
theorem convert_factor (gives : GivesFactor entries factor)
    (read : ofJson (.object entries) = .ok measure) :
    (∀ implied, ∃ quantity, measure.inUnit implied = .ok quantity ∧
      (quantity.unit.factor = factor ↔ IsNamed entries ∨ factor = implied.factor)) ∧
    (IsNamed entries → ∀ {crs : Crs} {layout : Layout} {text : String} {figure : Ellipsoid},
      (crs.convert .wkt1 layout).result = .ok text → .ellipsoid figure ∈ crs.objects →
        figure.IsMeasuredBy measure → factor = 1) := by
  refine ⟨gives.exists_inUnit read, fun named crs layout text figure converted member measured => ?_⟩
  have convertible : crs.Convertible .wkt1 :=
    (Crs.convert_succeeds_iff .wkt1 layout crs).mp ⟨text, converted⟩
  obtain ⟨name, means⟩ := gives.means read named .metre
  exact (convertible.ellipsoid member).factor_eq_one measured means

def spread (name : String) (factor : Float) : List (String × Json) :=
  [("value", .float 20925832.16), ("name", .string name), ("conversion_factor", .float factor)]

def figureOf (axis : Measure) : Ellipsoid :=
  ⟨"Figure", axis, none, some 294.978698213898, .empty⟩

theorem givesFactor_spread (name : String) (factor : Float) : GivesFactor (spread name factor) factor :=
  ⟨nofun, .float factor, rfl, rfl⟩

theorem ellipsoid_mem_objects (figure : Ellipsoid) :
    .ellipsoid figure ∈ (Crs.withFigure figure).objects := by
  simp [Crs.withFigure, Crs.objects, GeodeticCrs.objects, GeodeticDatum.objects]

/-- Feet stay feet, and keep an ellipsoid from being written; a unit of the factor one does not. -/
theorem convert_factor_foot : ∃ foot metre : Measure,
    GivesFactor (spread "foot" 0.3048) 0.3048 ∧ ofJson (.object (spread "foot" 0.3048)) = .ok foot ∧
      (∃ quantity, foot.inUnit .metre = .ok quantity ∧ quantity.unit.factor = 0.3048) ∧
      (¬ ∃ text, ((Crs.withFigure (figureOf foot)).convert .wkt1 .multiline).result = .ok text) ∧
    GivesFactor (spread "meter" 1) 1 ∧ ofJson (.object (spread "meter" 1)) = .ok metre ∧
      ∃ text, ((Crs.withFigure (figureOf metre)).convert .wkt1 .multiline).result = .ok text := by
  have named : IsNamed (spread "foot" 0.3048) := ⟨"foot", rfl⟩
  obtain ⟨kept, metres⟩ := convert_factor (givesFactor_spread "foot" 0.3048) rfl
  obtain ⟨quantity, known, same⟩ := kept .metre
  refine ⟨_, _, givesFactor_spread "foot" 0.3048, rfl, ⟨quantity, known, same.mpr (.inl named)⟩, ?_,
    givesFactor_spread "meter" 1, rfl, _, rfl⟩
  rintro ⟨text, converted⟩
  have one : (0.3048 : Float) = 1 := metres named converted (ellipsoid_mem_objects _) (.inl rfl)
  exact absurd one (by decide +kernel)

/-- The factor of a foot without the name is dropped, and the value is written as one in metres. -/
theorem convert_unnamedFactor_dropped :
    let entries : List (String × Json) :=
      [("value", .float 20925832.16), ("conversion_factor", .float 0.3048)]
    GivesFactor entries 0.3048 ∧ ∃ measure quantity text,
      ofJson (.object entries) = .ok measure ∧ measure.inUnit .metre = .ok quantity ∧
        quantity.unit.factor = 1 ∧ (1 : Float) ≠ 0.3048 ∧
        ((Crs.withFigure (figureOf measure)).convert .wkt1 .singleLine).result = .ok text := by
  refine ⟨⟨nofun, .float 0.3048, rfl, rfl⟩, _, _, _, rfl, rfl, rfl, ?_, rfl⟩
  decide +kernel

end Measure

end CrsText
