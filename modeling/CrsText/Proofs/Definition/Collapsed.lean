import CrsText.Definition.Crs
import CrsText.Wkt1.Reference
import Mathlib.Data.List.Infix

/-! A system in which every ensemble has been collapsed to a single datum and every geodetic datum
names its prime meridian.
-/

set_option autoImplicit false

namespace CrsText

namespace Text

def withoutFirst (word text : List Char) : List Char :=
  match text.tails.findIdx? word.isPrefixOf with
  | some index => text.take index ++ text.drop (index + word.length)
  | none => text

theorem withoutFirst_of_isPrefixOf {word text : List Char} (begins : word.isPrefixOf text) :
    withoutFirst word text = text.drop word.length := by
  cases text <;> simp [withoutFirst, List.findIdx?_cons, begins]

theorem withoutFirst_cons {word : List Char} {c : Char} {rest : List Char}
    (other : ¬ word.isPrefixOf (c :: rest)) :
    withoutFirst word (c :: rest) = c :: withoutFirst word rest := by
  simp only [withoutFirst, List.tails_cons, List.findIdx?_cons, other]
  cases rest.tails.findIdx? word.isPrefixOf with
  | none => simp
  | some index => simp [Nat.add_right_comm index 1 word.length]

theorem eraseFirst_eq (word text : List Char) : eraseFirst word text = withoutFirst word text := by
  induction text with
  | nil => cases word <;> simp [eraseFirst, withoutFirst]
  | cons c rest ih =>
    unfold eraseFirst
    split
    · next begins => exact (withoutFirst_of_isPrefixOf begins).symm
    · next other => rw [withoutFirst_cons other, ih]

end Text

def GeodeticDatum.withMeridian (datum : GeodeticDatum) : GeodeticDatum :=
  { datum with primeMeridian := some (datum.primeMeridian.getD .greenwich) }

namespace DatumEnsemble

/-- The datum that stands for an ensemble on the given ellipsoid. Its name is that of the ensemble
without the word that tells the two apart. -/
def geodeticDatum (ensemble : DatumEnsemble) (figure : Ellipsoid) : GeodeticDatum where
  typeTag := none
  name := String.ofList (Text.withoutFirst " ensemble".toList ensemble.name.toList)
  ellipsoid := some figure
  primeMeridian := none
  referenceEpoch := none
  metadata := ensemble.metadata

/-- For heights the name stays whole. -/
def verticalDatum (ensemble : DatumEnsemble) : VerticalDatum :=
  ⟨none, ensemble.name, none, ensemble.metadata⟩

end DatumEnsemble

namespace GeodeticCrs

def withMeridian (crs : GeodeticCrs) : GeodeticCrs :=
  { crs with datum := crs.datum.map GeodeticDatum.withMeridian }

/-- Only an ensemble with an ellipsoid can be collapsed, and only where there is no datum. -/
def collapsed (crs : GeodeticCrs) : GeodeticCrs :=
  match crs.datum, crs.ensemble.bind fun ensemble => ensemble.ellipsoid.map ensemble.geodeticDatum with
  | none, some datum => { crs with datum := some datum.withMeridian, ensemble := none }
  | _, _ => crs.withMeridian

-- Nothing but the reference changes.
@[simp] theorem collapsed_kind (crs : GeodeticCrs) : crs.collapsed.kind = crs.kind := by
  unfold collapsed
  split <;> rfl

@[simp] theorem collapsed_name (crs : GeodeticCrs) : crs.collapsed.name = crs.name := by
  unfold collapsed
  split <;> rfl

@[simp] theorem collapsed_coordinateSystem (crs : GeodeticCrs) :
    crs.collapsed.coordinateSystem = crs.coordinateSystem := by
  unfold collapsed
  split <;> rfl

@[simp] theorem collapsed_metadata (crs : GeodeticCrs) :
    crs.collapsed.metadata = crs.metadata := by
  unfold collapsed
  split <;> rfl

end GeodeticCrs

def VerticalCrs.collapsed (crs : VerticalCrs) : VerticalCrs :=
  match crs.datum, crs.ensemble with
  | none, some ensemble => { crs with datum := some ensemble.verticalDatum, ensemble := none }
  | _, _ => crs

mutual

/-- The base of a derived system keeps its ensemble. -/
def Crs.collapsed : Crs → Crs
  | .geodetic crs => .geodetic crs.collapsed
  | .derivedGeodetic crs => .derivedGeodetic { crs with base := crs.base.withMeridian }
  | .projected crs => .projected { crs with base := crs.base.collapsed }
  | .vertical crs => .vertical crs.collapsed
  | .compound name components metadata => .compound name (Crs.collapsedAll components) metadata
  | .bound source target transformation => .bound source.collapsed target.collapsed transformation
  | .unsupported typeName => .unsupported typeName

def Crs.collapsedAll : List Crs → List Crs
  | [] => []
  | first :: rest => first.collapsed :: Crs.collapsedAll rest

end

theorem Crs.collapsedAll_eq_map (components : List Crs) :
    collapsedAll components = components.map collapsed := by
  induction components with
  | nil => rfl
  | cons first rest ih => rw [collapsedAll, ih, List.map_cons]

end CrsText
