import CrsText.Definition.Crs
import CrsText.Proofs.Definition.Metadata
import CrsText.Wkt.Report
import Mathlib.Data.Set.Basic

/-! The objects that make up a system in the older dialect, and what it has to leave out of each of
them. Some of what is left out is announced, and some is not.
-/

set_option autoImplicit false

namespace CrsText

namespace Metadata

/-- The metadata says something for which the older dialect has no form. -/
def HoldsMore (metadata : Metadata) : Prop :=
  metadata.GivesUsage ∨ metadata.usages.isSome ∨ metadata.remarks.isSome ∨
    (metadata.identifier = none ∧ metadata.identifiers.isSome)

def notices (metadata : Metadata) : List Notice :=
  (if metadata.GivesUsage ∨ metadata.usages.isSome ∨ metadata.remarks.isSome then
    [.usageDropped] else []) ++
    match metadata.identifier, metadata.identifiers with
    | none, some identifiers => [.identifiersDropped identifiers.length]
    | _, _ => []

theorem notices_ne_nil {metadata : Metadata} (more : metadata.HoldsMore) :
    metadata.notices ≠ [] := by
  rcases more with given | given | given | ⟨lone, given⟩
  case inr.inr.inr =>
    obtain ⟨listed, several⟩ := Option.isSome_iff_exists.mp given
    simp [notices, lone, several]
  all_goals simp [notices, given]

end Metadata

def MeasureUnit.metadata : MeasureUnit → Metadata
  | .named _ => .empty
  | .defined definition => definition.metadata

inductive Object where
  | system (metadata : Metadata)
  | geodeticDatum (datum : GeodeticDatum)
  | verticalDatum (datum : VerticalDatum)
  | ensemble (ensemble : DatumEnsemble)
  | ellipsoid (ellipsoid : Ellipsoid)
  | primeMeridian (meridian : PrimeMeridian)
  | unit (unit : MeasureUnit)
  | conversion (conversion : Operation)
  | method (method : Method)
  | parameter (parameter : Parameter)

namespace Object

def metadata : Object → Metadata
  | .system metadata => metadata
  | .geodeticDatum datum => datum.metadata
  | .verticalDatum datum => datum.metadata
  | .ensemble several => several.metadata
  | .ellipsoid figure => figure.metadata
  | .primeMeridian meridian => meridian.metadata
  | .unit given => given.metadata
  | .conversion operation => operation.metadata
  | .method applied => applied.metadata
  | .parameter given => given.metadata

def HoldsMore (object : Object) : Prop :=
  object.metadata.HoldsMore ∨ match object with
    | .geodeticDatum datum => datum.isDynamic ∧ datum.referenceEpoch.isSome
    | .verticalDatum datum => datum.isDynamic ∧ datum.referenceEpoch.isSome
    | .ensemble several => several.members ≠ [] ∨ several.accuracy.isSome
    | _ => False

/-- What tells that something is left out of the object. That a datum is dynamic is left out even if
it gives no epoch, and an ensemble is one even if it has no members. -/
inductive Loses : Object → Notice → Prop where
  | metadata {object : Object} {notice : Notice} (member : notice ∈ object.metadata.notices) :
    Loses object notice
  | geodeticEpoch {datum : GeodeticDatum} (dynamic : datum.isDynamic) :
    Loses (.geodeticDatum datum) (.epochDropped datum.name)
  | verticalEpoch {datum : VerticalDatum} (dynamic : datum.isDynamic) :
    Loses (.verticalDatum datum) (.epochDropped datum.name)
  | collapsed (several : DatumEnsemble) :
    Loses (.ensemble several) (.ensembleCollapsed several.name)

theorem exists_loses {object : Object} (more : object.HoldsMore) : ∃ notice, object.Loses notice := by
  rcases more with more | more
  · obtain ⟨notice, member⟩ := List.exists_mem_of_ne_nil _ (Metadata.notices_ne_nil more)
    exact ⟨notice, .metadata member⟩
  · cases object with
    | geodeticDatum datum => exact ⟨_, .geodeticEpoch more.1⟩
    | verticalDatum datum => exact ⟨_, .verticalEpoch more.1⟩
    | ensemble several => exact ⟨_, .collapsed several⟩
    | _ => exact more.elim

/-- Of an operation only the parameters with a file are looked at for what they say besides. -/
def IsAnnounced : Object → Prop
  | .conversion _ => False
  | .method _ => False
  | .parameter given => ∃ file, given.value = .file file
  | _ => True

def losses (objects : List Object) : Set Notice :=
  {notice | ∃ object ∈ objects, object.IsAnnounced ∧ object.Loses notice}

end Object

def GeodeticDatum.objects (datum : GeodeticDatum) : List Object :=
  .geodeticDatum datum :: datum.ellipsoid.toList.map .ellipsoid ++
    datum.primeMeridian.toList.map .primeMeridian

def DatumEnsemble.geodeticObjects (ensemble : DatumEnsemble) : List Object :=
  .ensemble ensemble :: ensemble.ellipsoid.toList.map .ellipsoid

def CoordinateSystem.objects (system : CoordinateSystem) : List Object :=
  (system.axes.head?.bind (·.unit)).toList.map .unit

def Operation.objects (operation : Operation) : List Object :=
  .conversion operation :: .method operation.method :: operation.parameters.map .parameter

def GeodeticCrs.objects (crs : GeodeticCrs) : List Object :=
  .system crs.metadata :: crs.datum.toList.flatMap GeodeticDatum.objects ++
    crs.ensemble.toList.flatMap DatumEnsemble.geodeticObjects ++
    crs.coordinateSystem.toList.flatMap CoordinateSystem.objects

def ProjectedCrs.objects (crs : ProjectedCrs) : List Object :=
  .system crs.metadata :: crs.base.objects ++ crs.conversion.objects ++ crs.coordinateSystem.objects

def VerticalCrs.objects (crs : VerticalCrs) : List Object :=
  .system crs.metadata :: crs.datum.toList.map .verticalDatum ++ crs.ensemble.toList.map .ensemble ++
    crs.coordinateSystem.objects

mutual

/-- The objects of a system that are written in the older dialect, which has no derived geodetic and
no bound systems. -/
def Crs.objects : Crs → List Object
  | .geodetic crs => crs.objects
  | .derivedGeodetic _ => []
  | .projected crs => crs.objects
  | .vertical crs => crs.objects
  | .compound _ components metadata => .system metadata :: Crs.objectsOfAll components
  | .bound _ _ _ => []
  | .unsupported _ => []

def Crs.objectsOfAll : List Crs → List Object
  | [] => []
  | first :: rest => first.objects ++ Crs.objectsOfAll rest

end

theorem Crs.objectsOfAll_eq_flatMap (components : List Crs) :
    objectsOfAll components = components.flatMap objects := by
  induction components with
  | nil => rfl
  | cons first rest ih => rw [objectsOfAll, ih, List.flatMap_cons]

namespace Object

@[simp] theorem losses_nil : losses [] = ∅ := by
  ext notice
  simp [losses]

theorem losses_append (objects others : List Object) :
    losses (objects ++ others) = losses objects ∪ losses others := by
  ext notice
  simp [losses, or_and_right, exists_or]

theorem losses_cons (object : Object) (objects : List Object) :
    losses (object :: objects) = losses [object] ∪ losses objects := losses_append [object] objects

theorem losses_flatMap {α : Type} (values : List α) (objects : α → List Object) :
    losses (values.flatMap objects) = {notice | ∃ value ∈ values, notice ∈ losses (objects value)} := by
  induction values with
  | nil => simp
  | cons value rest ih =>
    rw [List.flatMap_cons, losses_append, ih]
    ext notice
    simp

end Object

end CrsText
