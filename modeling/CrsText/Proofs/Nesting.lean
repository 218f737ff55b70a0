import CrsText.Definition.Crs
import CrsText.Wkt.Item

/-! Induction over systems within systems, and over items within items. The hypothesis for a list of
parts speaks of each of its members.
-/

set_option autoImplicit false

namespace CrsText

@[induction_eliminator]
theorem Crs.nested {motive : Crs → Prop}
    (geodetic : ∀ crs, motive (.geodetic crs))
    (derivedGeodetic : ∀ crs, motive (.derivedGeodetic crs))
    (projected : ∀ crs, motive (.projected crs))
    (vertical : ∀ crs, motive (.vertical crs))
    (compound : ∀ name components metadata, (∀ component ∈ components, motive component) →
      motive (.compound name components metadata))
    (bound : ∀ source target transformation, motive source → motive target →
      motive (.bound source target transformation))
    (unsupported : ∀ typeName, motive (.unsupported typeName)) (crs : Crs) : motive crs :=
  @Crs.rec motive (fun components => ∀ component ∈ components, motive component)
    geodetic derivedGeodetic projected vertical compound bound unsupported
    (fun _ member => nomatch member)
    (fun _ _ head tail => List.forall_mem_cons.mpr ⟨head, tail⟩) crs

@[induction_eliminator]
theorem Item.nested {motive : Item → Prop}
    (node : ∀ keyword items, (∀ item ∈ items, motive item) → motive (.node keyword items))
    (text : ∀ content, motive (.text content))
    (token : ∀ content, motive (.token content))
    (group : ∀ items, (∀ item ∈ items, motive item) → motive (.group items)) (item : Item) :
    motive item :=
  @Item.rec motive (fun items => ∀ item ∈ items, motive item) node text token group
    (fun _ member => nomatch member)
    (fun _ _ head tail => List.forall_mem_cons.mpr ⟨head, tail⟩) item

end CrsText
