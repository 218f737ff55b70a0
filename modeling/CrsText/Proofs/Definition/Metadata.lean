import CrsText.Definition.Metadata

/-! Which of the metadata of an object counts. What the object says in its own place comes before a list.
-/

set_option autoImplicit false

namespace CrsText

namespace Metadata

variable {metadata : Metadata}

/-- The object itself has a scope, an area or bounds. -/
def GivesUsage (metadata : Metadata) : Prop :=
  metadata.scope.isSome ∨ metadata.area.isSome ∨ metadata.boundingBox.isSome

instance : DecidablePred GivesUsage := fun _ => inferInstanceAs (Decidable (_ ∨ _ ∨ _))

def usagesInForce (metadata : Metadata) : List Usage :=
  if metadata.GivesUsage then [⟨metadata.scope, metadata.area, metadata.boundingBox⟩]
  else match metadata.usages with
    | some listed => listed
    | none => []

def identifiersInForce (metadata : Metadata) : List Identifier :=
  match metadata.identifier, metadata.identifiers with
  | some own, _ => [own]
  | none, some listed => listed
  | none, none => []

theorem hasOwnUsage_iff : metadata.hasOwnUsage ↔ metadata.GivesUsage := by
  simp [hasOwnUsage, Usage.isGiven, GivesUsage, or_assoc]

theorem effectiveUsages_eq (metadata : Metadata) : metadata.effectiveUsages = metadata.usagesInForce := by
  rw [effectiveUsages, usagesInForce]
  by_cases given : metadata.GivesUsage
  · rw [if_pos given, if_pos (hasOwnUsage_iff.mpr given)]
  · rw [if_neg given, if_neg (mt hasOwnUsage_iff.mp given)]
    cases metadata.usages <;> rfl

theorem effectiveIdentifiers_eq (metadata : Metadata) :
    metadata.effectiveIdentifiers = metadata.identifiersInForce := by
  rw [effectiveIdentifiers, identifiersInForce]
  cases metadata.identifier with
  | some own => rfl
  | none => cases metadata.identifiers <;> rfl

end Metadata

end CrsText
