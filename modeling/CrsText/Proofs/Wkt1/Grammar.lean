import CrsText.Proofs.Wkt.Grammar

/-! The grammar of the older dialect. Names are texts between quotes, numbers and directions are bare
tokens.
-/

set_option autoImplicit false

open scoped Computability

namespace CrsText

namespace Wkt1

namespace Grammar

open CrsText.Grammar (text token number node le_single node_le_single text_le_only token_le_only
  node_le_only)
open Words (optional add_le_only mul_le_only kstar_le_only optional_le_only)

def authority : Language Tree := node "AUTHORITY" (text * text)

/-- Of all metadata one identifier is left. -/
def common : Language Tree := optional authority

def unit : Language Tree := node "UNIT" (text * (number * common))

def direction (spelling : String) : Prop :=
  spelling ∈ ["EAST", "NORTH", "WEST", "SOUTH", "UP", "DOWN", "OTHER"]

def axis : Language Tree := node "AXIS" (text * token direction)

def system : Language Tree := optional unit * (axis * axis∗)

def spheroid : Language Tree := node "SPHEROID" (text * (number * (number * common)))

def datum : Language Tree := node "DATUM" (text * (spheroid * common))

def primeMeridian : Language Tree := node "PRIMEM" (text * (number * common))

def geodetic (system : Language Tree) : Language Tree :=
  node "GEOGCS" (text * (datum * (primeMeridian * (system * common)))) +
    node "GEOCCS" (text * (datum * (primeMeridian * (system * common))))

def parameter : Language Tree :=
  node "PARAMETER" (text * number) + node "PARAMETERFILE" (text * (text * common))

def projected : Language Tree :=
  node "PROJCS" (text * (geodetic (optional system) *
    (node "PROJECTION" text * (parameter∗ * (system * common)))))

def verticalDatum : Language Tree := node "VERT_DATUM" (text * (token (· = "2005") * common))

def vertical : Language Tree := node "VERT_CS" (text * (verticalDatum * (system * common)))

inductive Crs : Tree → Prop where
  | single {tree : Tree} : [tree] ∈ geodetic system + projected + vertical → Crs tree
  | compound {name : String} {components rest : List Tree} : (∀ tree ∈ components, Crs tree) →
      rest ∈ common → Crs (.node "COMPD_CS" (.text name :: components ++ rest))

theorem single_le_node : geodetic system + projected + vertical ≤
    CrsText.Grammar.single Tree.IsNode :=
  sup_le (sup_le (sup_le node_le_single node_le_single) node_le_single) node_le_single

-- Each rule for a system gives a single tree, so the lists that it derives are trees of systems.
theorem single_le_crs : geodetic system + projected + vertical ≤ CrsText.Grammar.single Crs :=
  le_single single_le_node fun _ => .single

theorem Crs.isNode {tree : Tree} (derived : Crs tree) : tree.IsNode := by
  cases derived with
  | single member =>
    obtain ⟨_, node, same⟩ := single_le_node member
    exact List.singleton_injective same ▸ node
  | compound => exact ⟨_, _, rfl⟩

theorem compound_le_crs : node "COMPD_CS" (text * (Words.only Crs * common)) ≤
    CrsText.Grammar.single Crs := by
  intro trees derived
  obtain ⟨_, ⟨_, ⟨name, rfl⟩, _, content, rfl⟩, rfl⟩ := derived
  obtain ⟨components, allowed, rest, described, rfl⟩ := content
  exact ⟨_, .compound allowed described, rfl⟩

def keywords : List String :=
  ["AUTHORITY", "UNIT", "AXIS", "SPHEROID", "DATUM", "PRIMEM", "GEOGCS", "GEOCCS", "PARAMETER",
    "PARAMETERFILE", "PROJECTION", "PROJCS", "VERT_DATUM", "VERT_CS", "COMPD_CS"]

def Bare (content : String) : Prop := IsNumber content ∨ direction content ∨ content = "2005"

def vocabulary : Language Tree := Words.only (Tree.Uses (· ∈ keywords) Bare)

-- Every rule keeps to the vocabulary, from the innermost ones outwards.
theorem number_le : number ≤ vocabulary := token_le_only fun _ => .inl

theorem node_le {keyword : String} {content : Language Tree} (known : keyword ∈ keywords)
    (inside : content ≤ vocabulary) : node keyword content ≤ vocabulary :=
  node_le_only known inside

theorem named_le {keyword : String} {content : Language Tree} (known : keyword ∈ keywords)
    (inside : content ≤ vocabulary) : node keyword (text * content) ≤ vocabulary :=
  node_le known (mul_le_only text_le_only inside)

theorem common_le : common ≤ vocabulary :=
  optional_le_only (named_le (by simp [keywords]) text_le_only)

theorem numberNode_le {keyword : String} (known : keyword ∈ keywords) :
    node keyword (text * (number * common)) ≤ vocabulary :=
  named_le known (mul_le_only number_le common_le)

theorem axis_le : axis ≤ vocabulary :=
  named_le (by simp [keywords]) (token_le_only fun _ known => .inr (.inl known))

theorem system_le : system ≤ vocabulary :=
  mul_le_only (optional_le_only (numberNode_le (by simp [keywords])))
    (mul_le_only axis_le (kstar_le_only axis_le))

theorem datum_le : datum ≤ vocabulary :=
  named_le (by simp [keywords]) (mul_le_only
    (named_le (by simp [keywords]) (mul_le_only number_le (mul_le_only number_le common_le)))
    common_le)

theorem geodetic_le {system : Language Tree} (inside : system ≤ vocabulary) :
    geodetic system ≤ vocabulary := by
  have meridian : primeMeridian ≤ vocabulary := numberNode_le (by simp [keywords])
  have content := mul_le_only datum_le (mul_le_only meridian (mul_le_only inside common_le))
  exact add_le_only (named_le (by simp [keywords]) content) (named_le (by simp [keywords]) content)

theorem parameter_le : parameter ≤ vocabulary :=
  add_le_only (named_le (by simp [keywords]) number_le)
    (named_le (by simp [keywords]) (mul_le_only text_le_only common_le))

theorem projected_le : projected ≤ vocabulary :=
  named_le (by simp [keywords]) (mul_le_only (geodetic_le (optional_le_only system_le))
    (mul_le_only (node_le (by simp [keywords]) text_le_only)
      (mul_le_only (kstar_le_only parameter_le) (mul_le_only system_le common_le))))

theorem vertical_le : vertical ≤ vocabulary := by
  have datum : verticalDatum ≤ vocabulary := named_le (by simp [keywords])
    (mul_le_only (token_le_only fun _ same => .inr (.inr same)) common_le)
  exact named_le (by simp [keywords]) (mul_le_only datum (mul_le_only system_le common_le))

theorem Crs.uses {tree : Tree} (derived : Crs tree) : tree.Uses (· ∈ keywords) Bare := by
  induction derived with
  | single derived =>
    have inside := add_le_only (add_le_only (geodetic_le system_le) projected_le) vertical_le
    exact inside derived _ (by simp)
  | compound _ described ih =>
    refine .node (by simp [keywords]) fun item member => ?_
    rcases List.mem_cons.mp member with rfl | member
    · exact .text
    · rcases List.mem_append.mp member with member | member
      · exact ih item member
      · exact common_le described item member

end Grammar

end Wkt1

end CrsText
