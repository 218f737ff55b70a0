import CrsText.Proofs.Nesting
import CrsText.Proofs.Wkt.Grammar
import CrsText.Wkt2.Crs

/-! The grammar of the dialect of 2019, and that every system it writes is derived in it. Types of
coordinate systems, directions and accuracies stand in the text as they are given, without quotes.
-/

set_option autoImplicit false

open scoped Computability

namespace CrsText

namespace Wkt2

namespace Grammar

open CrsText.Grammar (text token number plainNumber node le_single node_le_single text_le_only
  token_le_only node_le_only)
open Words (optional one_le_only add_le_only mul_le_only pow_le_only kstar_le_only optional_le_only)

def boundingBox : Language Tree := node "BBOX" (number * (number * (number * number)))

def usage : Language Tree :=
  node "USAGE" (optional (node "SCOPE" text) * (optional (node "AREA" text) * optional boundingBox))

def identifier : Language Tree := node "ID" (text * (plainNumber + text))

def metadata : Language Tree := usage∗ * (identifier∗ * optional (node "REMARK" text))

def unitNode (keyword : String) : Language Tree := node keyword (text * (number * metadata))

def unitKeywords : List String :=
  ["ANGLEUNIT", "LENGTHUNIT", "SCALEUNIT", "TIMEUNIT", "PARAMETRICUNIT", "UNIT"]

def unit : Language Tree := {trees | ∃ keyword ∈ unitKeywords, trees ∈ unitNode keyword}

def longitude : Language Tree := number * unitNode "ANGLEUNIT"

def ellipsoid : Language Tree :=
  node "ELLIPSOID" (text * (number * (number * (unitNode "LENGTHUNIT" * metadata))))

def primeMeridian : Language Tree := node "PRIMEM" (text * (longitude * metadata))

def meridian : Language Tree := node "MERIDIAN" (longitude * metadata)

def dynamic : Language Tree := node "DYNAMIC" (node "FRAMEEPOCH" number)

def geodeticDatum : Language Tree :=
  optional dynamic * (node "DATUM" (text * (ellipsoid * metadata)) * optional primeMeridian)

def verticalDatum : Language Tree := optional dynamic * node "VDATUM" (text * metadata)

def member : Language Tree := node "MEMBER" (text * metadata)

def method : Language Tree := node "METHOD" (text * metadata)

def parameter : Language Tree :=
  node "PARAMETER" (text * (number * (optional unit * metadata))) +
    node "PARAMETERFILE" (text * (text * metadata))

def operation (keyword : String) : Language Tree :=
  node keyword (text * (method * (parameter∗ * metadata)))

section

variable (bare : String → Prop)

def accuracy : Language Tree := node "ENSEMBLEACCURACY" (token bare)

/-- Between the members and the accuracy stands what the ensemble shares. -/
def ensemble (shared : Language Tree) : Language Tree :=
  node "ENSEMBLE" (text * (member∗ * (shared * (optional (accuracy bare) * metadata))))

def geodeticReference : Language Tree := geodeticDatum + ensemble bare ellipsoid

def verticalReference : Language Tree := verticalDatum + ensemble bare 1

def axis : Language Tree :=
  node "AXIS" (text * (token bare * (optional meridian * optional unit)))

/-- As many axes as are counted, and at least one. -/
def system : Language Tree :=
  {trees | ∃ count : Nat, 0 < count ∧
    trees ∈ node "CS" (token bare * token (· = Token.integer count)) * axis bare ^ count}

def geodetic (keyword : String) (system : Language Tree) : Language Tree :=
  node keyword (text * (geodeticReference bare * (system * metadata)))

def base : Language Tree := geodetic bare "BASEGEOGCRS" 1 + geodetic bare "BASEGEODCRS" 1

def derived (keyword conversion : String) : Language Tree :=
  node keyword (text * (base bare * (operation conversion * (system bare * metadata))))

def vertical : Language Tree :=
  node "VERTCRS" (text * (verticalReference bare * (system bare * metadata)))

def simple : Language Tree :=
  geodetic bare "GEOGCRS" (system bare) + geodetic bare "GEODCRS" (system bare) +
    derived bare "GEODCRS" "DERIVINGCONVERSION" + derived bare "PROJCRS" "CONVERSION" +
    vertical bare

inductive Crs : Tree → Prop where
  | simple {tree : Tree} : [tree] ∈ simple bare → Crs tree
  | compound {name : String} {components rest : List Tree} : (∀ tree ∈ components, Crs tree) →
      rest ∈ metadata → Crs (.node "COMPOUNDCRS" (.text name :: components ++ rest))
  | bound {source target transformation : Tree} : Crs source → Crs target →
      [transformation] ∈ operation "ABRIDGEDTRANSFORMATION" →
      Crs (.node "BOUNDCRS" [.node "SOURCECRS" [source], .node "TARGETCRS" [target], transformation])

end

variable {bare : String → Prop}

theorem simple_le_node : simple bare ≤ CrsText.Grammar.single Tree.IsNode := by
  refine sup_le (sup_le (sup_le (sup_le ?_ ?_) ?_) ?_) ?_
  all_goals exact node_le_single

theorem simple_le_crs : simple bare ≤ CrsText.Grammar.single (Crs bare) :=
  le_single simple_le_node fun _ => .simple

theorem Crs.isNode {tree : Tree} (derived : Crs bare tree) : tree.IsNode := by
  cases derived with
  | simple member =>
    obtain ⟨_, node, same⟩ := simple_le_node member
    exact List.singleton_injective same ▸ node
  | compound => exact ⟨_, _, rfl⟩
  | bound => exact ⟨_, _, rfl⟩

theorem compound_le_crs : node "COMPOUNDCRS" (text * (Words.only (Crs bare) * metadata)) ≤
    CrsText.Grammar.single (Crs bare) := by
  intro trees derived
  obtain ⟨_, ⟨_, ⟨name, rfl⟩, _, content, rfl⟩, rfl⟩ := derived
  obtain ⟨components, allowed, rest, described, rfl⟩ := content
  exact ⟨_, .compound allowed described, rfl⟩

theorem bound_le_crs :
    node "BOUNDCRS" (node "SOURCECRS" (CrsText.Grammar.single (Crs bare)) *
      (node "TARGETCRS" (CrsText.Grammar.single (Crs bare)) *
        operation "ABRIDGEDTRANSFORMATION")) ≤ CrsText.Grammar.single (Crs bare) := by
  intro trees derived
  obtain ⟨_, ⟨_, ⟨_, ⟨source, sourceDerived, rfl⟩, rfl⟩, _, content, rfl⟩, rfl⟩ := derived
  obtain ⟨_, ⟨_, ⟨target, targetDerived, rfl⟩, rfl⟩, operations, transformation, rfl⟩ := content
  obtain ⟨tree, -, rfl⟩ := node_le_single transformation
  exact ⟨_, .bound sourceDerived targetDerived transformation, rfl⟩

def keywords : List String :=
  unitKeywords ++ ["BBOX", "USAGE", "SCOPE", "AREA", "ID", "REMARK", "ELLIPSOID", "PRIMEM",
    "DYNAMIC", "FRAMEEPOCH", "DATUM", "VDATUM", "MEMBER", "ENSEMBLE", "ENSEMBLEACCURACY", "MERIDIAN",
    "AXIS", "CS", "METHOD", "PARAMETER", "PARAMETERFILE", "CONVERSION", "DERIVINGCONVERSION",
    "ABRIDGEDTRANSFORMATION", "BASEGEOGCRS", "BASEGEODCRS", "GEOGCRS", "GEODCRS", "PROJCRS",
    "VERTCRS", "COMPOUNDCRS", "BOUNDCRS", "SOURCECRS", "TARGETCRS"]

def Bare (bare : String → Prop) (content : String) : Prop :=
  IsNumber content ∨ IsPlainNumber content ∨ bare content

def vocabulary (bare : String → Prop) : Language Tree :=
  Words.only (Tree.Uses (· ∈ keywords) (Bare bare))

-- Every rule keeps to the vocabulary, from the innermost ones outwards.
theorem number_le : number ≤ vocabulary bare := token_le_only fun _ => .inl

theorem node_le {keyword : String} {content : Language Tree} (known : keyword ∈ keywords)
    (inside : content ≤ vocabulary bare) : node keyword content ≤ vocabulary bare :=
  node_le_only known inside

theorem named_le {keyword : String} {content : Language Tree} (known : keyword ∈ keywords)
    (inside : content ≤ vocabulary bare) : node keyword (text * content) ≤ vocabulary bare :=
  node_le known (mul_le_only text_le_only inside)

theorem metadata_le : metadata ≤ vocabulary bare := by
  have box : boundingBox ≤ vocabulary bare := node_le (by simp [keywords])
    (mul_le_only number_le (mul_le_only number_le (mul_le_only number_le number_le)))
  have usage : usage ≤ vocabulary bare := node_le (by simp [keywords])
    (mul_le_only (optional_le_only (node_le (by simp [keywords]) text_le_only))
      (mul_le_only (optional_le_only (node_le (by simp [keywords]) text_le_only))
        (optional_le_only box)))
  have identifier : identifier ≤ vocabulary bare :=
    named_le (by simp [keywords]) (add_le_only (token_le_only fun _ => .inr ∘ .inl) text_le_only)
  exact mul_le_only (kstar_le_only usage) (mul_le_only (kstar_le_only identifier)
    (optional_le_only (node_le (by simp [keywords]) text_le_only)))

theorem unitNode_le {keyword : String} (known : keyword ∈ unitKeywords) :
    unitNode keyword ≤ vocabulary bare :=
  named_le (List.mem_append_left _ known) (mul_le_only number_le metadata_le)

theorem unit_le : unit ≤ vocabulary bare := by
  intro trees derived
  obtain ⟨keyword, known, derived⟩ := derived
  exact unitNode_le known derived

theorem longitude_le : longitude ≤ vocabulary bare :=
  mul_le_only number_le (unitNode_le (by simp [unitKeywords]))

theorem ellipsoid_le : ellipsoid ≤ vocabulary bare :=
  named_le (by simp [keywords]) (mul_le_only number_le (mul_le_only number_le
    (mul_le_only (unitNode_le (by simp [unitKeywords])) metadata_le)))

theorem dynamic_le : dynamic ≤ vocabulary bare :=
  node_le (by simp [keywords]) (node_le (by simp [keywords]) number_le)

theorem geodeticDatum_le : geodeticDatum ≤ vocabulary bare := by
  have meridian : primeMeridian ≤ vocabulary bare :=
    named_le (by simp [keywords]) (mul_le_only longitude_le metadata_le)
  exact mul_le_only (optional_le_only dynamic_le)
    (mul_le_only (named_le (by simp [keywords]) (mul_le_only ellipsoid_le metadata_le))
      (optional_le_only meridian))

theorem verticalDatum_le : verticalDatum ≤ vocabulary bare :=
  mul_le_only (optional_le_only dynamic_le) (named_le (by simp [keywords]) metadata_le)

theorem ensemble_le {shared : Language Tree} (inside : shared ≤ vocabulary bare) :
    ensemble bare shared ≤ vocabulary bare := by
  have member : member ≤ vocabulary bare := named_le (by simp [keywords]) metadata_le
  have accuracy : accuracy bare ≤ vocabulary bare :=
    node_le (by simp [keywords]) (token_le_only fun _ => .inr ∘ .inr)
  exact named_le (by simp [keywords]) (mul_le_only (kstar_le_only member)
    (mul_le_only inside (mul_le_only (optional_le_only accuracy) metadata_le)))

theorem axis_le : axis bare ≤ vocabulary bare := by
  have meridian : meridian ≤ vocabulary bare :=
    node_le (by simp [keywords]) (mul_le_only longitude_le metadata_le)
  exact named_le (by simp [keywords]) (mul_le_only (token_le_only fun _ => .inr ∘ .inr)
    (mul_le_only (optional_le_only meridian) (optional_le_only unit_le)))

theorem system_le : system bare ≤ vocabulary bare := by
  intro trees derived
  obtain ⟨count, -, derived⟩ := derived
  have counted : node "CS" (token bare * token (· = Token.integer count)) ≤ vocabulary bare := by
    refine node_le (by simp [keywords]) (mul_le_only (token_le_only fun _ => .inr ∘ .inr)
      (token_le_only ?_))
    rintro _ rfl
    exact .inl (Token.isNumber_integer _)
  exact mul_le_only counted (pow_le_only axis_le count) derived

theorem operation_le {keyword : String} (known : keyword ∈ keywords) :
    operation keyword ≤ vocabulary bare := by
  have method : method ≤ vocabulary bare := named_le (by simp [keywords]) metadata_le
  have parameter : parameter ≤ vocabulary bare := add_le_only
    (named_le (by simp [keywords])
      (mul_le_only number_le (mul_le_only (optional_le_only unit_le) metadata_le)))
    (named_le (by simp [keywords]) (mul_le_only text_le_only metadata_le))
  exact named_le known (mul_le_only method (mul_le_only (kstar_le_only parameter) metadata_le))

theorem geodetic_le {keyword : String} {inner : Language Tree} (known : keyword ∈ keywords)
    (inside : inner ≤ vocabulary bare) : geodetic bare keyword inner ≤ vocabulary bare := by
  have reference : geodeticReference bare ≤ vocabulary bare :=
    add_le_only geodeticDatum_le (ensemble_le ellipsoid_le)
  exact named_le known (mul_le_only reference (mul_le_only inside metadata_le))

theorem derived_le {keyword conversion : String} (known : keyword ∈ keywords)
    (conversionKnown : conversion ∈ keywords) :
    derived bare keyword conversion ≤ vocabulary bare := by
  have base : base bare ≤ vocabulary bare := add_le_only
    (geodetic_le (by simp [keywords]) one_le_only) (geodetic_le (by simp [keywords]) one_le_only)
  exact named_le known (mul_le_only base
    (mul_le_only (operation_le conversionKnown) (mul_le_only system_le metadata_le)))

theorem vertical_le : vertical bare ≤ vocabulary bare := by
  have reference : verticalReference bare ≤ vocabulary bare :=
    add_le_only verticalDatum_le (ensemble_le one_le_only)
  exact named_le (by simp [keywords]) (mul_le_only reference (mul_le_only system_le metadata_le))

theorem simple_le : simple bare ≤ vocabulary bare := by
  refine add_le_only (add_le_only (add_le_only (add_le_only ?_ ?_) ?_) ?_) vertical_le
  · exact geodetic_le (by simp [keywords]) system_le
  · exact geodetic_le (by simp [keywords]) system_le
  · exact derived_le (by simp [keywords]) (by simp [keywords])
  · exact derived_le (by simp [keywords]) (by simp [keywords])

theorem Crs.uses {tree : Tree} (derived : Crs bare tree) :
    tree.Uses (· ∈ keywords) (Bare bare) := by
  induction derived with
  | simple derived => exact simple_le derived _ (by simp)
  | compound _ described ih =>
    refine .node (by simp [keywords]) fun item member => ?_
    rcases List.mem_cons.mp member with rfl | member
    · exact .text
    · rcases List.mem_append.mp member with member | member
      · exact ih item member
      · exact metadata_le described item member
  | bound _ _ transformation sourceIh targetIh =>
    have inside : operation "ABRIDGEDTRANSFORMATION" ≤ vocabulary bare :=
      operation_le (by simp [keywords])
    refine .node (by simp [keywords]) fun item member => ?_
    simp only [List.mem_cons, List.not_mem_nil, or_false] at member
    rcases member with rfl | rfl | rfl
    · exact .node (by simp [keywords]) (by simpa using sourceIh)
    · exact .node (by simp [keywords]) (by simpa using targetIh)
    · exact inside transformation _ (by simp)

end Grammar

end Wkt2

end CrsText
