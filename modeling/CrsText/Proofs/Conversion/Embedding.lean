import CrsText.Proofs.Alike
import CrsText.Proofs.Conversion.Grammar
import CrsText.Proofs.Wkt.Embedding
import CrsText.Proofs.Wkt.Rendering

/-! Systems within others are written as they are on their own. What stands in front of them bears on
nothing but how deep their lines begin.
-/

set_option autoImplicit false

namespace CrsText

namespace Dialect

def compoundKeyword : Dialect → String
  | .wkt1 => "COMPD_CS"
  | .wkt2 => "COMPOUNDCRS"

def metadataItems : Dialect → Metadata → List Item
  | .wkt1, metadata => metadata.identifier.toList.map Wkt1.authority
  | .wkt2, metadata => Wkt2.metadata metadata

theorem isNode_of_mem_metadataItems (dialect : Dialect) (metadata : Metadata) :
    ∀ item ∈ dialect.metadataItems metadata, item.IsNode := by
  intro item member
  cases dialect with
  | wkt1 =>
    obtain ⟨identifier, -, rfl⟩ := List.mem_map.mp member
    exact ⟨_, _, rfl⟩
  | wkt2 =>
    simp only [metadataItems, Wkt2.metadata, List.mem_append, List.mem_map] at member
    rcases member with (⟨usage, -, rfl⟩ | ⟨identifier, -, rfl⟩) | ⟨remarks, -, rfl⟩
    all_goals exact ⟨_, _, rfl⟩

end Dialect

/-- The base has a coordinate system, and its kind is the one that this system shows. -/
def ProjectedCrs.HasWholeBase (crs : ProjectedCrs) : Prop :=
  ∃ system, crs.base.coordinateSystem = some system ∧
    (crs.base.kind = .geographic ↔ system.subtype = "ellipsoidal")

theorem Wkt1.geodeticNode_base {crs : ProjectedCrs} (whole : crs.HasWholeBase) :
    geodeticNode (Dialect.wkt1.baseKeyword crs.baseKind) crs.base = geodetic crs.base := by
  obtain ⟨system, present, shown⟩ := whole
  have kind : crs.baseKind = crs.base.kind := by
    simp only [ProjectedCrs.baseKind, present, CoordinateSystem.isEllipsoidal, beq_iff_eq, ← shown]
    cases crs.base.kind <;> rfl
  have keyword : ∀ kind, Dialect.wkt1.baseKeyword kind = Dialect.wkt1.geodeticKeyword kind := by
    intro kind
    cases kind <;> rfl
  rw [geodetic, present, kind, keyword]
  rfl

namespace Crs

variable {dialect : Dialect} {layout : Layout}

def lines (dialect : Dialect) (crs : Crs) : Except Failure Lines :=
  (crs.toItem dialect).result.map Item.lines

theorem convert_eq_lines (crs : Crs) :
    (crs.convert dialect layout).result = (crs.lines dialect).map (Lines.fill layout) := by
  rw [convert_result, lines]
  cases (crs.toItem dialect).result with
  | error failure => rfl
  | ok item => exact congrArg Except.ok (item.write_eq_fill layout)

theorem mapM_convert (components : List Crs) :
    (components.mapM fun component => (component.convert dialect layout).result) =
      (components.mapM (lines dialect)).map (List.map (Lines.fill layout)) := by
  simp only [convert_eq_lines, mapM_map]

theorem toItem_compound (name : String) (components : List Crs) (metadata : Metadata) :
    ((compound name components metadata).toItem dialect).result = do
      let items ← components.mapM fun component => (component.toItem dialect).result
      return .named dialect.compoundKeyword name (items ++ dialect.metadataItems metadata) := by
  cases dialect with
  | wkt1 =>
    simp only [toItem, Wkt1.crs, Wkt1.crsList_eq_mapM, Report.result_bind, Report.result_mapM,
      Wkt1.metadata_result, ok_bind]
    rfl
  | wkt2 =>
    simp only [toItem, Wkt2.crs, Wkt2.crsList_eq_mapM]
    rfl

theorem toItem_bound (source target : Crs) (transformation : Operation) :
    ((bound source target transformation).toItem .wkt2).result = do
      let source ← (source.toItem .wkt2).result
      let target ← (target.toItem .wkt2).result
      let transformation ← Wkt2.operation "ABRIDGEDTRANSFORMATION" transformation
      return .node "BOUNDCRS"
        [.node "SOURCECRS" [source], .node "TARGETCRS" [target], transformation] := by
  simp only [toItem, Wkt2.crs]
  rfl

/-- The first item of a projected system after its name is its base. -/
theorem toItem_projected {crs : ProjectedCrs} (whole : crs.HasWholeBase) :
    ∃ rest : Except Failure (List Item), ((projected crs).toItem .wkt1).result = do
      let base ← ((geodetic crs.base).toItem .wkt1).result
      return .named "PROJCS" crs.name (base :: (← rest)) := by
  refine ⟨(do
    let conversion ← Wkt1.conversion crs.conversion
    let system ← Wkt1.coordinateSystem crs.coordinateSystem
    let common ← Wkt1.metadata crs.metadata
    return conversion ++ system ++ common : Report (List Item)).result, ?_⟩
  simp only [toItem, Wkt1.crs, Wkt1.projected, Wkt1.geodeticNode_base whole, Report.result_bind,
    bind_assoc]
  rfl

/-- The lines of the components stand behind the name, and behind them those of the metadata. -/
theorem convert_compound (name : String) (components : List Crs) (metadata : Metadata) :
    ((compound name components metadata).convert dialect layout).result = do
      let parts ← components.mapM (lines dialect)
      return dialect.compoundKeyword ++ "[" ++ String.ofList (Text.quoted name.toList) ++
        String.join ((parts ++ (dialect.metadataItems metadata).map Item.lines).map fun part =>
          "," ++ part.nested layout 1) ++ "]" := by
  have parts : components.mapM (lines dialect) =
      (components.mapM fun component : Crs => (component.toItem dialect).result).map
        (List.map Item.lines) := mapM_map components
  rw [convert_result, toItem_compound, parts]
  cases written : components.mapM fun component : Crs => (component.toItem dialect).result with
  | error failure => rfl
  | ok items =>
    have nodes : ∀ item ∈ items ++ dialect.metadataItems metadata, item.IsNode := by
      intro item member
      rcases List.mem_append.mp member with member | member
      · obtain ⟨component, -, itemWritten⟩ := exists_of_mem_mapM written member
        exact isNode_of_written itemWritten
      · exact dialect.isNode_of_mem_metadataItems metadata item member
    have whole := Item.write_named layout dialect.compoundKeyword name nodes
    simp only [List.map_append, List.map_map, Function.comp_def, ok_bind, Except.map] at whole ⊢
    exact congrArg Except.ok whole

theorem convert_bound (source target : Crs) (transformation : Operation) :
    ((bound source target transformation).convert .wkt2 layout).result = do
      let source ← source.lines .wkt2
      let target ← target.lines .wkt2
      let transformation ←
        (Wkt2.operation "ABRIDGEDTRANSFORMATION" transformation).map Item.lines
      let newLine := layout.separator ++ layout.inset 1
      return "BOUNDCRS[" ++ newLine ++ "SOURCECRS[" ++ source.nested layout 2 ++ "]," ++
        newLine ++ "TARGETCRS[" ++ target.nested layout 2 ++ "]," ++
        transformation.nested layout 1 ++ "]" := by
  rw [convert_result, toItem_bound, lines, lines]
  cases sourceWritten : (source.toItem .wkt2).result with
  | error failure => rfl
  | ok source =>
    cases targetWritten : (target.toItem .wkt2).result with
    | error failure => rfl
    | ok target =>
      cases written : Wkt2.operation "ABRIDGEDTRANSFORMATION" transformation with
      | error failure => rfl
      | ok operation =>
        have sourceNode : source.IsNode := isNode_of_written sourceWritten
        have targetNode : target.IsNode := isNode_of_written targetWritten
        have operationNode : operation.IsNode := by
          simp only [Wkt2.operation, bind_eq_ok, pure_eq_ok] at written
          obtain ⟨parameters, -, rfl⟩ := written
          exact ⟨_, _, rfl⟩
        have behind := Item.printed_true operationNode.not_isGroup 1
        refine congrArg Except.ok (String.toList_inj.mp ?_)
        simp [Item.write_eq_printed, Item.printed, Item.printedAll,
          Item.isGroup, Segment.comma, Segment.newLine, Segment.fill, behind,
          sourceNode.fillAll_printed, targetNode.fillAll_printed, operationNode.fillAll_printed,
          String.append_assoc]

theorem convert_projected (layout : Layout) {crs : ProjectedCrs} (whole : crs.HasWholeBase) :
    ∃ rest : Except Failure String, ((projected crs).convert .wkt1 layout).result = do
      let base ← (geodetic crs.base).lines .wkt1
      return "PROJCS[" ++ String.ofList (Text.quoted crs.name.toList) ++ "," ++
        base.nested layout 1 ++ (← rest) := by
  obtain ⟨rest, same⟩ := toItem_projected whole
  refine ⟨rest.map fun items =>
    Segment.fillAll layout (Item.printedAll true 1 items) ++ "]", ?_⟩
  rw [convert_result, same, lines]
  cases written : ((geodetic crs.base).toItem .wkt1).result with
  | error failure => rfl
  | ok base =>
    have node : base.IsNode := isNode_of_written written
    cases rest with
    | error failure => rfl
    | ok items =>
      have behind := Item.printed_true node.not_isGroup 1
      simp [Except.map, Item.named, Item.write_eq_printed, Item.printed, Item.printedAll,
        Item.isGroup, Segment.comma, Segment.newLine, Segment.fill, behind, node.fillAll_printed,
        String.append_assoc]

/-- The inner system is a part of the outer one, below so many open nodes. The older dialect writes
bases as systems, too. -/
inductive Within (dialect : Dialect) (inner : Crs) : Nat → Crs → Prop where
  | refl : Within dialect inner 0 inner
  | component {depth : Nat} {name : String} {components : List Crs} {component : Crs}
      {metadata : Metadata} : component ∈ components → Within dialect inner depth component →
      Within dialect inner (depth + 1) (.compound name components metadata)
  | source {depth : Nat} {source target : Crs} {transformation : Operation} :
      Within dialect inner depth source →
      Within dialect inner (depth + 2) (.bound source target transformation)
  | target {depth : Nat} {source target : Crs} {transformation : Operation} :
      Within dialect inner depth target →
      Within dialect inner (depth + 2) (.bound source target transformation)
  | base {depth : Nat} {crs : ProjectedCrs} : dialect = .wkt1 → crs.HasWholeBase →
      Within dialect inner depth (.geodetic crs.base) → Within dialect inner (depth + 1) (.projected crs)

/-- Source and target of a bound system each stand in a node of their own. -/
theorem contains_of_bound {source target : Crs} {transformation : Operation} {item : Item}
    (written : ((bound source target transformation).toItem dialect).result = .ok item) :
    (∃ sourceItem, (source.toItem dialect).result = .ok sourceItem ∧ item.Contains sourceItem 2) ∧
      ∃ targetItem, (target.toItem dialect).result = .ok targetItem ∧ item.Contains targetItem 2 := by
  cases dialect with
  | wkt1 => cases written
  | wkt2 =>
    simp only [toItem_bound, bind_eq_ok, pure_eq_ok] at written
    obtain ⟨sourceItem, sourceWritten, targetItem, targetWritten, operation, -, rfl⟩ := written
    have inside : ∀ keyword inner, inner.IsNode → (Item.node keyword [inner]).Contains inner 1 :=
      fun keyword inner node => .of_mem (by simp) node
    refine ⟨⟨sourceItem, sourceWritten, ?_⟩, ⟨targetItem, targetWritten, ?_⟩⟩
    · have whole : (Item.node "BOUNDCRS" [.node "SOURCECRS" [sourceItem],
          .node "TARGETCRS" [targetItem], operation]).Contains (.node "SOURCECRS" [sourceItem]) 1 :=
        .of_mem (by simp) ⟨_, _, rfl⟩
      exact whole.trans (inside _ _ (isNode_of_written sourceWritten))
    · have whole : (Item.node "BOUNDCRS" [.node "SOURCECRS" [sourceItem],
          .node "TARGETCRS" [targetItem], operation]).Contains (.node "TARGETCRS" [targetItem]) 1 :=
        .of_mem (by simp) ⟨_, _, rfl⟩
      exact whole.trans (inside _ _ (isNode_of_written targetWritten))

-- Each step from a system to one within it is a step from an item to one in it.
theorem Within.contains {inner outer : Crs} {depth : Nat} (within : Within dialect inner depth outer)
    {outerItem : Item} (written : (outer.toItem dialect).result = .ok outerItem) :
    ∃ item, (inner.toItem dialect).result = .ok item ∧ outerItem.Contains item depth := by
  induction within generalizing outerItem with
  | refl => exact ⟨outerItem, written, .refl outerItem⟩
  | @component depth name components component metadata member _ ih =>
    simp only [toItem_compound, bind_eq_ok, pure_eq_ok] at written
    obtain ⟨items, itemsWritten, rfl⟩ := written
    obtain ⟨item, inItems, itemWritten⟩ := exists_result_of_mem_mapM itemsWritten member
    obtain ⟨inner, innerWritten, contains⟩ := ih itemWritten
    have here : (Item.named dialect.compoundKeyword name
        (items ++ dialect.metadataItems metadata)).Contains item 1 :=
      .of_mem (by simp [inItems]) (isNode_of_written itemWritten)
    exact ⟨inner, innerWritten, Nat.add_comm 1 depth ▸ here.trans contains⟩
  | @source depth source target transformation _ ih =>
    obtain ⟨⟨sourceItem, sourceWritten, here⟩, -⟩ := contains_of_bound written
    obtain ⟨inner, innerWritten, contains⟩ := ih sourceWritten
    exact ⟨inner, innerWritten, Nat.add_comm 2 depth ▸ here.trans contains⟩
  | @target depth source target transformation _ ih =>
    obtain ⟨-, targetItem, targetWritten, here⟩ := contains_of_bound written
    obtain ⟨inner, innerWritten, contains⟩ := ih targetWritten
    exact ⟨inner, innerWritten, Nat.add_comm 2 depth ▸ here.trans contains⟩
  | @base depth crs older whole _ ih =>
    subst older
    obtain ⟨rest, same⟩ := toItem_projected whole
    simp only [same, bind_eq_ok, pure_eq_ok] at written
    obtain ⟨base, baseWritten, others, -, rfl⟩ := written
    obtain ⟨inner, innerWritten, contains⟩ := ih baseWritten
    have here : (Item.named "PROJCS" crs.name (base :: others)).Contains base 1 :=
      .of_mem (by simp) (isNode_of_written baseWritten)
    exact ⟨inner, innerWritten, Nat.add_comm 1 depth ▸ here.trans contains⟩

/-- Systems are written without regard to what stands around them. -/
structure ContextFree (dialect : Dialect) : Prop where
  /-- On one line the texts of the components stand as they are. -/
  compound (name : String) (components : List Crs) (metadata : Metadata) :
    ((Crs.compound name components metadata).convert dialect .singleLine).result = do
      let texts ← components.mapM fun component => (component.convert dialect .singleLine).result
      return dialect.compoundKeyword ++ "[" ++ ",".intercalate
        (String.ofList (Text.quoted name.toList) :: texts ++
          (dialect.metadataItems metadata).map (Item.write .singleLine)) ++ "]"
  /-- The first component that cannot be converted decides how the whole conversion fails. -/
  failure (name : String) (components : List Crs) (metadata : Metadata) (layout : Layout)
    (failure : Failure) :
    ((Crs.compound name components metadata).convert dialect layout).result = .error failure ↔
      ∃ before component after, components = before ++ component :: after ∧
        (∀ other ∈ before, ∃ text, (other.convert dialect layout).result = .ok text) ∧
        (component.convert dialect layout).result = .error failure
  /-- The source is converted first, then the target, then the transformation. -/
  bound (newer : dialect = .wkt2) (source target : Crs) (transformation : Operation) :
    ((Crs.bound source target transformation).convert dialect .singleLine).result = do
      let source ← (source.convert dialect .singleLine).result
      let target ← (target.convert dialect .singleLine).result
      let transformation ←
        (Wkt2.operation "ABRIDGEDTRANSFORMATION" transformation).map (Item.write .singleLine)
      return "BOUNDCRS[SOURCECRS[" ++ source ++ "],TARGETCRS[" ++ target ++ "]," ++ transformation ++
        "]"
  /-- The base comes right after the name, or fails first. -/
  base (older : dialect = .wkt1) (crs : ProjectedCrs) (whole : crs.HasWholeBase) :
    ∃ rest : Except Failure String, ((projected crs).convert dialect .singleLine).result = do
      let base ← ((geodetic crs.base).convert dialect .singleLine).result
      return "PROJCS[" ++ String.ofList (Text.quoted crs.name.toList) ++ "," ++ base ++ (← rest)
  /-- At any depth and in any layout, a system is written with the lines that it has on its own. -/
  nested {inner outer : Crs} {depth : Nat} (within : Within dialect inner depth outer)
    {layout : Layout} {text : String} (converted : (outer.convert dialect layout).result = .ok text) :
    ∃ lines : Lines, (∀ layout, (inner.convert dialect layout).result = .ok (lines.fill layout)) ∧
      ∃ before after, text = before ++ lines.nested layout depth ++ after

/-- A system is written in the same way wherever it stands. -/
theorem convert_contextFree (dialect : Dialect) : ContextFree dialect where
  compound name components metadata := by
    rw [convert_compound, mapM_convert]
    cases components.mapM (lines dialect) with
    | error failure => rfl
    | ok parts =>
      simp [Except.map, intercalate_comma, Lines.nested_singleLine, Item.write_eq_fill,
        Function.comp_def, String.append_assoc]
  failure name components metadata layout failure := by
    have first : ((Crs.compound name components metadata).convert dialect layout).result =
        .error failure ↔ (components.mapM fun component =>
          (component.convert dialect layout).result) = .error failure := by
      rw [convert_compound, mapM_convert]
      cases components.mapM (lines dialect) <;> simp [Except.map, pure, Except.pure]
    rw [first, mapM_eq_error]
    rfl
  bound newer source target transformation := by
    subst newer
    have newLine : Layout.singleLine.separator ++ Layout.singleLine.inset 1 = "" := rfl
    rw [convert_bound, convert_eq_lines, convert_eq_lines]
    cases source.lines .wkt2 with
    | error failure => rfl
    | ok source =>
      cases target.lines .wkt2 with
      | error failure => rfl
      | ok target =>
        cases Wkt2.operation "ABRIDGEDTRANSFORMATION" transformation with
        | error failure => rfl
        | ok operation =>
          simp [Except.map, newLine, Lines.nested_singleLine, Item.write_eq_fill,
            String.append_assoc]
  base older crs whole := by
    subst older
    obtain ⟨rest, same⟩ := convert_projected .singleLine whole
    refine ⟨rest, ?_⟩
    rw [same, convert_eq_lines]
    cases (geodetic crs.base).lines .wkt1 with
    | error failure => rfl
    | ok base => simp only [Lines.nested_singleLine, Except.map, ok_bind]
  nested within _ _ converted := by
    obtain ⟨outerItem, written, rfl⟩ := convert_eq_ok.mp converted
    obtain ⟨item, innerWritten, contains⟩ := within.contains written
    refine ⟨item.lines, fun layout => ?_, contains.exists_write (isNode_of_written innerWritten) _⟩
    rw [convert_eq_lines, lines, innerWritten]
    rfl

theorem convert_contextFree_heights :
    let outer := compound "Outer" [heights] .empty
    Within .wkt2 heights 1 outer ∧ ∃ text, (outer.convert .wkt2 .multiline).result = .ok text ∧
      ∃ lines : Lines, (∀ layout, (heights.convert .wkt2 layout).result = .ok (lines.fill layout)) ∧
        ∃ before after, text = before ++ lines.nested .multiline 1 ++ after := by
  intro outer
  have within : Within .wkt2 heights 1 outer := .component (List.mem_singleton_self heights) .refl
  obtain ⟨text, converted⟩ : ∃ text, (outer.convert .wkt2 .multiline).result = .ok text := ⟨_, rfl⟩
  exact ⟨within, text, converted, (convert_contextFree .wkt2).nested within converted⟩

end Crs

end CrsText
