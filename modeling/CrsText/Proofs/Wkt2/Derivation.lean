import CrsText.Proofs.Definition.Resolution
import CrsText.Proofs.Nesting
import CrsText.Proofs.Wkt2.Grammar

/-! Every system that the dialect of 2019 writes is derived in its grammar, with no bare tokens but
numbers and those that the system itself gives.
-/

set_option autoImplicit false

open scoped Computability

namespace CrsText

def CoordinateSystem.unquoted (system : CoordinateSystem) : List String :=
  system.subtype :: system.axes.map (·.direction)

def unquotedAccuracy (ensemble : Option DatumEnsemble) : List String :=
  (ensemble.bind (·.accuracy)).toList

mutual

/-- The strings of a system that the dialect of 2019 writes without quotes. The coordinate system of
a base is not written. -/
def Crs.unquoted : Crs → List String
  | .geodetic crs =>
    unquotedAccuracy crs.ensemble ++ crs.coordinateSystem.elim [] CoordinateSystem.unquoted
  | .derivedGeodetic crs => unquotedAccuracy crs.base.ensemble ++ crs.coordinateSystem.unquoted
  | .projected crs => unquotedAccuracy crs.base.ensemble ++ crs.coordinateSystem.unquoted
  | .vertical crs => unquotedAccuracy crs.ensemble ++ crs.coordinateSystem.unquoted
  | .compound _ components _ => Crs.unquotedOfAll components
  | .bound source target _ => source.unquoted ++ target.unquoted
  | .unsupported _ => []

def Crs.unquotedOfAll : List Crs → List String
  | [] => []
  | first :: rest => first.unquoted ++ Crs.unquotedOfAll rest

end

theorem Crs.mem_unquotedOfAll {components : List Crs} {crs : Crs} {token : String}
    (component : crs ∈ components) (member : token ∈ crs.unquoted) :
    token ∈ Crs.unquotedOfAll components := by
  induction components with
  | nil => cases component
  | cons first rest ih =>
    rw [Crs.unquotedOfAll, List.mem_append]
    rcases List.mem_cons.mp component with rfl | component
    · exact .inl member
    · exact .inr (ih component)

namespace Wkt2

-- One lemma for each function that writes items; what it writes is cut into the parts of its rule.
theorem boundingBox_derives (box : BoundingBox) : Derives [boundingBox box] Grammar.boundingBox :=
  .node ((Derives.number _).cons ((Derives.number _).cons ((Derives.number _).cons (.number _))))

theorem usage_derives (given : Usage) : Derives [usage given] Grammar.usage := by
  have box : Derives (given.boundingBox.toList.map boundingBox)
      (Words.optional Grammar.boundingBox) := .optional fun box _ => boundingBox_derives box
  have content := ((Derives.optional_text "SCOPE" given.scope).append
    (.optional_text "AREA" given.area)).append box
  rw [mul_assoc] at content
  exact .node content

theorem code_derives (given : Code) :
    Derives [code given] (CrsText.Grammar.plainNumber + CrsText.Grammar.text) := by
  cases given with
  | integer value => exact (Derives.token (Token.isPlainNumber_integer value)).inl
  | float value => exact (Derives.token (Token.isPlainNumber_plain value)).inl
  | text value => exact Derives.text.inr

theorem identifier_derives (given : Identifier) : Derives [identifier given] Grammar.identifier :=
  .named (code_derives given.code)

theorem metadata_derives (given : Metadata) : Derives (metadata given) Grammar.metadata := by
  have content := ((Derives.map usage_derives given.effectiveUsages).append
    (.map identifier_derives given.effectiveIdentifiers)).append
    (.optional_text "REMARK" given.remarks)
  rw [mul_assoc] at content
  exact content

theorem unitNode_derives (keyword : String) (given : ResolvedUnit) :
    Derives [unitNode keyword given] (Grammar.unitNode keyword) := by
  have described : Derives (given.metadata.elim [] metadata) Grammar.metadata := by
    cases given.metadata with
    | none => exact metadata_derives .empty
    | some given => exact metadata_derives given
  exact .named ((Derives.number _).cons described)

theorem keyword_mem (kind : UnitKind) : kind.keyword ∈ Grammar.unitKeywords := by
  cases kind <;> simp [UnitKind.keyword, Grammar.unitKeywords]

theorem unit_derives {given : MeasureUnit} {item : Item} (written : unit given = .ok item) :
    Derives [item] Grammar.unit := by
  simp only [unit, Dialect.unitKeyword, bind_eq_ok, pure_eq_ok] at written
  obtain ⟨resolved, -, keyword, ⟨kind, -, rfl⟩, rfl⟩ := written
  exact (unitNode_derives _ resolved).mono fun _ derived => ⟨_, keyword_mem kind, derived⟩

theorem optionalUnit_derives {given : Option MeasureUnit} {items : List Item}
    (written : optionalUnit given = .ok items) : Derives items (Words.optional Grammar.unit) := by
  apply Derives.elim unit given fun _ _ => unit_derives
  cases given <;> exact written

theorem longitude_derives {given : Measure} {items : List Item}
    (written : longitude given = .ok items) : Derives items Grammar.longitude := by
  simp only [longitude, bind_eq_ok, pure_eq_ok] at written
  obtain ⟨quantity, -, rfl⟩ := written
  exact (Derives.number _).cons (unitNode_derives _ _)

theorem ellipsoid_derives {given : Ellipsoid} {item : Item} (written : ellipsoid given = .ok item) :
    Derives [item] Grammar.ellipsoid := by
  simp only [ellipsoid, bind_eq_ok, pure_eq_ok] at written
  obtain ⟨⟨semiMajor, inverseFlattening⟩, -, rfl⟩ := written
  exact .named ((Derives.number _).cons ((Derives.number _).cons
    ((unitNode_derives _ _).cons (metadata_derives _))))

theorem primeMeridian_derives {given : PrimeMeridian} {item : Item}
    (written : primeMeridian given = .ok item) : Derives [item] Grammar.primeMeridian := by
  simp only [primeMeridian, bind_eq_ok, pure_eq_ok] at written
  obtain ⟨items, longitudeWritten, rfl⟩ := written
  exact .named ((longitude_derives longitudeWritten).append (metadata_derives _))

theorem optionalPrimeMeridian_derives {given : Option PrimeMeridian} {items : List Item}
    (written : optionalPrimeMeridian given = .ok items) :
    Derives items (Words.optional Grammar.primeMeridian) := by
  apply Derives.elim primeMeridian given fun _ _ => primeMeridian_derives
  cases given <;> exact written

theorem frameEpoch_derives {isDynamic : Bool} {epoch : Option Float} {datum : String}
    {items : List Item} (written : frameEpoch isDynamic epoch datum = .ok items) :
    Derives items (Words.optional Grammar.dynamic) := by
  unfold frameEpoch at written
  split at written
  · cases written
    exact .none
  · cases written
    exact (Derives.node (.node (.token (Token.isNumber_copied _)))).some
  · cases written

theorem geodeticDatum_derives {given : GeodeticDatum} {items : List Item}
    (written : geodeticDatum given = .ok items) : Derives items Grammar.geodeticDatum := by
  simp only [geodeticDatum, bind_eq_ok, pure_eq_ok] at written
  obtain ⟨dynamic, dynamicWritten, figure, -, spheroid, figureWritten, meridian, meridianWritten,
    rfl⟩ := written
  have datum : Derives [.named "DATUM" given.name (spheroid :: metadata given.metadata)]
      (CrsText.Grammar.node "DATUM" (CrsText.Grammar.text * (Grammar.ellipsoid * Grammar.metadata))) :=
    .named ((ellipsoid_derives figureWritten).cons (metadata_derives _))
  exact (frameEpoch_derives dynamicWritten).append
    (datum.cons (optionalPrimeMeridian_derives meridianWritten))

theorem verticalDatum_derives {given : VerticalDatum} {items : List Item}
    (written : verticalDatum given = .ok items) : Derives items Grammar.verticalDatum := by
  simp only [verticalDatum, bind_eq_ok, pure_eq_ok] at written
  obtain ⟨dynamic, dynamicWritten, rfl⟩ := written
  exact (frameEpoch_derives dynamicWritten).append (.named (metadata_derives _))

theorem ensembleMember_derives (given : EnsembleMember) :
    Derives [ensembleMember given] Grammar.member := .named (metadata_derives _)

section

variable {bare : String → Prop}

theorem ensembleNode_derives {given : DatumEnsemble} {figure : List Item} {shared : Language Tree}
    (figureDerived : Derives figure shared) (allowed : ∀ accuracy ∈ given.accuracy, bare accuracy) :
    Derives [ensembleNode given figure] (Grammar.ensemble bare shared) := by
  have accuracy : Derives
      (given.accuracy.toList.map fun accuracy => .node "ENSEMBLEACCURACY" [.token accuracy])
      (Words.optional (Grammar.accuracy bare)) :=
    .optional fun accuracy member => .node (.token (allowed accuracy member))
  have content := (((Derives.map ensembleMember_derives given.members).append figureDerived).append
    accuracy).append (metadata_derives given.metadata)
  simp only [mul_assoc] at content
  exact .named content

theorem geodeticReference_derives {name : String} {datum : Option GeodeticDatum}
    {ensemble : Option DatumEnsemble} {selected : Reference GeodeticDatum} {items : List Item}
    (allowed : ∀ token ∈ unquotedAccuracy ensemble, bare token)
    (isSelected : Reference.select name datum ensemble = .ok selected)
    (written : geodeticReference selected = .ok items) :
    Derives items (Grammar.geodeticReference bare) := by
  rcases Reference.select_cases isSelected with ⟨single, -, -, rfl⟩ | ⟨several, -, rfl, rfl⟩
  · exact (geodeticDatum_derives written).inl
  · simp only [geodeticReference, geodeticEnsemble, bind_eq_ok, pure_eq_ok] at written
    obtain ⟨item, ⟨figure, -, spheroid, figureWritten, rfl⟩, rfl⟩ := written
    exact (ensembleNode_derives (ellipsoid_derives figureWritten)
      (by simpa [unquotedAccuracy] using allowed)).inr

theorem verticalReference_derives {name : String} {datum : Option VerticalDatum}
    {ensemble : Option DatumEnsemble} {selected : Reference VerticalDatum} {items : List Item}
    (allowed : ∀ token ∈ unquotedAccuracy ensemble, bare token)
    (isSelected : Reference.select name datum ensemble = .ok selected)
    (written : verticalReference selected = .ok items) :
    Derives items (Grammar.verticalReference bare) := by
  rcases Reference.select_cases isSelected with ⟨single, -, -, rfl⟩ | ⟨several, -, rfl, rfl⟩
  · exact (verticalDatum_derives written).inl
  · cases written
    exact (ensembleNode_derives .nil (by simpa [unquotedAccuracy] using allowed)).inr

theorem meridian_derives {given : Meridian} {item : Item} (written : meridian given = .ok item) :
    Derives [item] Grammar.meridian := by
  simp only [meridian, bind_eq_ok, pure_eq_ok] at written
  obtain ⟨items, longitudeWritten, rfl⟩ := written
  exact .node ((longitude_derives longitudeWritten).append (metadata_derives _))

theorem optionalMeridian_derives {given : Option Meridian} {items : List Item}
    (written : optionalMeridian given = .ok items) :
    Derives items (Words.optional Grammar.meridian) := by
  apply Derives.elim meridian given fun _ _ => meridian_derives
  cases given <;> exact written

theorem axis_derives {given : Axis} {item : Item} (allowed : bare given.direction)
    (written : axis given = .ok item) : Derives [item] (Grammar.axis bare) := by
  simp only [axis, bind_eq_ok, pure_eq_ok] at written
  obtain ⟨along, alongWritten, unit, unitWritten, rfl⟩ := written
  have direction : Derives [.token (Dialect.wkt2.axisDirection given.direction)]
      (CrsText.Grammar.token bare) := .token allowed
  exact .named (direction.cons
    ((optionalMeridian_derives alongWritten).append (optionalUnit_derives unitWritten)))

theorem coordinateSystem_derives {given : CoordinateSystem} {items : List Item}
    (allowed : ∀ token ∈ given.unquoted, bare token)
    (written : coordinateSystem given = .ok items) : Derives items (Grammar.system bare) := by
  unfold coordinateSystem at written
  split at written
  · cases written
  · next someAxis =>
    simp only [bind_eq_ok, pure_eq_ok] at written
    obtain ⟨axes, axesWritten, rfl⟩ := written
    have count : given.axes.length = axes.length := (mapM_eq_ok.mp axesWritten).length_eq
    have positive : 0 < given.axes.length := by simpa [List.length_pos_iff] using someAxis
    have subtype : bare given.subtype := allowed _ (by simp [CoordinateSystem.unquoted])
    have each : ∀ item ∈ axes, Derives [item] (Grammar.axis bare) := by
      intro item member
      obtain ⟨axis, inAxes, itemWritten⟩ := exists_of_mem_mapM axesWritten member
      refine axis_derives (allowed _ ?_) itemWritten
      exact List.mem_cons_of_mem _ (List.mem_map_of_mem inAxes)
    have spelt : Derives
        [.node "CS" [.token given.subtype, .token (Token.integer given.axes.length)]]
        (CrsText.Grammar.node "CS" (CrsText.Grammar.token bare *
          CrsText.Grammar.token (· = Token.integer given.axes.length))) :=
      .node ((Derives.token subtype).cons (.token rfl))
    -- The axes stand in a group, which is read as siblings of the node that counts them.
    have counted := spelt.cons_group (Derives.pow each)
    rw [← count] at counted
    exact counted.mono fun _ derived => ⟨_, positive, derived⟩

theorem method_derives (given : Method) : Derives [method given] Grammar.method :=
  .named (metadata_derives _)

theorem parameter_derives {given : Parameter} {item : Item} (written : parameter given = .ok item) :
    Derives [item] Grammar.parameter := by
  unfold parameter at written
  split at written
  · cases written
    exact (Derives.named (Derives.text.cons (metadata_derives _))).inr
  · simp only [bind_eq_ok, pure_eq_ok] at written
    obtain ⟨unit, unitWritten, rfl⟩ := written
    exact (Derives.named ((Derives.number _).cons
      ((optionalUnit_derives unitWritten).append (metadata_derives _)))).inl

theorem operation_derives {keyword : String} {given : Operation} {item : Item}
    (written : operation keyword given = .ok item) :
    Derives [item] (Grammar.operation keyword) := by
  simp only [operation, bind_eq_ok, pure_eq_ok] at written
  obtain ⟨parameters, parametersWritten, rfl⟩ := written
  have inside : Derives parameters Grammar.parameter∗ := by
    refine .kstar fun item member => ?_
    obtain ⟨value, -, itemWritten⟩ := exists_of_mem_mapM parametersWritten member
    exact parameter_derives itemWritten
  exact .named ((method_derives _).cons (inside.append (metadata_derives _)))

theorem geodeticItems_eq (given : GeodeticCrs) (system : Option CoordinateSystem) :
    geodeticItems given system = (do
      let reference ← geodeticReference (← Reference.select given.name given.datum given.ensemble)
      let system ← system.elim (pure []) coordinateSystem
      return reference ++ system ++ metadata given.metadata) := by
  cases system <;> rfl

theorem geodeticItems_derives {keyword : String} {given : GeodeticCrs}
    {system : Option CoordinateSystem} {items : List Item} {language : Language Tree}
    (allowed : ∀ token ∈ unquotedAccuracy given.ensemble, bare token)
    (written : geodeticItems given system = .ok items)
    (inner : ∀ axes, system.elim (pure []) coordinateSystem = .ok axes → Derives axes language) :
    Derives [.named keyword given.name items] (Grammar.geodetic bare keyword language) := by
  simp only [geodeticItems_eq, bind_eq_ok, pure_eq_ok] at written
  obtain ⟨selected, isSelected, reference, referenceWritten, axes, axesWritten, rfl⟩ := written
  have content := ((geodeticReference_derives allowed isSelected referenceWritten).append
    (inner axes axesWritten)).append (metadata_derives given.metadata)
  rw [mul_assoc] at content
  exact .named content

theorem geodetic_derives {given : GeodeticCrs} {item : Item}
    (allowed : ∀ token ∈ (Crs.geodetic given).unquoted, bare token)
    (written : geodetic given = .ok item) :
    Derives [item] (Grammar.geodetic bare "GEOGCRS" (Grammar.system bare) +
      Grammar.geodetic bare "GEODCRS" (Grammar.system bare)) := by
  unfold geodetic at written
  split at written
  · next system present =>
    simp only [bind_eq_ok, pure_eq_ok] at written
    obtain ⟨items, itemsWritten, rfl⟩ := written
    simp only [Crs.unquoted, present, List.forall_mem_append] at allowed
    obtain ⟨accuracyAllowed, systemAllowed⟩ := allowed
    have inner : ∀ axes, coordinateSystem system = .ok axes → Derives axes (Grammar.system bare) :=
      fun _ => coordinateSystem_derives systemAllowed
    cases given.kind with
    | geographic => exact (geodeticItems_derives accuracyAllowed itemsWritten inner).inl
    | geodetic => exact (geodeticItems_derives accuracyAllowed itemsWritten inner).inr
  · cases written

theorem base_derives {kind : GeodeticKind} {given : GeodeticCrs} {item : Item}
    (allowed : ∀ token ∈ unquotedAccuracy given.ensemble, bare token)
    (written : base kind given = .ok item) : Derives [item] (Grammar.base bare) := by
  simp only [base, bind_eq_ok, pure_eq_ok] at written
  obtain ⟨items, itemsWritten, rfl⟩ := written
  have inner : ∀ axes : List Item, (pure [] : Except Failure (List Item)) = .ok axes →
      Derives axes 1 := by
    intro axes same
    cases same
    exact .nil
  cases kind with
  | geographic => exact (geodeticItems_derives allowed itemsWritten inner).inl
  | geodetic => exact (geodeticItems_derives allowed itemsWritten inner).inr

theorem derivedGeodetic_derives {given : DerivedGeodeticCrs} {item : Item}
    (allowed : ∀ token ∈ (Crs.derivedGeodetic given).unquoted, bare token)
    (written : derivedGeodetic given = .ok item) :
    Derives [item] (Grammar.derived bare "GEODCRS" "DERIVINGCONVERSION") := by
  simp only [derivedGeodetic, bind_eq_ok, pure_eq_ok] at written
  obtain ⟨origin, originWritten, conversion, conversionWritten, axes, axesWritten, rfl⟩ := written
  simp only [Crs.unquoted, List.forall_mem_append] at allowed
  exact .named ((base_derives allowed.1 originWritten).cons
    ((operation_derives conversionWritten).cons
      ((coordinateSystem_derives allowed.2 axesWritten).append (metadata_derives _))))

theorem projected_derives {given : ProjectedCrs} {item : Item}
    (allowed : ∀ token ∈ (Crs.projected given).unquoted, bare token)
    (written : projected given = .ok item) :
    Derives [item] (Grammar.derived bare "PROJCRS" "CONVERSION") := by
  simp only [projected, bind_eq_ok, pure_eq_ok] at written
  obtain ⟨origin, originWritten, conversion, conversionWritten, axes, axesWritten, rfl⟩ := written
  simp only [Crs.unquoted, List.forall_mem_append] at allowed
  exact .named ((base_derives allowed.1 originWritten).cons
    ((operation_derives conversionWritten).cons
      ((coordinateSystem_derives allowed.2 axesWritten).append (metadata_derives _))))

theorem vertical_derives {given : VerticalCrs} {item : Item}
    (allowed : ∀ token ∈ (Crs.vertical given).unquoted, bare token)
    (written : vertical given = .ok item) : Derives [item] (Grammar.vertical bare) := by
  simp only [vertical, bind_eq_ok, pure_eq_ok] at written
  obtain ⟨selected, isSelected, reference, referenceWritten, axes, axesWritten, rfl⟩ := written
  simp only [Crs.unquoted, List.forall_mem_append] at allowed
  have content := ((verticalReference_derives allowed.1 isSelected referenceWritten).append
    (coordinateSystem_derives allowed.2 axesWritten)).append (metadata_derives given.metadata)
  rw [mul_assoc] at content
  exact .named content

theorem crsList_eq_mapM (components : List CrsText.Crs) : crsList components = components.mapM crs := by
  induction components with
  | nil => rfl
  | cons first rest ih => rw [crsList, List.mapM_cons, ih]

theorem crs_derives {given : CrsText.Crs} {item : Item}
    (allowed : ∀ token ∈ given.unquoted, bare token) (written : crs given = .ok item) :
    Derives [item] (CrsText.Grammar.single (Grammar.Crs bare)) := by
  induction given generalizing item with
  | geodetic given =>
    exact (geodetic_derives allowed written).inl.inl.inl.mono Grammar.simple_le_crs
  | derivedGeodetic given =>
    exact (derivedGeodetic_derives allowed written).inr.inl.inl.mono Grammar.simple_le_crs
  | projected given =>
    exact (projected_derives allowed written).inr.inl.mono Grammar.simple_le_crs
  | vertical given => exact (vertical_derives allowed written).inr.mono Grammar.simple_le_crs
  | compound name components common ih =>
    simp only [crs, crsList_eq_mapM, bind_eq_ok, pure_eq_ok] at written
    obtain ⟨items, itemsWritten, rfl⟩ := written
    have inside : Derives items (CrsText.Grammar.single (Grammar.Crs bare))∗ := by
      refine .kstar fun item member => ?_
      obtain ⟨component, inComponents, itemWritten⟩ := exists_of_mem_mapM itemsWritten member
      refine ih component inComponents (fun token inComponent => ?_) itemWritten
      exact allowed token (Crs.mem_unquotedOfAll inComponents inComponent)
    -- A list of single trees is a list of trees, as the rule for compound systems has it.
    have systems := inside.mono (Words.kstar_le_only CrsText.Grammar.single_le_only)
    exact (Derives.named (systems.append (metadata_derives common))).mono Grammar.compound_le_crs
  | bound source target transformation sourceIh targetIh =>
    simp only [crs, bind_eq_ok, pure_eq_ok] at written
    obtain ⟨first, sourceWritten, second, targetWritten, third, operationWritten, rfl⟩ := written
    simp only [Crs.unquoted, List.forall_mem_append] at allowed
    have sourceNode : Derives [.node "SOURCECRS" [first]] (CrsText.Grammar.node "SOURCECRS" _) :=
      (sourceIh allowed.1 sourceWritten).node
    have targetNode : Derives [.node "TARGETCRS" [second]] (CrsText.Grammar.node "TARGETCRS" _) :=
      (targetIh allowed.2 targetWritten).node
    have content := sourceNode.cons (targetNode.cons (operation_derives operationWritten))
    exact content.node.mono Grammar.bound_le_crs
  | unsupported typeName => cases written

end

end Wkt2

end CrsText
