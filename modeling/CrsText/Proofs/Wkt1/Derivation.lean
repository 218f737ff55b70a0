import CrsText.Proofs.Nesting
import CrsText.Proofs.Wkt1.Grammar
import CrsText.Wkt1.Crs

/-! Every system that the older dialect writes is derived in its grammar.
-/

set_option autoImplicit false

open scoped Computability

namespace CrsText

namespace Wkt1

-- One lemma for each function that writes items; what it writes is cut into the parts of its rule.
theorem authority_derives (identifier : Identifier) :
    Derives [authority identifier] Grammar.authority :=
  .named .text

@[simp] theorem noteIf_result (condition : Bool) (notice : Notice) :
    (noteIf condition notice).result = .ok ⟨⟩ := by
  cases condition <;> rfl

/-- Of all metadata one identifier is written; nothing in it can fail. -/
theorem metadata_result (given : Metadata) :
    (metadata given).result = .ok (given.identifier.toList.map authority) := by
  obtain ⟨usage, usages, identifier, identifiers, remarks⟩ := given
  cases identifier <;> cases identifiers <;> simp [metadata, identifiers]

theorem metadata_derives {given : Metadata} {items : List Item}
    (written : (metadata given).result = .ok items) : Derives items Grammar.common := by
  rw [metadata_result] at written
  cases written
  exact .optional fun identifier _ => authority_derives identifier

theorem unit_derives {given : MeasureUnit} {item : Item}
    (written : (unit given).result = .ok item) : Derives [item] Grammar.unit := by
  simp only [unit, Report.result_bind, Report.result_lift, bind_eq_ok] at written
  obtain ⟨resolved, -, keyword, same, rest, described, written⟩ := written
  cases same
  cases written
  exact .named ((Derives.number _).cons (metadata_derives described))

theorem ellipsoid_derives {given : Ellipsoid} {item : Item}
    (written : (ellipsoid given).result = .ok item) : Derives [item] Grammar.spheroid := by
  simp only [ellipsoid, Report.result_bind, Report.result_lift, bind_eq_ok] at written
  obtain ⟨⟨semiMajor, inverseFlattening⟩, -, written⟩ := written
  split at written
  · cases written
  · simp only [Report.result_bind, bind_eq_ok] at written
    obtain ⟨rest, described, written⟩ := written
    cases written
    exact .named ((Derives.number _).cons
      ((Derives.number _).cons (metadata_derives described)))

theorem primeMeridian_derives {given : PrimeMeridian} {item : Item}
    (written : (primeMeridian given).result = .ok item) : Derives [item] Grammar.primeMeridian := by
  simp only [primeMeridian, Report.result_bind, Report.result_lift, bind_eq_ok] at written
  obtain ⟨longitude, -, rest, described, written⟩ := written
  cases written
  exact .named ((Derives.number _).cons (metadata_derives described))

theorem datumNode_derives {name : String} {figure : Ellipsoid} {common : Metadata}
    {meridian : Option PrimeMeridian} {items : List Item}
    (written : (datumNode name figure common meridian).result = .ok items) :
    Derives items (Grammar.datum * Grammar.primeMeridian) := by
  simp only [datumNode, Report.result_bind, bind_eq_ok] at written
  obtain ⟨spheroid, figureWritten, rest, described, meridian, meridianWritten, written⟩ := written
  cases written
  have datum : Derives [.named "DATUM" name (spheroid :: rest)] Grammar.datum :=
    .named ((ellipsoid_derives figureWritten).cons (metadata_derives described))
  exact datum.cons (primeMeridian_derives meridianWritten)

theorem geodeticReference_derives {given : Reference GeodeticDatum} {items : List Item}
    (written : (geodeticReference given).result = .ok items) :
    Derives items (Grammar.datum * Grammar.primeMeridian) := by
  cases given with
  | datum datum =>
    simp only [geodeticReference, geodeticDatum, Report.result_bind, bind_eq_ok] at written
    obtain ⟨-, -, figure, -, written⟩ := written
    exact datumNode_derives written
  | ensemble ensemble =>
    simp only [geodeticReference, geodeticEnsemble, Report.result_bind, bind_eq_ok] at written
    obtain ⟨figure, -, -, -, written⟩ := written
    exact datumNode_derives written

theorem verticalNode_derives {name : String} {common : Metadata} {items : List Item}
    (written : (verticalNode name common).result = .ok items) :
    Derives items Grammar.verticalDatum := by
  simp only [verticalNode, Report.result_bind, bind_eq_ok] at written
  obtain ⟨rest, described, written⟩ := written
  cases written
  have realization : Derives [.token verticalDatumType] (CrsText.Grammar.token (· = "2005")) :=
    .token rfl
  exact .named (realization.cons (metadata_derives described))

theorem verticalReference_derives {given : Reference VerticalDatum} {items : List Item}
    (written : (verticalReference given).result = .ok items) :
    Derives items Grammar.verticalDatum := by
  cases given with
  | datum datum =>
    simp only [verticalReference, Report.result_bind, bind_eq_ok] at written
    obtain ⟨-, -, written⟩ := written
    exact verticalNode_derives written
  | ensemble ensemble =>
    simp only [verticalReference, Report.result_bind, bind_eq_ok] at written
    obtain ⟨-, -, written⟩ := written
    exact verticalNode_derives written

/-- Whatever is no known direction is another one. -/
theorem direction_capitalDirection (given : String) : Grammar.direction (capitalDirection given) := by
  unfold capitalDirection
  split
  · split
    · next capitals _ known =>
      have member : String.ofList capitals ∈ knownDirections := by simpa using known
      exact List.mem_append_left ["OTHER"] member
    · simp [Grammar.direction, otherDirection]
  · simp [Grammar.direction, otherDirection]

theorem axis_derives (given : Axis) : Derives [axis given] Grammar.axis :=
  .named (.token (direction_capitalDirection given.direction))

theorem axisUnit_derives {given : Option MeasureUnit} {items : List Item}
    (written : (axisUnit given).result = .ok items) : Derives items (Words.optional Grammar.unit) := by
  cases given with
  | none =>
    cases written
    exact .none
  | some given =>
    simp only [axisUnit, Report.result_bind, bind_eq_ok] at written
    obtain ⟨item, unitWritten, written⟩ := written
    cases written
    exact (unit_derives unitWritten).some

theorem coordinateSystem_derives {given : CoordinateSystem} {items : List Item}
    (written : (coordinateSystem given).result = .ok items) : Derives items Grammar.system := by
  unfold coordinateSystem at written
  split at written
  · cases written
  · simp only [Report.result_bind, bind_eq_ok] at written
    obtain ⟨unit, unitWritten, written⟩ := written
    cases written
    exact (axisUnit_derives unitWritten).append ((axis_derives _).cons (.map axis_derives _))

theorem optionalCoordinateSystem_derives {given : Option CoordinateSystem} {items : List Item}
    (written : (optionalCoordinateSystem given).result = .ok items) :
    Derives items (Words.optional Grammar.system) := by
  cases given with
  | none =>
    cases written
    exact .none
  | some given => exact (coordinateSystem_derives written).some

theorem parameter_derives {given : Parameter} {item : Item}
    (written : (parameter given).result = .ok item) : Derives [item] Grammar.parameter := by
  unfold parameter at written
  split at written
  · simp only [Report.result_bind, bind_eq_ok] at written
    obtain ⟨rest, described, written⟩ := written
    cases written
    exact (Derives.named (Derives.text.cons (metadata_derives described))).inr
  · cases written
    exact (Derives.named (.number _)).inl

theorem conversion_derives {given : Operation} {items : List Item}
    (written : (conversion given).result = .ok items) :
    Derives items (CrsText.Grammar.node "PROJECTION" CrsText.Grammar.text * Grammar.parameter∗) := by
  simp only [conversion, Report.result_bind, Report.result_mapM, bind_eq_ok] at written
  obtain ⟨parameters, parametersWritten, written⟩ := written
  cases written
  have method : Derives [.named "PROJECTION" given.method.name []]
      (CrsText.Grammar.node "PROJECTION" CrsText.Grammar.text) := Derives.text.node
  refine method.cons (.kstar fun item member => ?_)
  obtain ⟨value, -, itemWritten⟩ := exists_of_mem_mapM parametersWritten member
  exact parameter_derives itemWritten

theorem geodeticNode_derives {keyword : String} {given : GeodeticCrs} {item : Item}
    {system : Language Tree} (known : keyword = "GEOGCS" ∨ keyword = "GEOCCS")
    (inner : ∀ items, (optionalCoordinateSystem given.coordinateSystem).result = .ok items →
      Derives items system)
    (written : (geodeticNode keyword given).result = .ok item) :
    Derives [item] (Grammar.geodetic system) := by
  simp only [geodeticNode, Report.result_bind, Report.result_lift, bind_eq_ok] at written
  obtain ⟨selected, -, reference, referenceWritten, axes, axesWritten, rest, described, written⟩ :=
    written
  cases written
  have content := ((geodeticReference_derives referenceWritten).append (inner axes axesWritten)).append
    (metadata_derives described)
  rw [mul_assoc, mul_assoc] at content
  rcases known with rfl | rfl
  · exact (Derives.named content).inl
  · exact (Derives.named content).inr

theorem geodeticKeyword_known (kind : GeodeticKind) :
    Dialect.wkt1.geodeticKeyword kind = "GEOGCS" ∨
      Dialect.wkt1.geodeticKeyword kind = "GEOCCS" := by
  cases kind <;> simp [Dialect.geodeticKeyword]

theorem baseKeyword_eq (kind : GeodeticKind) :
    Dialect.wkt1.baseKeyword kind = Dialect.wkt1.geodeticKeyword kind := by
  cases kind <;> rfl

theorem geodetic_derives {given : GeodeticCrs} {item : Item}
    (written : (geodetic given).result = .ok item) :
    Derives [item] (Grammar.geodetic Grammar.system) := by
  unfold geodetic at written
  split at written
  · next present =>
    obtain ⟨system, same⟩ := Option.isSome_iff_exists.mp present
    refine geodeticNode_derives (geodeticKeyword_known given.kind) (fun items itemsWritten => ?_) written
    rw [same] at itemsWritten
    exact coordinateSystem_derives itemsWritten
  · cases written

theorem projected_derives {given : ProjectedCrs} {item : Item}
    (written : (projected given).result = .ok item) : Derives [item] Grammar.projected := by
  simp only [projected, Report.result_bind, bind_eq_ok] at written
  obtain ⟨base, baseWritten, conversion, conversionWritten, axes, axesWritten, rest, described,
    written⟩ := written
  cases written
  have baseDerived : Derives [base] (Grammar.geodetic (Words.optional Grammar.system)) :=
    geodeticNode_derives (baseKeyword_eq _ ▸ geodeticKeyword_known given.baseKind)
      (fun _ => optionalCoordinateSystem_derives) baseWritten
  have content := ((baseDerived.cons (conversion_derives conversionWritten)).append
    (coordinateSystem_derives axesWritten)).append (metadata_derives described)
  simp only [mul_assoc] at content
  exact .named content

theorem vertical_derives {given : VerticalCrs} {item : Item}
    (written : (vertical given).result = .ok item) : Derives [item] Grammar.vertical := by
  simp only [vertical, Report.result_bind, Report.result_lift, bind_eq_ok] at written
  obtain ⟨selected, -, reference, referenceWritten, axes, axesWritten, rest, described, written⟩ :=
    written
  cases written
  have content := ((verticalReference_derives referenceWritten).append
    (coordinateSystem_derives axesWritten)).append (metadata_derives described)
  rw [mul_assoc] at content
  exact .named content

theorem crsList_eq_mapM (components : List CrsText.Crs) : crsList components = components.mapM crs := by
  induction components with
  | nil => rfl
  | cons first rest ih => rw [crsList, List.mapM_cons, ih]

theorem crs_derives {given : CrsText.Crs} {item : Item} (written : (crs given).result = .ok item) :
    Derives [item] (CrsText.Grammar.single Grammar.Crs) := by
  induction given generalizing item with
  | geodetic given => exact (geodetic_derives written).inl.inl.mono Grammar.single_le_crs
  | derivedGeodetic given => cases written
  | projected given => exact (projected_derives written).inr.inl.mono Grammar.single_le_crs
  | vertical given => exact (vertical_derives written).inr.mono Grammar.single_le_crs
  | compound name components common ih =>
    simp only [crs, crsList_eq_mapM, Report.result_bind, Report.result_mapM, bind_eq_ok] at written
    obtain ⟨items, itemsWritten, rest, described, written⟩ := written
    cases written
    have inside : Derives items (CrsText.Grammar.single Grammar.Crs)∗ := by
      refine .kstar fun item member => ?_
      obtain ⟨component, inComponents, itemWritten⟩ := exists_of_mem_mapM itemsWritten member
      exact ih component inComponents itemWritten
    have systems := inside.mono (Words.kstar_le_only CrsText.Grammar.single_le_only)
    have content := systems.append (metadata_derives described)
    exact (Derives.named content).mono Grammar.compound_le_crs
  | bound source target transformation => cases written
  | unsupported typeName => cases written

end Wkt1

end CrsText
