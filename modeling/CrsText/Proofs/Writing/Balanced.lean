import CrsText.Proofs.Nesting
import CrsText.Proofs.Writing.Discipline

/-! Every part of a system closes what it opens, and nothing else. Each derivation follows the steps
of the part it is about.
-/

set_option autoImplicit false

namespace CrsText

namespace Writing

theorem usageNode_balanced (scope area : Option String) (box : Option BoundingBox) :
    Balanced (usageNode scope area box) :=
  fun _ => .openNode <|
    .call (.whenGiven fun _ _ => .openNode <| .text .closed) <|
    .call (.whenGiven fun _ _ => .openNode <| .text .closed) <|
    .call (.whenGiven fun _ _ => .openNode <| .token <| .token <| .token <| .token .closed)
    .closed

variable (dialect : Dialect)

theorem code_balanced (given : Code) : Balanced (code dialect given) := by
  unfold code
  split
  · exact fun _ => .last <| .token .done
  · exact fun _ => .last <| .text .done

theorem identifier_balanced (given : Identifier) : Balanced (identifier dialect given) :=
  fun _ => .openNode <| .text <| .call (code_balanced dialect given.code) .closed

theorem usages_balanced (given : Metadata) : Balanced (usages given) := by
  unfold usages
  split
  · exact usageNode_balanced _ _ _
  · exact .whenGiven fun _ => .forM fun usage _ => usageNode_balanced _ _ _

theorem identifiers_balanced (given : Metadata) : Balanced (identifiers dialect given) := by
  unfold identifiers
  split
  · exact identifier_balanced dialect _
  · exact .whenGiven fun _ =>
      .pick dialect .done (.forM fun given _ => identifier_balanced dialect given)

theorem remarks_balanced (given : Metadata) : Balanced (remarks given) :=
  .whenGiven fun _ _ => .openNode <| .text .closed

theorem metadata_balanced (given : Metadata) : Balanced (metadata dialect given) :=
  .bind (.pick dialect .done (usages_balanced given)) <|
    .bind (identifiers_balanced dialect given) <| .pick dialect .done (remarks_balanced given)

theorem unitNode_balanced (given : ResolvedUnit) : Balanced (unitNode dialect given) :=
  fun _ => .lift fun _ => .openNode <| .text <| .token <|
    .call (.whenGiven (metadata_balanced dialect)) .closed

theorem unit_balanced (given : MeasureUnit) : Balanced (unit dialect given) :=
  fun start => .lift fun resolved => unitNode_balanced dialect resolved start

theorem longitude_balanced (given : Measure) : Balanced (longitude dialect given) :=
  fun _ => .lift fun _ => .token <|
    .last <| .call (.pick dialect .done (unitNode_balanced dialect _)) .done

theorem meridian_balanced (given : Meridian) : Balanced (meridian dialect given) :=
  fun _ => .openNode <| .call (longitude_balanced dialect given.longitude) <|
    .call (metadata_balanced dialect given.metadata) .closed

theorem primeMeridian_balanced (given : PrimeMeridian) : Balanced (primeMeridian dialect given) :=
  fun _ => .openNode <| .text <| .call (longitude_balanced dialect given.longitude) <|
    .call (metadata_balanced dialect given.metadata) .closed

theorem ellipsoid_balanced (given : Ellipsoid) : Balanced (ellipsoid dialect given) :=
  fun _ => .openNode <| .text <| .lift fun _ => .token <| .lift fun _ => .token <|
    .call (.pick dialect (.lift _) (unitNode_balanced dialect _)) <|
    .call (metadata_balanced dialect given.metadata) .closed

theorem ensembleMember_balanced (given : EnsembleMember) : Balanced (ensembleMember dialect given) :=
  fun _ => .openNode <| .text <| .call (metadata_balanced dialect given.metadata) .closed

theorem ensemble_balanced (given : DatumEnsemble) (figure : Option Ellipsoid) :
    Balanced (ensemble dialect given figure) :=
  fun _ => .openNode <| .text <|
    .call (.forM fun member _ => ensembleMember_balanced dialect member) <|
    .call (.whenGiven (ellipsoid_balanced dialect)) <|
    .call (.whenGiven fun _ _ => .openNode <| .token .closed) <|
    .call (metadata_balanced dialect given.metadata) .closed

theorem verticalDatumType_balanced : Balanced (verticalDatumType dialect) :=
  .pick dialect (fun _ => .last <| .token .done) .done

theorem verticalEnsemble_balanced (given : DatumEnsemble) :
    Balanced (verticalEnsemble dialect given) :=
  .pick dialect
    (fun _ => .openNode <| .text <| .call (verticalDatumType_balanced dialect) <|
      .call (metadata_balanced dialect given.metadata) .closed)
    (ensemble_balanced dialect given none)

theorem geodeticEnsemble_balanced (given : DatumEnsemble) :
    Balanced (geodeticEnsemble dialect given) := by
  refine fun start => .lift fun figure => ?_
  refine Balanced.pick dialect ?_ (ensemble_balanced dialect given (some figure)) start
  exact fun _ => .openNode <| .text <| .call (ellipsoid_balanced dialect figure) <|
    .call (metadata_balanced dialect given.metadata) .closed

theorem frameEpoch_balanced (epoch : Option Float) (datum : String) :
    Balanced (frameEpoch dialect epoch datum) := by
  refine .pick dialect .done ?_
  cases epoch with
  | some epoch => exact fun _ => .openNode <| .openNode <| .token <| .closeNode .closed
  | none => exact .fail _

theorem verticalDatum_balanced (given : VerticalDatum) : Balanced (verticalDatum dialect given) :=
  fun _ => .call (.whenHolds _ (frameEpoch_balanced dialect given.referenceEpoch given.name)) <|
    .openNode <| .text <| .call (verticalDatumType_balanced dialect) <|
    .call (metadata_balanced dialect given.metadata) .closed

theorem datum_balanced (given : GeodeticDatum) : Balanced (datum dialect given) :=
  fun _ => .call (.whenHolds _ (frameEpoch_balanced dialect given.referenceEpoch given.name)) <|
    .openNode <| .text <| .lift fun figure => .call (ellipsoid_balanced dialect figure) <|
    .call (metadata_balanced dialect given.metadata) .closed

theorem axis_balanced (given : Axis) : Balanced (axis dialect given) :=
  fun _ => .openNode <| .text <| .token <|
    .call (.pick dialect .done <| .bind (.whenGiven (meridian_balanced dialect))
      (.whenGiven (unit_balanced dialect)))
    .closed

theorem axes_balanced (given : List Axis) : Balanced (forM given (axis dialect)) :=
  .forM fun given _ => axis_balanced dialect given

/-- The one part that needs a level around it, for its axes follow the node of the system. -/
theorem coordinateSystem_balanced (given : CoordinateSystem) :
    BalancedInside (coordinateSystem dialect given) := by
  obtain ⟨subtype, axes⟩ := given
  intro start inside
  cases axes with
  | nil => exact .fail _
  | cons first rest =>
    have all := axes_balanced dialect (first :: rest)
    cases dialect with
    | wkt1 =>
      exact .call (.whenGiven (unit_balanced .wkt1)) <| .call all .done
    | wkt2 =>
      -- The group is opened inside of a choice and closed behind it: one sequence of all the steps
      -- lets the rules see both.
      simp only [coordinateSystem, Dialect.pick_wkt2, bind_assoc]
      exact .openNode <| .token <| .token <| .closeNode <| .openGroup inside <|
        .call all .closedGroup

theorem method_balanced (given : Method) : Balanced (method dialect given) :=
  fun _ => .openNode <| .text <| .call (metadata_balanced dialect given.metadata) .closed

theorem parameter_balanced (given : Parameter) : Balanced (parameter dialect given) := by
  unfold parameter
  split
  · exact fun _ => .openNode <| .text <| .text <|
      .call (metadata_balanced dialect given.metadata) .closed
  · exact fun _ => .openNode <| .text <| .token <|
      .call (.pick dialect .done <| .bind (.whenGiven (unit_balanced dialect))
        (metadata_balanced dialect given.metadata))
      .closed

theorem parameters_balanced (given : List Parameter) : Balanced (forM given (parameter dialect)) :=
  .forM fun given _ => parameter_balanced dialect given

theorem operationNode_balanced (keyword : String) (given : Operation) :
    Balanced (operationNode dialect keyword given) :=
  fun _ => .openNode <| .text <| .call (method_balanced dialect given.method) <|
    .call (parameters_balanced dialect given.parameters) <|
    .call (metadata_balanced dialect given.metadata) .closed

theorem conversion_balanced (keyword : String) (given : Operation) :
    Balanced (conversion dialect keyword given) :=
  .pick dialect
    (fun _ => .openNode <| .text <| .closeNode <|
      .last <| .call (parameters_balanced dialect given.parameters) .done)
    (operationNode_balanced dialect keyword given)

theorem implicitMeridian_balanced : Balanced (implicitMeridian dialect) :=
  .pick dialect (primeMeridian_balanced dialect .greenwich) .done

theorem geodeticReference_balanced (given : Reference GeodeticDatum) :
    Balanced (geodeticReference dialect given) := by
  cases given with
  | datum given =>
    refine .bind (datum_balanced dialect given) ?_
    split
    · exact primeMeridian_balanced dialect _
    · exact implicitMeridian_balanced dialect
  | ensemble given =>
    exact .bind (geodeticEnsemble_balanced dialect given) (implicitMeridian_balanced dialect)

theorem verticalReference_balanced (given : Reference VerticalDatum) :
    Balanced (verticalReference dialect given) := by
  cases given with
  | datum given => exact verticalDatum_balanced dialect given
  | ensemble given => exact verticalEnsemble_balanced dialect given

theorem geodeticCrs_balanced (keyword : String) (given : GeodeticCrs)
    (system : Option CoordinateSystem) : Balanced (geodeticCrs dialect keyword given system) := by
  have inside : BalancedInside (whenGiven system (coordinateSystem dialect)) := by
    cases system with
    | none => exact Balanced.done.inside
    | some system => exact coordinateSystem_balanced dialect system
  exact fun _ => .lift fun reference => .openNode <| .text <|
    .call (geodeticReference_balanced dialect reference) <| .callInside inside <|
    .call (metadata_balanced dialect given.metadata) .closed

theorem derivedGeodeticCrs_balanced (given : DerivedGeodeticCrs) :
    Balanced (derivedGeodeticCrs dialect given) :=
  fun _ => .lift fun _ => .openNode <| .text <|
    .call (geodeticCrs_balanced dialect _ given.base none) <|
    .call (conversion_balanced dialect _ given.conversion) <|
    .callInside (coordinateSystem_balanced dialect given.coordinateSystem) <|
    .call (metadata_balanced dialect given.metadata) .closed

theorem projectedCrs_balanced (given : ProjectedCrs) : Balanced (projectedCrs dialect given) :=
  fun _ => .openNode <| .text <| .call (geodeticCrs_balanced dialect _ given.base _) <|
    .call (conversion_balanced dialect _ given.conversion) <|
    .callInside (coordinateSystem_balanced dialect given.coordinateSystem) <|
    .call (metadata_balanced dialect given.metadata) .closed

theorem verticalCrs_balanced (given : VerticalCrs) : Balanced (verticalCrs dialect given) :=
  fun _ => .lift fun reference => .openNode <| .text <|
    .call (verticalReference_balanced dialect reference) <|
    .callInside (coordinateSystem_balanced dialect given.coordinateSystem) <|
    .call (metadata_balanced dialect given.metadata) .closed

theorem compoundCrs_balanced (name : String) {components : Writing Unit} (common : Metadata)
    (balanced : Balanced components) : Balanced (compoundCrs dialect name components common) :=
  fun _ => .openNode <| .text <| .call balanced <| .call (metadata_balanced dialect common) .closed

theorem boundCrs_balanced {source target : Writing Unit} (given : Operation)
    (first : Balanced source) (second : Balanced target) :
    Balanced (boundCrs dialect source target given) :=
  fun _ => .lift fun _ => .openNode <|
    .openNode <| .call first <| .closeNode <|
    .openNode <| .call second <| .closeNode <|
    .call (operationNode_balanced dialect _ given) .closed

theorem topGeodeticCrs_balanced (given : GeodeticCrs) : Balanced (topGeodeticCrs dialect given) := by
  unfold topGeodeticCrs
  split
  · exact geodeticCrs_balanced dialect _ given _
  · exact .fail _

theorem crs_balanced (given : Crs) : Balanced (crs dialect given) := by
  induction given with
  | geodetic given => exact topGeodeticCrs_balanced dialect given
  | derivedGeodetic given => exact derivedGeodeticCrs_balanced dialect given
  | projected given => exact projectedCrs_balanced dialect given
  | vertical given => exact verticalCrs_balanced dialect given
  | compound name components common ih =>
    rw [crs, crsAll_eq_forM]
    exact compoundCrs_balanced dialect name common (.forM ih)
  | bound source target given first second => exact boundCrs_balanced dialect given first second
  | unsupported typeName => exact .fail _

end Writing

end CrsText
