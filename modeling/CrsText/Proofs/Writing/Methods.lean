import CrsText.Proofs.Writing.Trace
import CrsText.Wkt1.Crs
import CrsText.Wkt2.Crs

/-! How each part of a system is written, with every bracket opened and closed where it stands. What
the dialects have in common is written once, and a failure may come between opening and closing.
-/

set_option autoImplicit false

namespace CrsText

def Dialect.pick {α : Type} : Dialect → α → α → α
  | .wkt1, older, _ => older
  | .wkt2, _, newer => newer

@[simp] theorem Dialect.pick_wkt1 {α : Type} (older newer : α) : wkt1.pick older newer = older := rfl

@[simp] theorem Dialect.pick_wkt2 {α : Type} (older newer : α) : wkt2.pick older newer = newer := rfl

def ResolvedUnit.ofKind (unit : ResolvedUnit) (kind : UnitKind) : ResolvedUnit :=
  { unit with typeTag := some kind.tag }

/-- The inverse flattening, which is found after the semi-major axis has been written. -/
def Ellipsoid.inverse (ellipsoid : Ellipsoid) (semiMajor : Quantity) : Except Failure Float :=
  match ellipsoid.inverseFlattening, ellipsoid.semiMinorAxis with
  | some inverseFlattening, _ => .ok inverseFlattening
  | none, some semiMinorAxis => do
    let semiMinor ← semiMinorAxis.inUnit .metre
    if semiMajor.unit.agrees semiMinor.unit then
      return semiMajor.value / (semiMajor.value - semiMinor.value)
    else
      throw (.unitMismatch semiMajor.unit.name semiMinor.unit.name)
  | none, none => .error (.missing (.flattening ellipsoid.name))

theorem Ellipsoid.figure_eq (ellipsoid : Ellipsoid) :
    ellipsoid.figure = ellipsoid.semiMajorAxis.inUnit .metre >>= fun semiMajor =>
      (semiMajor, ·) <$> ellipsoid.inverse semiMajor := by
  obtain ⟨name, semiMajorAxis, semiMinorAxis, inverseFlattening, metadata⟩ := ellipsoid
  refine bind_congr fun semiMajor => ?_
  cases inverseFlattening with
  | some inverseFlattening => rfl
  | none =>
    cases semiMinorAxis with
    | none => rfl
    | some semiMinorAxis =>
      simp only [inverse, map_bind]
      refine bind_congr fun semiMinor => ?_
      split <;> rfl

def ResolvedUnit.requireMetres (unit : ResolvedUnit) : Except Failure Unit :=
  if unit.factor != 1 then .error (.notInMetres unit.factor) else .ok ()

namespace Writing

def usageNode (scope area : Option String) (box : Option BoundingBox) : Writing Unit := do
  openNode "USAGE"
  whenGiven scope fun scope => do
    openNode "SCOPE"
    text scope
    closeNode
  whenGiven area fun area => do
    openNode "AREA"
    text area
    closeNode
  whenGiven box fun box => do
    openNode "BBOX"
    token (Token.rounded box.south)
    token (Token.rounded box.west)
    token (Token.rounded box.north)
    token (Token.rounded box.east)
    closeNode
  closeNode

variable (dialect : Dialect)

def code (given : Code) : Writing Unit :=
  if given.isNumeric && dialect = .wkt2 then token given.spelling else text given.spelling

def identifier (given : Identifier) : Writing Unit := do
  openNode (dialect.pick "AUTHORITY" "ID")
  text given.authority
  code dialect given.code
  closeNode

def usages (given : Metadata) : Writing Unit :=
  if given.hasOwnUsage then usageNode given.scope given.area given.boundingBox
  else whenGiven given.usages fun usages =>
    forM usages fun usage => usageNode usage.scope usage.area usage.boundingBox

def identifiers (given : Metadata) : Writing Unit :=
  match given.identifier with
  | some own => identifier dialect own
  | none => whenGiven given.identifiers fun identifiers =>
    dialect.pick (pure ()) (forM identifiers (identifier dialect))

def remarks (given : Metadata) : Writing Unit :=
  whenGiven given.remarks fun remarks => do
    openNode "REMARK"
    text remarks
    closeNode

def metadata (given : Metadata) : Writing Unit := do
  dialect.pick (pure ()) (usages given)
  identifiers dialect given
  dialect.pick (pure ()) (remarks given)

def unitNode (given : ResolvedUnit) : Writing Unit := do
  let keyword ← dialect.unitKeyword given.typeTag
  openNode keyword
  text given.name
  token (Token.rounded given.factor)
  whenGiven given.metadata (metadata dialect)
  closeNode

def unit (given : MeasureUnit) : Writing Unit := do
  unitNode dialect (← given.resolve)

/-- The unit of a longitude is an angle, whatever its type says. -/
def longitude (given : Measure) : Writing Unit := do
  let quantity ← given.inUnit .degree
  token (Token.rounded quantity.value)
  dialect.pick (pure ()) (unitNode dialect (quantity.unit.ofKind .angular))

def meridian (given : Meridian) : Writing Unit := do
  openNode "MERIDIAN"
  longitude dialect given.longitude
  metadata dialect given.metadata
  closeNode

def primeMeridian (given : PrimeMeridian) : Writing Unit := do
  openNode "PRIMEM"
  text given.name
  longitude dialect given.longitude
  metadata dialect given.metadata
  closeNode

def ellipsoid (given : Ellipsoid) : Writing Unit := do
  openNode (dialect.pick "SPHEROID" "ELLIPSOID")
  text given.name
  let semiMajor ← given.semiMajorAxis.inUnit .metre
  token (Token.rounded semiMajor.value)
  let inverseFlattening ← given.inverse semiMajor
  token (Token.rounded inverseFlattening)
  dialect.pick (liftM semiMajor.unit.requireMetres) (unitNode dialect (semiMajor.unit.ofKind .linear))
  metadata dialect given.metadata
  closeNode

def ensembleMember (given : EnsembleMember) : Writing Unit := do
  openNode "MEMBER"
  text given.name
  metadata dialect given.metadata
  closeNode

def ensemble (given : DatumEnsemble) (figure : Option Ellipsoid) : Writing Unit := do
  openNode "ENSEMBLE"
  text given.name
  forM given.members (ensembleMember dialect)
  whenGiven figure (ellipsoid dialect)
  whenGiven given.accuracy fun accuracy => do
    openNode "ENSEMBLEACCURACY"
    token accuracy
    closeNode
  metadata dialect given.metadata
  closeNode

def verticalDatumType : Writing Unit := dialect.pick (token Wkt1.verticalDatumType) (pure ())

def verticalEnsemble (given : DatumEnsemble) : Writing Unit :=
  dialect.pick
    (do
      openNode "VERT_DATUM"
      text given.name
      verticalDatumType dialect
      metadata dialect given.metadata
      closeNode)
    (ensemble dialect given none)

def geodeticEnsemble (given : DatumEnsemble) : Writing Unit := do
  let figure ← Ellipsoid.require given.name given.ellipsoid
  dialect.pick
    (do
      openNode "DATUM"
      text (Wkt1.datumName given.name)
      ellipsoid dialect figure
      metadata dialect given.metadata
      closeNode)
    (ensemble dialect given (some figure))

def frameEpoch (epoch : Option Float) (datum : String) : Writing Unit :=
  dialect.pick (pure ())
    (match epoch with
      | some epoch => do
        openNode "DYNAMIC"
        openNode "FRAMEEPOCH"
        token (Token.copied epoch)
        closeNode
        closeNode
      | none => fail (.missing (.epoch datum)))

def verticalDatum (given : VerticalDatum) : Writing Unit := do
  whenHolds given.isDynamic (frameEpoch dialect given.referenceEpoch given.name)
  openNode (dialect.pick "VERT_DATUM" "VDATUM")
  text given.name
  verticalDatumType dialect
  metadata dialect given.metadata
  closeNode

def datum (given : GeodeticDatum) : Writing Unit := do
  whenHolds given.isDynamic (frameEpoch dialect given.referenceEpoch given.name)
  openNode "DATUM"
  text given.name
  let figure ← Ellipsoid.require given.name given.ellipsoid
  ellipsoid dialect figure
  metadata dialect given.metadata
  closeNode

def axis (given : Axis) : Writing Unit := do
  openNode "AXIS"
  text (dialect.axisLabel given.name given.abbreviation)
  token (dialect.axisDirection given.direction)
  dialect.pick (pure ())
    (do
      whenGiven given.meridian (meridian dialect)
      whenGiven given.unit (unit dialect))
  closeNode

/-- The group of axes is opened and closed on two occasions, with all the axes between them. -/
def coordinateSystem (given : CoordinateSystem) : Writing Unit :=
  match given.axes with
  | [] => fail (.missing (.axis given.subtype))
  | first :: _ => do
    dialect.pick (whenGiven first.unit (unit dialect))
      (do
        openNode "CS"
        token given.subtype
        token (Token.integer given.axes.length)
        closeNode
        openGroup)
    forM given.axes (axis dialect)
    dialect.pick (pure ()) closeGroup

def method (given : Method) : Writing Unit := do
  openNode "METHOD"
  text given.name
  metadata dialect given.metadata
  closeNode

def parameter (given : Parameter) : Writing Unit :=
  match given.value with
  | .file name => do
    openNode "PARAMETERFILE"
    text given.name
    text name
    metadata dialect given.metadata
    closeNode
  | .number value => do
    openNode "PARAMETER"
    text given.name
    token (Token.rounded value)
    dialect.pick (pure ())
      (do
        whenGiven given.unit (unit dialect)
        metadata dialect given.metadata)
    closeNode

def operationNode (keyword : String) (given : Operation) : Writing Unit := do
  openNode keyword
  text given.name
  method dialect given.method
  forM given.parameters (parameter dialect)
  metadata dialect given.metadata
  closeNode

def conversion (keyword : String) (given : Operation) : Writing Unit :=
  dialect.pick
    (do
      openNode "PROJECTION"
      text given.method.name
      closeNode
      forM given.parameters (parameter dialect))
    (operationNode dialect keyword given)

def transformation (given : Operation) : Writing Unit :=
  operationNode dialect "ABRIDGEDTRANSFORMATION" given

def implicitMeridian : Writing Unit :=
  dialect.pick (primeMeridian dialect .greenwich) (pure ())

def geodeticReference : Reference GeodeticDatum → Writing Unit
  | .datum given => do
    datum dialect given
    match given.primeMeridian with
    | some meridian => primeMeridian dialect meridian
    | none => implicitMeridian dialect
  | .ensemble given => do
    geodeticEnsemble dialect given
    implicitMeridian dialect

def verticalReference : Reference VerticalDatum → Writing Unit
  | .datum given => verticalDatum dialect given
  | .ensemble given => verticalEnsemble dialect given

def geodeticCrs (keyword : String) (given : GeodeticCrs) (system : Option CoordinateSystem) :
    Writing Unit := do
  let reference ← Reference.select given.name given.datum given.ensemble
  openNode keyword
  text given.name
  geodeticReference dialect reference
  whenGiven system (coordinateSystem dialect)
  metadata dialect given.metadata
  closeNode

/-- Only the newer dialect has derived geodetic and bound systems. -/
def supported (typeName : String) : Except Failure Unit :=
  dialect.pick (.error (.notInDialect typeName .wkt1)) (.ok ())

def derivedGeodeticCrs (given : DerivedGeodeticCrs) : Writing Unit := do
  supported dialect given.kind.derivedTag
  openNode (dialect.geodeticKeyword .geodetic)
  text given.name
  geodeticCrs dialect (dialect.baseKeyword given.base.kind) given.base none
  conversion dialect "DERIVINGCONVERSION" given.conversion
  coordinateSystem dialect given.coordinateSystem
  metadata dialect given.metadata
  closeNode

def projectedCrs (given : ProjectedCrs) : Writing Unit := do
  openNode (dialect.pick "PROJCS" "PROJCRS")
  text given.name
  geodeticCrs dialect (dialect.baseKeyword given.baseKind) given.base
    (dialect.pick given.base.coordinateSystem none)
  conversion dialect "CONVERSION" given.conversion
  coordinateSystem dialect given.coordinateSystem
  metadata dialect given.metadata
  closeNode

def verticalCrs (given : VerticalCrs) : Writing Unit := do
  let reference ← Reference.select given.name given.datum given.ensemble
  openNode (dialect.pick "VERT_CS" "VERTCRS")
  text given.name
  verticalReference dialect reference
  coordinateSystem dialect given.coordinateSystem
  metadata dialect given.metadata
  closeNode

def compoundCrs (name : String) (components : Writing Unit) (common : Metadata) :
    Writing Unit := do
  openNode (dialect.pick "COMPD_CS" "COMPOUNDCRS")
  text name
  components
  metadata dialect common
  closeNode

def boundCrs (source target : Writing Unit) (given : Operation) : Writing Unit := do
  supported dialect CrsType.bound.tag
  openNode "BOUNDCRS"
  openNode "SOURCECRS"
  source
  closeNode
  openNode "TARGETCRS"
  target
  closeNode
  transformation dialect given
  closeNode

/-- On its own a system needs a coordinate system. -/
def topGeodeticCrs (given : GeodeticCrs) : Writing Unit :=
  match given.coordinateSystem with
  | some system => geodeticCrs dialect (dialect.geodeticKeyword given.kind) given (some system)
  | none => fail (.missing (.coordinateSystem given.name))

mutual

def crs : Crs → Writing Unit
  | .geodetic given => topGeodeticCrs dialect given
  | .derivedGeodetic given => derivedGeodeticCrs dialect given
  | .projected given => projectedCrs dialect given
  | .vertical given => verticalCrs dialect given
  | .compound name components common => compoundCrs dialect name (crsAll components) common
  | .bound source target given => boundCrs dialect (crs source) (crs target) given
  | .unsupported typeName => fail (.unsupportedType typeName)

def crsAll : List Crs → Writing Unit
  | [] => pure ()
  | first :: rest => do
    crs first
    crsAll rest

end

theorem crsAll_eq_forM (dialect : Dialect) (components : List Crs) :
    crsAll dialect components = forM components (crs dialect) := by
  induction components with
  | nil => rfl
  | cons first rest ih => rw [crsAll, ih, List.forM_cons]

end Writing

end CrsText
