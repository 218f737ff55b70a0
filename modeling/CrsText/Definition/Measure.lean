import CrsText.Definition.Metadata
import CrsText.Failure

/-! Units of measure and values expressed in them. A unit is either one of three known by name or an
object with a factor of its own; a quantity is a value whose unit has been looked up.
-/

set_option autoImplicit false

namespace CrsText

inductive UnitKind where
  | angular
  | linear
  | scale
  | time
  | parametric
  | generic
  deriving DecidableEq, Repr, Inhabited

namespace UnitKind

def tag : UnitKind → String
  | .angular => "AngularUnit"
  | .linear => "LinearUnit"
  | .scale => "ScaleUnit"
  | .time => "TimeUnit"
  | .parametric => "ParametricUnit"
  | .generic => "Unit"

def all : List UnitKind := [.angular, .linear, .scale, .time, .parametric, .generic]

def ofTag? (tag : String) : Option UnitKind := all.find? (·.tag == tag)

end UnitKind

/-- The units that are known by their names alone. -/
inductive KnownUnit where
  | degree
  | metre
  | unity
  deriving DecidableEq, Repr, Inhabited

namespace KnownUnit

def name : KnownUnit → String
  | .degree => "degree"
  | .metre => "metre"
  | .unity => "unity"

/-- The factor to the radian, the metre or the number one. -/
def factor : KnownUnit → Float
  | .degree => 0.0174532925199433
  | .metre => 1
  | .unity => 1

def kind : KnownUnit → UnitKind
  | .degree => .angular
  | .metre => .linear
  | .unity => .scale

def all : List KnownUnit := [.degree, .metre, .unity]

def ofName? (name : String) : Option KnownUnit := all.find? (·.name == name)

end KnownUnit

structure UnitDefinition where
  typeTag : Option String
  name : String
  factor : Option Float
  metadata : Metadata
  deriving Inhabited

namespace UnitDefinition

def record : Record (Metadata → UnitDefinition) :=
  Record.build UnitDefinition.mk
    |>.optional "type" Reader.string
    |>.required "name" Reader.string
    |>.optional "conversion_factor" Reader.number

def ofJson : Reader UnitDefinition := record.describedReader "UnitDefinition"

end UnitDefinition

inductive MeasureUnit where
  | named (name : String)
  | defined (definition : UnitDefinition)
  deriving Inhabited

namespace MeasureUnit

def ofKnown (unit : KnownUnit) : MeasureUnit := .named unit.name

/-- Every fault within a unit object means only that the value is no unit. -/
def ofJson : Reader MeasureUnit
  | .string name => .ok (.named name)
  | value =>
    match UnitDefinition.ofJson value with
    | .ok definition => .ok (.defined definition)
    | .error _ => .error (.noAlternative "Unit")

end MeasureUnit

/-- A value; without a unit it is in the unit that its place implies. -/
structure Measure where
  value : Float
  unit : Option MeasureUnit := none
  deriving Inhabited

namespace Measure

/-- A unit given beside the value comes before a name and a factor spread out beside it; a factor
without a name is no unit. -/
def ofParts (value : Float) (unit : Option MeasureUnit) (name : Option String)
    (factor : Option Float) : Measure :=
  match unit, name with
  | some unit, _ => ⟨value, some unit⟩
  | none, some name => ⟨value, some (.defined ⟨none, name, factor, .empty⟩)⟩
  | none, none => ⟨value, none⟩

def record : Record Measure :=
  Record.build ofParts
    |>.required "value" Reader.number
    |>.optional "unit" MeasureUnit.ofJson
    |>.optional "name" Reader.string
    |>.optional "conversion_factor" Reader.number

def noAlternative {α : Type} : Except ReadFault α := .error (.noAlternative "MeasureRepr")

def ofJson : Reader Measure
  | .integer value => .ok ⟨Float.ofInt value, none⟩
  | .float value => .ok ⟨value, none⟩
  | .object entries =>
    match record.readObject entries with
    | .ok measure => .ok measure
    | .error _ => noAlternative
  | _ => noAlternative

end Measure

/-- A unit with a factor; units known by name have no metadata. -/
structure ResolvedUnit where
  typeTag : Option String
  name : String
  factor : Float
  metadata : Option Metadata
  deriving Inhabited

namespace ResolvedUnit

def ofKnown (unit : KnownUnit) : ResolvedUnit := ⟨unit.kind.tag, unit.name, unit.factor, none⟩

def ofDefinition (definition : UnitDefinition) : Except Failure ResolvedUnit :=
  match definition.factor with
  | some factor =>
    .ok ⟨definition.typeTag, definition.name, factor, some definition.metadata⟩
  | none => .error (.missing (.factor definition.name))

/-- Whether two units have the same name and equal factors. -/
def agrees (unit other : ResolvedUnit) : Bool :=
  unit.name == other.name && unit.factor == other.factor

end ResolvedUnit

/-- A known name has its own factor, a unit object the factor that it gives. -/
def MeasureUnit.resolve : MeasureUnit → Except Failure ResolvedUnit
  | .named name =>
    match KnownUnit.ofName? name with
    | some known => .ok (.ofKnown known)
    | none => .error (.missing (.factor name))
  | .defined definition => ResolvedUnit.ofDefinition definition

structure Quantity where
  value : Float
  unit : ResolvedUnit
  deriving Inhabited

/-- The quantity that a measure stands for where the given unit is implied. -/
def Measure.inUnit (implied : KnownUnit) (measure : Measure) : Except Failure Quantity :=
  match measure.unit with
  | some unit => do return ⟨measure.value, ← unit.resolve⟩
  | none => .ok ⟨measure.value, .ofKnown implied⟩

end CrsText
