import CrsText.Definition.Measure

/-! Methods with their parameters, and the operations that use them: the conversion that derives one
system from another, and the transformation that binds a system to a target.
-/

set_option autoImplicit false

namespace CrsText

structure Method where
  name : String
  metadata : Metadata
  deriving Inhabited

namespace Method

def record : Record (Metadata → Method) :=
  Record.build Method.mk
    |>.required "name" Reader.string

def ofJson : Reader Method := record.describedReader "Method"

end Method

inductive ParameterValue where
  | number (value : Float)
  | file (name : String)
  deriving Inhabited

namespace ParameterValue

def ofJson : Reader ParameterValue
  | .integer value => .ok (.number (Float.ofInt value))
  | .float value => .ok (.number value)
  | .string name => .ok (.file name)
  | _ => .error (.noAlternative "ParameterValue")

end ParameterValue

structure Parameter where
  name : String
  value : ParameterValue
  unit : Option MeasureUnit
  metadata : Metadata
  deriving Inhabited

namespace Parameter

def record : Record (Metadata → Parameter) :=
  Record.build Parameter.mk
    |>.required "name" Reader.string
    |>.required "value" ParameterValue.ofJson
    |>.optional "unit" MeasureUnit.ofJson

def ofJson : Reader Parameter := record.describedReader "Parameter"

end Parameter

/-- A conversion or a transformation: a method and its parameters in order. -/
structure Operation where
  name : String
  method : Method
  parameters : List Parameter
  metadata : Metadata
  deriving Inhabited

namespace Operation

def record : Record (Metadata → Operation) :=
  Record.build Operation.mk
    |>.required "name" Reader.string
    |>.required "method" Method.ofJson
    |>.defaulted "parameters" (Reader.list Parameter.ofJson) []

def conversionOfJson : Reader Operation := record.describedReader "Conversion"

def transformationOfJson : Reader Operation := record.describedReader "AbridgedTransformation"

end Operation

end CrsText
