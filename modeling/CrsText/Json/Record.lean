import CrsText.Json.Fault

/-! Records: which fields a JSON object or array has to hold for a structure to be built from it. A
record lists its fields in the order of declaration, so one description serves both spellings.
-/

set_option autoImplicit false

namespace CrsText

/-- Reads a value of one type out of a JSON value. -/
abbrev Reader (α : Type) := Json → Except ReadFault α

/-- A field of a record. -/
structure Field (α : Type) where
  key : String
  read : Reader α
  /-- The value of a field whose key an object lacks; without one the key is required. -/
  absent : Option α
  /-- The value of a field whose element an array lacks; without one the element is required. -/
  truncated : Option α

/-- The fields that a value of type `α` is built from. -/
inductive Record : Type → Type 1 where
  | build {α : Type} (value : α) : Record α
  | field {α β : Type} (init : Record (β → α)) (last : Field β) : Record α

/-- What is wrong with one field. -/
inductive FieldFault where
  | unreadable (key : String) (fault : ReadFault)
  | missing (key : String)

namespace Reader

def string : Reader String
  | .string text => .ok text
  | value => .error (.wrongKind value .string)

def number : Reader Float
  | .integer value => .ok (Float.ofInt value)
  | .float value => .ok value
  | value => .error (.wrongKind value .number)

def elements {α : Type} (read : Reader α) : List Json → Except ReadFault (List α)
  | [] => .ok []
  | value :: rest => do return (← read value) :: (← elements read rest)

def list {α : Type} (read : Reader α) : Reader (List α)
  | .array values => elements read values
  | value => .error (.wrongKind value .sequence)

/-- Null stands for a value that is not there. -/
def nullable {α : Type} (read : Reader α) : Reader (Option α)
  | .null => .ok none
  | value => do return some (← read value)

/-- One of two choices, named by a string or by the only key of an object whose value is null. -/
def choice {α : Type} (first second : String × α) : Reader α
  | .string name => named name
  | .object [(name, value)] => do
    let chosen ← named name
    match value with
    | .null => return chosen
    | value => throw (.wrongKind value .unit)
  | .object _ => .error .notOneKey
  | value => .error (.wrongKind value .choice)
where
  named (name : String) : Except ReadFault α :=
    if name = first.1 then .ok first.2
    else if name = second.1 then .ok second.2
    else .error (.unknownChoice name first.1 second.1)

end Reader

namespace FieldFault

/-- Of two faults in one object the one that is met first. Values are read in ascending order of
their keys, and absent keys are noticed after that, in the order of declaration. -/
def earlier : FieldFault → FieldFault → FieldFault
  | .unreadable key fault, .unreadable key' fault' =>
    if key' < key then .unreadable key' fault' else .unreadable key fault
  | .missing _, .unreadable key fault => .unreadable key fault
  | fault, _ => fault

end FieldFault

namespace Field

def readValue {α : Type} (field : Field α) (value : Json) : Except FieldFault α :=
  (field.read value).mapError (.unreadable field.key)

def orMissing {α : Type} (field : Field α) : Option α → Except FieldFault α
  | some value => .ok value
  | none => .error (.missing field.key)

def ofEntries {α : Type} (entries : List (String × Json)) (field : Field α) :
    Except FieldFault α :=
  match entries.lookup field.key with
  | some value => field.readValue value
  | none => field.orMissing field.absent

def ofElement? {α : Type} (element? : Option Json) (field : Field α) : Except FieldFault α :=
  match element? with
  | some value => field.readValue value
  | none => field.orMissing field.truncated

end Field

namespace Record

variable {α β : Type}

def required (init : Record (β → α)) (key : String) (read : Reader β) : Record α :=
  init.field ⟨key, read, none, none⟩

def optional (init : Record (Option β → α)) (key : String) (read : Reader β) : Record α :=
  init.field ⟨key, .nullable read, some none, none⟩

/-- Null is no way to leave out a field with a default. -/
def defaulted (init : Record (β → α)) (key : String) (read : Reader β) (value : β) : Record α :=
  init.field ⟨key, read, some value, some value⟩

def keys {α : Type} : Record α → List String
  | .build _ => []
  | .field init last => init.keys ++ [last.key]

def size {α : Type} : Record α → Nat
  | .build _ => 0
  | .field init _ => init.size + 1

def apply : Except FieldFault (β → α) → Except FieldFault β → Except FieldFault α
  | .ok f, .ok value => .ok (f value)
  | .ok _, .error fault => .error fault
  | .error fault, .ok _ => .error fault
  | .error fault, .error fault' => .error (fault.earlier fault')

def ofEntries {α : Type} (entries : List (String × Json)) : Record α → Except FieldFault α
  | .build value => .ok value
  | .field init last => apply (ofEntries entries init) (last.ofEntries entries)

def ofElements {α : Type} (elements : List Json) : Record α → Except FieldFault α
  | .build value => .ok value
  | .field init last => do
    let f ← ofElements elements init
    return f (← last.ofElement? elements[init.size]?)

def readObject (record : Record α) (entries : List (String × Json)) : Except ReadFault α :=
  match record.ofEntries entries with
  | .ok value => .ok value
  | .error (.unreadable _ fault) => .error fault
  | .error (.missing key) => .error (.missingField key)

/-- An element that cannot be read is reported before a wrong length. -/
def readArray (record : Record α) (name : String) (elements : List Json) : Except ReadFault α :=
  match record.ofElements elements with
  | .ok value =>
    if elements.length ≤ record.size then .ok value
    else .error (.tooLong elements.length record.size)
  | .error (.unreadable _ fault) => .error fault
  | .error (.missing _) => .error (.tooShort elements.length name record.size)

/-- Reads an object by its keys or an array by its positions. -/
def reader (record : Record α) (name : String) : Reader α
  | .object entries => record.readObject entries
  | .array elements => record.readArray name elements
  | value => .error (.wrongKind value (.record name))

/-- Reads an object whose fields are those of two records, the second one after the first. The
values of the second record are set aside meanwhile. -/
def readerWith (record : Record (β → α)) (name : String) (common : Record β) : Reader α
  | .object entries => do
    let f ← record.readObject entries
    return f (← (common.readObject entries).mapError ReadFault.setAside)
  | value => .error (.wrongKind value (.record name))

end Record

end CrsText
