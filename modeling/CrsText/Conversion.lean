import CrsText.Wkt.Draft
import CrsText.Wkt1.Crs
import CrsText.Wkt2.Crs

/-! Conversion of a definition to well-known text, with a log of what was done and left out.
-/

set_option autoImplicit false

namespace CrsText

inductive LogLevel where
  | debug
  | trace
  deriving DecidableEq, Repr

def LogLevel.name : LogLevel → String
  | .debug => "DEBUG"
  | .trace => "TRACE"

/-- What a conversion logs; lengths count the bytes of the text. -/
inductive LogEntry where
  | converting (typeName : String) (dialect : Dialect)
  | leftOut (notice : Notice)
  | wrote (length : Nat) (dialect : Dialect)
  deriving DecidableEq, Repr

namespace LogEntry

def level : LogEntry → LogLevel
  | .wrote _ _ => .trace
  | _ => .debug

def message : LogEntry → String
  | .converting typeName dialect => "Converting " ++ typeName ++ " to " ++ dialect.name
  | .leftOut notice => notice.message
  | .wrote length dialect => "Wrote " ++ Token.integer length ++ " bytes of " ++ dialect.name

def line (entry : LogEntry) : String := entry.level.name ++ " " ++ entry.message

end LogEntry

structure Conversion where
  log : List LogEntry
  result : Except Failure String

/-- The tree of a system in the given dialect. -/
def Crs.toItem (dialect : Dialect) (crs : Crs) : Report Item :=
  match dialect with
  | .wkt1 => Wkt1.crs crs
  | .wkt2 => .ofExcept (Wkt2.crs crs)

/-- The log begins with what is converted and ends, if that succeeds, with the length written. -/
def Crs.convert (dialect : Dialect) (layout : Layout) (crs : Crs) : Conversion :=
  let report := crs.toItem dialect
  let log := .converting crs.typeName dialect :: report.notices.map .leftOut
  match report.result with
  | .ok item =>
    let text := item.write layout
    ⟨log ++ [.wrote text.utf8ByteSize dialect], .ok text⟩
  | .error failure => ⟨log, .error failure⟩

/-- Nothing is logged for a value that cannot be read. -/
def Json.convert (dialect : Dialect) (layout : Layout) (value : Json) : Conversion :=
  match Crs.ofJson value with
  | .ok crs => crs.convert dialect layout
  | .error fault => ⟨[], .error (.unreadable fault)⟩

end CrsText
