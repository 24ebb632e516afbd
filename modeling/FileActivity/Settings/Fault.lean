/-
# Faults in settings

Why a valid document is no settings, and where.  There are two wordings: one for a text that is
read on its own, and one for a file that is laid over the defaults.
-/
import FileActivity.Decimal.Shortest
import FileActivity.Text.Quoted
import FileActivity.Toml.Value

namespace FileActivity

open Toml (Value)

/-- What a place in the document asks for. -/
inductive Expected where
  /-- A section, by the name of what it describes. -/
  | group (name : String)
  /-- A number of things. -/
  | count
  /-- A number of units of time. -/
  | time
  /-- A user number. -/
  | uid
  | flag
  | path
  | list
  /-- One of the kinds of telemetry. -/
  | kind
  /-- One of several names. -/
  | choice
  /-- Nothing at all. -/
  | nothing
  /-- The label of a value. -/
  | label
  deriving DecidableEq, Repr

/-- How an error calls what was asked for. -/
def Expected.text : Expected → String
  | group name => "struct " ++ name
  | count => "usize"
  | time => "u64"
  | uid => "u32"
  | flag => "a boolean"
  | path => "path string"
  | list => "a sequence"
  | kind => "enum TraceKind"
  | choice => "enum"
  | nothing => "unit"
  | label => "a 64-bit metadata id integer"

/-- Why a value does not fit its place. -/
inductive Fault where
  /-- A value of another kind was asked for. -/
  | wrongType (found : Value) (expected : Expected)
  /-- The number is too small or too large. -/
  | outOfRange (n : Int) (expected : Expected)
  /-- No kind of telemetry has this name. -/
  | unknownKind (name : String)
  /-- A kind of telemetry is given by a name or by a table with one key. -/
  | notAKind
  /-- The table that gives a kind of telemetry is empty. -/
  | noKey
  /-- The table that gives a kind of telemetry has several keys. -/
  | severalKeys
  /-- A kind of telemetry carries nothing. -/
  | notEmpty
  /-- A kind of telemetry carries nothing, and no tables with headers either. -/
  | headedTables
  /-- A kind of telemetry carries an empty table. -/
  | notATable (found : Value)
  deriving Repr

/-- A fault and the keys that lead to it. -/
structure Misfit where
  key : List String
  fault : Fault
  deriving Repr

/-- The fault of a value inside the one under `key`. -/
def Misfit.within (key : String) (m : Misfit) : Misfit := { m with key := key :: m.key }

/-! ## Wordings -/

/-- The names that are kinds of telemetry, as an error lists them. -/
def kindChoices : String := "one of \x60process\x60, \x60registry\x60, \x60network\x60"

/-- A text between grave accents. -/
def marked (s : String) : String := "\x60" ++ s ++ "\x60"

/-- A value as it is called when a text is read on its own. -/
def foundInText : Value → String
  | .string s => "string " ++ Quoted.quote s
  | .integer n => "integer " ++ marked (toString n)
  | .float x => "floating point " ++ marked (Decimal.pointedText x)
  | .boolean b => "boolean " ++ marked (toString b)
  | .datetime _ => "map"
  | .array _ _ => "sequence"
  | .table _ => "map"

/-- A value as it is called when a file is laid over the defaults. -/
def foundInFile : Value → String
  | .string s => "string " ++ Quoted.quote s
  | .integer n => "signed int " ++ marked (toString n)
  | .float x => "float " ++ marked (Decimal.text x)
  | .boolean b => "bool " ++ toString b
  | .datetime _ => "map"
  | .array _ _ => "sequence"
  | .table _ => "map"

namespace Fault

/-- The fault as it is told when a text is read on its own. -/
def textMessage : Fault → String
  | wrongType found expected =>
    "invalid type: " ++ foundInText found ++ ", expected " ++ expected.text
  | outOfRange n expected =>
    "invalid value: " ++ foundInText (.integer n) ++ ", expected " ++ expected.text
  | unknownKind name => "unknown variant " ++ marked name ++ ", expected " ++ kindChoices
  | notAKind => "wanted string or table"
  | noKey => "wanted exactly 1 element, found 0 elements"
  | severalKeys => "wanted exactly 1 element, more than 1 element"
  | notEmpty => "expected empty table"
  | headedTables => "expected empty array"
  | notATable found => "expected table, found " ++ found.kindName

/-- The fault as it is told when a file is laid over the defaults. -/
def fileMessage : Fault → String
  | wrongType found expected =>
    "invalid type: found " ++ foundInFile found ++ ", expected " ++ expected.text
  | outOfRange n expected =>
    "invalid value " ++ foundInFile (.integer n) ++ ", expected " ++ expected.text
  | unknownKind name =>
    "unknown variant: found " ++ marked name ++ ", expected " ++ marked kindChoices
  | other => other.textMessage

end Fault

end FileActivity
