/-
# TOML values

What a TOML document says, once its layout is gone: tables keep their keys in the order of the
document, a date or time is kept as it was written, and an array knows whether it was written in
brackets or as tables with headers.
-/

namespace FileActivity.Toml

/-- How an array is written. -/
inductive ArrayForm where
  /-- In brackets, with any items. -/
  | bracketed
  /-- As tables, each with a header of its own. -/
  | headed
  deriving DecidableEq, Repr, Inhabited

/-- A value. -/
inductive Value where
  | string (text : String)
  | integer (n : Int)
  | float (x : Float)
  | boolean (b : Bool)
  | datetime (text : String)
  | array (form : ArrayForm) (items : List Value)
  | table (entries : List (String × Value))
  deriving Repr, Inhabited

/-- The keys of a table with their values. -/
abbrev Entries := List (String × Value)

/-- The value of a key. -/
def Entries.get? (entries : Entries) (key : String) : Option Value := List.lookup key entries

namespace Value

/-- The least integer that a document can hold. -/
def minInteger : Int := -0x8000000000000000

/-- The greatest integer that a document can hold. -/
def maxInteger : Int := 0x7fffffffffffffff

/-- The word for the kind of a value. -/
def kindName : Value → String
  | string _ => "string"
  | integer _ => "integer"
  | float _ => "float"
  | boolean _ => "boolean"
  | datetime _ => "datetime"
  | array .bracketed _ => "array"
  | array .headed _ => "array of tables"
  | table _ => "table"

end Value

end FileActivity.Toml
