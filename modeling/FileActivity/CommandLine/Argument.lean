/-
# The shape of an argument

An argument that begins with two hyphens names an option by its word, one that begins with one
hyphen names options by their letters, and two hyphens alone end the options.  A single hyphen
is a word like any other.
-/

namespace FileActivity.CommandLine

/-- What an argument looks like. -/
inductive Shape where
  /-- Two hyphens: everything behind them is a word. -/
  | divider
  /-- The word of an option, and what stands behind an equals sign. -/
  | long (word : List Char) (value : Option (List Char))
  /-- The letters of options, the last of which may be followed by its value. -/
  | letters (cs : List Char)
  /-- Anything else. -/
  | word
  deriving DecidableEq, Repr

/-- Cuts at the first equals sign; `part` holds what came before, the last character first. -/
def cutAtEquals (part : List Char) : List Char → List Char × Option (List Char)
  | [] => (part.reverse, none)
  | c :: cs => if c = '=' then (part.reverse, some cs) else cutAtEquals (c :: part) cs

/-- The shape of an argument. -/
def Shape.of : List Char → Shape
  | ['-'] => word
  | ['-', '-'] => divider
  | '-' :: '-' :: cs => long (cutAtEquals [] cs).1 (cutAtEquals [] cs).2
  | '-' :: cs => letters cs
  | _ => word

/-- The value that follows a letter in the same argument, if there is one; an equals sign before
it is not part of it. -/
def attachedValue : List Char → Option (List Char)
  | [] => none
  | '=' :: cs => some cs
  | cs => some cs

end FileActivity.CommandLine
