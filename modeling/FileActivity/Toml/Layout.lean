/-
# The layout of a TOML document

What stands between the tokens: blanks, comments and line ends.  A reader takes the characters
to come and gives what it read with the characters that are left, or nothing.
-/

namespace FileActivity.Toml

/-- Reads something from the front of a text. -/
abbrev Reader (α : Type) := List Char → Option (α × List Char)

/-- Skips something at the front of a text. -/
abbrev Skipper := List Char → Option (List Char)

/-! ## Classes of characters -/

/-- Space and tab. -/
def isBlank (c : Char) : Bool := c == ' ' || c == '\t'

/-- Characters that may stand in a comment: everything but controls, and the tab. -/
def isCommentChar (c : Char) : Bool := c == '\t' || (0x20 ≤ c.toNat && c.toNat != 0x7f)

/-! ## Skipping -/

/-- Drops blanks. -/
def skipBlanks (cs : List Char) : List Char := cs.dropWhile isBlank

/-- Takes a given character. -/
def expect (c : Char) : Skipper
  | d :: rest => if d = c then some rest else none
  | [] => none

/-- Takes the end of a line: a line feed, with or without a carriage return before it. -/
def lineEnd : Skipper
  | '\n' :: rest => some rest
  | '\r' :: '\n' :: rest => some rest
  | _ => none

/-- Drops a comment up to the end of its line, if one begins here. -/
def skipComment : List Char → List Char
  | '#' :: rest => rest.dropWhile isCommentChar
  | cs => cs

/-- Takes what may follow an expression on its line: blanks, a comment, and the end of the line
or of the document. -/
def restOfLine (cs : List Char) : Option (List Char) :=
  match skipComment (skipBlanks cs) with
  | [] => some []
  | rest => lineEnd rest

/-- Drops blanks, line ends and comments; the flag tells whether a comment is open, which ends with
its line. -/
def skipLines : Bool → Skipper
  | _, [] => some []
  | _, '\n' :: rest => skipLines false rest
  | _, '\r' :: rest =>
    match rest with
    | '\n' :: _ => skipLines false rest
    | _ => none
  | true, c :: rest => if isCommentChar c then skipLines true rest else none
  | false, c :: rest =>
    if isBlank c then skipLines false rest
    else if c = '#' then skipLines true rest
    else some (c :: rest)

/-- Drops all blanks, line ends and comments at the front of a text. -/
def skipSpace : Skipper := skipLines false

end FileActivity.Toml
