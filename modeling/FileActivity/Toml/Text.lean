/-
# Strings in TOML

The four ways to write a string: with escapes between quotes, literally between apostrophes, and
either of them over several lines between three of its marks.
-/
import FileActivity.Toml.Layout

namespace FileActivity.Toml

/-! ## Classes of characters -/

/-- Characters that stand for themselves between quotes. -/
def isPlain (c : Char) : Bool := isCommentChar c && c != '"' && c != '\\'

/-- Characters that stand for themselves between apostrophes. -/
def isLiteral (c : Char) : Bool := isCommentChar c && c != '\x27'

/-! ## Escapes -/

/-- The value of a hexadecimal digit. -/
def hexDigit? (c : Char) : Option Nat :=
  if '0' ≤ c ∧ c ≤ '9' then some (c.toNat - '0'.toNat)
  else if 'a' ≤ c ∧ c ≤ 'f' then some (c.toNat - 'a'.toNat + 10)
  else if 'A' ≤ c ∧ c ≤ 'F' then some (c.toNat - 'A'.toNat + 10)
  else none

/-- Reads exactly `count` hexadecimal digits. -/
def hexNumber : Nat → Nat → Reader Nat
  | 0, value, cs => some (value, cs)
  | count + 1, value, c :: cs => do hexNumber count (value * 16 + (← hexDigit? c)) cs
  | _ + 1, _, [] => none

/-- Reads the character with a given number of hexadecimal digits. -/
def codePoint (digits : Nat) : Reader Char := fun cs => do
  let (n, rest) ← hexNumber digits 0 cs
  if h : n.isValidChar then some (Char.ofNatAux n h, rest) else none

/-- Reads what follows a backslash. -/
def escaped : Reader Char
  | 'b' :: cs => some ('\x08', cs)
  | 't' :: cs => some ('\t', cs)
  | 'n' :: cs => some ('\n', cs)
  | 'f' :: cs => some ('\x0c', cs)
  | 'r' :: cs => some ('\r', cs)
  | '"' :: cs => some ('"', cs)
  | '\\' :: cs => some ('\\', cs)
  | 'u' :: cs => codePoint 4 cs
  | 'U' :: cs => codePoint 8 cs
  | _ => none

/-! ## On one line -/

/-- Reads the inside of a quoted string and its closing quote. -/
def basicBody : Nat → List Char → Reader (List Char)
  | 0, _, _ => none
  | _ + 1, _, [] => none
  | fuel + 1, read, c :: cs =>
    if c = '"' then some (read.reverse, cs)
    else if c = '\\' then do
      let (d, rest) ← escaped cs
      basicBody fuel (d :: read) rest
    else if isPlain c then basicBody fuel (c :: read) cs
    else none

/-- Reads the inside of a literal string and its closing apostrophe. -/
def literalBody (cs : List Char) : Option (List Char × List Char) := do
  let rest ← expect '\x27' (cs.dropWhile isLiteral)
  return (cs.takeWhile isLiteral, rest)

/-! ## Over several lines -/

/-- Drops a line end right behind the opening marks. -/
def skipFirstLineEnd (cs : List Char) : List Char := (lineEnd cs).getD cs

/-- The number of `mark`s at the front of a text. -/
def markRun (mark : Char) (cs : List Char) : Nat := (cs.takeWhile (· == mark)).length

/-- Drops blanks and line ends. -/
def skipFolded : List Char → List Char
  | '\r' :: '\n' :: cs => skipFolded cs
  | c :: cs => if isBlank c || c == '\n' then skipFolded cs else c :: cs
  | [] => []

/-- Reads the inside of a string over several lines, and the three marks that close it: up to
two marks in a row belong to the text, also right before the closing ones.  A backslash at the
end of a line drops the line end and all blank space behind it. -/
def multilineBody (mark : Char) (escapes : Bool) : Nat → List Char → Reader (List Char)
  | 0, _, _ => none
  | _ + 1, _, [] => none
  | fuel + 1, read, c :: cs =>
    if c = mark then
      let run := markRun mark (c :: cs)
      if run < 3 then
        multilineBody mark escapes fuel (List.replicate run mark ++ read) ((c :: cs).drop run)
      else
        let kept := min (run - 3) 2
        some ((List.replicate kept mark ++ read).reverse, (c :: cs).drop (kept + 3))
    else if c = '\n' then multilineBody mark escapes fuel ('\n' :: read) cs
    else if c = '\r' then do multilineBody mark escapes fuel ('\n' :: read) (← expect '\n' cs)
    else if c = '\\' ∧ escapes then
      match lineEnd (skipBlanks cs) with
      | some rest => multilineBody mark escapes fuel read (skipFolded rest)
      | none => do
        let (d, rest) ← escaped cs
        multilineBody mark escapes fuel (d :: read) rest
    else if isCommentChar c then multilineBody mark escapes fuel (c :: read) cs
    else none

/-! ## Strings -/

/-- Reads a string on one line, as a key may be written. -/
def quotedText : Reader String := fun cs => do
  let (text, rest) ← match cs with
    | '"' :: rest => basicBody (rest.length + 1) [] rest
    | '\x27' :: rest => literalBody rest
    | _ => none
  return (String.ofList text, rest)

/-- Reads a string. -/
def anyText : Reader String
  | '"' :: '"' :: '"' :: rest => do
    let (text, rest) ← multilineBody '"' true (rest.length + 1) [] (skipFirstLineEnd rest)
    return (String.ofList text, rest)
  | '\x27' :: '\x27' :: '\x27' :: rest => do
    let (text, rest) ← multilineBody '\x27' false (rest.length + 1) [] (skipFirstLineEnd rest)
    return (String.ofList text, rest)
  | cs => quotedText cs

end FileActivity.Toml
