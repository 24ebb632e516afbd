/-
# Sheets

The documents that are written: named sections of keys, each with a plain value or a list of
plain values.  A list with two or more items takes a line for each.  A string is written the way
that needs the fewest escapes.
-/
import FileActivity.Toml.Value

namespace FileActivity.Toml

/-- A value without parts. -/
inductive Plain where
  | string (text : String)
  | integer (n : Int)
  | boolean (b : Bool)
  deriving DecidableEq, Repr, Inhabited

/-- What stands under a key of a sheet. -/
inductive Item where
  | plain (p : Plain)
  | list (ps : List Plain)
  deriving DecidableEq, Repr, Inhabited

/-- Named sections of keys. -/
abbrev Sheet := List (String × List (String × Item))

/-! ## What a sheet says -/

/-- The value of a plain value. -/
def Plain.toValue : Plain → Value
  | string s => .string s
  | integer n => .integer n
  | boolean b => .boolean b

/-- The value of an item. -/
def Item.toValue : Item → Value
  | plain p => p.toValue
  | list ps => .array .bracketed (ps.map Plain.toValue)

/-- The entries of the document that a sheet is written as. -/
def Sheet.toEntries (sheet : Sheet) : Entries :=
  sheet.map fun (name, items) => (name, .table (items.map fun (key, item) => (key, item.toValue)))

/-! ## Strings -/

/-- The ways to write a string. -/
inductive StringStyle where
  | basic
  | literal
  | multilineBasic
  | multilineLiteral
  deriving DecidableEq, Repr

namespace StringStyle

/-- The length of the longest run of a character, where `run` of it came just before. -/
def longestRun (mark : Char) : Nat → List Char → Nat
  | run, [] => run
  | run, c :: cs =>
    if c = mark then longestRun mark (run + 1) cs else max run (longestRun mark 0 cs)

/-- Characters that only an escape can write. -/
def needsCode (c : Char) : Bool := (c.toNat < 0x20 && c != '\t' && c != '\n') || c.toNat == 0x7f

/-- The style in which a text is written. -/
def choose (cs : List Char) : StringStyle :=
  let codes := cs.any needsCode
  let backslash := cs.contains '\\'
  let newline := cs.contains '\n'
  let quotes := longestRun '"' 0 cs
  let apostrophes := longestRun '\x27' 0 cs
  if !codes && !backslash && quotes == 0 && !newline then basic
  else if !codes && apostrophes == 0 && !newline then literal
  else if !codes && !backslash && quotes ≤ 2 then multilineBasic
  else if !codes && apostrophes ≤ 2 then multilineLiteral
  else if newline then multilineBasic
  else basic

/-- What opens and closes a string. -/
def delimiter : StringStyle → List Char
  | basic => ['"']
  | literal => ['\x27']
  | multilineBasic => ['"', '"', '"']
  | multilineLiteral => ['\x27', '\x27', '\x27']

/-- Whether a style lets a string run over several lines. -/
def isMultiline : StringStyle → Bool
  | multilineBasic | multilineLiteral => true
  | _ => false

end StringStyle

/-- Four hexadecimal digits. -/
def fourDigits (n : Nat) : List Char :=
  let ds := (Nat.toDigits 16 n).map Char.toUpper
  List.replicate (4 - ds.length) '0' ++ ds

/-- Writes the inside of a string with escapes.  Of the quotes in a row, `run` of which came
just before, up to `quotes` stand for themselves, and the next one is escaped. -/
def escapeText (newlines : Bool) (quotes : Nat) : (run : Nat) → List Char → List Char
  | _, [] => []
  | run, c :: cs =>
    if c = '"' then
      if run < quotes then c :: escapeText newlines quotes (run + 1) cs
      else '\\' :: '"' :: escapeText newlines quotes 0 cs
    else
      let written : List Char :=
        if c = '\x08' then ['\\', 'b']
        else if c = '\t' then ['\\', 't']
        else if c = '\n' then (if newlines then ['\n'] else ['\\', 'n'])
        else if c = '\x0c' then ['\\', 'f']
        else if c = '\r' then ['\\', 'r']
        else if c = '\\' then ['\\', '\\']
        else if c.toNat < 0x20 ∨ c.toNat = 0x7f then '\\' :: 'u' :: fourDigits c.toNat
        else [c]
      written ++ escapeText newlines quotes 0 cs

/-- Writes the inside of a string. -/
def StringStyle.body : StringStyle → List Char → List Char
  | .basic, cs => escapeText false 0 0 cs
  | .multilineBasic, cs => escapeText true 2 0 cs
  | .literal, cs => cs
  | .multilineLiteral, cs => cs

/-- Writes a string; one that runs over several lines begins on a line of its own. -/
def renderText (cs : List Char) : List Char :=
  let style := StringStyle.choose cs
  let opening := if style.isMultiline && cs.contains '\n' then ['\n'] else []
  style.delimiter ++ opening ++ style.body cs ++ style.delimiter

/-! ## Sheets -/

/-- Writes a plain value. -/
def Plain.render : Plain → List Char
  | string s => renderText s.toList
  | integer n => (toString n).toList
  | boolean b => (if b then "true" else "false").toList

/-- Writes an item. -/
def Item.render : Item → List Char
  | plain p => p.render
  | list [] => ['[', ']']
  | list [p] => '[' :: p.render ++ [']']
  | list ps =>
    '[' :: '\n' :: ps.flatMap (fun p => "    ".toList ++ p.render ++ [',', '\n']) ++ [']']

/-- Writes one section. -/
def renderSection (name : String) (items : List (String × Item)) : List Char :=
  '[' :: name.toList ++ [']', '\n']
    ++ items.flatMap fun (key, item) => key.toList ++ " = ".toList ++ item.render ++ ['\n']

/-- Writes a sheet, an empty line between two sections. -/
def Sheet.render (sheet : Sheet) : String :=
  String.ofList (List.intercalate ['\n'] (sheet.map fun (name, items) => renderSection name items))

end FileActivity.Toml
