/-
# Places in a document

Where in the text of a document the value under a path stands, a path being the keys and, in
arrays, the positions that lead to it.  A value that was written out has a stretch of the text
to itself; a table with a header reaches from the header to the last of the values below it; a
table that is only implied by longer keys has no stretch, and the part of the key that names it
first takes its place.
-/
import FileActivity.Toml.Document

namespace FileActivity.Toml

/-- A stretch of a text, as what is left of the text at its two ends. -/
structure Stretch where
  start : List Char
  stop : List Char

/-! ## Keys -/

/-- All parts of a key. -/
def Key.parts (k : Key) : List String := k.path ++ [k.last]

/-- The paths of what the parts of a key name, beginning at a table; `enter` tells which table
is meant by the path of something that has tables in it. -/
def namedBy (enter : List String → List String) : (table : List String) → (parts : List String) →
    List (List String)
  | _, [] => []
  | table, part :: parts => (table ++ [part]) :: namedBy enter (enter (table ++ [part])) parts

/-- The stretch of one part of the key that begins here, the first part being number zero. -/
def keyPart : Nat → List Char → Option Stretch
  | 0, cs => do
    let (_, rest) ← simpleKey (skipBlanks cs)
    return ⟨skipBlanks cs, rest⟩
  | n + 1, cs => do
    let (_, rest) ← simpleKey (skipBlanks cs)
    keyPart n (← expect '.' (skipBlanks rest))

/-- A key with its value: where both begin, where the value ends, and the path of what each part
of the key names. -/
structure Written where
  key : List Char
  value : Stretch
  names : List (List String)

/-- The stretch of what a path leads to, if it is named by a part of the key or lies inside the
value. -/
def Written.find? (w : Written) (inside : List String → List Char → Option Stretch)
    (path : List String) : Option Stretch :=
  let named := w.names.getLastD []
  if named = path then some w.value
  else match w.names.findIdx? (· == path) with
    | some part => keyPart part w.key
    | none =>
      if named.isPrefixOf path then inside (path.drop named.length) w.value.start else none

/-! ## Inside values -/

/-- Where an item of the array begins whose items are to come. -/
def itemStart : Nat → List Char → Option (List Char)
  | 0, cs => skipSpace cs
  | n + 1, cs => do
    let (_, rest) ← value maxNesting (← skipSpace cs)
    itemStart n (← expect ',' (← skipSpace rest))

/-- Reads a key and its value, the key naming something in a table of its own. -/
def writtenPair (cs : List Char) (names : Key → List (List String)) : Option Written := do
  let (k, rest) ← key cs
  let start := skipBlanks (← expect '=' rest)
  let (_, stop) ← value maxNesting start
  return ⟨cs, ⟨start, stop⟩, names k⟩

/-- The stretch of what a path leads to from the inline table whose pairs are to come. -/
def placeInPairs (inside : List String → List Char → Option Stretch) (path : List String) :
    Nat → List Char → Option Stretch
  | 0, _ => none
  | fuel + 1, cs => do
    let w ← writtenPair cs fun k => namedBy id [] k.parts
    match w.find? inside path with
    | some stretch => return stretch
    | none => placeInPairs inside path fuel (← expect ',' (skipBlanks w.value.stop))

/-- The stretch of what a path leads to from the value that begins here. -/
def placeInValue : Nat → List String → List Char → Option Stretch
  | 0, _, _ => none
  | depth + 1, path, cs =>
    match cs, path with
    | '[' :: rest, item :: path => do placeInValue depth path (← itemStart (← item.toNat?) rest)
    | '{' :: rest, path => placeInPairs (placeInValue depth) path (rest.length + 1) rest
    | _, _ => none

/-! ## In the document -/

/-- A search for what a path leads to, after some of the lines. -/
structure Search where
  path : List String
  /-- The path of the open table. -/
  table : List String := []
  /-- The number of tables that each array of tables has so far, the latest first. -/
  counts : List (List String × Nat) := []
  /-- Whether the open table is the one that is searched for, or one of its tables. -/
  atPath : Bool := false
  /-- What headers gave. -/
  headed : Option Stretch := none
  /-- What the keys of lines and of longer headers gave first. -/
  other : Option Stretch := none

namespace Search

/-- The table that is meant by a path: of an array of tables, the last one. -/
def enter (s : Search) (path : List String) : List String :=
  match s.counts.lookup path with
  | some n => path ++ [toString (n - 1)]
  | none => path

/-- Goes on below a header; `whole` is its stretch, with its brackets. -/
def atHeader (s : Search) (inArray : Bool) (k : Key) (start : List Char) (whole : Stretch) :
    Search :=
  let names := namedBy s.enter [] k.parts
  let path := names.getLastD []
  let atPath := path = s.path
  let count := (s.counts.lookup path).getD 0
  { s with
    table := if inArray then path ++ [toString count] else path
    counts := if inArray then (path, count + 1) :: s.counts else s.counts
    atPath := atPath
    headed := if atPath then some { (s.headed.getD whole) with stop := whole.stop } else s.headed
    other := s.other <|> (names.findIdx? (· == s.path)).bind fun part => keyPart part start }

/-- Goes on after a key with its value. -/
def atPair (s : Search) (w : Written) : Search :=
  { s with
    headed := if s.atPath then s.headed.map fun h => { h with stop := w.value.stop } else s.headed
    other := s.other <|> w.find? (placeInValue (maxNesting + 1)) s.path }

/-- Goes on after one line that holds a header or a key with its value. -/
def atLine (s : Search) (cs : List Char) : Option (Search × List Char) :=
  match cs with
  | '[' :: '[' :: inner => do
    let (k, rest) ← key inner
    let rest ← expect ']' (← expect ']' rest)
    return (s.atHeader true k inner ⟨cs, rest⟩, ← restOfLine rest)
  | '[' :: inner => do
    let (k, rest) ← key inner
    let rest ← expect ']' rest
    return (s.atHeader false k inner ⟨cs, rest⟩, ← restOfLine rest)
  | cs => do
    let w ← writtenPair cs fun k => namedBy s.enter s.table k.parts
    return (s.atPair w, ← restOfLine w.value.stop)

/-- Goes on to the end of the document. -/
def toEnd (s : Search) : Nat → List Char → Search
  | 0, _ => s
  | fuel + 1, cs =>
    match skipBlanks cs with
    | [] => s
    | c :: cs =>
      if c = '#' ∨ c = '\n' ∨ c = '\r' then ((restOfLine (c :: cs)).map (s.toEnd fuel)).getD s
      else ((s.atLine (c :: cs)).map fun (s, rest) => s.toEnd fuel rest).getD s

/-- What was found: a header tells more than a key that implies the same table. -/
def found (s : Search) : Option Stretch := s.headed <|> s.other

end Search

/-- The stretch of a valid document that belongs to the value under a path. -/
def place? (text : List Char) (path : List String) : Option Stretch :=
  (Search.toEnd { path } (text.length + 1) (skipMark text)).found

/-! ## Excerpts -/

/-- The line in which a stretch of a text begins, to be shown with the stretch marked. -/
structure Excerpt where
  /-- The number of the line; the first line is zero. -/
  line : Nat
  /-- The number of characters before the stretch. -/
  column : Nat
  content : String
  /-- The number of marks: one for each byte of the stretch as far as the line goes, but at
  least one. -/
  width : Nat
  deriving DecidableEq, Repr

namespace Excerpt

/-- The excerpt of a stretch. -/
def ofStretch (text : List Char) (s : Stretch) : Excerpt :=
  let before := text.take (text.length - s.start.length)
  let front := (before.reverse.takeWhile (· != '\n')).reverse
  let content := String.ofList (front ++ s.start.takeWhile (· != '\n'))
  let size := (String.ofList (s.start.take (s.start.length - s.stop.length))).utf8ByteSize
  { line := before.count '\n'
    column := front.length
    content
    width := max 1 (min size (content.utf8ByteSize - front.length)) }

/-- A number of equal characters. -/
def run (n : Nat) (c : Char) : String := String.ofList (List.replicate n c)

/-- An excerpt as it is told, with what is wrong there below it. -/
def message (e : Excerpt) (fault : String) : String :=
  let number := toString (e.line + 1)
  let gutter := run (number.length + 1) ' ' ++ "|"
  "TOML parse error at line " ++ number ++ ", column " ++ toString (e.column + 1) ++ "\n"
    ++ gutter ++ "\n"
    ++ number ++ " | " ++ e.content ++ "\n"
    ++ gutter ++ run (e.column + 1) ' ' ++ run e.width '^' ++ "\n"
    ++ fault ++ "\n"

end Excerpt

end FileActivity.Toml
