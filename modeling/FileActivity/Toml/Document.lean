/-
# TOML documents

A document is a list of lines: values under keys, and headers that say which table the keys below
belong to.  `parse` accepts a text exactly if it is a valid document.
-/
import FileActivity.Toml.Number
import FileActivity.Toml.Tables

namespace FileActivity.Toml

/-- The number of arrays and inline tables that may stand inside one another. -/
def maxNesting : Nat := 79

/-! ## Keys -/

/-- Characters of a key without quotes. -/
def isBareKeyChar (c : Char) : Bool := c.isAlphanum || c == '-' || c == '_'

/-- Reads one part of a key. -/
def simpleKey : Reader String
  | [] => none
  | c :: cs =>
    if c = '"' ∨ c = '\x27' then quotedText (c :: cs)
    else
      let bare := (c :: cs).takeWhile isBareKeyChar
      if bare.isEmpty then none else some (String.ofList bare, (c :: cs).dropWhile isBareKeyChar)

/-- Reads the parts of a dotted key, with the blanks around them; `parts` were read before. -/
def keyParts : Nat → List String → Reader (List String)
  | 0, _, _ => none
  | fuel + 1, parts, cs => do
    let (part, rest) ← simpleKey (skipBlanks cs)
    match skipBlanks rest with
    | '.' :: rest => keyParts fuel (part :: parts) rest
    | rest => return ((part :: parts).reverse, rest)

/-- A key: the path before its last part, and that part. -/
structure Key where
  path : List String
  last : String

/-- Reads a key. -/
def key : Reader Key := fun cs => do
  let (parts, rest) ← keyParts maxNesting [] cs
  return (⟨parts.dropLast, parts.getLastD ""⟩, rest)

/-! ## Arrays and inline tables -/

/-- Reads the elements of an array and its closing bracket. -/
def elements (element : Reader Value) : Nat → List Value → Reader (List Value)
  | 0, _, _ => none
  | fuel + 1, read, cs => do
    match ← skipSpace cs with
    | ']' :: rest => return (read.reverse, rest)
    | rest =>
      let (v, rest) ← element rest
      match ← skipSpace rest with
      | ',' :: rest => elements element fuel (v :: read) rest
      | ']' :: rest => return ((v :: read).reverse, rest)
      | _ => none

/-- Reads a key, the equals sign and the value, with the blanks around them. -/
def assignment (element : Reader Value) : Reader (Key × Value) := fun cs => do
  let (k, rest) ← key cs
  let rest ← expect '=' rest
  let (v, rest) ← element (skipBlanks rest)
  return ((k, v), rest)

/-- Reads the assignments of an inline table and its closing brace; there is at least one. -/
def assignments (element : Reader Value) : Nat → Nodes → Reader Nodes
  | 0, _, _ => none
  | fuel + 1, nodes, cs => do
    let ((k, v), rest) ← assignment element cs
    let nodes ← nodes.addValue k.path k.last v
    match skipBlanks rest with
    | ',' :: rest => assignments element fuel nodes rest
    | '}' :: rest => return (nodes, rest)
    | _ => none

/-- Reads a value in which at most `depth` arrays and inline tables stand inside one another. -/
def value : Nat → Reader Value
  | 0, cs => scalar cs
  | depth + 1, cs =>
    match cs with
    | '[' :: rest => do
      let (items, rest) ← elements (value depth) (rest.length + 1) [] rest
      return (.array .bracketed items, rest)
    | '{' :: rest =>
      match skipBlanks rest with
      | '}' :: rest => some (.table [], rest)
      | rest => do
        let (nodes, rest) ← assignments (value depth) (rest.length + 1) [] rest
        return (.table (Nodes.toEntries nodes), rest)
    | _ => scalar cs

/-! ## Lines -/

/-- A document in the making: the tables that are finished, and the one that lines are added to,
which the document itself is until the first header. -/
structure Draft where
  root : Nodes
  /-- The header of the open table. -/
  header : Option Key
  /-- Whether that header adds a table to an array. -/
  inArray : Bool
  /-- The open table. -/
  current : Nodes

namespace Draft

/-- Before the first line. -/
def empty : Draft := ⟨[], none, false, []⟩

/-- Puts the open table into its place. -/
def close (d : Draft) : Option Nodes :=
  match d.header with
  | none => some d.current
  | some k =>
    Nodes.descend false (fun _ nodes =>
      if d.inArray then
        match nodes.get? k.last with
        | some (.tables items) => some (nodes.put k.last (.tables (items ++ [d.current])))
        | _ => none
      else if (nodes.get? k.last).isSome then none
      else some (nodes.put k.last (.table .header d.current))) k.path .header d.root

/-- Opens the table of a header.  It may exist already only if longer headers implied it. -/
def openTable (d : Draft) (k : Key) : Option Draft := do
  let root ← d.close
  let root ← Nodes.descend false (fun _ nodes => some nodes) k.path .header root
  let found := (at? k.path root).bind (·.get? k.last)
  match found with
  | none => return ⟨root, some k, false, []⟩
  | some (.table .implied nodes) =>
    let root ← Nodes.descend false (fun _ inner => some (inner.erase k.last)) k.path .header root
    return ⟨root, some k, false, nodes⟩
  | some _ => none
where
  /-- The table at the end of a path. -/
  at? : List String → Nodes → Option Nodes
    | [], nodes => some nodes
    | key :: path, nodes =>
      match nodes.get? key with
      | some (.table _ inner) => at? path inner
      | some (.tables items) => at? path (items.getLastD [])
      | _ => none

/-- Opens a new table of an array of tables. -/
def openElement (d : Draft) (k : Key) : Option Draft := do
  let root ← d.close
  let root ← Nodes.descend false (fun _ nodes =>
    match nodes.get? k.last with
    | none => some (nodes.put k.last (.tables []))
    | some (.tables _) => some nodes
    | some _ => none) k.path .header root
  return ⟨root, some k, true, []⟩

/-- Adds a value to the open table. -/
def addValue (d : Draft) (k : Key) (v : Value) : Option Draft := do
  return { d with current := ← d.current.addValue k.path k.last v }

/-- The entries of the whole document. -/
def finish (d : Draft) : Option Entries := (d.close).map Nodes.toEntries

end Draft

/-- Reads one line that holds a header or an assignment. -/
def line (d : Draft) : Reader Draft
  | '[' :: '[' :: cs => do
    let (k, rest) ← key cs
    let rest ← restOfLine (← expect ']' (← expect ']' rest))
    return (← d.openElement k, rest)
  | '[' :: cs => do
    let (k, rest) ← key cs
    let rest ← restOfLine (← expect ']' rest)
    return (← d.openTable k, rest)
  | cs => do
    let ((k, v), rest) ← assignment (value maxNesting) cs
    let rest ← restOfLine rest
    return (← d.addValue k v, rest)

/-- Reads all lines. -/
def lines : Nat → Draft → List Char → Option Draft
  | 0, _, _ => none
  | fuel + 1, d, cs =>
    match skipBlanks cs with
    | [] => some d
    | c :: cs =>
      if c = '#' ∨ c = '\n' ∨ c = '\r' then do lines fuel d (← restOfLine (c :: cs))
      else do
        let (d, rest) ← line d (c :: cs)
        lines fuel d rest

/-- Drops a byte order mark. -/
def skipMark : List Char → List Char
  | '\uFEFF' :: cs => cs
  | cs => cs

/-- The entries of a document, if the text is one. -/
def parse (text : String) : Option Entries := do
  let cs := skipMark text.toList
  (← lines (cs.length + 1) .empty cs).finish

end FileActivity.Toml
