/-
# Tables in the making

While a document is read, a table remembers how it came to be, for that decides who may still add to
it: a header may open a table that so far was only implied by a longer header, and a dotted key may
extend a table that dotted keys made, but neither may touch what was written out elsewhere.
-/
import FileActivity.Toml.Value

namespace FileActivity.Toml

/-- How a table came to be. -/
inductive Origin where
  /-- Opened by a header of its own. -/
  | header
  /-- Implied by the header of a table inside it. -/
  | implied
  /-- Made by dotted keys. -/
  | dotted
  deriving DecidableEq, Repr

/-- What stands under a key of a table in the making. -/
inductive Node where
  /-- A value that is complete. -/
  | value (v : Value)
  | table (origin : Origin) (entries : List (String × Node))
  /-- An array of tables, each with a header of its own. -/
  | tables (items : List (List (String × Node)))

/-- The keys of a table in the making. -/
abbrev Nodes := List (String × Node)

namespace Nodes

/-- What stands under a key. -/
def get? (nodes : Nodes) (key : String) : Option Node := List.lookup key nodes

/-- Puts a node under a key, in place if the key is there and at the end otherwise. -/
def put (nodes : Nodes) (key : String) (node : Node) : Nodes :=
  match nodes with
  | [] => [(key, node)]
  | (k, n) :: rest => if k = key then (k, node) :: rest else (k, n) :: put rest key node

/-- Takes a key out. -/
def erase (nodes : Nodes) (key : String) : Nodes := nodes.filter (·.1 != key)

/-- Follows a path of keys from a table, making the tables that are missing, and changes the
table at its end.  Of an array of tables the last one is meant.  With `byDots` the path is a
dotted key, which may not enter a table that has a header. -/
def descend (byDots : Bool) (act : Origin → Nodes → Option Nodes) :
    List String → Origin → Nodes → Option Nodes
  | [], origin, nodes => act origin nodes
  | key :: path, _, nodes =>
    match nodes.get? key with
    | none => do
      let made := if byDots then Origin.dotted else Origin.implied
      let inner ← descend byDots act path made []
      return nodes.put key (.table made inner)
    | some (.value _) => none
    | some (.table origin inner) =>
      if byDots && origin == .header then none
      else do
        let inner ← descend byDots act path origin inner
        return nodes.put key (.table origin inner)
    | some (.tables items) => do
      let last ← descend byDots act path .header (items.getLastD [])
      return nodes.put key (.tables (items.dropLast ++ [last]))

/-- Adds a value under a possibly dotted key.  The table that a dotted key ends in must have
been made by dotted keys, and the last part must be new. -/
def addValue (nodes : Nodes) (path : List String) (key : String) (v : Value) : Option Nodes :=
  descend true (fun origin inner =>
    if (origin == .dotted) == path.isEmpty then none
    else if (inner.get? key).isSome then none
    else some (inner.put key (.value v))) path .header nodes

end Nodes

mutual

/-- The value that a finished node is. -/
def Node.toValue : Node → Value
  | .value v => v
  | .table _ nodes => .table (Nodes.toEntries nodes)
  | .tables items => .array .headed (Nodes.toTables items)

/-- The entries of a finished table. -/
def Nodes.toEntries : List (String × Node) → List (String × Value)
  | [] => []
  | (key, node) :: rest => (key, node.toValue) :: Nodes.toEntries rest

/-- The values of finished tables. -/
def Nodes.toTables : List (List (String × Node)) → List Value
  | [] => []
  | nodes :: rest => .table (Nodes.toEntries nodes) :: Nodes.toTables rest

end

end FileActivity.Toml
