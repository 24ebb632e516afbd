/-
# Kinds of telemetry

What a trace session may be asked to watch, and sets of such kinds.
-/

namespace FileActivity

/-- A kind of signal that a trace session may report. -/
inductive TraceKind where
  | process
  | registry
  | network
  deriving DecidableEq, Repr, Inhabited

namespace TraceKind

/-- All kinds, in the order of their bits. -/
def all : List TraceKind := [process, registry, network]

/-- The name of a kind in the settings. -/
def name : TraceKind → String
  | process => "process"
  | registry => "registry"
  | network => "network"

/-- The name of a kind in a set. -/
def flagName : TraceKind → String
  | process => "PROCESS"
  | registry => "REGISTRY"
  | network => "NETWORK"

/-- The bit of a kind in a set. -/
def bit : TraceKind → Nat
  | process => 1
  | registry => 2
  | network => 4

/-- The kind with a name. -/
def ofName? (s : String) : Option TraceKind := all.find? fun k => k.name == s

@[simp] theorem ofName?_name (k : TraceKind) : ofName? k.name = some k := by cases k <;> decide

end TraceKind

/-- A set of kinds of telemetry. -/
structure TraceFilter where
  process : Bool := false
  registry : Bool := false
  network : Bool := false
  deriving DecidableEq, Repr, Inhabited

namespace TraceFilter

/-- The empty set. -/
def empty : TraceFilter := {}

/-- The set of the listed kinds. -/
def ofList (kinds : List TraceKind) : TraceFilter :=
  ⟨kinds.contains .process, kinds.contains .registry, kinds.contains .network⟩

/-- Whether a kind is in a set. -/
def contains (f : TraceFilter) : TraceKind → Bool
  | .process => f.process
  | .registry => f.registry
  | .network => f.network

/-- The kinds of a set, in the order of their bits. -/
def kinds (f : TraceFilter) : List TraceKind := TraceKind.all.filter f.contains

/-- The number of a set: the sum of the bits of its kinds. -/
def bits (f : TraceFilter) : Nat := (f.kinds.map TraceKind.bit).foldl (· + ·) 0

end TraceFilter

end FileActivity
