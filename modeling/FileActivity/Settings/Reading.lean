/-
# Reading settings

Settings are read from the entries of a document one after another, each into its own field;
keys that mean nothing are passed over, and a field without a key keeps its default.  A section
may also be given as an array that lists its fields in order.
-/
import FileActivity.Settings.Basic
import FileActivity.Settings.Fault
import FileActivity.Toml.Place

namespace FileActivity

open Toml (Value Entries)

/-! ## Values -/

/-- Fails at this place. -/
def misfit {α : Type} (fault : Fault) : Except Misfit α := .error ⟨[], fault⟩

/-- Reads a natural number up to a bound. -/
def readNat (expected : Expected) (bound : Nat) : Value → Except Misfit Nat
  | .integer n => if 0 ≤ n ∧ n ≤ bound then .ok n.toNat else misfit (.outOfRange n expected)
  | v => misfit (.wrongType v expected)

/-- The greatest number of things. -/
def maxCount : Nat := UInt64.size - 1

/-- Reads a number of things. -/
def readCount : Value → Except Misfit Nat := readNat .count maxCount

/-- Reads a time in a unit. -/
def readTime (unit : Nat → Duration) (v : Value) : Except Misfit Duration :=
  (readNat .time maxCount v).map unit

/-- Reads a user number. -/
def readUid (v : Value) : Except Misfit UserId :=
  (readNat .uid (UInt32.size - 1) v).map Nat.toUInt32

/-- Reads a truth value. -/
def readFlag : Value → Except Misfit Bool
  | .boolean b => .ok b
  | v => misfit (.wrongType v .flag)

/-- Reads a path. -/
def readPath : Value → Except Misfit Path
  | .string s => .ok (.ofString s)
  | v => misfit (.wrongType v .path)

/-- Reads the items of a list, the first of which has a given position. -/
def readItems {α : Type} (item : Value → Except Misfit α) :
    Nat → List Value → Except Misfit (List α)
  | _, [] => .ok []
  | i, v :: vs => do
    let a ← (item v).mapError (.within (toString i))
    return a :: (← readItems item (i + 1) vs)

/-- Reads a list. -/
def readList {α : Type} (item : Value → Except Misfit α) : Value → Except Misfit (List α)
  | .array _ items => readItems item 0 items
  | v => misfit (.wrongType v .list)

/-! ## Fields -/

/-- A field of a structure: its key, and how its value is read into the structure. -/
structure Field (σ : Type) where
  key : String
  read : σ → Value → Except Misfit σ

/-- Reads one entry: the field with its key takes the value. -/
def readEntry {σ : Type} (fields : List (Field σ)) (s : σ) (entry : String × Value) :
    Except Misfit σ :=
  match fields.find? fun f => f.key == entry.1 with
  | some f => (f.read s entry.2).mapError (.within entry.1)
  | none => .ok s

/-- Reads entries in turn. -/
def readEntries {σ : Type} (fields : List (Field σ)) (start : σ) (entries : Entries) :
    Except Misfit σ :=
  entries.foldlM (readEntry fields) start

/-- Reads the values of fields that are listed in order, the first of which has a given
position; what is missing keeps its default, and what is left over is passed over. -/
def readListed {σ : Type} : Nat → List (Field σ) → σ → List Value → Except Misfit σ
  | i, f :: fields, s, v :: vs => do
    readListed (i + 1) fields (← (f.read s v).mapError (.within (toString i))) vs
  | _, _, s, _ => .ok s

/-- How a document is read, in the two points in which ways of reading differ. -/
structure Manner where
  /-- The order in which the entries of a table are read. -/
  order : Entries → Entries
  /-- How a kind of telemetry is read. -/
  kind : Value → Except Misfit TraceKind

/-- Reads a section. -/
def readGroup {σ : Type} (m : Manner) (name : String) (fields : List (Field σ)) (start : σ) :
    Value → Except Misfit σ
  | .table entries => readEntries fields start (m.order entries)
  | .datetime _ => .ok start
  | .array _ items => readListed 0 fields start items
  | v => misfit (.wrongType v (.group name))

/-! ## Sections -/

/-- The fields of the channel section. -/
def channelFields : List (Field ChannelSettings) :=
  [⟨"socket_path", fun s v => do return { s with socketPath := ← readPath v }⟩,
   ⟨"send_timeout", fun s v => do return { s with sendTimeout := ← readTime .ofMillis v }⟩,
   ⟨"queue_capacity", fun s v => do return { s with queueCapacity := ← readCount v }⟩,
   ⟨"allowed_uids", fun s v => do return { s with allowedUids := ← readList readUid v }⟩]

/-- The fields of the section about the preview. -/
def previewFields : List (Field PreviewSettings) :=
  [⟨"preview_budget", fun s v => do return { s with budget := ← readCount v }⟩]

/-- The fields of the quarantine section. -/
def quarantineFields : List (Field QuarantineSettings) :=
  [⟨"enabled", fun s v => do return { s with enabled := ← readFlag v }⟩]

/-- The fields of the telemetry section. -/
def telemetryFields (m : Manner) : List (Field TelemetrySettings) :=
  [⟨"enabled", fun s v => do return { s with enabled := ← readFlag v }⟩,
   ⟨"poll_interval", fun s v => do return { s with pollInterval := ← readTime .ofSeconds v }⟩,
   ⟨"filter", fun s v => do return { s with filter := ← readList m.kind v }⟩]

/-- The sections. -/
def sectionFields (m : Manner) : List (Field Settings) :=
  [⟨"channel", fun s v => do
      return { s with channel := ← readGroup m "Channel" channelFields {} v }⟩,
   ⟨"entropy", fun s v => do
      return { s with preview := ← readGroup m "Entropy" previewFields {} v }⟩,
   ⟨"quarantine", fun s v => do
      return { s with quarantine := ← readGroup m "Quarantine" quarantineFields {} v }⟩,
   ⟨"telemetry", fun s v => do
      return { s with telemetry := ← readGroup m "Telemetry" (telemetryFields m) {} v }⟩]

/-- Reads the settings that a document's entries give. -/
def readSettings (m : Manner) (entries : Entries) : Except Misfit Settings := do
  return (← readEntries (sectionFields m) {} (m.order entries)).normalized

/-! ## A text on its own -/

/-- The kind of telemetry with a name. -/
def namedKind (s : String) : Except Misfit TraceKind :=
  match TraceKind.ofName? s with
  | some k => .ok k
  | none => misfit (.unknownKind s)

/-- What may stand under the name of a kind of telemetry: nothing but an empty table or array. -/
def readNothing : Value → Except Misfit Unit
  | .table [] => .ok ()
  | .array _ [] => .ok ()
  | .table _ => misfit .notEmpty
  | .array .bracketed _ => misfit .notEmpty
  | .array .headed _ => misfit .headedTables
  | v => misfit (.notATable v)

/-- Reads a kind of telemetry in a text on its own: a name, or a table with the name as its one
key. -/
def kindInText : Value → Except Misfit TraceKind
  | .string s => namedKind s
  | .table [] => misfit .noKey
  | .table [(key, v)] => do
    let kind ← namedKind key
    (readNothing v).mapError (.within key)
    return kind
  | .table _ => misfit .severalKeys
  | _ => misfit .notAKind

/-- A text on its own is read in the order in which it is written. -/
def Manner.text : Manner := ⟨id, kindInText⟩

/-- Why a text gives no settings. -/
inductive SettingsError where
  /-- The text is no TOML document. -/
  | notToml
  /-- The bytes of a file are no text. -/
  | notUtf8
  /-- A value of a file has a label; the excerpt shows it. -/
  | mislabelled (place : Option Toml.Excerpt) (fault : Fault)
  /-- A value does not fit its place. -/
  | misfit (m : Misfit)
  deriving Repr

/-- The settings that a text gives. -/
def Settings.ofText (text : String) : Except SettingsError Settings :=
  match Toml.parse text with
  | none => .error .notToml
  | some entries => (readSettings .text entries).mapError .misfit

end FileActivity
