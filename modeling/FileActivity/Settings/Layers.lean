/-
# Settings in layers

A settings file is laid over the defaults: a table of the file is merged into the table below
it, any other value covers what is below.  A table of the file may wrap the value that it stands
for, and is replaced by it first.  The layers keep their keys in order, so what does not fit is
found in the order of the keys and not of the file.
-/
import FileActivity.Settings.Reading
import FileActivity.Settings.Writing

namespace FileActivity

open Toml (Value Entries)

/-! ## Wrapped values -/

/-- The key under which a table of a file may hold the value that it stands for. -/
def wrappedKey : String := "___figment_value_value"

/-- The key that is kept for the label of a value.  No integer of a document is a label. -/
def labelKey : String := "___figment_value_id"

/-- The value that a table of a file stands for, given its entries: a wrapped value, which hides the
entries beside it, or else the table. -/
def standsFor (entries : Entries) : Value := (entries.get? wrappedKey).getD (.table entries)

theorem standsFor_of_forall_ne {entries : Entries} (h : ∀ e ∈ entries, e.1 ≠ wrappedKey) :
    standsFor entries = .table entries := by
  have hw : entries.get? wrappedKey = none := by
    simpa [Entries.get?, List.lookup_eq_none_iff] using fun a b hab => (h (a, b) hab).symm
  rw [standsFor, hw, Option.getD_none]

mutual

/-- A value of a file without wrappings.  A label anywhere in it does not fit. -/
def unwrapValue : Value → Except Misfit Value
  | .table entries => (unwrapEntries entries).map standsFor
  | .array form items => (unwrapItems 0 items).map (.array form)
  | v => .ok v

/-- Unwraps the values of a table's entries. -/
def unwrapEntries : List (String × Value) → Except Misfit Entries
  | [] => .ok []
  | (key, v) :: rest =>
    if key = labelKey then .error ⟨[key], .wrongType v .label⟩
    else do
      let v ← (unwrapValue v).mapError (.within key)
      return (key, v) :: (← unwrapEntries rest)

/-- Unwraps the items of an array, the first of which has a given position. -/
def unwrapItems : Nat → List Value → Except Misfit (List Value)
  | _, [] => .ok []
  | i, v :: vs => do
    let v ← (unwrapValue v).mapError (.within (toString i))
    return v :: (← unwrapItems (i + 1) vs)

end

/-- Unwraps the values of a document's entries, of which none is a wrapping or a label itself. -/
def unwrapDocument (entries : Entries) : Except Misfit Entries :=
  entries.mapM fun (key, v) => do return (key, ← (unwrapValue v).mapError (.within key))

/-! ## Laying over -/

/-- Puts a value under a key, in place if the key is there and at the end otherwise. -/
def Toml.Entries.put (entries : Entries) (key : String) (v : Value) : Entries :=
  match entries with
  | [] => [(key, v)]
  | (k, w) :: rest => if k = key then (k, v) :: rest else (k, w) :: Entries.put rest key v

mutual

/-- The value that is seen when one is laid over another. -/
def layValue (under : Value) : (upper : Value) → Value
  | .table upper =>
    match under with
    | .table under => .table (layEntries under upper)
    | _ => .table (layEntries [] upper)
  | upper => upper

/-- The entries that are seen when some are laid over others. -/
def layEntries (under : Entries) : (upper : List (String × Value)) → Entries
  | [] => under
  | (key, v) :: rest =>
    layEntries (under.put key (layValue ((under.get? key).getD (.table [])) v)) rest

end

/-- Entries in the order of their keys. -/
def sortEntries (entries : Entries) : Entries := entries.mergeSort fun a b => a.1 ≤ b.1

/-! ## Reading -/

/-- The key under which a date or time appears as a table. -/
def datetimeKey : String := "$__toml_private_datetime"

/-- Reads a kind of telemetry in layers: a name.  A table is taken for its first key, with which
nothing can be given; what does not fit is found under that key. -/
def kindInLayers : Value → Except Misfit TraceKind
  | .string s => namedKind s
  | .datetime _ => .error ⟨[datetimeKey], .unknownKind datetimeKey⟩
  | .table entries =>
    match sortEntries entries with
    | [] => misfit (.wrongType (.table []) .choice)
    | (key, v) :: _ => do
      let _ ← (namedKind key).mapError (.within key)
      .error ⟨[key], .wrongType v .nothing⟩
  | v => misfit (.wrongType v .kind)

/-- Layers are read in the order of their keys. -/
def Manner.layers : Manner := ⟨sortEntries, kindInLayers⟩

/-- The layer of the defaults. -/
def defaultLayer : Entries := ((Settings.toSheet {}).toOption.getD []).toEntries

/-- The settings that a file gives. -/
def Settings.ofFile (bytes : List UInt8) : Except SettingsError Settings :=
  match Utf8.decode? bytes with
  | none => .error .notUtf8
  | some cs =>
    match Toml.parse (String.ofList cs) with
    | none => .error .notToml
    | some entries =>
      match unwrapDocument entries with
      | .error m => .error (.mislabelled ((Toml.place? cs m.key).map (.ofStretch cs)) m.fault)
      | .ok entries => (readSettings .layers (layEntries defaultLayer entries)).mapError .misfit

end FileActivity
