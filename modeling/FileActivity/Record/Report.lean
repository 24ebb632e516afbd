/-
# Reports

How a record is made of an operation or of a telemetry event.  Making a record never fails: a field
that cannot be found out is left empty.
-/
import FileActivity.FileName
import FileActivity.Record.Basic
import FileActivity.Telemetry.Event

namespace FileActivity

/-! ## Process images -/

/-- The image path of each live process. -/
structure ProcessTable where
  image : ProcessId → Option Path

namespace ProcessTable

/-- The table that lists these processes; the last entry for a process number counts. -/
def ofList (entries : List (ProcessId × Path)) : ProcessTable := 
  ⟨fun pid => entries.reverse.lookup pid⟩

/-- The table without a process. -/
def empty : ProcessTable := ⟨fun _ => none⟩

instance : Inhabited ProcessTable := ⟨empty⟩

/-- The image path of a process. -/
def imagePath (table : ProcessTable) (pid : ProcessId) : Except Error Path :=
  match table.image pid with
  | some path => .ok path
  | none => .error (.processLookupFailed pid)

/-- The bounded image path of a process. -/
def resolve (table : ProcessTable) (pid : ProcessId) : Except Error ImagePath :=
  (table.imagePath pid).map .ofPath

end ProcessTable

/-! ## Making records -/

/-- What the making of records depends on. -/
structure Reporter where
  processes : ProcessTable
  /-- The instant that every record is given. -/
  now : Timestamp
  /-- The number of leading bytes of a write that are looked at. -/
  previewBudget : Nat
  deriving Inhabited

namespace Reporter

/-- The numbers of bytes read and written that a record of this kind carries. -/
def byteCounts (kind : EventKind) (length : UInt64) : UInt64 × UInt64 :=
  match kind with
  | .read => (length, 0)
  | .write => (0, length)
  | _ => (0, 0)

/-- The part of the buffer that a write of this length writes. -/
def visible (op : Operation) : List UInt8 := (op.buffer.getD []).take op.length.toNat

/-- The preview of a record of this kind: only writes have one. -/
def preview (r : Reporter) (kind : EventKind) (op : Operation) : Preview :=
  if kind = .write then Preview.compute (visible op) r.previewBudget else .zeroed

/-- The record of an operation of a kind. -/
def record (r : Reporter) (kind : EventKind) (op : Operation) : EventRecord where
  kind := kind
  processId := op.processId
  processPath := (r.processes.resolve op.processId).toOption.getD .empty
  filePath := op.name.resolve.toOption.getD .empty
  bytesRead := (byteCounts kind op.length).1
  bytesWritten := (byteCounts kind op.length).2
  timestamp := r.now
  result := (op.result.map ResultCode.mk).getD .unknown
  preview := r.preview kind op

/-- A record without byte counts, outcome and preview. -/
def signal (r : Reporter) (kind : EventKind) (pid : ProcessId) (image target : String) :
    EventRecord where
  kind := kind
  processId := pid
  processPath := .ofString image
  filePath := .ofString target
  bytesRead := 0
  bytesWritten := 0
  timestamp := r.now
  result := .unknown
  preview := .zeroed

/-- The record of a telemetry event; a connection has none. -/
def telemetryRecord (r : Reporter) : TelemetryEvent → Option EventRecord
  | .processCreate pid _ image _ => some (r.signal .processCreate pid image.display image.display)
  | .shadowCopyDelete pid image commandLine =>
    some (r.signal .shadowCopyDelete pid image.display commandLine)
  | .registryChange pid key =>
    some (r.signal .registryChange pid ((r.processes.image pid).getD .empty).display key)
  | .networkConnect .. => none

end Reporter

end FileActivity
