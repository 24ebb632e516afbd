/-
# Records

One classified operation, complete in itself: who did what to which file, when, how much, with what
outcome, and how random the written bytes look.
-/
import FileActivity.Preview
import FileActivity.Record.Kind
import FileActivity.Text.Bounded

namespace FileActivity

/-- Nanoseconds since the start of 1970. -/
structure Timestamp where
  nanos : UInt64
  deriving DecidableEq, Repr, Inhabited

/-- The completion status of an operation. -/
structure ResultCode where
  raw : UInt32
  deriving DecidableEq, Repr

namespace ResultCode

/-- The status of an operation that has not finished. -/
def unknown : ResultCode := ⟨0xffffffff⟩

instance : Inhabited ResultCode := ⟨unknown⟩

/-- Whether the operation's outcome was known. -/
def isKnown (r : ResultCode) : Bool := r != unknown

end ResultCode

/-- One classified operation. -/
structure EventRecord where
  kind : EventKind
  processId : ProcessId
  processPath : ImagePath
  filePath : TargetPath
  bytesRead : UInt64
  bytesWritten : UInt64
  timestamp : Timestamp
  result : ResultCode
  preview : Preview
  deriving DecidableEq, Repr, Inhabited

end FileActivity
