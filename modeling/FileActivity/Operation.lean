/-
# File operations

What the interception point knows about one file operation, and which operations are worth a record.
The verdict depends on the category alone and never holds an operation up.
-/
import FileActivity.Record.Kind

namespace FileActivity

/-! ## Categories -/

/-- What a set-information operation sets. -/
inductive InformationClass where
  | basic
  | rename
  | renameEx
  | disposition
  | dispositionEx
  | endOfFile
  | allocation
  | link
  | other (code : UInt32)
  deriving DecidableEq, Repr

/-- What kind of operation was intercepted. -/
inductive OperationCategory where
  | create
  | read
  | write
  | setInformation (what : InformationClass)
  | queryInformation
  | directoryControl
  | cleanup
  | close
  | other (code : UInt8)
  deriving DecidableEq, Repr

/-- The kind of activity that an operation is, if it is worth a record: renames and deletions
reach the file system as set-information operations. -/
def OperationCategory.classify : OperationCategory → Option EventKind
  | create => some .create
  | read => some .read
  | write => some .write
  | setInformation .rename => some .rename
  | setInformation .renameEx => some .rename
  | setInformation .disposition => some .delete
  | setInformation .dispositionEx => some .delete
  | _ => none

/-! ## Operations -/

/-- Where the name of an operation's target comes from. -/
inductive NameSource where
  /-- The caller knows the path. -/
  | path (path : Path)
  /-- An open descriptor, with the text of the link that names what it refers to; a descriptor that
  is not open has no link. -/
  | descriptor (link : Option Path)
  /-- An object without a name. -/
  | unnamed
  deriving DecidableEq, Repr

/-- The name as it was found, not yet normalized. -/
def NameSource.query : NameSource → Except Error String
  | path p => .ok p.display
  | descriptor (some link) => .ok link.display
  | descriptor none => .error .nameUnavailable
  | unnamed => .error .nameUnavailable

/-- One intercepted file operation. -/
structure Operation where
  category : OperationCategory
  /-- The requesting process. -/
  processId : ProcessId
  name : NameSource
  /-- The transfer length of a read or a write. -/
  length : UInt64 := 0
  /-- The bytes about to be written. -/
  buffer : Option (List UInt8) := none
  /-- The completion status, if the operation has finished. -/
  result : Option UInt32 := none
  deriving DecidableEq, Repr

end FileActivity
