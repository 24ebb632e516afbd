/-
# Write access

Taking the right to write a file away, and giving it back to the file's owner.
-/
import FileActivity.Error
import FileActivity.Files.Tree

namespace FileActivity

/-- The right of everybody to write. -/
def writeBits : Nat := 0o222

/-- The right of the owner to write. -/
def ownerWriteBit : Nat := 0o200

/-- The mode of a file that may not, or may again, be written. -/
def accessMode (readOnly : Bool) (mode : Nat) : Nat :=
  if readOnly then mode ^^^ (mode &&& writeBits) else mode ||| ownerWriteBit

/-- Clears every write bit of a file, or gives write access back to its owner.  What the system
stores of the mode that it is asked for is told by `stored`. -/
def Files.setReadOnly (f : Files) (p : Path) (readOnly : Bool) (stored : Nat → Nat := id) :
    Except Error Files :=
  Except.mapError (Error.permissionUpdateFailed p) do
    let mode ← f.mode p
    f.setMode p (accessMode readOnly mode) stored

end FileActivity
