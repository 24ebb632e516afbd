/-
# Paths

A path is a string of bytes; nothing makes it UTF-8.  It is shown lossily.
-/
import FileActivity.Text.Utf8

namespace FileActivity

/-- The name of a file as the system keeps it. -/
structure Path where
  bytes : List UInt8
  deriving DecidableEq, Repr, Inhabited

namespace Path

/-- The path whose bytes are the UTF-8 form of a text. -/
def ofString (s : String) : Path := ⟨Utf8.encode s.toList⟩

/-- The text of a path, invalid parts shown as U+FFFD. -/
def display (p : Path) : String := String.ofList (Utf8.decodeLossy p.bytes)

/-- The text of a path, if its bytes are valid UTF-8. -/
def toString? (p : Path) : Option String := (Utf8.decode? p.bytes).map String.ofList

/-- The empty path. -/
def empty : Path := ⟨[]⟩

end Path

end FileActivity
