/-
# Bounded text

Text in a buffer of a fixed number of UTF-16 units, the last of which always ends it.  A value
is its meaningful units; `raw` lays them out in the buffer, filled up with zeros.
-/
import FileActivity.Text.Path
import FileActivity.Text.Quoted
import FileActivity.Text.Utf16

namespace FileActivity

/-- At most `capacity - 1` units of text. -/
structure BoundedText (capacity : Nat) where
  units : List UInt16
  length_le : units.length ≤ capacity - 1
  deriving DecidableEq, Repr

namespace BoundedText

variable {capacity : Nat}

/-- The largest number of units a text of this capacity holds. -/
def maxLength (capacity : Nat) : Nat := capacity - 1

/-- No text. -/
def empty : BoundedText capacity := ⟨[], Nat.zero_le _⟩

instance : Inhabited (BoundedText capacity) := ⟨empty⟩

/-- Keeps the units that fit and drops the rest. -/
def ofUnits (units : List UInt16) : BoundedText capacity :=
  ⟨units.take (maxLength capacity), List.length_take_le _ _⟩

/-- The text of a string, cut to the capacity; the cut may fall inside a surrogate pair. -/
def ofString (s : String) : BoundedText capacity := ofUnits (Utf16.encode s.toList)

/-- The displayed text of a path, cut to the capacity. -/
def ofPath (p : Path) : BoundedText capacity := ofString p.display

/-- Reads a buffer up to its first zero unit. -/
def ofTerminated (buffer : List UInt16) : BoundedText capacity :=
  ofUnits (buffer.takeWhile (· != 0))

/-- The number of meaningful units. -/
def length (t : BoundedText capacity) : Nat := t.units.length

/-- The whole buffer: the units, then zeros. -/
def raw (t : BoundedText capacity) : List UInt16 :=
  t.units ++ List.replicate (capacity - t.length) 0

/-- The text, each unpaired surrogate shown as U+FFFD. -/
def display (t : BoundedText capacity) : String := String.ofList (Utf16.decode t.units)

/-- The text in quotes. -/
def quoted (t : BoundedText capacity) : String := Quoted.quote t.display

@[ext] theorem ext {s t : BoundedText capacity} (h : s.units = t.units) : s = t := by
  cases s; cases t; simp_all

@[simp] theorem units_empty : (empty : BoundedText capacity).units = [] := rfl

@[simp] theorem units_ofUnits (us : List UInt16) :
    (ofUnits us : BoundedText capacity).units = us.take (capacity - 1) := rfl

/-- The buffer is always full. -/
theorem length_raw (t : BoundedText capacity) : t.raw.length = capacity := by
  have h := t.length_le
  simp only [raw, length, List.length_append, List.length_replicate]
  omega

end BoundedText

/-- Units in the buffer of a process image path. -/
def imagePathCapacity : Nat := 512

/-- Units in the buffer of a target path. -/
def targetPathCapacity : Nat := 1024

/-- The image path of a process. -/
abbrev ImagePath := BoundedText imagePathCapacity

/-- The path of an operation's target. -/
abbrev TargetPath := BoundedText targetPathCapacity

end FileActivity
