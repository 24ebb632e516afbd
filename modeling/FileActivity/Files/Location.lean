/-
# Locations

Where in the file system a path leads.  A path is cut at its slashes; empty components and
single dots lead nowhere, and the components that are left are walked one after another.
-/
import FileActivity.Text.Path

namespace FileActivity

/-- The name of an entry of a directory. -/
abbrev FileEntryName := List UInt8

/-- A place in the file system: the names that lead there from the root. -/
abbrev Location := List FileEntryName

/-- The byte that separates the components of a path. -/
def slash : UInt8 := 0x2f

/-- The component that leads nowhere. -/
def dot : FileEntryName := [0x2e]

/-- The component that leads to the parent. -/
def dotDot : FileEntryName := [0x2e, 0x2e]

/-- The longest name of an entry. -/
def maxNameLength : Nat := 255

/-- The longest path, with the zero byte that ends it. -/
def maxPathLength : Nat := 4096

namespace Path

/-- Cuts bytes at slashes; `part` holds the bytes of the part so far, the last one first. -/
def cut (part : List UInt8) : List UInt8 → List FileEntryName
  | [] => [part.reverse]
  | b :: bs => if b = slash then part.reverse :: cut [] bs else cut (b :: part) bs

/-- The pieces of a path between slashes. -/
def pieces (p : Path) : List FileEntryName := cut [] p.bytes

/-- Whether a path begins at the root. -/
def isAbsolute (p : Path) : Bool := p.bytes.head? == some slash

/-- The components of a path that lead somewhere. -/
def components (p : Path) : List FileEntryName := p.pieces.filter fun c => c != [] && c != dot

/-- Whether a path has to lead to a directory: it ends in a slash or a dot. -/
def wantsDirectory (p : Path) : Bool :=
  match p.pieces.getLast? with
  | some last => last == [] || last == dot || last == dotDot
  | none => false

/-- The steps by which a path is followed: its components, and a last dot if it has to lead to a
directory. -/
def steps (p : Path) : List FileEntryName := p.components ++ if p.wantsDirectory then [dot] else []

/-- The path without the slashes at its end, of which the root keeps one. -/
def withoutFinalSlashes (p : Path) : Path :=
  let kept := (p.bytes.reverse.dropWhile (· == slash)).reverse
  if kept.isEmpty then ⟨p.bytes.take 1⟩ else ⟨kept⟩

/-- Writes components with slashes between them. -/
def join (absolute : Bool) (parts : List FileEntryName) : Path :=
  ⟨(if absolute then [slash] else []) ++ List.intercalate [slash] parts⟩

/-- The components by which a path is cut into parent and last component: a dot counts only at the
front of a path that does not begin at the root. -/
def parentParts (p : Path) : List FileEntryName :=
  let leading := if !p.isAbsolute && p.pieces.head? == some dot then [dot] else []
  leading ++ p.components

/-- The path without its last component; the root and the empty path have no parent. -/
def parent (p : Path) : Option Path :=
  if p.parentParts.isEmpty then none
  else some (join p.isAbsolute p.parentParts.dropLast)

/-- The path without empty components and dots. -/
def tidy (p : Path) : Path := join p.isAbsolute p.components

/-- The components that lead from one place to another: up to where the two meet, and down again. -/
def route : (source target : List FileEntryName) → List FileEntryName
  | s :: source, t :: target =>
    if s = t then route source target
    else List.replicate (source.length + 1) dotDot ++ t :: target
  | [], target => target
  | source, [] => List.replicate source.length dotDot

/-- A path as it is shown to somebody at a place: a path from the root is shown from that place
if this takes fewer components, the root counting as one. -/
def shownFrom (here : Location) (p : Path) : Path :=
  if !p.isAbsolute then p.tidy
  else if (route here p.components).length < p.components.length + 1 then
    join false (route here p.components)
  else p

theorem withoutFinalSlashes_of_getLast?_ne {p : Path} (h : p.bytes.getLast? ≠ some slash) :
    p.withoutFinalSlashes = p := by
  obtain ⟨bytes⟩ := p
  rcases List.eq_nil_or_concat bytes with rfl | ⟨front, b, rfl⟩
  · rfl
  · have hb : b ≠ slash := by simpa using h
    simp [withoutFinalSlashes, hb]

end Path

end FileActivity
