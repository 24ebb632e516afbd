/-
# File names

The normalized name of an operation's target.  Either slash separates components; a run of
separators counts as one; separators at the end are dropped, and so is the marker that the
system puts behind the name of an unlinked file.  A name has one kind of separator throughout:
the backslash if the raw name has no slash but a backslash, the slash otherwise.
-/
import FileActivity.Operation
import FileActivity.Text.Bounded

namespace FileActivity

/-- A normalized name, cut after its last separator. -/
structure FileName where
  separator : Char
  /-- The name up to and with its last separator. -/
  directory : List Char
  /-- The final component. -/
  final : List Char
  deriving DecidableEq, Repr

namespace FileName

/-! ## Normalizing -/

/-- What the system puts behind the name of a file that was unlinked. -/
def deletedMarker : List Char := " (deleted)".toList

/-- Drops one marker of an unlinked file. -/
def stripMarker (raw : List Char) : List Char :=
  if deletedMarker.isSuffixOf raw then raw.take (raw.length - deletedMarker.length) else raw

/-- Both slashes separate components. -/
def isSeparator (c : Char) : Bool := c == '/' || c == '\\'

/-- The separator of the normalized name. -/
def separatorOf (raw : List Char) : Char :=
  if raw.contains '\\' && !raw.contains '/' then '\\' else '/'

/-- Writes each run of separators as one `sep`; `after` tells whether a separator came just
before. -/
def collapse (sep : Char) : Bool → List Char → List Char
  | _, [] => []
  | after, c :: cs =>
    if isSeparator c then
      if after then collapse sep true cs else sep :: collapse sep true cs
    else c :: collapse sep false cs

/-- Drops the separators at the end. -/
def trimEnd (sep : Char) (cs : List Char) : List Char := (cs.reverse.dropWhile (· == sep)).reverse

/-- The normalized text of a raw name; empty if there is no component. -/
def normalize (raw : List Char) : List Char :=
  let raw := stripMarker raw
  let sep := separatorOf raw
  trimEnd sep (collapse sep false raw)

/-- Cuts a text after the last `sep`. -/
def splitLast (sep : Char) (cs : List Char) : List Char × List Char :=
  ((cs.reverse.dropWhile (· != sep)).reverse, (cs.reverse.takeWhile (· != sep)).reverse)

/-- Reads a raw name; one without a component is no name. -/
def parse (raw : List Char) : Except Error FileName :=
  let sep := separatorOf (stripMarker raw)
  let name := normalize raw
  if name.isEmpty then .error .nameUnavailable
  else .ok ⟨sep, (splitLast sep name).1, (splitLast sep name).2⟩

/-! ## Parts -/

/-- The whole name. -/
def name (n : FileName) : List Char := n.directory ++ n.final

/-- Everything before the final component, without its separator. -/
def parent (n : FileName) : Option (List Char) :=
  if n.directory.isEmpty then none else some n.directory.dropLast

/-- What follows the last dot of the final component, if something stands on either side of it. -/
def extension (n : FileName) : Option (List Char) :=
  let (stem, extension) := splitLast '.' n.final
  if stem.length ≤ 1 || extension.isEmpty then none else some extension

theorem separatorOf_eq (raw : List Char) : separatorOf raw = '\\' ∨ separatorOf raw = '/' := by
  unfold separatorOf
  split
  · exact Or.inl rfl
  · exact Or.inr rfl

theorem splitLast_append (sep : Char) (cs : List Char) :
    (splitLast sep cs).1 ++ (splitLast sep cs).2 = cs := by
  rw [splitLast, ← List.reverse_append, List.takeWhile_append_dropWhile, List.reverse_reverse]

end FileName

/-- The bounded, normalized path of an operation's target. -/
def NameSource.resolve (source : NameSource) : Except Error TargetPath := do
  let raw ← source.query
  let name ← FileName.parse raw.toList
  return .ofString (String.ofList name.name)

end FileActivity
