/-
# Streams of records

A stream is records one after another, without anything between them.  Whoever reads one cuts it
into pieces of the size of a record; a piece that is too short at the end is a record that never
came.
-/
import FileActivity.Record.Wire

namespace FileActivity

/-- Reads the records of the pieces of a stream, at most `count` of them, and stops at the first
piece that is no record. -/
def readPieces : (count : Option Nat) → List (List UInt8) → List EventRecord × Except Error Unit
  | some 0, _ => ([], .ok ())
  | _, [] => ([], .ok ())
  | count, piece :: rest =>
    if piece.length < recordSize then ([], .ok ())
    else match EventRecord.decode piece with
      | .error e => ([], .error e)
      | .ok r =>
        let (rs, outcome) := readPieces (count.map (· - 1)) rest
        (r :: rs, outcome)

/-- Reads the records of a stream, all or at most `count` of them. -/
def readStream (count : Option Nat) (bytes : List UInt8) : List EventRecord × Except Error Unit :=
  readPieces count (chunks recordSize bytes)

@[simp] theorem readStream_nil (count : Option Nat) : readStream count [] = ([], .ok ()) := by
  cases count with
  | none => rfl
  | some n => cases n <;> rfl

end FileActivity
