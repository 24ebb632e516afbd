/-
# Reading a stream back

Whoever reads a stream of records gets them back in order, however much of the stream has come:
the whole records of any beginning of it, and never an error for the part of a record at its end
(`readStream_of_isPrefix`).
-/
import FileActivity.Proofs.Record.RoundTrip
import FileActivity.Proofs.Windows
import FileActivity.Record.Stream

namespace FileActivity

/-! ## Reading -/

theorem recordSize_pos : 0 < recordSize := Nat.succ_pos _

/-- Records one after another have their sizes one after another. -/
theorem EventRecord.length_flatMap_encode (rs : List EventRecord) :
    (rs.flatMap encode).length = rs.length * recordSize := by
  induction rs with
  | nil => rfl
  | cons r rs ih =>
    rw [List.flatMap_cons, List.length_append, ih, length_encode, List.length_cons, Nat.succ_mul,
      Nat.add_comm]

/-- The first elements of a list, all or at most so many. -/
def atMost {α : Type} (count : Option Nat) (xs : List α) : List α :=
  match count with
  | some n => xs.take n
  | none => xs

@[simp] theorem atMost_none {α : Type} (xs : List α) : atMost none xs = xs := rfl

@[simp] theorem atMost_nil {α : Type} (count : Option Nat) : atMost count ([] : List α) = [] := by
  cases count with
  | none => rfl
  | some n => exact List.take_nil

/-- Bytes that make no whole record are read as none. -/
theorem readStream_of_length_lt {bytes : List UInt8} (h : bytes.length < recordSize)
    (count : Option Nat) : readStream count bytes = ([], .ok ()) := by
  by_cases hne : bytes = []
  · rw [hne, readStream_nil]
  · rw [readStream, chunks_of_length_lt h hne]
    cases count with
    | none => rw [readPieces, if_pos h]; exact nofun
    | some n =>
      cases n with
      | zero => rfl
      | succ n => rw [readPieces, if_pos h]; exact nofun

/-- Whoever asks for nothing reads nothing. -/
theorem readStream_some_zero (bytes : List UInt8) : readStream (some 0) bytes = ([], .ok ()) := by
  rw [readStream, readPieces]

/-- The bytes of a whole record at the beginning are looked at first, unless nothing more is
asked for. -/
theorem readStream_append {piece : List UInt8} (hpiece : piece.length = recordSize)
    {count : Option Nat} (hcount : count ≠ some 0) (bytes : List UInt8) :
    readStream count (piece ++ bytes)
      = match EventRecord.decode piece with
        | .error e => ([], .error e)
        | .ok r =>
          (r :: (readStream (count.map (· - 1)) bytes).1,
            (readStream (count.map (· - 1)) bytes).2) := by
  have hlen : ¬ piece.length < recordSize := Nat.not_lt.mpr (Nat.le_of_eq hpiece.symm)
  rw [readStream, chunks_append bytes hpiece recordSize_pos, readPieces, if_neg hlen]
  · cases EventRecord.decode piece <;> rfl
  · exact hcount

/-- A whole record at the beginning is read first. -/
theorem readStream_encode_append (r : EventRecord) (bytes : List UInt8) {count : Option Nat}
    (hcount : count ≠ some 0) :
    readStream count (r.encode ++ bytes)
      = (r.onWire :: (readStream (count.map (· - 1)) bytes).1,
        (readStream (count.map (· - 1)) bytes).2) := by
  rw [readStream_append r.length_encode hcount, r.decode_encode]

/-- **Any beginning of a stream of records gives its whole records, in order, and no error.** -/
theorem readStream_of_isPrefix {rs : List EventRecord} {rest bytes : List UInt8}
    (hrest : rest.length < recordSize) (hbytes : bytes <+: rs.flatMap EventRecord.encode ++ rest)
    (count : Option Nat) :
    readStream count bytes
      = (atMost count ((rs.take (bytes.length / recordSize)).map EventRecord.onWire), .ok ()) := by
  induction rs generalizing bytes count with
  | nil =>
    have hlt : bytes.length < recordSize := Nat.lt_of_le_of_lt hbytes.length_le hrest
    rw [readStream_of_length_lt hlt, List.take_nil, List.map_nil, atMost_nil]
  | cons r rs ih =>
    by_cases hlt : bytes.length < recordSize
    · rw [readStream_of_length_lt hlt, Nat.div_eq_of_lt hlt, List.take_zero, List.map_nil,
        atMost_nil]
    · -- a whole record has come, and what follows it is a beginning of the rest
      rw [List.flatMap_cons, List.append_assoc] at hbytes
      obtain ⟨bytes', rfl⟩ : r.encode <+: bytes :=
        List.prefix_of_prefix_length_le (List.prefix_append _ _) hbytes
          (r.length_encode ▸ Nat.not_lt.mp hlt)
      rw [List.prefix_append_right_inj] at hbytes
      by_cases hcount : count = some 0
      · -- whoever wants nothing more does not look at the bytes
        subst hcount
        rfl
      rw [readStream_encode_append r bytes' hcount, ih hbytes, List.length_append, r.length_encode,
        Nat.add_comm, Nat.add_div_right _ recordSize_pos, List.take_succ_cons, List.map_cons]
      cases count with
      | none => rfl
      | some n =>
        cases n with
        | zero => exact absurd rfl hcount
        | succ n => rfl

/-- A whole stream of records gives all of them. -/
theorem readStream_flatMap_encode (rs : List EventRecord) {rest : List UInt8}
    (hrest : rest.length < recordSize) (count : Option Nat) :
    readStream count (rs.flatMap EventRecord.encode ++ rest)
      = (atMost count (rs.map EventRecord.onWire), .ok ()) := by
  rw [readStream_of_isPrefix hrest (List.prefix_refl _), List.length_append,
    EventRecord.length_flatMap_encode, Nat.mul_comm, Nat.mul_add_div recordSize_pos,
    Nat.div_eq_of_lt hrest, Nat.add_zero, List.take_length]

end FileActivity
