/-
# Randomness of bytes

A coarse score of how random some bytes look: Shannon entropy over the 256 byte values, scaled to a
byte.  Encrypted or compressed data scores near 255, text and structured data well below.  The score
is computed from the table of how often each value occurs and from nothing else.
-/

namespace FileActivity.Entropy

/-- Counts one more byte in a frequency table. -/
def tally (table : Array Nat) (b : UInt8) : Array Nat := table.modify b.toNat (· + 1)

/-- How often each of the 256 byte values occurs, in order of value. -/
def frequencies (data : List UInt8) : List Nat :=
  (data.foldl tally (Array.replicate 256 0)).toList

/-- What a value that occurs `count` times out of `total` adds to the entropy. -/
def term (count total : Nat) : Float :=
  let probability := Float.ofNat count / Float.ofNat total
  Float.log2 probability * -probability

/-- The entropy, in bits for each byte, of data in which the values occur `counts` times out of
`total`; the terms are added in order of value. -/
def shannon (counts : List Nat) (total : Nat) : Float :=
  ((counts.filter (· ≠ 0)).map (term · total)).foldl (· + ·) 0

/-- Scales bits for each byte, `0` to `8`, to a byte. -/
def normalize (bits : Float) : UInt8 :=
  let scaled := Float.round (bits / 8 * 255)
  if scaled ≤ 0 then 0 else if scaled ≥ 255 then 255 else scaled.toUInt8

/-- The score of a piece of data; without data it is zero. -/
def score (data : List UInt8) : UInt8 :=
  if data.isEmpty then 0 else normalize (shannon (frequencies data) data.length)

theorem size_tally (table : Array Nat) (b : UInt8) : (tally table b).size = table.size := by
  simp [tally]

theorem length_frequencies (data : List UInt8) : (frequencies data).length = 256 := by
  have h : ∀ (table : Array Nat), (data.foldl tally table).size = table.size := by
    induction data with
    | nil => intro table; rfl
    | cons b rest ih => intro table; rw [List.foldl_cons, ih, size_tally]
  simp [frequencies, h]

end FileActivity.Entropy
