/-
# The wire form of a record

A record is 3124 bytes, its fields one after another without gaps, every integer with its least
significant byte first:

    offset  size  field
         0     4  kind tag
         4     4  process number
         8  1024  process path (512 units)
      1032  2048  file path (1024 units)
      3080     8  bytes read
      3088     8  bytes written
      3096     8  timestamp
      3104     4  result code
      3108    16  entropy preview

There is no framing: a reader takes `recordSize` bytes for each record.
-/
import FileActivity.Record.Basic

namespace FileActivity

/-! ## Integers, least significant byte first -/

/-- The `count` lowest bytes of a number, least significant first. -/
def littleEndian : Nat → Nat → List UInt8
  | 0, _ => []
  | count + 1, n => (n % 256).toUInt8 :: littleEndian count (n / 256)

/-- The number whose bytes, least significant first, these are. -/
def ofLittleEndian : List UInt8 → Nat
  | [] => 0
  | b :: rest => b.toNat + 256 * ofLittleEndian rest

@[simp] theorem length_littleEndian (count n : Nat) : (littleEndian count n).length = count := by
  induction count generalizing n with
  | zero => rfl
  | succ count ih => simp [littleEndian, ih]

/-- Reading what was written gives the number back, less what did not fit. -/
theorem ofLittleEndian_littleEndian (count n : Nat) :
    ofLittleEndian (littleEndian count n) = n % Nat.pow 256 count := by
  induction count generalizing n with
  | zero => simp [littleEndian, ofLittleEndian, Nat.mod_one]
  | succ count ih =>
    have hb : (n % 256).toUInt8.toNat = n % 256 := by
      simp only [Nat.toUInt8, UInt8.toNat_ofNat']; omega
    have hpow : Nat.pow 256 (count + 1) = 256 * Nat.pow 256 count := Nat.mul_comm ..
    rw [littleEndian, ofLittleEndian, ih, hb, hpow, Nat.mod_mul]

/-- A list of bytes is the written form of the number that it stands for. -/
theorem littleEndian_ofLittleEndian (bs : List UInt8) :
    littleEndian bs.length (ofLittleEndian bs) = bs := by
  induction bs with
  | nil => rfl
  | cons b rest ih =>
    have hb : b.toNat < 256 := b.toNat_lt
    have h1 : (b.toNat + 256 * ofLittleEndian rest) % 256 = b.toNat := by omega
    have h2 : (b.toNat + 256 * ofLittleEndian rest) / 256 = ofLittleEndian rest := by omega
    simp [littleEndian, ofLittleEndian, h1, h2, ih]

/-! ## Units of text -/

/-- The bytes of a list of units. -/
def unitBytes (units : List UInt16) : List UInt8 := units.flatMap fun u => littleEndian 2 u.toNat

/-- The units that pairs of bytes stand for; an odd byte at the end stands for none. -/
def unitsOfBytes : List UInt8 → List UInt16
  | low :: high :: rest => (ofLittleEndian [low, high]).toUInt16 :: unitsOfBytes rest
  | _ => []

@[simp] theorem length_unitBytes (units : List UInt16) :
    (unitBytes units).length = 2 * units.length := by
  induction units with
  | nil => rfl
  | cons u us ih =>
    simp only [unitBytes, List.flatMap_cons, List.length_append] at ih ⊢; simp [ih]; omega

/-! ## Layout -/

/-- Where the process path begins. -/
def processPathOffset : Nat := 8
/-- Where the file path begins. -/
def filePathOffset : Nat := processPathOffset + 2 * imagePathCapacity
/-- Where the number of bytes read begins. -/
def bytesReadOffset : Nat := filePathOffset + 2 * targetPathCapacity
/-- Where the number of bytes written begins. -/
def bytesWrittenOffset : Nat := bytesReadOffset + 8
/-- Where the timestamp begins. -/
def timestampOffset : Nat := bytesWrittenOffset + 8
/-- Where the result code begins. -/
def resultOffset : Nat := timestampOffset + 8
/-- Where the preview begins. -/
def previewOffset : Nat := resultOffset + 4
/-- The number of bytes of a record. -/
def recordSize : Nat := previewOffset + previewLength

/-- The `size` bytes from `offset` on. -/
def slice (bytes : List UInt8) (offset size : Nat) : List UInt8 := (bytes.drop offset).take size

namespace EventRecord

/-- The wire form of a record. -/
def encode (r : EventRecord) : List UInt8 :=
  littleEndian 4 r.kind.tag.toNat ++ littleEndian 4 r.processId.toNat
    ++ unitBytes r.processPath.raw ++ unitBytes r.filePath.raw
    ++ littleEndian 8 r.bytesRead.toNat ++ littleEndian 8 r.bytesWritten.toNat
    ++ littleEndian 8 r.timestamp.nanos.toNat ++ littleEndian 4 r.result.raw.toNat
    ++ r.preview.bytes

/-- Reads a record: the length is checked first, then the kind; every other byte is taken as it
is. -/
def decode (bytes : List UInt8) : Except Error EventRecord :=
  if bytes.length ≠ recordSize then .error (.malformedRecord recordSize bytes.length)
  else do
    let kind ← EventKind.ofTag (ofLittleEndian (slice bytes 0 4)).toUInt32
    return {
      kind
      processId := (ofLittleEndian (slice bytes 4 4)).toUInt32
      processPath :=
        .ofTerminated (unitsOfBytes (slice bytes processPathOffset (2 * imagePathCapacity)))
      filePath := .ofTerminated (unitsOfBytes (slice bytes filePathOffset (2 * targetPathCapacity)))
      bytesRead := (ofLittleEndian (slice bytes bytesReadOffset 8)).toUInt64
      bytesWritten := (ofLittleEndian (slice bytes bytesWrittenOffset 8)).toUInt64
      timestamp := ⟨(ofLittleEndian (slice bytes timestampOffset 8)).toUInt64⟩
      result := ⟨(ofLittleEndian (slice bytes resultOffset 4)).toUInt32⟩
      preview := .ofBytes (slice bytes previewOffset previewLength)
    }

/-- Every record takes the same number of bytes. -/
@[simp] theorem length_encode (r : EventRecord) : r.encode.length = recordSize := by
  simp [encode, BoundedText.length_raw, r.preview.length_eq, recordSize, previewOffset,
    resultOffset, timestampOffset, bytesWrittenOffset, bytesReadOffset, filePathOffset,
    processPathOffset]
  omega

end EventRecord

end FileActivity
