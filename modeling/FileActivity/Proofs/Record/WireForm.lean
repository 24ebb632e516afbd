/-
# The byte strings that are records

Which byte strings are records, and what becomes of one that is read and written again.  The
nine fields of a record lie one behind the other (`tile_fieldPlaces`), so a byte string of the
right length consists of its fields and of nothing else (`decode_eq_ofFields`).  Reading keeps
seven of them as they are; of a text it keeps the units before the first zero and never the last
one, and writing fills the rest up with zeros (`rewritten_encode`).

Main statement: `wire_form`.
-/
import FileActivity.Proofs.Record.RoundTrip

namespace FileActivity

/-! ## Stretches -/

/-- Stretches, each with its offset and its size, that lie one behind the other from `lo` to
`hi`. -/
def Tile : Nat → List (Nat × Nat) → Nat → Prop
  | lo, [], hi => lo = hi
  | lo, p :: ps, hi => p.1 = lo ∧ Tile (lo + p.2) ps hi

namespace Tile

variable {lo hi : Nat} {ps : List (Nat × Nat)} {p : Nat × Nat}

/-- What is tiled ends no earlier than it begins. -/
theorem le (h : Tile lo ps hi) : lo ≤ hi := by
  induction ps generalizing lo with
  | nil => exact Nat.le_of_eq h
  | cons q ps ih => exact Nat.le_trans (Nat.le_add_right lo q.2) (ih h.2)

/-- No stretch leaves the range. -/
theorem mem_range (h : Tile lo ps hi) (hp : p ∈ ps) : lo ≤ p.1 ∧ p.1 + p.2 ≤ hi := by
  induction ps generalizing lo with
  | nil => exact absurd hp List.not_mem_nil
  | cons q ps ih =>
    obtain ⟨hq, htail⟩ := h
    rcases List.mem_cons.mp hp with rfl | hp
    · exact ⟨Nat.le_of_eq hq.symm, hq ▸ htail.le⟩
    · obtain ⟨hlo, hhi⟩ := ih htail hp
      exact ⟨Nat.le_trans (Nat.le_add_right lo q.2) hlo, hhi⟩

/-- **No gap and no overlap**: every place of the range is in exactly one stretch. -/
theorem existsUnique (h : Tile lo ps hi) {i : Nat} (hlo : lo ≤ i) (hhi : i < hi) :
    ∃! p, p ∈ ps ∧ p.1 ≤ i ∧ i < p.1 + p.2 := by
  induction ps generalizing lo with
  | nil =>
    obtain rfl : lo = hi := h
    exact absurd hhi (Nat.not_lt.mpr hlo)
  | cons q ps ih =>
    obtain ⟨rfl, htail⟩ := h
    by_cases hi : i < q.1 + q.2
    · refine ⟨q, ⟨List.mem_cons_self, hlo, hi⟩, ?_⟩
      rintro p ⟨hp, hpi, -⟩
      rcases List.mem_cons.mp hp with rfl | hp
      · rfl
      · -- the other stretches begin behind this one
        have := (htail.mem_range hp).1
        omega
    · obtain ⟨p, ⟨hp, hpi⟩, hunique⟩ := ih htail (Nat.not_lt.mp hi)
      refine ⟨p, ⟨List.mem_cons_of_mem q hp, hpi⟩, ?_⟩
      rintro p' ⟨hp', hpi'⟩
      rcases List.mem_cons.mp hp' with rfl | hp'
      · exact absurd hpi'.2 hi
      · exact hunique p' ⟨hp', hpi'⟩

end Tile

/-- A slice of bytes that are there has its full length. -/
theorem length_slice {bytes : List UInt8} {offset size : Nat} (h : offset + size ≤ bytes.length) :
    (slice bytes offset size).length = size := by
  rw [slice, List.length_take, List.length_drop]
  omega

/-- A stretch of a stretch. -/
theorem slice_slice (bytes : List UInt8) {offset size i n : Nat} (h : i + n ≤ size) :
    slice (slice bytes offset size) i n = slice bytes (offset + i) n := by
  rw [slice, slice, slice, List.drop_take, List.take_take, List.drop_drop]
  rw [Nat.min_eq_left (by omega)]

/-- A byte string is what its stretches hold, one after another. -/
theorem Tile.flatten {lo : Nat} {ps : List (Nat × Nat)} {bytes : List UInt8}
    (h : Tile lo ps bytes.length) :
    (ps.map fun p => slice bytes p.1 p.2).flatten = bytes.drop lo := by
  induction ps generalizing lo with
  | nil =>
    obtain rfl : lo = bytes.length := h
    simp
  | cons p ps ih =>
    obtain ⟨rfl, htail⟩ := h
    rw [List.map_cons, List.flatten_cons, ih htail, slice, ← List.drop_drop, List.take_append_drop]

/-- The stretches of a byte string that consists of pieces of their sizes are these pieces. -/
theorem Tile.map_slice {lo hi : Nat} {ps : List (Nat × Nat)} {bytes : List UInt8}
    {pieces : List (List UInt8)} (h : Tile lo ps hi)
    (hsizes : pieces.map List.length = ps.map Prod.snd) (hbytes : bytes.drop lo = pieces.flatten) :
    (ps.map fun p => slice bytes p.1 p.2) = pieces := by
  induction ps generalizing lo pieces with
  | nil => exact (List.map_eq_nil_iff.mp hsizes).symm
  | cons p ps ih =>
    obtain ⟨rfl, htail⟩ := h
    obtain ⟨piece, pieces, rfl, hpiece, hpieces⟩ := List.map_eq_cons_iff.mp hsizes
    have hslice : slice bytes p.1 p.2 = piece := by
      rw [slice, hbytes, List.flatten_cons, ← hpiece, List.take_left]
    have hdrop : bytes.drop (p.1 + p.2) = pieces.flatten := by
      rw [← List.drop_drop, hbytes, List.flatten_cons, ← hpiece, List.drop_left]
    rw [List.map_cons, hslice, ih htail hpieces hdrop]

/-! ## Integers and units, written again -/

/-- A number of so many bytes is below the power of 256. -/
theorem ofLittleEndian_lt (bs : List UInt8) : ofLittleEndian bs < Nat.pow 256 bs.length := by
  induction bs with
  | nil => exact Nat.one_pos
  | cons b rest ih =>
    have hb : b.toNat < 256 := b.toNat_lt
    have hpow : Nat.pow 256 (rest.length + 1) = 256 * Nat.pow 256 rest.length := Nat.mul_comm ..
    rw [ofLittleEndian, List.length_cons, hpow]
    omega

/-- Two bytes are written again as they were read. -/
theorem littleEndian_toUInt16 {bs : List UInt8} (h : bs.length = 2) :
    littleEndian 2 (ofLittleEndian bs).toUInt16.toNat = bs := by
  have hlt : ofLittleEndian bs < UInt16.size := by
    have hsize : Nat.pow 256 2 = UInt16.size := rfl
    rw [← hsize, ← h]
    exact ofLittleEndian_lt bs
  have hwritten := littleEndian_ofLittleEndian bs
  rwa [h, ← UInt16.toNat_ofNat_of_lt' hlt] at hwritten

/-- Four bytes are written again as they were read. -/
theorem littleEndian_toUInt32 {bs : List UInt8} (h : bs.length = 4) :
    littleEndian 4 (ofLittleEndian bs).toUInt32.toNat = bs := by
  have hlt : ofLittleEndian bs < UInt32.size := by
    have hsize : Nat.pow 256 4 = UInt32.size := rfl
    rw [← hsize, ← h]
    exact ofLittleEndian_lt bs
  have hwritten := littleEndian_ofLittleEndian bs
  rwa [h, ← UInt32.toNat_ofNat_of_lt' hlt] at hwritten

/-- Eight bytes are written again as they were read. -/
theorem littleEndian_toUInt64 {bs : List UInt8} (h : bs.length = 8) :
    littleEndian 8 (ofLittleEndian bs).toUInt64.toNat = bs := by
  have hlt : ofLittleEndian bs < UInt64.size := by
    have hsize : Nat.pow 256 8 = UInt64.size := rfl
    rw [← hsize, ← h]
    exact ofLittleEndian_lt bs
  have hwritten := littleEndian_ofLittleEndian bs
  rwa [h, ← UInt64.toNat_ofNat_of_lt' hlt] at hwritten

/-- Pairs of bytes are written again as they were read. -/
theorem unitBytes_unitsOfBytes {bs : List UInt8} {n : Nat} (h : bs.length = 2 * n) :
    unitBytes (unitsOfBytes bs) = bs := by
  induction n generalizing bs with
  | zero => rw [List.length_eq_zero_iff.mp h]; rfl
  | succ n ih =>
    obtain ⟨low, high, rest, rfl⟩ : ∃ low high rest, bs = low :: high :: rest := by
      match bs, h with
      | low :: high :: rest, _ => exact ⟨low, high, rest, rfl⟩
    have hpair : littleEndian 2 (ofLittleEndian [low, high]).toUInt16.toNat = [low, high] :=
      littleEndian_toUInt16 rfl
    have hrest : unitBytes (unitsOfBytes rest) = rest := by
      apply ih
      simp only [List.length_cons] at h
      omega
    show littleEndian 2 (ofLittleEndian [low, high]).toUInt16.toNat ++ unitBytes (unitsOfBytes rest)
        = _
    rw [hpair, hrest]
    rfl

/-- Two bytes make one unit. -/
theorem length_unitsOfBytes {bs : List UInt8} {n : Nat} (h : bs.length = 2 * n) :
    (unitsOfBytes bs).length = n := by
  have hlen := congrArg List.length (unitBytes_unitsOfBytes h)
  rw [length_unitBytes, h] at hlen
  omega

/-- The unit of a text that begins at an offset. -/
def unitAt (bytes : List UInt8) (offset j : Nat) : UInt16 :=
  (ofLittleEndian (slice bytes (offset + 2 * j) 2)).toUInt16

/-- The units of a list of bytes, one by one. -/
theorem getElem?_unitsOfBytes {bs : List UInt8} {j : Nat} (h : 2 * j + 2 ≤ bs.length) :
    (unitsOfBytes bs)[j]? = some (unitAt bs 0 j) := by
  induction j generalizing bs with
  | zero =>
    match bs, h with
    | low :: high :: rest, _ => rfl
  | succ j ih =>
    match bs, h with
    | low :: high :: rest, h =>
      have hrest : 2 * j + 2 ≤ rest.length := by
        simp only [List.length_cons] at h
        omega
      rw [unitsOfBytes, List.getElem?_cons_succ, ih hrest]
      rw [unitAt, unitAt, Nat.zero_add, Nat.zero_add, Nat.mul_succ]
      rfl

/-- The units of a slice stand where the slice stands. -/
theorem getElem?_unitsOfBytes_slice {bytes : List UInt8} {offset n j : Nat}
    (h : offset + 2 * n ≤ bytes.length) (hj : j < n) :
    (unitsOfBytes (slice bytes offset (2 * n)))[j]? = some (unitAt bytes offset j) := by
  have hlen := length_slice h
  rw [getElem?_unitsOfBytes (by omega), unitAt, unitAt, slice_slice bytes (by omega), Nat.zero_add]

/-- Bytes of text are the same if their units are. -/
theorem slice_eq_of_unitAt {bytes bytes' : List UInt8} {offset n : Nat}
    (h : offset + 2 * n ≤ bytes.length) (h' : offset + 2 * n ≤ bytes'.length)
    (hunits : ∀ j < n, unitAt bytes offset j = unitAt bytes' offset j) :
    slice bytes offset (2 * n) = slice bytes' offset (2 * n) := by
  have hsame : unitsOfBytes (slice bytes offset (2 * n))
      = unitsOfBytes (slice bytes' offset (2 * n)) := by
    apply List.ext_getElem?
    intro j
    by_cases hj : j < n
    · rw [getElem?_unitsOfBytes_slice h hj, getElem?_unitsOfBytes_slice h' hj, hunits j hj]
    · have hlen := length_unitsOfBytes (length_slice h)
      have hlen' := length_unitsOfBytes (length_slice h')
      rw [List.getElem?_eq_none (by omega), List.getElem?_eq_none (by omega)]
  rw [← unitBytes_unitsOfBytes (length_slice h), hsame, unitBytes_unitsOfBytes (length_slice h')]

/-! ## Texts, written again -/

/-- How far the beginning of a list reaches in which all elements have a property. -/
theorem lt_length_takeWhile_iff {α : Type} {p : α → Bool} {xs : List α} {j : Nat} :
    j < (xs.takeWhile p).length ↔ j < xs.length ∧ ∀ k ≤ j, ∀ x, xs[k]? = some x → p x := by
  induction xs generalizing j with
  | nil => simp
  | cons y xs ih =>
    rw [List.takeWhile_cons]
    by_cases hy : p y = true
    · rw [if_pos hy, List.length_cons, List.length_cons]
      cases j with
      | zero => simp [hy]
      | succ j =>
        rw [Nat.add_lt_add_iff_right, Nat.add_lt_add_iff_right, ih]
        refine and_congr_right fun _ => ⟨fun h k hk x hx => ?_, fun h k hk x hx => ?_⟩
        · cases k with
          | zero => rwa [← Option.some.inj hx]
          | succ k => exact h k (Nat.le_of_succ_le_succ hk) x hx
        · exact h (k + 1) (Nat.succ_le_succ hk) x hx
    · rw [if_neg hy, List.length_nil]
      refine ⟨fun h => absurd h (Nat.not_lt_zero j),
        fun h => absurd (h.2 0 (Nat.zero_le j) y rfl) hy⟩

/-- A text of `n` units keeps nothing of its unit `j`: it is the last one, or there is a zero at
it or before it. -/
def Cleared (unit : Nat → UInt16) (n j : Nat) : Prop := j + 1 = n ∨ ∃ k ≤ j, unit k = 0

namespace BoundedText

variable {capacity : Nat} {buffer : List UInt16} {unit : Nat → UInt16} {j : Nat}

/-- The units that a text keeps of a buffer. -/
theorem lt_length_ofTerminated_iff (hlen : buffer.length = capacity)
    (hunit : ∀ k < capacity, buffer[k]? = some (unit k)) (hj : j < capacity) :
    j < (ofTerminated buffer : BoundedText capacity).units.length ↔ ¬ Cleared unit capacity j := by
  have hzero : (∀ k ≤ j, ∀ u, buffer[k]? = some u → (u != 0) = true) ↔ ∀ k ≤ j, unit k ≠ 0 := by
    refine forall₂_congr fun k hk => ?_
    rw [hunit k (Nat.lt_of_le_of_lt hk hj)]
    simp
  have hunits : (ofTerminated buffer : BoundedText capacity).units
      = (buffer.takeWhile (· != 0)).take (capacity - 1) := rfl
  rw [hunits, List.length_take, Nat.lt_min, lt_length_takeWhile_iff, hzero]
  constructor
  · rintro ⟨hlast, -, hnone⟩ (h | ⟨k, hk, h⟩)
    · omega
    · exact hnone k hk h
  · intro hnot
    refine ⟨?_, hlen ▸ hj, fun k hk h => hnot (Or.inr ⟨k, hk, h⟩)⟩
    have hlast : j + 1 ≠ capacity := fun h => hnot (Or.inl h)
    omega

/-- **What a text leaves of a buffer.** -/
theorem getElem?_raw_ofTerminated (hlen : buffer.length = capacity)
    (hunit : ∀ k < capacity, buffer[k]? = some (unit k)) (hj : j < capacity) :
    (Cleared unit capacity j → (ofTerminated buffer : BoundedText capacity).raw[j]? = some 0)
      ∧ (¬ Cleared unit capacity j →
        (ofTerminated buffer : BoundedText capacity).raw[j]? = some (unit j)) := by
  have hkept := lt_length_ofTerminated_iff hlen hunit hj
  constructor
  · intro hcleared
    have hge := Nat.not_lt.mp fun h => hkept.mp h hcleared
    rw [raw, List.getElem?_append_right hge, List.getElem?_replicate]
    exact if_pos (Nat.sub_lt_sub_right hge hj)
  · intro hnot
    have hlt := hkept.mpr hnot
    have hprefix : (ofTerminated buffer : BoundedText capacity).units <+: buffer :=
      (List.take_prefix _ _).trans (List.takeWhile_prefix _)
    rw [raw, List.getElem?_append_left hlt, ← hunit j hj, List.prefix_iff_getElem?.mp hprefix j hlt,
      List.getElem?_eq_getElem hlt]

/-- A buffer without a terminator loses its last unit, and one with rubbish behind the
terminator loses that. -/
example : (ofTerminated [7, 8, 9, 10] : BoundedText 4).raw = [7, 8, 9, 0]
    ∧ (ofTerminated [7, 0, 9, 10] : BoundedText 4).raw = [7, 0, 0, 0] := by decide

/-- A text that was read up to its first zero has none. -/
theorem zero_notMem_ofTerminated (buffer : List UInt16) :
    0 ∉ (ofTerminated buffer : BoundedText capacity).units := by
  intro h
  have hne := List.mem_takeWhile_imp (List.mem_of_mem_take h)
  simp at hne

end BoundedText

/-- What a text of this capacity keeps of the bytes of a field. -/
def keptOfText (capacity : Nat) (field : List UInt8) : List UInt8 :=
  unitBytes (BoundedText.ofTerminated (unitsOfBytes field) : BoundedText capacity).raw

/-- **A field that holds what a text keeps**: its units are zero where the text keeps nothing,
and as they were elsewhere. -/
theorem unitAt_of_slice_eq_keptOfText {bytes bytes' : List UInt8} {offset capacity j : Nat}
    (h : offset + 2 * capacity ≤ bytes.length) (h' : offset + 2 * capacity ≤ bytes'.length)
    (hkept : slice bytes' offset (2 * capacity)
      = keptOfText capacity (slice bytes offset (2 * capacity)))
    (hj : j < capacity) :
    (Cleared (unitAt bytes offset) capacity j → unitAt bytes' offset j = 0)
      ∧ (¬ Cleared (unitAt bytes offset) capacity j →
        unitAt bytes' offset j = unitAt bytes offset j) := by
  have hunit := getElem?_unitsOfBytes_slice h' hj
  rw [hkept, keptOfText, unitsOfBytes_unitBytes] at hunit
  obtain ⟨hcleared, hnot⟩ := BoundedText.getElem?_raw_ofTerminated
    (length_unitsOfBytes (length_slice h)) (fun k hk => getElem?_unitsOfBytes_slice h hk) hj
  exact ⟨fun hc => Option.some.inj (hunit.symm.trans (hcleared hc)),
    fun hc => Option.some.inj (hunit.symm.trans (hnot hc))⟩

/-! ## Fields -/

namespace EventKind

/-- The kinds stand in the order of their tags. -/
theorem tag_getElem_all (i : Fin all.length) : all[i].tag.toNat = i := by
  revert i
  decide

/-- The tag that a kind was read from. -/
theorem tag_of_ofTag {tag : UInt32} {kind : EventKind} (h : ofTag tag = .ok kind) :
    kind.tag = tag := by
  rw [ofTag] at h
  cases hkind : all[tag.toNat]? with
  | none => rw [hkind] at h; cases h
  | some k =>
    rw [hkind] at h
    obtain rfl := Except.ok.inj h
    obtain ⟨hlt, hget⟩ := List.getElem?_eq_some_iff.mp hkind
    rw [← UInt32.toNat_inj, ← hget]
    exact tag_getElem_all ⟨tag.toNat, hlt⟩

/-- Tags up to the last one stand for a kind. -/
theorem ofTag_of_le {tag : UInt32} (h : tag.toNat ≤ 8) : ∃ kind, ofTag tag = .ok kind := by
  have hlt : tag.toNat < all.length := Nat.lt_succ_of_le h
  exact ⟨all[tag.toNat], by rw [ofTag, List.getElem?_eq_getElem hlt]⟩

/-- Greater tags stand for no kind, and are told. -/
theorem ofTag_of_lt {tag : UInt32} (h : 8 < tag.toNat) :
    ofTag tag = .error (.unknownEventKind tag) := by
  have hle : all.length ≤ tag.toNat := h
  rw [ofTag, List.getElem?_eq_none hle]

end EventKind

/-- A preview is made of all its bytes. -/
theorem Preview.bytes_ofBytes {bs : List UInt8} (h : bs.length = previewLength) :
    (ofBytes bs).bytes = bs := by
  show bs.take previewLength ++ List.replicate (previewLength - bs.length) 0 = bs
  rw [h, List.take_of_length_le (Nat.le_of_eq h), Nat.sub_self, List.replicate_zero,
    List.append_nil]

/-- The nine fields of a record, each with its offset and its size. -/
def fieldPlaces : List (Nat × Nat) :=
  [(0, 4), (4, 4), (processPathOffset, 2 * imagePathCapacity),
    (filePathOffset, 2 * targetPathCapacity),
    (bytesReadOffset, 8), (bytesWrittenOffset, 8), (timestampOffset, 8), (resultOffset, 4),
    (previewOffset, previewLength)]

/-- The two texts of a record, each with its offset and the number of its units. -/
def textPlaces : List (Nat × Nat) :=
  [(processPathOffset, imagePathCapacity), (filePathOffset, targetPathCapacity)]

/-- The fields follow one another from the first byte of a record to its last one. -/
theorem tile_fieldPlaces : Tile 0 fieldPlaces recordSize :=
  ⟨rfl, rfl, rfl, rfl, rfl, rfl, rfl, rfl, rfl, rfl⟩

/-- The texts of a record lie within it. -/
theorem text_le_recordSize {t : Nat × Nat} (h : t ∈ textPlaces) : t.1 + 2 * t.2 ≤ recordSize := by
  revert t
  decide

/-- The nine fields of a byte string. -/
def fieldsOf (bytes : List UInt8) : List (List UInt8) :=
  fieldPlaces.map fun p => slice bytes p.1 p.2

/-- A record is its fields, one behind the other. -/
theorem flatten_fieldsOf {bytes : List UInt8} (h : bytes.length = recordSize) :
    (fieldsOf bytes).flatten = bytes :=
  (Tile.flatten (h ▸ tile_fieldPlaces)).trans List.drop_zero

/-- The number that stands for the kind of a record. -/
def wireTag (bytes : List UInt8) : Nat := ofLittleEndian (slice bytes 0 4)

namespace EventRecord

variable {bytes : List UInt8} {r : EventRecord}

/-- A record made of nine fields. -/
def ofFields : List (List UInt8) → Except Error EventRecord
  | [tag, processId, processPath, filePath, bytesRead, bytesWritten, timestamp, result,
      preview] => do
    let kind ← EventKind.ofTag (ofLittleEndian tag).toUInt32
    return {
      kind
      processId := (ofLittleEndian processId).toUInt32
      processPath := .ofTerminated (unitsOfBytes processPath)
      filePath := .ofTerminated (unitsOfBytes filePath)
      bytesRead := (ofLittleEndian bytesRead).toUInt64
      bytesWritten := (ofLittleEndian bytesWritten).toUInt64
      timestamp := ⟨(ofLittleEndian timestamp).toUInt64⟩
      result := ⟨(ofLittleEndian result).toUInt32⟩
      preview := .ofBytes preview
    }
  | fields => .error (.malformedRecord recordSize fields.flatten.length)

/-- Reading looks at the nine fields and at nothing else. -/
theorem decode_eq_ofFields (h : bytes.length = recordSize) :
    decode bytes = ofFields (fieldsOf bytes) := by
  rw [decode, if_neg (not_not_intro h)]
  rfl

/-- The fields of a written record are where they are read. -/
theorem fieldsOf_encode (r : EventRecord) : fieldsOf r.encode = r.wireFields := by
  refine tile_fieldPlaces.map_slice ?_ ?_
  · rw [length_wireFields]
    rfl
  · rw [encode_eq_flatten, List.drop_zero]

/-- The tag of a byte string of the right length is a word. -/
theorem toNat_wireTag (h : bytes.length = recordSize) :
    (wireTag bytes).toUInt32.toNat = wireTag bytes := by
  refine UInt32.toNat_ofNat_of_lt' ?_
  have hsize : Nat.pow 256 4 = UInt32.size := rfl
  have hlen : (slice bytes 0 4).length = 4 := length_slice (by rw [h]; decide)
  rw [← hsize, ← hlen]
  exact ofLittleEndian_lt _

/-- A byte string of the right length is a record exactly if its tag stands for a kind. -/
theorem decode_cases (h : bytes.length = recordSize) :
    (∃ r, decode bytes = .ok r) ∧ wireTag bytes ≤ 8
      ∨ decode bytes = .error (.unknownEventKind (wireTag bytes).toUInt32) ∧ 8 < wireTag bytes := by
  have htag := toNat_wireTag h
  rw [decode, if_neg (not_not_intro h)]
  rcases Nat.lt_or_ge 8 (wireTag bytes) with hlt | hle
  · refine Or.inr ⟨?_, hlt⟩
    have hkind : EventKind.ofTag (wireTag bytes).toUInt32 = _ :=
      EventKind.ofTag_of_lt (by rwa [htag])
    rw [wireTag] at hkind
    rw [hkind]
    rfl
  · refine Or.inl ⟨?_, hle⟩
    obtain ⟨kind, hkind⟩ : ∃ kind, EventKind.ofTag (wireTag bytes).toUInt32 = .ok kind :=
      EventKind.ofTag_of_le (by rwa [htag])
    rw [wireTag] at hkind
    rw [hkind]
    exact ⟨_, rfl⟩

/-- The record of a kind that a byte string holds. -/
def readAs (kind : EventKind) (bytes : List UInt8) : EventRecord where
  kind := kind
  processId := (ofLittleEndian (slice bytes 4 4)).toUInt32
  processPath :=
    .ofTerminated (unitsOfBytes (slice bytes processPathOffset (2 * imagePathCapacity)))
  filePath := .ofTerminated (unitsOfBytes (slice bytes filePathOffset (2 * targetPathCapacity)))
  bytesRead := (ofLittleEndian (slice bytes bytesReadOffset 8)).toUInt64
  bytesWritten := (ofLittleEndian (slice bytes bytesWrittenOffset 8)).toUInt64
  timestamp := ⟨(ofLittleEndian (slice bytes timestampOffset 8)).toUInt64⟩
  result := ⟨(ofLittleEndian (slice bytes resultOffset 4)).toUInt32⟩
  preview := .ofBytes (slice bytes previewOffset previewLength)

/-- What can be decoded has the size of a record and a known tag, and is read by its kind. -/
theorem exists_kind_of_decode (h : decode bytes = .ok r) : bytes.length = recordSize
    ∧ ∃ kind, EventKind.ofTag (wireTag bytes).toUInt32 = .ok kind ∧ r = readAs kind bytes := by
  by_cases hlen : bytes.length = recordSize
  · rw [decode, if_neg (not_not_intro hlen)] at h
    cases hkind : EventKind.ofTag (ofLittleEndian (slice bytes 0 4)).toUInt32 with
    | error e => rw [hkind] at h; cases h
    | ok kind =>
      rw [hkind] at h
      exact ⟨hlen, kind, hkind, (Except.ok.inj h).symm⟩
  · rw [decode, if_pos hlen] at h
    cases h

/-- A record that was read consists of the fields of the bytes, as they are or as a text keeps
them. -/
theorem wireFields_of_decode (h : decode bytes = .ok r) : r.wireFields =
    [slice bytes 0 4, slice bytes 4 4,
      keptOfText imagePathCapacity (slice bytes processPathOffset (2 * imagePathCapacity)),
      keptOfText targetPathCapacity (slice bytes filePathOffset (2 * targetPathCapacity)),
      slice bytes bytesReadOffset 8, slice bytes bytesWrittenOffset 8,
        slice bytes timestampOffset 8,
      slice bytes resultOffset 4, slice bytes previewOffset previewLength] := by
  obtain ⟨hlen, kind, hkind, rfl⟩ := exists_kind_of_decode h
  have hsize : ∀ {offset size}, (offset, size) ∈ fieldPlaces →
      (slice bytes offset size).length = size :=
    fun hp => length_slice (hlen ▸ (tile_fieldPlaces.mem_range hp).2)
  simp only [wireFields, readAs, EventKind.tag_of_ofTag hkind]
  rw [wireTag, littleEndian_toUInt32 (hsize (by decide)), littleEndian_toUInt32 (hsize (by decide)),
    littleEndian_toUInt64 (hsize (by decide)), littleEndian_toUInt64 (hsize (by decide)),
    littleEndian_toUInt64 (hsize (by decide)), littleEndian_toUInt32 (hsize (by decide)),
    Preview.bytes_ofBytes (hsize (by decide))]
  rfl

/-! ## Records that are read and written again -/

/-- `bytes'` is `bytes` with every unit of a text cleared that the text does not keep. -/
structure Rewritten (bytes bytes' : List UInt8) : Prop where
  length_eq : bytes'.length = bytes.length
  /-- Fields that are no text are the same. -/
  plain : ∀ p ∈ fieldPlaces, (∀ t ∈ textPlaces, p ≠ (t.1, 2 * t.2)) →
    slice bytes' p.1 p.2 = slice bytes p.1 p.2
  /-- From the first zero on, and at the end, a text is zero. -/
  cleared : ∀ t ∈ textPlaces, ∀ j < t.2, Cleared (unitAt bytes t.1) t.2 j → unitAt bytes' t.1 j = 0
  /-- Before that it is the same. -/
  kept : ∀ t ∈ textPlaces, ∀ j < t.2, ¬ Cleared (unitAt bytes t.1) t.2 j →
    unitAt bytes' t.1 j = unitAt bytes t.1 j

/-- A text of `n` units that ends in a zero, and is zero from its first zero on. -/
def Terminated (unit : Nat → UInt16) (n : Nat) : Prop :=
  unit (n - 1) = 0 ∧ ∀ k j, k ≤ j → j < n → unit k = 0 → unit j = 0

/-- A text is terminated exactly if every unit that would be cleared is zero already. -/
theorem terminated_iff {unit : Nat → UInt16} {n : Nat} (hn : 0 < n) :
    Terminated unit n ↔ ∀ j < n, Cleared unit n j → unit j = 0 := by
  constructor
  · rintro ⟨hlast, hzero⟩ j hj (rfl | ⟨k, hk, hkz⟩)
    · exact hlast
    · exact hzero k j hk hj hkz
  · intro h
    exact ⟨h (n - 1) (by omega) (Or.inl (by omega)), fun k j hk hj hkz => h j hj
      (Or.inr ⟨k, hk, hkz⟩)⟩

/-- **A record that is read and written again** is the same but for what its texts do not keep. -/
theorem rewritten_encode (h : decode bytes = .ok r) : Rewritten bytes r.encode := by
  have hlen := (exists_kind_of_decode h).1
  have hslices := r.fieldsOf_encode.trans (wireFields_of_decode h)
  simp only [fieldsOf, fieldPlaces, List.map_cons, List.map_nil, List.cons.injEq,
    and_true] at hslices
  obtain ⟨htag, hpid, himage, htarget, hread, hwritten, htime, hresult, hpreview⟩ := hslices
  have htext : ∀ t ∈ textPlaces,
      slice r.encode t.1 (2 * t.2) = keptOfText t.2 (slice bytes t.1 (2 * t.2)) := by
    intro t ht
    simp only [textPlaces, List.mem_cons, List.not_mem_nil, or_false] at ht
    rcases ht with rfl | rfl
    · exact himage
    · exact htarget
  have hunits : ∀ t ∈ textPlaces, ∀ j < t.2, _ := fun t ht j hj =>
    unitAt_of_slice_eq_keptOfText (hlen ▸ text_le_recordSize ht)
      (r.length_encode ▸ text_le_recordSize ht) (htext t ht) hj
  refine ⟨by rw [r.length_encode, hlen], fun p hp hplain => ?_,
    fun t ht j hj => (hunits t ht j hj).1, fun t ht j hj => (hunits t ht j hj).2⟩
  simp only [fieldPlaces, List.mem_cons, List.not_mem_nil, or_false] at hp
  rcases hp with rfl | rfl | rfl | rfl | rfl | rfl | rfl | rfl | rfl
  · exact htag
  · exact hpid
  · exact absurd rfl (hplain (processPathOffset, imagePathCapacity) (by decide))
  · exact absurd rfl (hplain (filePathOffset, targetPathCapacity) (by decide))
  · exact hread
  · exact hwritten
  · exact htime
  · exact hresult
  · exact hpreview

/-- A field is a text or none. -/
theorem plain_or_text (p : Nat × Nat) :
    (∀ t ∈ textPlaces, p ≠ (t.1, 2 * t.2)) ∨ ∃ t ∈ textPlaces, p = (t.1, 2 * t.2) := by
  by_cases h : ∃ t ∈ textPlaces, p = (t.1, 2 * t.2)
  · exact Or.inr h
  · exact Or.inl fun t ht heq => h ⟨t, ht, heq⟩

/-- A record is written as it was read exactly if its texts are terminated. -/
theorem encode_eq_iff (h : decode bytes = .ok r) :
    r.encode = bytes ↔ ∀ t ∈ textPlaces, Terminated (unitAt bytes t.1) t.2 := by
  have hre := rewritten_encode h
  have hpos : ∀ t ∈ textPlaces, 0 < t.2 := by decide
  have hlen := (exists_kind_of_decode h).1
  constructor
  · intro heq t ht
    rw [terminated_iff (hpos t ht)]
    intro j hj hcleared
    have hzero := hre.cleared t ht j hj hcleared
    rwa [heq] at hzero
  · intro hterm
    -- two byte strings with the same fields are the same
    have hsame : fieldsOf r.encode = fieldsOf bytes := by
      refine List.map_congr_left fun p hp => ?_
      rcases plain_or_text p with hplain | ⟨t, ht, rfl⟩
      · exact hre.plain p hp hplain
      · refine slice_eq_of_unitAt (r.length_encode ▸ text_le_recordSize ht)
          (hlen ▸ text_le_recordSize ht) fun j hj => ?_
        by_cases hcleared : Cleared (unitAt bytes t.1) t.2 j
        · rw [hre.cleared t ht j hj hcleared]
          exact ((terminated_iff (hpos t ht)).mp (hterm t ht) j hj hcleared).symm
        · exact hre.kept t ht j hj hcleared
    rw [← flatten_fieldsOf r.length_encode, hsame, flatten_fieldsOf hlen]

/-- The texts of a record that was read have no zero unit. -/
theorem zeroFree_of_decode (h : decode bytes = .ok r) : r.ZeroFree := by
  obtain ⟨-, kind, -, rfl⟩ := exists_kind_of_decode h
  exact ⟨BoundedText.zero_notMem_ofTerminated _, BoundedText.zero_notMem_ofTerminated _⟩

/-- What is true of a byte string as the wire form of a record. -/
structure WireForm (bytes : List UInt8) : Prop where
  /-- It is a record exactly if it has the length of one and its tag is at most eight. -/
  ok_iff : (∃ r, decode bytes = .ok r) ↔ bytes.length = 3124 ∧ wireTag bytes ≤ 8
  /-- The length is looked at first, -/
  malformed : bytes.length ≠ 3124 → decode bytes = .error (.malformedRecord 3124 bytes.length)
  /-- and then the tag. -/
  unknown : bytes.length = 3124 → 8 < wireTag bytes →
    decode bytes = .error (.unknownEventKind (wireTag bytes).toUInt32)
  /-- Nothing but the nine fields is read; each of them is there as a whole, and they are all
  there is. -/
  fields : bytes.length = 3124 → decode bytes = ofFields (fieldsOf bytes)
    ∧ (∀ p ∈ fieldPlaces, (slice bytes p.1 p.2).length = p.2) ∧ (fieldsOf bytes).flatten = bytes
  /-- Writing what was read gives the bytes back, but for what texts do not keep. -/
  rewritten : ∀ r, decode bytes = .ok r → Rewritten bytes r.encode
  encode_eq : ∀ r, decode bytes = .ok r →
    (r.encode = bytes ↔ ∀ t ∈ textPlaces, Terminated (unitAt bytes t.1) t.2)
  /-- Reading what was written so gives the record back, -/
  decode_encode : ∀ r, decode bytes = .ok r → decode r.encode = .ok r
  /-- and writing it once more changes nothing. -/
  idempotent : ∀ r r', decode bytes = .ok r → decode r.encode = .ok r' → r'.encode = r.encode

/-- **The wire form of records.**  The nine fields lie one behind the other and fill the 3124
bytes of a record, each byte being in exactly one of them; and every byte string is read as the
form says. -/
theorem wire_form :
    fieldPlaces.length = 9 ∧ Tile 0 fieldPlaces 3124
      ∧ (∀ i < 3124, ∃! p, p ∈ fieldPlaces ∧ p.1 ≤ i ∧ i < p.1 + p.2)
      ∧ ∀ bytes, WireForm bytes := by
  refine ⟨rfl, tile_fieldPlaces, fun i hi => tile_fieldPlaces.existsUnique (Nat.zero_le i) hi, ?_⟩
  intro bytes
  constructor
  case ok_iff =>
    constructor
    · rintro ⟨r, h⟩
      have hlen := (exists_kind_of_decode h).1
      rcases decode_cases hlen with ⟨-, hle⟩ | ⟨herror, -⟩
      · exact ⟨hlen, hle⟩
      · cases h.symm.trans herror
    · rintro ⟨hlen, hle⟩
      rcases decode_cases hlen with ⟨hok, -⟩ | ⟨-, hlt⟩
      · exact hok
      · exact absurd hle (Nat.not_le.mpr hlt)
  case malformed => exact fun hlen => if_pos hlen
  case unknown =>
    intro hlen hlt
    rcases decode_cases hlen with ⟨-, hle⟩ | ⟨herror, -⟩
    · exact absurd hle (Nat.not_le.mpr hlt)
    · exact herror
  case fields =>
    intro hlen
    exact ⟨decode_eq_ofFields hlen, fun p hp => length_slice
      (hlen ▸ (tile_fieldPlaces.mem_range hp).2), flatten_fieldsOf hlen⟩
  case rewritten => exact fun r h => rewritten_encode h
  case encode_eq => exact fun r h => encode_eq_iff h
  case decode_encode => exact fun r h => r.decode_encode_eq_self_iff.mpr (zeroFree_of_decode h)
  case idempotent =>
    intro r r' h h'
    rw [r.decode_encode_eq_self_iff.mpr (zeroFree_of_decode h)] at h'
    rw [Except.ok.inj h']

end EventRecord

end FileActivity
