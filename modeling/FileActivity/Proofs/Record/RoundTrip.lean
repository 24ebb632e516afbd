/-
# What a record keeps on the wire

A record is written as nine fields one after another, and each of them is read back from the
place where it was written (`slice_encode`).  Integers and the preview come back as they were; a
text comes back up to its first zero unit, because the zero units behind a text are what ends it
on the wire.

Main statement: `decode_encode` — reading a written record gives the record whose two texts end
before their first zero unit.  Hence exactly the records without a zero unit in their texts are
read back unchanged (`decode_encode_eq_self_iff`), whatever they were made of.
-/
import FileActivity.Record.Report
import FileActivity.Record.Wire
import Mathlib.Data.List.TakeWhile

namespace FileActivity

/-! ## Reading integers and units back -/

/-- A 32-bit number is read back from its four bytes. -/
theorem toUInt32_ofLittleEndian_littleEndian (n : UInt32) :
    (ofLittleEndian (littleEndian 4 n.toNat)).toUInt32 = n := by
  rw [ofLittleEndian_littleEndian, Nat.mod_eq_of_lt (by have := n.toNat_lt; omega)]
  exact UInt32.ofNat_toNat

/-- A 64-bit number is read back from its eight bytes. -/
theorem toUInt64_ofLittleEndian_littleEndian (n : UInt64) :
    (ofLittleEndian (littleEndian 8 n.toNat)).toUInt64 = n := by
  rw [ofLittleEndian_littleEndian, Nat.mod_eq_of_lt (by have := n.toNat_lt; omega)]
  exact UInt64.ofNat_toNat

/-- Units are read back from their bytes. -/
theorem unitsOfBytes_unitBytes (units : List UInt16) : unitsOfBytes (unitBytes units) = units := by
  induction units with
  | nil => rfl
  | cons u us ih =>
    have hu : (ofLittleEndian (littleEndian 2 u.toNat)).toUInt16 = u := by
      rw [ofLittleEndian_littleEndian, Nat.mod_eq_of_lt (by have := u.toNat_lt; omega)]
      exact UInt16.ofNat_toNat
    show (ofLittleEndian (littleEndian 2 u.toNat)).toUInt16 :: unitsOfBytes (unitBytes us) = u :: us
    rw [hu, ih]

/-! ## Texts that end at a zero unit -/

namespace BoundedText

variable {capacity : Nat}

/-- The text before the first zero unit. -/
def beforeZero (t : BoundedText capacity) : BoundedText capacity :=
  ⟨t.units.takeWhile (· != 0), Nat.le_trans (List.takeWhile_prefix _).length_le t.length_le⟩

@[simp] theorem units_beforeZero (t : BoundedText capacity) :
    t.beforeZero.units = t.units.takeWhile (· != 0) := rfl

/-- A text loses nothing exactly if it has no zero unit. -/
theorem beforeZero_eq_self_iff (t : BoundedText capacity) : t.beforeZero = t ↔ 0 ∉ t.units := by
  constructor
  · intro h h0
    have hall := List.all_takeWhile (p := (· != 0)) (l := t.units)
    rw [← units_beforeZero, h, List.all_eq_true] at hall
    exact absurd (hall 0 h0) (by simp)
  · intro h
    ext1
    rw [units_beforeZero, List.takeWhile_eq_self_iff]
    intro u hu
    simpa using fun h0 : u = 0 => h (h0 ▸ hu)

/-- The zeros that fill a buffer up hold nothing. -/
theorem takeWhile_raw (t : BoundedText capacity) :
    t.raw.takeWhile (· != 0) = t.units.takeWhile (· != 0) := by
  rw [raw, List.takeWhile_append]
  split
  · rename_i h
    rw [(List.takeWhile_prefix _).eq_of_length h]
    simp
  · rfl

/-- Reading a whole buffer gives the text before its first zero unit. -/
theorem ofTerminated_raw (t : BoundedText capacity) : ofTerminated t.raw = t.beforeZero := by
  ext1
  rw [ofTerminated, units_ofUnits, takeWhile_raw, units_beforeZero]
  exact List.take_of_length_le (Nat.le_trans (List.takeWhile_prefix _).length_le t.length_le)

end BoundedText

/-- The bytes of a preview are all that a preview is made of. -/
theorem Preview.ofBytes_bytes (p : Preview) : Preview.ofBytes p.bytes = p := by
  ext1
  show p.bytes.take previewLength ++ List.replicate (previewLength - p.bytes.length) 0 = p.bytes
  rw [p.length_eq, List.take_of_length_le p.length_eq.le, Nat.sub_self, List.replicate_zero,
    List.append_nil]

/-! ## The nine fields -/

/-- A piece of a list of pieces is found behind the pieces before it. -/
theorem slice_flatten {pieces : List (List UInt8)} {i offset size : Nat} {piece : List UInt8}
    (hpiece : pieces[i]? = some piece) (hoffset : (pieces.take i).flatten.length = offset)
    (hsize : piece.length = size) : slice pieces.flatten offset size = piece := by
  subst hoffset hsize
  obtain ⟨h, rfl⟩ := List.getElem?_eq_some_iff.mp hpiece
  have hsplit : pieces.flatten
      = (pieces.take i).flatten ++ (pieces[i] ++ (pieces.drop (i + 1)).flatten) := by
    rw [← List.flatten_cons, ← List.drop_eq_getElem_cons h, ← List.flatten_append,
      List.take_append_drop]
  rw [slice, hsplit, List.drop_left, List.take_left]

namespace EventRecord

/-- The nine fields of a record, in the order of the wire. -/
def wireFields (r : EventRecord) : List (List UInt8) :=
  [littleEndian 4 r.kind.tag.toNat, littleEndian 4 r.processId.toNat, unitBytes r.processPath.raw,
    unitBytes r.filePath.raw, littleEndian 8 r.bytesRead.toNat, littleEndian 8 r.bytesWritten.toNat,
    littleEndian 8 r.timestamp.nanos.toNat, littleEndian 4 r.result.raw.toNat, r.preview.bytes]

/-- The sizes of the nine fields. -/
def fieldSizes : List Nat :=
  [4, 4, 2 * imagePathCapacity, 2 * targetPathCapacity, 8, 8, 8, 4, previewLength]

/-- A record is written field by field. -/
theorem encode_eq_flatten (r : EventRecord) : r.encode = r.wireFields.flatten := by
  simp [encode, wireFields]

/-- Every field has its size. -/
theorem length_wireFields (r : EventRecord) : r.wireFields.map List.length = fieldSizes := by
  simp [wireFields, fieldSizes, BoundedText.length_raw, r.preview.length_eq]

/-- **Each field is read where it was written.** -/
theorem slice_encode (r : EventRecord) {i offset size : Nat} {field : List UInt8}
    (hfield : r.wireFields[i]? = some field)
    (hoffset : (fieldSizes.take i).foldr (· + ·) 0 = offset) (hsize : fieldSizes[i]? = some size) :
    slice r.encode offset size = field := by
  rw [encode_eq_flatten]
  refine slice_flatten hfield ?_ ?_
  · rw [List.length_flatten, List.map_take, length_wireFields, List.sum_eq_foldr, hoffset]
  · rw [← length_wireFields, List.getElem?_map, hfield] at hsize
    simpa using hsize

/-! ## The round trip -/

/-- A record as the wire keeps it: each text ends before its first zero unit. -/
def onWire (r : EventRecord) : EventRecord :=
  { r with processPath := r.processPath.beforeZero, filePath := r.filePath.beforeZero }

/-- Neither text of a record has a zero unit. -/
def ZeroFree (r : EventRecord) : Prop := 0 ∉ r.processPath.units ∧ 0 ∉ r.filePath.units

instance (r : EventRecord) : Decidable r.ZeroFree :=
  inferInstanceAs (Decidable (_ ∧ _))

/-- A record comes off the wire as it was exactly if its texts have no zero. -/
theorem onWire_eq_self_iff (r : EventRecord) : r.onWire = r ↔ r.ZeroFree := by
  rw [ZeroFree, ← BoundedText.beforeZero_eq_self_iff, ← BoundedText.beforeZero_eq_self_iff]
  constructor
  · intro h
    exact ⟨congrArg processPath h, congrArg filePath h⟩
  · rintro ⟨hp, hf⟩
    rw [onWire, hp, hf]

/-- **Reading a written record gives it as the wire keeps it.** -/
theorem decode_encode (r : EventRecord) : decode r.encode = .ok r.onWire := by
  have hkind : slice r.encode 0 4 = littleEndian 4 r.kind.tag.toNat :=
    r.slice_encode (i := 0) rfl (by decide) (by decide)
  have hpid : slice r.encode 4 4 = littleEndian 4 r.processId.toNat :=
    r.slice_encode (i := 1) rfl (by decide) (by decide)
  have himage : slice r.encode processPathOffset (2 * imagePathCapacity)
      = unitBytes r.processPath.raw :=
    r.slice_encode (i := 2) rfl (by decide) (by decide)
  have htarget : slice r.encode filePathOffset (2 * targetPathCapacity)
      = unitBytes r.filePath.raw :=
    r.slice_encode (i := 3) rfl (by decide) (by decide)
  have hread : slice r.encode bytesReadOffset 8 = littleEndian 8 r.bytesRead.toNat :=
    r.slice_encode (i := 4) rfl (by decide) (by decide)
  have hwritten : slice r.encode bytesWrittenOffset 8 = littleEndian 8 r.bytesWritten.toNat :=
    r.slice_encode (i := 5) rfl (by decide) (by decide)
  have htime : slice r.encode timestampOffset 8 = littleEndian 8 r.timestamp.nanos.toNat :=
    r.slice_encode (i := 6) rfl (by decide) (by decide)
  have hresult : slice r.encode resultOffset 4 = littleEndian 4 r.result.raw.toNat :=
    r.slice_encode (i := 7) rfl (by decide) (by decide)
  have hpreview : slice r.encode previewOffset previewLength = r.preview.bytes :=
    r.slice_encode (i := 8) rfl (by decide) (by decide)
  -- what is left is that each field means what it was
  rw [decode, if_neg (by simp), hkind, hpid, himage, htarget, hread, hwritten, htime, hresult,
    hpreview]
  simp only [toUInt32_ofLittleEndian_littleEndian, toUInt64_ofLittleEndian_littleEndian,
    unitsOfBytes_unitBytes, BoundedText.ofTerminated_raw, Preview.ofBytes_bytes,
    EventKind.ofTag_tag]
  rfl

/-- Exactly the records without a zero unit in their texts are read back unchanged. -/
theorem decode_encode_eq_self_iff (r : EventRecord) : decode r.encode = .ok r ↔ r.ZeroFree := by
  rw [decode_encode, Except.ok.injEq, onWire_eq_self_iff]

end EventRecord

/-! ## Texts without a zero character -/

/-- Only the zero character has a zero unit. -/
theorem Utf16.eq_zero_of_zero_mem_encodeChar {c : Char} (h : 0 ∈ encodeChar c) : c = '\x00' := by
  have hc : c.toNat < 0x110000 := by
    have := c.valid
    simp only [UInt32.isValidChar, Nat.isValidChar] at this
    show c.val.toNat < 0x110000
    omega
  unfold encodeChar at h
  split at h
  · rw [List.mem_singleton, ← UInt16.toNat_inj] at h
    simp only [Nat.toUInt16, UInt16.toNat_ofNat', UInt16.toNat_zero] at h
    exact Char.toNat_inj.mp (show c.toNat = 0 by omega)
  · -- both halves of a surrogate pair are far above zero
    simp only [List.mem_cons, List.not_mem_nil, or_false, ← UInt16.toNat_inj, Nat.toUInt16,
      UInt16.toNat_ofNat', UInt16.toNat_zero] at h
    omega

/-- The bounded text of a string without a zero character has no zero unit. -/
theorem BoundedText.zero_notMem_ofString {capacity : Nat} {s : String} (h : '\x00' ∉ s.toList) :
    0 ∉ (ofString s : BoundedText capacity).units := by
  intro h0
  rw [ofString, units_ofUnits] at h0
  obtain ⟨c, hc, h0c⟩ := List.mem_flatMap.mp (List.mem_of_mem_take h0)
  exact h (Utf16.eq_zero_of_zero_mem_encodeChar h0c ▸ hc)

namespace FileName

/-- Collapsing runs of separators brings in no other character. -/
theorem mem_collapse {sep c : Char} {after : Bool} {cs : List Char}
    (h : c ∈ collapse sep after cs) : c = sep ∨ c ∈ cs := by
  induction cs generalizing after with
  | nil => simp [collapse] at h
  | cons d cs ih =>
    rw [collapse] at h
    split at h
    · split at h
      · exact (ih h).imp_right (List.mem_cons_of_mem d)
      · rcases List.mem_cons.mp h with rfl | h
        · exact Or.inl rfl
        · exact (ih h).imp_right (List.mem_cons_of_mem d)
    · rcases List.mem_cons.mp h with rfl | h
      · exact Or.inr List.mem_cons_self
      · exact (ih h).imp_right (List.mem_cons_of_mem d)

/-- Dropping the marker brings in no character. -/
theorem mem_of_mem_stripMarker {c : Char} {raw : List Char} (h : c ∈ stripMarker raw) :
    c ∈ raw := by
  unfold stripMarker at h
  split at h
  · exact List.mem_of_mem_take h
  · exact h

/-- A normalized name consists of separators and of characters of the raw name. -/
theorem mem_of_mem_normalize {c : Char} {raw : List Char} (h : c ∈ normalize raw) :
    c = '\\' ∨ c = '/' ∨ c ∈ raw := by
  have hcollapse : c ∈ collapse (separatorOf (stripMarker raw)) false (stripMarker raw) := by
    have hrev := (List.dropWhile_sublist _).mem (List.mem_reverse.mp h)
    exact List.mem_reverse.mp hrev
  rcases mem_collapse hcollapse with rfl | h
  · exact (separatorOf_eq (stripMarker raw)).imp_right Or.inl
  · exact Or.inr (Or.inr (mem_of_mem_stripMarker h))

/-- The name that was read is the normalized one. -/
theorem name_of_parse {raw : List Char} {n : FileName} (h : parse raw = .ok n) :
    n.name = normalize raw := by
  unfold parse at h
  dsimp only at h
  split at h
  · exact nomatch h
  · rw [← Except.ok.inj h, name, splitLast_append]

end FileName

/-- The resolved name of a target has no zero unit if its raw name has no zero character. -/
theorem NameSource.zero_notMem_resolve {source : NameSource} {target : TargetPath}
    (hraw : ∀ raw, source.query = .ok raw → '\x00' ∉ raw.toList)
    (h : source.resolve = .ok target) : 0 ∉ target.units := by
  unfold resolve at h
  cases hquery : source.query with
  | error e => rw [hquery] at h; exact nomatch h
  | ok raw =>
    cases hparse : FileName.parse raw.toList with
    | error e => simp [hquery, hparse, bind, Except.bind] at h
    | ok n =>
      simp only [hquery, hparse, bind, Except.bind, pure, Except.pure, Except.ok.injEq] at h
      rw [← h]
      apply BoundedText.zero_notMem_ofString
      rw [String.toList_ofList, FileName.name_of_parse hparse]
      intro h0
      rcases FileName.mem_of_mem_normalize h0 with h0 | h0 | h0
      · exact absurd h0 (by decide)
      · exact absurd h0 (by decide)
      · exact hraw raw hquery h0

/-! ## Records as they are made -/

/-- The texts of an event have no zero character. -/
def TelemetryEvent.ZeroFree : TelemetryEvent → Prop
  | processCreate _ _ image _ => '\x00' ∉ image.display.toList
  | shadowCopyDelete _ image commandLine =>
    '\x00' ∉ image.display.toList ∧ '\x00' ∉ commandLine.toList
  | registryChange _ key => '\x00' ∉ key.toList
  | networkConnect .. => True

namespace Reporter

/-- The image path of a process, if it is known, has no zero character. -/
def ZeroFreeImage (r : Reporter) (pid : ProcessId) : Prop :=
  ∀ path, r.processes.image pid = some path → '\x00' ∉ path.display.toList

/-- The raw name of an operation, if it has one, has no zero character. -/
def ZeroFreeName (op : Operation) : Prop :=
  ∀ raw, op.name.query = .ok raw → '\x00' ∉ raw.toList

/-- A record of an operation has no zero unit if the texts that it is made of have no zero
character. -/
theorem zeroFree_record (r : Reporter) (kind : EventKind) {op : Operation}
    (himage : r.ZeroFreeImage op.processId) (hname : ZeroFreeName op) :
    (r.record kind op).ZeroFree := by
  constructor
  · show 0 ∉ ((r.processes.resolve op.processId).toOption.getD .empty).units
    unfold ProcessTable.resolve ProcessTable.imagePath
    cases hpath : r.processes.image op.processId with
    | none => exact List.not_mem_nil
    | some path => exact BoundedText.zero_notMem_ofString (himage path hpath)
  · show 0 ∉ (op.name.resolve.toOption.getD .empty).units
    cases hresolve : op.name.resolve with
    | error e => exact List.not_mem_nil
    | ok target => exact NameSource.zero_notMem_resolve hname hresolve

/-- A record of an event has no zero unit if the texts that it is made of have no zero character. -/
theorem zeroFree_telemetryRecord (r : Reporter) {event : TelemetryEvent} {record : EventRecord}
    (himage : r.ZeroFreeImage event.processId) (hevent : event.ZeroFree)
    (h : r.telemetryRecord event = some record) : record.ZeroFree := by
  have hsignal : ∀ {kind pid image target}, '\x00' ∉ image.toList → '\x00' ∉ target.toList →
      (r.signal kind pid image target).ZeroFree :=
    fun hi ht => ⟨BoundedText.zero_notMem_ofString hi, BoundedText.zero_notMem_ofString ht⟩
  cases event with
  | processCreate pid parent image commandLine =>
    exact Option.some.inj h ▸ hsignal hevent hevent
  | shadowCopyDelete pid image commandLine => exact Option.some.inj h ▸ hsignal hevent.1 hevent.2
  | registryChange pid key =>
    refine Option.some.inj h ▸ hsignal ?_ hevent
    cases hpath : r.processes.image pid with
    | none => exact List.not_mem_nil
    | some path => exact himage path hpath
  | networkConnect pid remote => exact nomatch h

/-- **What is read back of a record as it was made.**  It is the record with each text cut
before its first zero unit; it is the same record exactly if there is no such unit, and there is
none unless a zero character stood in the image path of the process, in the raw name, or in a
text of the event. -/
theorem decode_encode_made (r : Reporter) :
    (∀ kind op,
      EventRecord.decode (r.record kind op).encode = .ok (r.record kind op).onWire
        ∧ (EventRecord.decode (r.record kind op).encode = .ok (r.record kind op)
            ↔ (r.record kind op).ZeroFree)
        ∧ (r.ZeroFreeImage op.processId → ZeroFreeName op → (r.record kind op).ZeroFree))
      ∧ ∀ event record, r.telemetryRecord event = some record →
        EventRecord.decode record.encode = .ok record.onWire
          ∧ (EventRecord.decode record.encode = .ok record ↔ record.ZeroFree)
          ∧ (r.ZeroFreeImage event.processId → event.ZeroFree → record.ZeroFree) := by
  constructor
  · intro kind op
    exact ⟨(r.record kind op).decode_encode, (r.record kind op).decode_encode_eq_self_iff,
      r.zeroFree_record kind⟩
  · intro event record h
    exact ⟨record.decode_encode, record.decode_encode_eq_self_iff,
      fun himage hevent => r.zeroFree_telemetryRecord himage hevent h⟩

/-- A file created by a process with a plain image path, and a registry key: both come back
whole. -/
theorem decode_encode_made_plain :
    let r : Reporter := ⟨.ofList [(7, .ofString "/bin/tar")], ⟨5⟩, 4096⟩
    let op : Operation :=
      { category := .create, processId := 7, name := .path (.ofString "/srv/a") }
    let key := r.signal .registryChange 7 "/bin/tar" "HKLM"
    EventRecord.decode (r.record .create op).encode = .ok (r.record .create op)
      ∧ EventRecord.decode key.encode = .ok key := by
  intro r op key
  have himage : r.ZeroFreeImage 7 := by
    intro path h
    cases h
    decide
  have hname : ZeroFreeName op := by
    intro raw h
    cases h
    decide
  have hkey : r.telemetryRecord (.registryChange 7 "HKLM") = some key := by rfl
  obtain ⟨hrecord, hevent⟩ := r.decode_encode_made
  have htext : '\x00' ∉ "HKLM".toList := by decide
  exact ⟨(hrecord .create op).2.1.mpr ((hrecord .create op).2.2 himage hname),
    (hevent _ key hkey).2.1.mpr ((hevent _ key hkey).2.2 himage htext)⟩

/-- A process whose image path is a zero byte creates a file whose name is one: the record does
not come back. -/
theorem decode_encode_zero_ne :
    let r : Reporter := ⟨.ofList [(1, ⟨[0]⟩)], ⟨0⟩, 4096⟩
    let op : Operation := { category := .create, processId := 1, name := .path ⟨[0]⟩ }
    EventRecord.decode (r.record .create op).encode ≠ .ok (r.record .create op) := by
  intro r op h
  have hzero := ((r.record .create op).decode_encode_eq_self_iff.mp h).1
  exact absurd hzero (by decide)

end Reporter

end FileActivity
