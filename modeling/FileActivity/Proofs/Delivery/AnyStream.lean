/-
# Reading any stream

Whoever reads a stream takes it record by record, until there are as many records as were asked
for, or the stream ends, or the next bytes are no record.  Nothing is assumed about who wrote
the stream: it may break off inside a record, and any tag may stand where a record begins.  In
which portions it arrives makes no difference.

Main statement: `Program.consume_any_stream`.
-/
import FileActivity.Proofs.Delivery.Printing
import FileActivity.Proofs.Record.Lines
import FileActivity.Proofs.Record.WireForm

namespace FileActivity

variable {bytes : List UInt8} {count : Option Nat}

/-! ## The records of a stream by number -/

/-- The number of whole records that a stream has room for. -/
def wholeRecords (bytes : List UInt8) : Nat := bytes.length / recordSize

/-- The bytes at the place of a record of a stream. -/
def recordBytes (bytes : List UInt8) (i : Nat) : List UInt8 :=
  slice bytes (i * recordSize) recordSize

/-- The number of the first whole record whose tag stands for no kind. -/
def firstUnknown (bytes : List UInt8) : Option Nat :=
  (List.range (wholeRecords bytes)).find? fun i => 8 < wireTag (recordBytes bytes i)

/-- A whole record in front of a stream is one more whole record. -/
theorem wholeRecords_append {piece : List UInt8} (h : piece.length = recordSize)
    (bytes : List UInt8) : wholeRecords (piece ++ bytes) = wholeRecords bytes + 1 := by
  rw [wholeRecords, List.length_append, h, Nat.add_comm, Nat.add_div_right _ recordSize_pos,
    wholeRecords]

/-- The record in front of a stream is the first one of the longer stream. -/
theorem recordBytes_append_zero {piece : List UInt8} (h : piece.length = recordSize)
    (bytes : List UInt8) : recordBytes (piece ++ bytes) 0 = piece := by
  rw [recordBytes, Nat.zero_mul, slice, List.drop_zero, ← h, List.take_left]

/-- Behind a record in front of it a stream goes on as before. -/
theorem recordBytes_append_succ {piece : List UInt8} (h : piece.length = recordSize)
    (bytes : List UInt8) (i : Nat) :
    recordBytes (piece ++ bytes) (i + 1) = recordBytes bytes i := by
  have hplace : (i + 1) * recordSize = piece.length + i * recordSize := by
    rw [Nat.succ_mul, h, Nat.add_comm]
  rw [recordBytes, slice, hplace, List.drop_append, List.drop_of_length_le (Nat.le_add_right _ _),
    List.nil_append, Nat.add_sub_cancel_left, recordBytes, slice]

/-- A whole record has the size of a record. -/
theorem length_recordBytes {i : Nat} (h : i < wholeRecords bytes) :
    (recordBytes bytes i).length = recordSize := by
  have hend : (i + 1) * recordSize ≤ bytes.length := (Nat.le_div_iff_mul_le recordSize_pos).mp h
  exact length_slice (by rwa [← Nat.succ_mul])

/-- The first unknown record has an unknown tag, and every record before it a known one. -/
theorem firstUnknown_eq_some_iff {j : Nat} : firstUnknown bytes = some j
    ↔ j < wholeRecords bytes ∧ 8 < wireTag (recordBytes bytes j)
      ∧ ∀ i < j, wireTag (recordBytes bytes i) ≤ 8 := by
  rw [firstUnknown, List.find?_range_eq_some]
  simp only [decide_eq_true_eq, List.mem_range, Bool.not_eq_true', decide_eq_false_iff_not,
    Nat.not_lt]
  exact and_left_comm

/-! ## All records -/

/-- Why no more is read after `k` records, and what comes of it. -/
inductive Stops (count : Option Nat) (bytes : List UInt8) (k : Nat) : Except Error Unit → Prop where
  /-- No more were asked for. -/
  | enough (asked : count = some k) : Stops count bytes k (.ok ())
  /-- There is no other whole record. -/
  | ended (last : k = wholeRecords bytes) : Stops count bytes k (.ok ())
  /-- The next whole record has an unknown tag. -/
  | unknown {tag : UInt32} (asked : count ≠ some k) (next : k < wholeRecords bytes)
      (tag_eq : tag.toNat = wireTag (recordBytes bytes k)) (unknown : 8 < tag.toNat) :
    Stops count bytes k (.error (.unknownEventKind tag))

/-- Records that were read from the beginning of a stream on, and how that ended. -/
structure Reads (count : Option Nat) (bytes : List UInt8) (rs : List EventRecord)
    (outcome : Except Error Unit) : Prop where
  decoded : ∀ i r, rs[i]? = some r → EventRecord.decode (recordBytes bytes i) = .ok r
  asked : ∀ n, count = some n → rs.length ≤ n
  whole : rs.length ≤ wholeRecords bytes
  stops : Stops count bytes rs.length outcome

namespace Reads

variable {rs : List EventRecord} {outcome : Except Error Unit} {piece : List UInt8}

/-- Nothing is read where nothing is asked for, -/
theorem of_zero (bytes : List UInt8) : Reads (some 0) bytes [] (.ok ()) where
  decoded := nofun
  asked := fun _ _ => Nat.zero_le _
  whole := Nat.zero_le _
  stops := .enough rfl

/-- where there is no whole record, -/
theorem of_short (h : bytes.length < recordSize) (count : Option Nat) :
    Reads count bytes [] (.ok ()) where
  decoded := nofun
  asked := fun _ _ => Nat.zero_le _
  whole := Nat.zero_le _
  stops := .ended (Nat.div_eq_of_lt h).symm

/-- or where the first one has an unknown tag. -/
theorem of_unknown (hpiece : piece.length = recordSize) (hcount : count ≠ some 0) {tag : UInt32}
    (htag : tag.toNat = wireTag piece) (hunknown : 8 < tag.toNat) (bytes : List UInt8) :
    Reads count (piece ++ bytes) [] (.error (.unknownEventKind tag)) where
  decoded := nofun
  asked := fun _ _ => Nat.zero_le _
  whole := Nat.zero_le _
  stops := by
    refine .unknown hcount ?_ ?_ hunknown
    · rw [wholeRecords_append hpiece]
      exact Nat.succ_pos _
    · rw [List.length_nil, recordBytes_append_zero hpiece, htag]

/-- One more record in front is read before the others. -/
theorem cons (hpiece : piece.length = recordSize) (hcount : count ≠ some 0) {r : EventRecord}
    (hdecode : EventRecord.decode piece = .ok r) (h : Reads (count.map (· - 1)) bytes rs outcome) :
    Reads count (piece ++ bytes) (r :: rs) outcome where
  decoded := by
    intro i r' hget
    cases i with
    | zero =>
      cases hget
      rw [recordBytes_append_zero hpiece, hdecode]
    | succ i =>
      rw [recordBytes_append_succ hpiece]
      exact h.decoded i r' hget
  asked := by
    rintro n rfl
    have hrest := h.asked (n - 1) rfl
    have hn : n ≠ 0 := fun hn => hcount (congrArg some hn)
    rw [List.length_cons]
    omega
  whole := by
    rw [wholeRecords_append hpiece, List.length_cons]
    exact Nat.succ_le_succ h.whole
  stops := by
    have hstops := h.stops
    rw [List.length_cons]
    cases hstops with
    | enough asked =>
      obtain ⟨n, rfl, hn⟩ := Option.map_eq_some_iff.mp asked
      have hpos : n ≠ 0 := fun hn => hcount (congrArg some hn)
      exact .enough (congrArg some (by omega))
    | ended last => exact .ended (by rw [wholeRecords_append hpiece, last])
    | unknown asked next tag_eq unknown =>
      refine .unknown (fun heq => asked ?_) ?_ ?_ unknown
      · rw [heq, Option.map_some, Nat.add_sub_cancel]
      · rw [wholeRecords_append hpiece]
        exact Nat.succ_lt_succ next
      · rw [recordBytes_append_succ hpiece, tag_eq]

end Reads

/-- **A stream is read record by record**, until one of the three reasons to stop is there. -/
theorem reads_readStream (count : Option Nat) (bytes : List UInt8) :
    Reads count bytes (readStream count bytes).1 (readStream count bytes).2 := by
  induction bytes using window_induction recordSize_pos generalizing count with
  | nil =>
    rw [readStream_nil]
    have hnothing : ([] : List UInt8).length < recordSize := recordSize_pos
    exact .of_short hnothing count
  | more bytes _ ih =>
    by_cases hcount : count = some 0
    · rw [hcount, readStream_some_zero]
      exact .of_zero bytes
    rcases Nat.lt_or_ge bytes.length recordSize with hshort | hlong
    · rw [readStream_of_length_lt hshort]
      exact .of_short hshort count
    have hpiece : (bytes.take recordSize).length = recordSize := List.length_take_of_le hlong
    have hstep := readStream_append hpiece hcount (bytes.drop recordSize)
    have hreads := ih (count.map (· - 1))
    rw [← List.take_append_drop recordSize bytes]
    rcases EventRecord.decode_cases hpiece with ⟨⟨r, hdecode⟩, -⟩ | ⟨hdecode, hunknown⟩
    · rw [hdecode] at hstep
      rw [hstep]
      exact hreads.cons hpiece hcount hdecode
    · have htag := EventRecord.toNat_wireTag hpiece
      rw [hdecode] at hstep
      rw [hstep]
      exact .of_unknown hpiece hcount htag (by rwa [htag]) _

/-! ## How many records, and how it ends -/

/-- The number of records that are read of a stream: as many as are whole, and asked for, and in
front of the first one with an unknown tag. -/
def shownCount (count : Option Nat) (bytes : List UInt8) : Nat :=
  min (wholeRecords bytes) (min (count.getD (wholeRecords bytes))
    ((firstUnknown bytes).getD (wholeRecords bytes)))

namespace Reads

variable {rs : List EventRecord} {outcome : Except Error Unit}

/-- The tags of records that were read stand for kinds. -/
theorem tag_le (h : Reads count bytes rs outcome) {i : Nat} (hi : i < rs.length) :
    wireTag (recordBytes bytes i) ≤ 8 := by
  have hlen := length_recordBytes (Nat.lt_of_lt_of_le hi h.whole)
  rcases EventRecord.decode_cases hlen with ⟨-, hle⟩ | ⟨herror, -⟩
  · exact hle
  · cases (h.decoded i rs[i] (List.getElem?_eq_getElem hi)).symm.trans herror

/-- No record from the first unknown tag on was read. -/
theorem length_le_of_firstUnknown (h : Reads count bytes rs outcome) {j : Nat}
    (hj : firstUnknown bytes = some j) : rs.length ≤ j := by
  obtain ⟨-, hunknown, -⟩ := firstUnknown_eq_some_iff.mp hj
  exact Nat.not_lt.mp fun hlt => Nat.not_lt.mpr (h.tag_le hlt) hunknown

/-- Reading shows as many records as are whole, asked for, and in front of an unknown one. -/
theorem length_eq (h : Reads count bytes rs outcome) : rs.length = shownCount count bytes := by
  have hwhole := h.whole
  have hasked : rs.length ≤ count.getD (wholeRecords bytes) := by
    cases hcount : count with
    | none => exact hwhole
    | some n => exact h.asked n hcount
  have hunknown : rs.length ≤ (firstUnknown bytes).getD (wholeRecords bytes) := by
    cases hj : firstUnknown bytes with
    | none => exact hwhole
    | some j => exact h.length_le_of_firstUnknown hj
  rw [shownCount]
  -- each reason to stop is one of the three bounds
  cases h.stops with
  | enough asked => simp only [asked, Option.getD_some] at hasked ⊢; omega
  | ended last => omega
  | unknown asked next tag_eq unknown =>
    have hfirst : firstUnknown bytes = some rs.length :=
      firstUnknown_eq_some_iff.mpr ⟨next, tag_eq ▸ unknown, fun _ => h.tag_le⟩
    simp only [hfirst, Option.getD_some]
    omega

/-- **Reading fails exactly at an unknown tag** that is reached before enough records were read. -/
theorem fails_iff (h : Reads count bytes rs outcome) : (∃ e, outcome = .error e)
    ↔ firstUnknown bytes = some rs.length ∧ rs.length < wholeRecords bytes ∧ ∀ n, count = some n →
      rs.length < n := by
  constructor
  · rintro ⟨e, rfl⟩
    cases h.stops with
    | unknown asked next tag_eq unknown =>
      refine ⟨firstUnknown_eq_some_iff.mpr ⟨next, tag_eq ▸ unknown, fun _ => h.tag_le⟩,
        next, fun n hn => ?_⟩
      exact Nat.lt_of_le_of_ne (h.asked n hn) fun heq => asked (heq ▸ hn)
  · rintro ⟨hfirst, hroom, hmore⟩
    cases h.stops with
    | enough asked => exact absurd (hmore _ asked) (Nat.lt_irrefl _)
    | ended last => exact absurd hroom (Nat.not_lt.mpr (Nat.le_of_eq last.symm))
    | unknown asked next tag_eq unknown => exact ⟨_, rfl⟩

/-- Reading fails only at a tag that is unknown, and says which one it is. -/
theorem error_eq {e : Error} (h : Reads count bytes rs (.error e)) :
    ∃ tag : UInt32, tag.toNat = wireTag (recordBytes bytes rs.length)
      ∧ e = .unknownEventKind tag := by
  cases h.stops with
  | unknown asked next tag_eq unknown => exact ⟨_, tag_eq, rfl⟩

end Reads

/-! ## Arriving in portions -/

/-- Waits until so many bytes have arrived, in portions of any size, and takes them; the stream
may end before. -/
def readExact (size : Nat) : List (List UInt8) → Option (List UInt8 × List (List UInt8))
  | [] => if size = 0 then some ([], []) else none
  | portion :: arriving =>
    if size ≤ portion.length then some (portion.take size, portion.drop size :: arriving)
    else (readExact (size - portion.length) arriving).map fun (taken, left) =>
      (portion ++ taken, left)

/-- What is taken and what is left is what arrives. -/
theorem flatten_of_readExact {size : Nat} {arriving left : List (List UInt8)} {taken : List UInt8}
    (h : readExact size arriving = some (taken, left)) :
    arriving.flatten = taken ++ left.flatten ∧ taken.length = size := by
  induction arriving generalizing size taken with
  | nil =>
    rw [readExact] at h
    split at h
    · next hzero =>
      cases h
      exact ⟨rfl, hzero.symm⟩
    · cases h
  | cons portion arriving ih =>
    rw [readExact] at h
    split at h
    · next hle =>
      cases h
      refine ⟨?_, List.length_take_of_le hle⟩
      rw [List.flatten_cons, List.flatten_cons, ← List.append_assoc, List.take_append_drop]
    · next hlt =>
      obtain ⟨⟨taken', left'⟩, hrest, heq⟩ := Option.map_eq_some_iff.mp h
      cases heq
      obtain ⟨hflatten, hlength⟩ := ih hrest
      refine ⟨by rw [List.flatten_cons, hflatten, List.append_assoc], ?_⟩
      rw [List.length_append, hlength]
      omega

/-- There are too few bytes for a reader exactly if all that arrives together is too short. -/
theorem readExact_eq_none_iff {size : Nat} {arriving : List (List UInt8)} :
    readExact size arriving = none ↔ arriving.flatten.length < size := by
  induction arriving generalizing size with
  | nil =>
    rw [readExact, List.flatten_nil, List.length_nil, Nat.pos_iff_ne_zero]
    split
    · next hzero => simp [hzero]
    · next hne => simp [hne]
  | cons portion arriving ih =>
    rw [readExact, List.flatten_cons, List.length_append]
    split
    · next hle => simp; omega
    · next hlt => rw [Option.map_eq_none_iff, ih]; omega

/-- Reads and prints record by record, `seen` of which have been printed before: as long as more
are asked for, waits for the bytes of one record, takes them for a record, and prints its
line. -/
def Program.printArriving (count : Option Nat) (seen : Nat) (arriving : List (List UInt8)) :
    String × Except Error Unit :=
  if count.all fun n => seen < n then
    match _h : readExact recordSize arriving with
    | none => ("", .ok ())
    | some (taken, left) =>
      match EventRecord.decode taken with
      | .error e => ("", .error e)
      | .ok r =>
        let (printed, outcome) := printArriving count (seen + 1) left
        (r.line ++ "\n" ++ printed, outcome)
  else ("", .ok ())
termination_by arriving.flatten.length
decreasing_by
  obtain ⟨hflatten, hlength⟩ := flatten_of_readExact _h
  have hpos := recordSize_pos
  rw [hflatten, List.length_append]
  omega

/-- As long as fewer records were seen than are asked for, more are asked for. -/
theorem map_sub_ne_zero {seen : Nat} (h : count.all (fun n => seen < n) = true) :
    count.map (· - seen) ≠ some 0 := by
  cases count with
  | none => exact nofun
  | some n =>
    have hlt : seen < n := by simpa using h
    rw [Option.map_some, ne_eq, Option.some.injEq]
    omega

/-- **The portions make no difference**: what is printed as a stream arrives is what is printed
of all of it. -/
theorem Program.printArriving_eq (count : Option Nat) (seen : Nat) (arriving : List (List UInt8)) :
    printArriving count seen arriving
      = (printLines (readStream (count.map (· - seen)) arriving.flatten).1,
        (readStream (count.map (· - seen)) arriving.flatten).2) := by
  fun_induction printArriving count seen arriving with
  | case1 seen arriving _ hnone =>
    rw [readStream_of_length_lt (readExact_eq_none_iff.mp hnone)]
    rfl
  | case2 seen arriving hmore taken left hread e hdecode =>
    obtain ⟨hflatten, hlength⟩ := flatten_of_readExact hread
    rw [hflatten, readStream_append hlength (map_sub_ne_zero hmore), hdecode]
    rfl
  | case3 seen arriving hmore taken left hread r hdecode printed outcome hrest ih =>
    obtain ⟨hflatten, hlength⟩ := flatten_of_readExact hread
    have hcount : (count.map (· - seen)).map (· - 1) = count.map (· - (seen + 1)) := by
      cases count <;> rfl
    rw [hrest] at ih
    obtain ⟨rfl, rfl⟩ := Prod.mk.inj ih
    rw [hflatten, readStream_append hlength (map_sub_ne_zero hmore), hdecode, hcount]
    dsimp only
    rw [printLines_cons]
  | case4 seen arriving hmore =>
    have hcount : count.map (· - seen) = some 0 := by
      cases count with
      | none => exact absurd rfl hmore
      | some n =>
        have hle : n ≤ seen := by simpa using hmore
        rw [Option.map_some, Nat.sub_eq_zero_of_le hle]
    rw [hcount, readStream_some_zero]
    rfl

/-! ## What is printed -/

/-- The consumer prints what the reader shows, and fails where the reader does. -/
theorem Program.consume_eq {h : Host} {p : Path} (hreceive : h.receive p = .ok bytes)
    (count : Option Nat) :
    consume h p count
      = (printLines (readStream count bytes).1, (readStream count bytes).2.mapError .agent) := by
  rw [consume, hreceive]

/-- **What is printed of any stream**, with `n` records asked for or all of them.

* The lines of the records from the first on are printed, each once and nothing else: as many as
  are whole, asked for, and in front of the first one with an unknown tag.
* It fails if that one comes next and more records are asked for, and says which tag it is;
  otherwise it does not fail, whatever follows.
* All that counts is which bytes arrive, and not in which portions. -/
theorem Program.consume_any_stream {h : Host} {p : Path} (hreceive : h.receive p = .ok bytes)
    (count : Option Nat) : ∃ shown : List EventRecord,
      shown.length = shownCount count bytes
      ∧ (∀ i r, shown[i]? = some r → EventRecord.decode (recordBytes bytes i) = .ok r)
      ∧ (consume h p count).1 = printLines shown
      ∧ (consume h p count).1.toList.splitOn '\n' = shown.map (·.line.toList) ++ [[]]
      ∧ ((∃ e, (consume h p count).2 = .error e)
          ↔ firstUnknown bytes = some (shownCount count bytes)
            ∧ shownCount count bytes < wholeRecords bytes
            ∧ ∀ n, count = some n → shownCount count bytes < n)
      ∧ (∀ e, (consume h p count).2 = .error e → ∃ tag : UInt32,
          tag.toNat = wireTag (recordBytes bytes (shownCount count bytes))
            ∧ e = .agent (.unknownEventKind tag))
      ∧ ∀ arriving : List (List UInt8), arriving.flatten = bytes →
          consume h p count = ((printArriving count 0 arriving).1,
            (printArriving count 0 arriving).2.mapError .agent)
 := by
  have hreads := reads_readStream count bytes
  have hlength := hreads.length_eq
  rw [consume_eq hreceive]
  refine ⟨(readStream count bytes).1, hlength, hreads.decoded, rfl, splitOn_printLines _, ?fails,
    ?error, ?portions⟩
  case fails =>
    rw [← hlength, ← hreads.fails_iff]
    dsimp only
    cases (readStream count bytes).2 with
    | error e => exact ⟨fun _ => ⟨e, rfl⟩, fun _ => ⟨_, rfl⟩⟩
    | ok => exact ⟨nofun, nofun⟩
  case error =>
    intro e he
    dsimp only at he
    rw [← hlength]
    cases hresult : (readStream count bytes).2 with
    | error e' =>
      rw [hresult] at he hreads
      obtain ⟨tag, htag, rfl⟩ := hreads.error_eq
      cases he
      exact ⟨tag, htag, rfl⟩
    | ok =>
      rw [hresult] at he
      cases he
  case portions =>
    rintro arriving rfl
    have hcount : count.map (· - 0) = count := by cases count <;> rfl
    rw [printArriving_eq, hcount]

/-- A record, as many bytes that are no record, and one byte more. -/
def hostileStream : List UInt8 :=
  EventRecord.encode default ++ (List.replicate recordSize 0xff ++ [0])

/-- The stream has two whole records, and the tag of the second one is unknown. -/
theorem firstUnknown_hostileStream :
    wholeRecords hostileStream = 2 ∧ firstUnknown hostileStream = some 1
    ∧ wireTag (recordBytes hostileStream 1) = 0xffffffff := by
  have hfirst : (EventRecord.encode default).length = recordSize := EventRecord.length_encode _
  have hsecond : (List.replicate recordSize (0xff : UInt8)).length = recordSize :=
    List.length_replicate
  have hwhole : wholeRecords hostileStream = 2 := by
    rw [hostileStream, wholeRecords_append hfirst, wholeRecords_append hsecond]
    rfl
  have htag : wireTag (recordBytes hostileStream 1) = 0xffffffff := by
    rw [hostileStream, recordBytes_append_succ hfirst, recordBytes_append_zero hsecond, wireTag,
      slice, List.drop_zero, List.take_replicate]
    rfl
  refine ⟨hwhole, firstUnknown_eq_some_iff.mpr ⟨?_, ?_, fun i hi => ?_⟩, htag⟩
  · rw [hwhole]
    exact Nat.one_lt_two
  · rw [htag]
    decide
  · rw [Nat.lt_one_iff.mp hi, hostileStream, recordBytes_append_zero hfirst]
    rcases EventRecord.decode_cases hfirst with ⟨-, hle⟩ | ⟨herror, -⟩
    · exact hle
    · cases (EventRecord.decode_encode default).symm.trans herror

/-- Whoever reads the hostile stream prints its record, and is told of the tag behind it. -/
theorem Program.consume_any_stream_hostile :
    (Host.serving hostileStream).receive Host.servingPath = .ok hostileStream
    ∧ shownCount none hostileStream = 1
    ∧ consume (Host.serving hostileStream) Host.servingPath none
      = (printLines [EventRecord.onWire default],
        .error (.agent (.unknownEventKind 0xffffffff))) := by
  have hreceive := Host.receive_serving hostileStream
  obtain ⟨hwhole, hfirst, htag⟩ := firstUnknown_hostileStream
  have hcount : shownCount none hostileStream = 1 := by
    rw [shownCount, hwhole, hfirst]
    rfl
  obtain ⟨shown, hlength, hdecoded, hprinted, -, hfails, herror, -⟩ :=
    consume_any_stream hreceive none
  rw [hcount] at hlength hfails herror
  refine ⟨hreceive, hcount, Prod.ext ?_ ?_⟩
  · obtain ⟨r, rfl⟩ := List.length_eq_one_iff.mp hlength
    have hdecode := hdecoded 0 r rfl
    rw [hostileStream, recordBytes_append_zero (EventRecord.length_encode _),
      EventRecord.decode_encode] at hdecode
    rw [hprinted, Except.ok.inj hdecode]
  · obtain ⟨e, he⟩ := hfails.mpr ⟨hfirst, hwhole ▸ Nat.one_lt_two, nofun⟩
    obtain ⟨tag, htag', rfl⟩ := herror e he
    rw [he, UInt32.toNat_inj.mp (htag'.trans htag : tag.toNat = (0xffffffff : UInt32).toNat)]

end FileActivity
