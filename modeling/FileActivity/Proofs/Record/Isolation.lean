/-
# What each field of a record depends on

A record is made of several answers: what the process table says, what the name resolves to, the
length, and the bytes that the preview looks at.  Each of them reaches its own field and no
other, so that two records agree in a field as soon as the answers behind that field agree,
whatever else differs; an answer that fails counts as an empty one.

Main statement: `fields_isolated`.
-/
import FileActivity.Record.Report

namespace FileActivity

/-! ## Answers -/

/-- The text of the answer to a lookup; any error counts as no text. -/
def answerText : Except Error Path → String
  | .ok path => path.display
  | .error _ => ""

/-- The table of what a lookup answers, whatever errors it fails with. -/
def ProcessTable.ofLookup (lookup : ProcessId → Except Error Path) : ProcessTable :=
  ⟨fun pid => (lookup pid).toOption⟩

/-- Asking a table made from a lookup is asking the lookup. -/
theorem ProcessTable.answerText_ofLookup (lookup : ProcessId → Except Error Path)
    (pid : ProcessId) : answerText ((ofLookup lookup).imagePath pid) = answerText (lookup pid) := by
  have himage : (ofLookup lookup).image pid = (lookup pid).toOption := rfl
  rw [imagePath, himage]
  cases lookup pid <;> rfl

/-- The normalized text of a name; one that is not found or is none counts as no text. -/
def NameSource.text (source : NameSource) : String :=
  match source.query with
  | .ok raw =>
    match FileName.parse raw.toList with
    | .ok name => String.ofList name.name
    | .error _ => ""
  | .error _ => ""

/-- The bytes of an operation that a preview with this budget looks at. -/
def Operation.seen (op : Operation) (budget : Nat) : List UInt8 :=
  (op.buffer.getD []).take (min op.length.toNat (min (op.buffer.getD []).length budget))

/-- The length of the operation and the budget cut the buffer one after the other. -/
theorem Operation.seen_eq_sample (op : Operation) (budget : Nat) :
    op.seen budget = Preview.sample (Reporter.visible op) budget := by
  rw [seen, Preview.sample, Reporter.visible, List.take_take, List.take_eq_take_iff]
  omega

/-- A byte is seen if neither the length of the operation nor the budget ends before it. -/
theorem Operation.getElem?_seen (op : Operation) (budget i : Nat) :
    (op.seen budget)[i]? = if i < min op.length.toNat budget then (op.buffer.getD [])[i]?
      else none := by
  rw [seen_eq_sample, Preview.sample, Reporter.visible, List.take_take, List.getElem?_take,
    Nat.min_comm]

/-- A preview is computed from what it looks at. -/
theorem Preview.compute_congr {buffer buffer' : List UInt8} {budget budget' : Nat}
    (h : sample buffer budget = sample buffer' budget') :
    compute buffer budget = compute buffer' budget' := by
  rw [compute, compute, h]

namespace Reporter

variable (r r' : Reporter) (kind kind' : EventKind) (op op' : Operation)

/-! ## Fields by their answers -/

/-- A record shows the image of the process that the operation names. -/
theorem processPath_record :
    (r.record kind op).processPath
      = .ofString (answerText (r.processes.imagePath op.processId)) := by
  show (r.processes.resolve op.processId).toOption.getD .empty = _
  rw [ProcessTable.resolve]
  cases r.processes.imagePath op.processId <;> rfl

/-- A record shows the name of the target. -/
theorem filePath_record : (r.record kind op).filePath = .ofString op.name.text := by
  show op.name.resolve.toOption.getD .empty = _
  rw [NameSource.resolve, NameSource.text]
  cases op.name.query with
  | error e => rfl
  | ok raw =>
    dsimp only [bind, Except.bind]
    cases FileName.parse raw.toList <;> rfl

/-- A change of the registry shows the image of the process that made it. -/
theorem processPath_registryChange (pid : ProcessId) (key : String) (record : EventRecord)
    (h : r.telemetryRecord (.registryChange pid key) = some record) :
    record.processPath = .ofString (answerText (r.processes.imagePath pid)) := by
  cases h
  show BoundedText.ofString ((r.processes.image pid).getD .empty).display = _
  rw [ProcessTable.imagePath]
  cases r.processes.image pid <;> rfl

/-- Only what is written has a preview. -/
theorem preview_of_ne_write (h : kind ≠ .write) : r.preview kind op = .zeroed := if_neg h

theorem preview_write : r.preview .write op = Preview.compute (visible op) r.previewBudget := rfl

/-- The preview of a write depends on what is seen of it only. -/
theorem preview_write_congr (h : op.seen r.previewBudget = op'.seen r'.previewBudget) :
    r.preview .write op = r'.preview .write op' := by
  rw [Operation.seen_eq_sample, Operation.seen_eq_sample] at h
  rw [preview_write, preview_write, Preview.compute_congr h]

/-- What is not seen of a buffer does not matter. -/
theorem preview_setBuffer (buffer : Option (List UInt8))
    (h : ∀ i < min op.length.toNat r.previewBudget,
      (buffer.getD [])[i]? = (op.buffer.getD [])[i]?) :
    r.preview kind { op with buffer := buffer } = r.preview kind op := by
  by_cases hkind : kind = .write
  · rw [hkind]
    apply preview_write_congr
    apply List.ext_getElem?
    intro i
    rw [Operation.getElem?_seen, Operation.getElem?_seen]
    split
    · next hi => exact h i hi
    · rfl
  · rw [preview_of_ne_write r kind _ hkind, preview_of_ne_write r kind _ hkind]

/-! ## Isolation -/

/-- Two records agree in each field whose answers agree. -/
structure AgreeByField : Prop where
  processPath : answerText (r.processes.imagePath op.processId)
    = answerText (r'.processes.imagePath op'.processId) →
    (r.record kind op).processPath = (r'.record kind' op').processPath
  filePath : op.name.text = op'.name.text →
    (r.record kind op).filePath = (r'.record kind' op').filePath
  byteCounts : kind = kind' → op.length = op'.length →
    (r.record kind op).bytesRead = (r'.record kind' op').bytesRead
      ∧ (r.record kind op).bytesWritten = (r'.record kind' op').bytesWritten
  preview : kind = .write → kind' = .write → op.seen r.previewBudget = op'.seen r'.previewBudget →
    (r.record kind op).preview = (r'.record kind' op').preview

/-- An answer that is replaced, by one that fails or any other, changes its own field and
nothing else. -/
structure FramedByField : Prop where
  lookup : ∀ lookup : ProcessId → Except Error Path,
    { r with processes := .ofLookup lookup }.record kind op
      = { r.record kind op with processPath := .ofString (answerText (lookup op.processId)) }
  name : ∀ name, r.record kind { op with name := name }
    = { r.record kind op with filePath := .ofString name.text }
  buffer : ∀ buffer, (∀ i < min op.length.toNat r.previewBudget,
      (buffer.getD [])[i]? = (op.buffer.getD [])[i]?) →
    r.record kind { op with buffer := buffer } = r.record kind op

/-- Only reads and writes have byte counts, one each, and only writes have a preview. -/
structure FieldsOfKind : Prop where
  oneCount : (r.record kind op).bytesRead = 0 ∨ (r.record kind op).bytesWritten = 0
  noCount : kind ≠ .read → kind ≠ .write → (r.record kind op).bytesRead = 0
    ∧ (r.record kind op).bytesWritten = 0
  noPreview : kind ≠ .write → (r.record kind op).preview = .zeroed

/-- The fields of two records agree where what they depend on agrees. -/
theorem agreeByField : AgreeByField r r' kind kind' op op' where
  processPath := by
    intro h
    rw [processPath_record, processPath_record, h]
  filePath := by
    intro h
    rw [filePath_record, filePath_record, h]
  byteCounts := by
    rintro rfl hlength
    show (byteCounts kind op.length).1 = (byteCounts kind op'.length).1
      ∧ (byteCounts kind op.length).2 = (byteCounts kind op'.length).2
    rw [hlength]
    exact ⟨rfl, rfl⟩
  preview := by
    rintro rfl rfl h
    exact preview_write_congr r r' op op' h

/-- A change of one part of an operation shows in the fields that depend on it only. -/
theorem framedByField : FramedByField r kind op where
  lookup := by
    intro lookup
    have hpath := processPath_record { r with processes := .ofLookup lookup } kind op
    rw [ProcessTable.answerText_ofLookup] at hpath
    rw [← hpath]
    rfl
  name := by
    intro name
    have hpath := filePath_record r kind { op with name := name }
    rw [← hpath]
    rfl
  buffer := by
    intro buffer h
    have hpreview := preview_setBuffer r kind op buffer h
    show { r.record kind op with preview := r.preview kind { op with buffer := buffer } }
        = r.record kind op
    rw [hpreview]
    rfl

/-- Which fields a record has depends on its kind. -/
theorem fieldsOfKind : FieldsOfKind r kind op where
  oneCount := by
    show (byteCounts kind op.length).1 = 0 ∨ (byteCounts kind op.length).2 = 0
    cases kind <;> simp [byteCounts]
  noCount := by
    intro hread hwrite
    show (byteCounts kind op.length).1 = 0 ∧ (byteCounts kind op.length).2 = 0
    cases kind <;> simp_all [byteCounts]
  noPreview := preview_of_ne_write r kind op

/-- What is the same in the records of all telemetry events. -/
structure SignalRecord (event : TelemetryEvent) (record : EventRecord) : Prop where
  processId : record.processId = event.processId
  timestamp : record.timestamp = r.now
  bytesRead : record.bytesRead = 0
  bytesWritten : record.bytesWritten = 0
  result : record.result = .unknown
  preview : record.preview = .zeroed

/-- What is reported of a telemetry event has no counts and no preview. -/
theorem signalRecord {event : TelemetryEvent} {record : EventRecord}
    (h : r.telemetryRecord event = some record) : SignalRecord r event record := by
  cases event with
  | networkConnect pid remote => cases h
  | processCreate | shadowCopyDelete | registryChange =>
    cases h
    exact ⟨rfl, rfl, rfl, rfl, rfl, rfl⟩

/-- Every telemetry event but a connection is reported. -/
theorem telemetryRecord_eq_none_iff (event : TelemetryEvent) :
    r.telemetryRecord event = none ↔ ∃ pid remote, event = .networkConnect pid remote := by
  cases event with
  | networkConnect pid remote => exact iff_of_true rfl ⟨pid, remote, rfl⟩
  | processCreate | shadowCopyDelete | registryChange =>
    exact iff_of_false (fun h => by cases h) (by rintro ⟨pid, remote, h⟩; cases h)

/-- **Fields are isolated.**  Take any two records of operations, made at any times with any
tables and budgets.

* They agree in the image path if the two lookups answer the same text, in the target if the two
  names resolve to the same text, in the byte counts if they are of one kind and length, and in
  the preview, if both are of writes, as soon as the two previews look at the same bytes.
* A lookup that fails, or answers otherwise, changes the image path alone, and a name that does
  changes the target alone.  Bytes behind the length of the operation or behind the budget
  change nothing.
* Only reads and writes count bytes, in one of the two counts; only writes have a preview.

A change in the registry is recorded with the image path that a record of an operation of that
process has.  Of all telemetry events only connections have no record, and no other has byte
counts, an outcome or a preview. -/
theorem fields_isolated (r r' : Reporter) (kind kind' : EventKind) (op op' : Operation) :
    AgreeByField r r' kind kind' op op' ∧ FramedByField r kind op ∧ FieldsOfKind r kind op
    ∧ (∀ pid key, ∃ record, r.telemetryRecord (.registryChange pid key) = some record
        ∧ (answerText (r.processes.imagePath pid)
          = answerText (r'.processes.imagePath op'.processId) →
            record.processPath = (r'.record kind' op').processPath))
    ∧ (∀ event, r.telemetryRecord event = none ↔ ∃ pid remote, event = .networkConnect pid remote)
    ∧ ∀ event record, r.telemetryRecord event = some record → SignalRecord r event record := by
  refine ⟨agreeByField r r' kind kind' op op', framedByField r kind op,
    fieldsOfKind r kind op, fun pid key => ?_,
    telemetryRecord_eq_none_iff r, fun event record => signalRecord r⟩
  refine ⟨_, rfl, fun h => ?_⟩
  rw [processPath_registryChange r pid key _ rfl, processPath_record, h]

/-- Two writes of different processes, one cut by its length and one by the budget: the same two
bytes are looked at. -/
theorem fields_isolated_two_writes :
    let r : Reporter := ⟨.ofList [(7, .ofString "/bin/tar")], ⟨5⟩, 4096⟩
    let r' : Reporter := ⟨.ofLookup fun _ => .ok (.ofString "/bin/tar"), ⟨6⟩, 2⟩
    let op : Operation :=
      { category := .write, processId := 7, name := .unnamed, length := 2,
        buffer := some [1, 2, 3] }
    let op' : Operation :=
      { category := .close, processId := 8, name := .path (.ofString "/a"), length := 9,
        buffer := some [1, 2] }
    op.seen 4096 = op'.seen 2
    ∧ answerText (r.processes.imagePath 7) = answerText (r'.processes.imagePath 8)
    ∧ (r.record .write op).preview = (r'.record .write op').preview
    ∧ (r.record .write op).processPath = (r'.record .write op').processPath := by
  intro r r' op op'
  have hseen : op.seen 4096 = op'.seen 2 := by decide
  have hanswer : answerText (r.processes.imagePath 7) = answerText (r'.processes.imagePath 8) := by
    decide
  have hagree := (fields_isolated r r' .write .write op op').1
  exact ⟨hseen, hanswer, hagree.preview rfl rfl hseen, hagree.processPath hanswer⟩

end Reporter

end FileActivity
