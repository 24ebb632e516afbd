/-
# The lines of records

A record is printed as one line, whatever is in its texts, and the line can be taken apart into
the fields that it shows: numbers and names end at the next space, and quoted texts at their own
closing quote.

Main statement: `EventRecord.one_line`.
-/
import FileActivity.Program.Commands
import FileActivity.Proofs.Text.Quoted

namespace FileActivity

/-! ## Words -/

/-- What stands before the first separator is determined. -/
theorem eq_of_append_cons {α : Type} {sep : α} {xs ys rest rest' : List α} (hxs : sep ∉ xs)
    (hys : sep ∉ ys) (h : xs ++ sep :: rest = ys ++ sep :: rest') : xs = ys ∧ rest = rest' := by
  induction xs generalizing ys with
  | nil =>
    cases ys with
    | nil => exact ⟨rfl, (List.cons.inj h).2⟩
    | cons y ys => exact absurd ((List.cons.inj h).1 ▸ List.mem_cons_self) hys
  | cons x xs ih =>
    cases ys with
    | nil => exact absurd ((List.cons.inj h).1 ▸ List.mem_cons_self) hxs
    | cons y ys =>
      obtain ⟨rfl, htail⟩ := List.cons.inj h
      obtain ⟨rfl, rfl⟩ := ih (fun hmem => hxs (List.mem_cons_of_mem _ hmem))
        (fun hmem => hys (List.mem_cons_of_mem _ hmem)) htail
      exact ⟨rfl, rfl⟩

/-- Characters that no word of a line has: spaces, and what disturbs a line. -/
def PlainWord (cs : List Char) : Prop := ∀ c ∈ cs, c ≠ ' ' ∧ ¬ Disruptive c

/-- A plain word has no space. -/
theorem PlainWord.space_notMem {cs : List Char} (h : PlainWord cs) : ' ' ∉ cs :=
  fun hmem => (h _ hmem).1 rfl

/-- The digits of a number. -/
def digits (n : Nat) : List Char := Nat.toDigits 10 n

theorem toList_toString (n : Nat) : (toString n).toList = digits n := by
  rw [Nat.toString_eq_ofList_toDigits, String.toList_ofList, digits]

/-- A number is known by its digits. -/
theorem digits_inj {n m : Nat} (h : digits n = digits m) : n = m := by
  have hback := congrArg (Nat.ofDigitChars 10 · 0) h
  simpa only [digits, Nat.ofDigitChars_ten_toDigits] using hback

/-- The digits of a number are a plain word. -/
theorem plainWord_digits (n : Nat) : PlainWord (digits n) := by
  intro c hc
  have hdigit : c.isDigit = true := Nat.isDigit_of_mem_toDigits (by decide) (by decide) hc
  have hrange : 48 ≤ c.toNat ∧ c.toNat ≤ 57 := by
    simpa [Char.isDigit, UInt32.le_iff_toNat_le] using hdigit
  constructor
  · rintro rfl
    cases hdigit
  · unfold Disruptive
    omega

namespace EventKind

/-- The name of a kind is a plain word. -/
theorem plainWord_name (k : EventKind) : PlainWord k.name.toList := by
  have hspace : ' ' ∉ k.name.toList := by cases k <;> decide
  have hall : ∀ c ∈ k.name.toList, ¬ Disruptive c := not_disruptive_of_all (by cases k <;> decide)
  exact fun c hc => ⟨fun heq => hspace (heq ▸ hc), hall c hc⟩

/-- A kind is known by its name. -/
theorem name_inj {k k' : EventKind} (h : k.name = k'.name) : k = k' := by
  have hfind : ∀ k : EventKind, all.find? (fun other => other.name == k.name) = some k := by
    intro k
    cases k <;> rfl
  exact Option.some.inj ((hfind k).symm.trans (h ▸ hfind k'))

end EventKind

namespace EventRecord

/-! ## A line and its parts -/

/-- The line of a record, part by part. -/
theorem toList_line (r : EventRecord) : r.line.toList
    = digits r.timestamp.nanos.toNat ++ ' ' :: (r.kind.name.toList ++ ' ' :: ("pid=".toList
      ++ (digits r.processId.toNat ++ ' ' :: ("image=".toList
      ++ (Quoted.quoteChars r.processPath.display.toList ++ (" file=".toList
      ++ (Quoted.quoteChars r.filePath.display.toList ++ (" read=".toList
      ++ (digits r.bytesRead.toNat ++ ' ' :: ("written=".toList
      ++ (digits r.bytesWritten.toNat ++ ' ' :: ("entropy=".toList
      ++ digits r.preview.score.toNat)))))))))))) := by
  have hu64 : ∀ n : UInt64, toString n = toString n.toNat := fun _ => rfl
  have hu32 : ∀ n : UInt32, toString n = toString n.toNat := fun _ => rfl
  have hu8 : ∀ n : UInt8, toString n = toString n.toNat := fun _ => rfl
  simp only [line, hu64, hu32, hu8, String.toList_append, toList_toString, BoundedText.quoted,
    Quoted.toList_quote, List.append_assoc]
  rfl

/-- What the line of a record shows of it. -/
structure SameShown (r r' : EventRecord) : Prop where
  timestamp : r.timestamp = r'.timestamp
  kind : r.kind = r'.kind
  processId : r.processId = r'.processId
  image : r.processPath.display = r'.processPath.display
  file : r.filePath.display = r'.filePath.display
  bytesRead : r.bytesRead = r'.bytesRead
  bytesWritten : r.bytesWritten = r'.bytesWritten
  score : r.preview.score = r'.preview.score

/-- **The line tells** what it shows: field by field from the left, each field ends where it
says. -/
theorem sameShown_of_line_eq {r r' : EventRecord} (h : r.line = r'.line) : SameShown r r' := by
  have hchars := congrArg String.toList h
  rw [toList_line, toList_line] at hchars
  have hdigits (n : Nat) : ' ' ∉ digits n := (plainWord_digits n).space_notMem
  have hname (k : EventKind) : ' ' ∉ k.name.toList := k.plainWord_name.space_notMem
  obtain ⟨htimestamp, hchars⟩ := eq_of_append_cons (hdigits _) (hdigits _) hchars
  obtain ⟨hkind, hchars⟩ := eq_of_append_cons (hname _) (hname _) hchars
  obtain ⟨hprocessId, hchars⟩ :=
    eq_of_append_cons (hdigits _) (hdigits _) (List.append_cancel_left hchars)
  obtain ⟨himage, hchars⟩ := Quoted.quoteChars_append_inj (List.append_cancel_left hchars)
  obtain ⟨hfile, hchars⟩ := Quoted.quoteChars_append_inj (List.append_cancel_left hchars)
  obtain ⟨hread, hchars⟩ :=
    eq_of_append_cons (hdigits _) (hdigits _) (List.append_cancel_left hchars)
  obtain ⟨hwritten, hchars⟩ :=
    eq_of_append_cons (hdigits _) (hdigits _) (List.append_cancel_left hchars)
  have hscore := digits_inj (List.append_cancel_left hchars)
  have hnanos : r.timestamp.nanos = r'.timestamp.nanos :=
    UInt64.toNat_inj.mp (digits_inj htimestamp)
  exact {
    timestamp := congrArg Timestamp.mk hnanos
    kind := EventKind.name_inj (String.toList_inj.mp hkind)
    processId := UInt32.toNat_inj.mp (digits_inj hprocessId)
    image := String.toList_inj.mp himage
    file := String.toList_inj.mp hfile
    bytesRead := UInt64.toNat_inj.mp (digits_inj hread)
    bytesWritten := UInt64.toNat_inj.mp (digits_inj hwritten)
    score := UInt8.toNat_inj.mp hscore }

/-- Records that show the same have the same line. -/
theorem SameShown.line_eq {r r' : EventRecord} (h : SameShown r r') : r.line = r'.line := by
  rw [line, line, BoundedText.quoted, BoundedText.quoted, BoundedText.quoted, BoundedText.quoted,
    h.timestamp, h.kind, h.processId, h.image, h.file, h.bytesRead, h.bytesWritten, h.score]

/-- Nothing in the line of a record disturbs it. -/
theorem forall_line_not_disruptive (r : EventRecord) : ∀ c ∈ r.line.toList, ¬ Disruptive c := by
  have hspace : ¬ Disruptive ' ' := by decide
  have hdigits (n : Nat) : ∀ c ∈ digits n, ¬ Disruptive c := fun c hc => (plainWord_digits n c hc).2
  have hname : ∀ c ∈ r.kind.name.toList, ¬ Disruptive c :=
    fun c hc => (r.kind.plainWord_name c hc).2
  have hquoted (cs : List Char) : ∀ c ∈ Quoted.quoteChars cs, ¬ Disruptive c :=
    fun _ => Quoted.not_disruptive_of_mem_quoteChars
  have hlabel (label : String) (h : (label.toList.all fun c => !decide (Disruptive c)) = true) :
      ∀ c ∈ label.toList, ¬ Disruptive c := not_disruptive_of_all h
  rw [toList_line]
  simp only [List.forall_mem_append, List.forall_mem_cons]
  exact ⟨hdigits _, hspace, hname, hspace, hlabel _ (by decide), hdigits _, hspace,
    hlabel _ (by decide), hquoted _, hlabel _ (by decide), hquoted _, hlabel _ (by decide),
    hdigits _, hspace, hlabel _ (by decide), hdigits _, hspace, hlabel _ (by decide), hdigits _⟩

end EventRecord

/-! ## What is printed -/

/-- The records that the command reads at a path, at most `count` of them. -/
def Program.recordsAt (h : Host) (p : Path) (count : Option Nat) : List EventRecord :=
  match h.receive p with
  | .error _ => []
  | .ok bytes => (readStream count bytes).1

/-- The consumer prints the records that it read. -/
theorem Program.consume_fst (h : Host) (p : Path) (count : Option Nat) :
    (Program.consume h p count).1 = Program.printLines (Program.recordsAt h p count) := by
  rw [consume, recordsAt]
  cases h.receive p <;> rfl

/-- The first record is printed first, on a line of its own. -/
theorem Program.printLines_cons (r : EventRecord) (rs : List EventRecord) :
    Program.printLines (r :: rs) = r.line ++ "\n" ++ Program.printLines rs := by
  rw [printLines, printLines, List.map_cons, String.join_cons]

theorem Program.toList_printLines_cons (r : EventRecord) (rs : List EventRecord) :
    (Program.printLines (r :: rs)).toList
      = r.line.toList ++ '\n' :: (Program.printLines rs).toList := by
  rw [printLines_cons, String.toList_append, String.toList_append, List.append_assoc]
  rfl

/-- Cutting what is printed at its line ends gives the lines of the records, and nothing after
the last one. -/
theorem Program.splitOn_printLines (rs : List EventRecord) :
    (Program.printLines rs).toList.splitOn '\n' = rs.map (·.line.toList) ++ [[]] := by
  induction rs with
  | nil => rfl
  | cons r rs ih =>
    have hline : '\n' ∉ r.line.toList := fun hmem => r.forall_line_not_disruptive _ hmem (by decide)
    rw [toList_printLines_cons, List.splitOn_append_cons_self_of_not_mem hline, ih, List.map_cons,
      List.cons_append]

/-- **One record, one line that only it can have.**

* No character of a record's line is a control character or a separator of lines or paragraphs.
* Records have the same line exactly if they agree in everything that it shows: time, kind,
  process, both texts as they are displayed, byte counts and score.
* What the command prints, cut at its line ends, is the lines of the records that it read, one
  for each. -/
theorem EventRecord.one_line (r : EventRecord) :
    (∀ c ∈ r.line.toList, ¬ Disruptive c)
    ∧ (∀ r' : EventRecord, r.line = r'.line ↔ r.SameShown r')
    ∧ ∀ h p count, (Program.consume h p count).1.toList.splitOn '\n'
        = (Program.recordsAt h p count).map (·.line.toList) ++ [[]] := by
  refine ⟨r.forall_line_not_disruptive, fun r' => ⟨sameShown_of_line_eq, SameShown.line_eq⟩,
    fun h p count => ?_⟩
  rw [Program.consume_fst, Program.splitOn_printLines]

/-- A file name that imitates the closing quote and the next field shows in the line as what it
is. -/
example : (Quoted.quote "a\" read=0 \n").toList = "\"a\\\" read=0 \\n\"".toList := by decide

end FileActivity
