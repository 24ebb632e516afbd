/-
# Process numbers on the command line

A process is named by a decimal number of any length that addresses exactly one process.  The
digits are read one by one, and the reading stops where the number gets too large, so no number
wraps around to a smaller one.  What is accepted is then accepted by the agent as well: it
refuses the first process and itself, and nothing else.

Main statement: `process_named_iff`.
-/
import FileActivity.CommandLine.Invocation
import FileActivity.Proofs.Outcome
import FileActivity.Proofs.Quarantine.Commands

namespace FileActivity

namespace CommandLine

variable {bound n m : Nat} {cs text : List Char}

/-! ## Decimal numbers -/

/-- A decimal number as it may be written: at most one plus sign, and one or more digits behind
it. -/
def IsNumeral (text : List Char) (n : Nat) : Prop :=
  ∃ digits, (text = digits ∨ text = '+' :: digits) ∧ digits ≠ [] ∧ (∀ c ∈ digits, c.isDigit = true)
    ∧ Nat.ofDigitChars 10 digits 0 = n

/-- A digit stands for its distance from zero, and no other character stands for anything. -/
theorem digit?_eq (c : Char) :
    digit? c = if c.isDigit then some (c.toNat - '0'.toNat) else none := by
  have hdigit : c.isDigit = true ↔ '0' ≤ c ∧ c ≤ '9' := by
    rw [Char.isDigit, Bool.and_eq_true, decide_eq_true_eq, decide_eq_true_eq]
    exact Iff.rfl
  simp only [digit?, hdigit]

/-- More digits never make a number smaller. -/
theorem le_ofDigitChars (cs : List Char) (n : Nat) : n ≤ Nat.ofDigitChars 10 cs n := by
  induction cs generalizing n with
  | nil => exact Nat.le_of_eq Nat.ofDigitChars_nil.symm
  | cons c cs ih =>
    rw [Nat.ofDigitChars_cons]
    have hrest := ih (10 * n + (c.toNat - '0'.toNat))
    omega

/-- Digits behind a number are read to the end exactly if all of them are digits and the whole
number is within the bound. -/
theorem foldlM_appendDigit_eq_ok_iff (hn : n ≤ bound) : cs.foldlM (appendDigit bound) n = .ok m
    ↔ (∀ c ∈ cs, c.isDigit = true) ∧ Nat.ofDigitChars 10 cs n = m ∧ m ≤ bound := by
  induction cs generalizing n with
  | nil =>
    rw [List.foldlM_nil, Nat.ofDigitChars_nil]
    constructor
    · rintro ⟨⟩
      exact ⟨nofun, rfl, hn⟩
    · rintro ⟨-, rfl, -⟩
      rfl
  | cons c cs ih =>
    rw [List.foldlM_cons, Nat.ofDigitChars_cons, List.forall_mem_cons, appendDigit, digit?_eq]
    by_cases hc : c.isDigit = true
    · rw [if_pos hc, Nat.mul_comm 10 n]
      dsimp only
      by_cases hle : n * 10 + (c.toNat - '0'.toNat) ≤ bound
      · rw [if_pos hle, and_iff_right hc]
        exact ih hle
      · -- the digits that are left cannot bring the number back below the bound
        rw [if_neg hle]
        refine iff_of_false (fun h => by cases h) ?_
        rintro ⟨-, rfl, hm⟩
        exact hle (Nat.le_trans (le_ofDigitChars cs _) hm)
    · rw [if_neg hc]
      exact iff_of_false (fun h => by cases h) fun h => hc h.1.1

/-- Digits are read as the number that they write, if that is within the bound. -/
theorem readDigits_eq_ok_iff (bound : Nat) (cs : List Char) (m : Nat) : readDigits bound cs = .ok m
    ↔ (∀ c ∈ cs, c.isDigit = true) ∧ Nat.ofDigitChars 10 cs 0 = m ∧ m ≤ bound :=
  foldlM_appendDigit_eq_ok_iff (Nat.zero_le bound)

/-- **A number is read** exactly if it is written as one and within the bound. -/
theorem readNumber_eq_ok_iff (bound : Nat) (text : List Char) (n : Nat) :
    readNumber bound text = .ok n ↔ IsNumeral text n ∧ n ≤ bound := by
  rw [readNumber.eq_def]
  split
  · refine iff_of_false (fun h => by cases h) ?_
    rintro ⟨⟨digits, rfl | h, hne, -⟩, -⟩
    · exact hne rfl
    · cases h
  · refine iff_of_false (fun h => by cases h) ?_
    rintro ⟨⟨digits, rfl | h, hne, hall, -⟩, -⟩
    · exact absurd (hall '+' List.mem_cons_self) (by decide)
    · exact hne (List.cons.inj h).2.symm
  · next cs hcs =>
    rw [readDigits_eq_ok_iff]
    constructor
    · rintro ⟨hall, hvalue, hle⟩
      exact ⟨⟨cs, Or.inr rfl, fun h => hcs (by rw [h]), hall, hvalue⟩, hle⟩
    · rintro ⟨⟨digits, rfl | h, -, hall, hvalue⟩, hle⟩
      · exact absurd (hall '+' List.mem_cons_self) (by decide)
      · obtain ⟨-, rfl⟩ := List.cons.inj h
        exact ⟨hall, hvalue, hle⟩
  · next hempty _ hplus =>
    rw [readDigits_eq_ok_iff]
    constructor
    · rintro ⟨hall, hvalue, hle⟩
      exact ⟨⟨text, Or.inl rfl, hempty, hall, hvalue⟩, hle⟩
    · rintro ⟨⟨digits, rfl | h, -, hall, hvalue⟩, hle⟩
      · exact ⟨hall, hvalue, hle⟩
      · exact absurd h (hplus digits)

/-! ## Process numbers -/

/-- A decimal number that addresses exactly one process. -/
def NamesProcess (text : List Char) (pid : ProcessId) : Prop :=
  IsNumeral text pid.toNat ∧ 1 ≤ pid.toNat ∧ pid.toNat ≤ 0x7fffffff

/-- A number that was read is a process number exactly if it lies in the range of these. -/
theorem readProcessId_of_ok (h : readNumber maxWord text = .ok n) : readProcessId text
    = if 0 < n ∧ n ≤ maxProcessId.toNat then .ok n.toUInt32 else .error .outOfRange := by
  rw [readProcessId, h]

/-- Whatever is wrong with a number, its text is told to be no number. -/
theorem readProcessId_of_error {fault : NumberFault} (h : readNumber maxWord text = .error fault) :
    readProcessId text = .error .notNumber := by
  rw [readProcessId, h]

/-- A text that is no number of four bytes is told from one that is, and addresses no process or
several. -/
theorem readProcessId_cases (text : List Char) :
    (∃ n, IsNumeral text n ∧ n ≤ maxWord ∧ readProcessId text
      = if 0 < n ∧ n ≤ maxProcessId.toNat then .ok n.toUInt32 else .error .outOfRange)
    ∨ (¬ ∃ n, IsNumeral text n ∧ n ≤ maxWord) ∧ readProcessId text = .error .notNumber := by
  cases h : readNumber maxWord text with
  | ok n =>
    obtain ⟨hnumeral, hle⟩ := (readNumber_eq_ok_iff _ _ _).mp h
    exact Or.inl ⟨n, hnumeral, hle, readProcessId_of_ok h⟩
  | error fault =>
    refine Or.inr ⟨fun ⟨n, hn⟩ => ?_, readProcessId_of_error h⟩
    cases h.symm.trans ((readNumber_eq_ok_iff _ _ _).mpr hn)

/-- A text is a numeral of one number only. -/
theorem IsNumeral.unique (h : IsNumeral text n) (h' : IsNumeral text m) : n = m := by
  have hn := (readNumber_eq_ok_iff (max n m) text n).mpr ⟨h, Nat.le_max_left n m⟩
  have hm := (readNumber_eq_ok_iff (max n m) text m).mpr ⟨h', Nat.le_max_right n m⟩
  exact Except.ok.inj (hn.symm.trans hm)

/-- **A process is named** exactly by the numbers that address it alone. -/
theorem readProcessId_eq_ok_iff (text : List Char) (pid : ProcessId) :
    readProcessId text = .ok pid ↔ NamesProcess text pid := by
  have hword : maxWord = 0xffffffff := rfl
  have hlast : maxProcessId.toNat = 0x7fffffff := rfl
  rcases readProcessId_cases text with ⟨n, hnumeral, -, hread⟩ | ⟨hnone, hread⟩
  · rw [hread]
    constructor
    · intro h
      split at h
      · next hn =>
        cases h
        have hsame : n.toUInt32.toNat = n := Nat.mod_eq_of_lt (by omega)
        rw [NamesProcess, hsame]
        exact ⟨hnumeral, hn.1, hlast ▸ hn.2⟩
      · cases h
    · rintro ⟨hpid, hpos, hle⟩
      obtain rfl := hnumeral.unique hpid
      rw [if_pos ⟨hpos, hlast ▸ hle⟩]
      exact congrArg Except.ok (UInt32.toNat_inj.mp (Nat.mod_eq_of_lt pid.toNat_lt))
  · rw [hread]
    refine iff_of_false (fun h => by cases h) ?_
    rintro ⟨hpid, -, hle⟩
    exact hnone ⟨pid.toNat, hpid, by omega⟩

/-- A number of four bytes is refused if it addresses no process, or several. -/
theorem readProcessId_eq_outOfRange_iff (text : List Char) : readProcessId text = .error .outOfRange
    ↔ ∃ n, IsNumeral text n ∧ n ≤ 0xffffffff ∧ ¬ (1 ≤ n ∧ n ≤ 0x7fffffff) := by
  have hlast : maxProcessId.toNat = 0x7fffffff := rfl
  rcases readProcessId_cases text with ⟨n, hnumeral, hle, hread⟩ | ⟨hnone, hread⟩
  · rw [hread, hlast]
    constructor
    · intro h
      split at h
      · cases h
      · next hn => exact ⟨n, hnumeral, hle, hn⟩
    · rintro ⟨m, hm, -, hout⟩
      obtain rfl := hnumeral.unique hm
      exact if_neg hout
  · rw [hread]
    exact iff_of_false (fun h => by cases h) fun ⟨n, hn, hle, _⟩ => hnone ⟨n, hn, hle⟩

/-- Everything else is no number. -/
theorem readProcessId_eq_notNumber_iff (text : List Char) : readProcessId text = .error .notNumber
    ↔ ¬ ∃ n, IsNumeral text n ∧ n ≤ 0xffffffff := by
  rcases readProcessId_cases text with ⟨n, hnumeral, hle, hread⟩ | ⟨hnone, hread⟩
  · rw [hread]
    refine iff_of_false (fun h => ?_) fun hnone => hnone ⟨n, hnumeral, hle⟩
    split at h <;> cases h
  · exact iff_of_true hread hnone

/-- What names a process may be signalled, under the same number with a sign. -/
theorem NamesProcess.signalTarget_eq {pid : ProcessId} (h : NamesProcess text pid) :
    signalTarget pid = .ok pid ∧ pid.toInt32.toInt = pid.toNat := by
  obtain ⟨-, hpos, hle⟩ := h
  have hle : pid ≤ maxProcessId := UInt32.le_iff_toNat_le.mpr hle
  exact ⟨signalTarget_of_mem ⟨UInt32.lt_iff_toNat_lt.mpr hpos, hle⟩, toInt_toInt32 hle⟩

/-! ## Options name no process -/

namespace Progress

/-- No process has been named, and none is about to be. -/
structure Unnamed (s : Progress) : Prop where
  given : s.given.processId = none
  pending : ∀ text, s.pending ≠ .value .processId text

variable {isFile : Path → Bool} {command : Option CommandName} {s s' : Progress}

/-- At the start nothing was named. -/
theorem unnamed_start : Unnamed {} := ⟨rfl, nofun⟩

/-- Only the parameter for it takes a process number. -/
theorem processId_take {g g' : Given} {p : Parameter} (hp : p ≠ .processId)
    (h : g.take isFile p text = .ok g') : g'.processId = g.processId := by
  cases p with
  | processId => exact absurd rfl hp
  | _ =>
    simp only [Given.take, bind_eq_ok_iff] at h
    obtain ⟨-, -, h⟩ := h
    split at h <;> cases h
    rfl

/-- Looking at a value that is no process number names no process. -/
theorem Unnamed.settle (hs : s.Unnamed) (h : s.settle isFile = .ok s') : s'.Unnamed := by
  rw [Progress.settle] at h
  split at h
  · cases h
    exact hs
  · cases h
  · next p text hpending =>
    obtain ⟨g, hg, h⟩ := bind_eq_ok_iff.mp h
    cases h
    have hp : p ≠ .processId := by
      rintro rfl
      exact hs.pending text hpending
    exact ⟨(processId_take hp hg).trans hs.given, nofun⟩

/-- A switch names no process. -/
theorem Unnamed.meetSwitch (hs : s.Unnamed) {switch : Switch}
    (h : s.meetSwitch isFile switch = .ok s') : s'.Unnamed := by
  obtain ⟨t, ht, h⟩ := bind_eq_ok_iff.mp h
  obtain ⟨g, hg, h⟩ := bind_eq_ok_iff.mp h
  cases h
  have ht := hs.settle ht
  refine ⟨Eq.trans ?_ ht.given, ht.pending⟩
  cases switch <;> cases hg <;> rfl

/-- A parameter that is no process number names no process. -/
theorem Unnamed.meetParameter (hs : s.Unnamed) {p : Parameter} (hp : p ≠ .processId)
    {value : Option (List Char)} (h : s.meetParameter isFile p value = .ok s') : s'.Unnamed := by
  obtain ⟨t, ht, h⟩ := bind_eq_ok_iff.mp h
  have ht := hs.settle ht
  cases value with
  | some text =>
    obtain ⟨g, hg, h⟩ := bind_eq_ok_iff.mp h
    cases h
    exact ⟨(processId_take hp hg).trans ht.given, ht.pending⟩
  | none =>
    cases h
    exact ⟨ht.given, nofun⟩

/-- No option carries a process number. -/
theorem meaning_ne_processId (command : Option CommandName) :
    ∀ o ∈ optionsOf command, o.meaning ≠ .parameter .processId := by
  cases command with
  | none => decide
  | some name =>
    cases name with
    | quarantine verb => cases verb <;> decide
    | _ => decide

/-- An option that was found takes no process number. -/
theorem ne_processId_of_find? {command : Option CommandName} {test : OptionSpec → Bool}
    {p : Parameter} (h : ((optionsOf command).find? test).map (·.meaning) = some (.parameter p)) :
    p ≠ .processId := by
  obtain ⟨o, ho, hmeaning⟩ := Option.map_eq_some_iff.mp h
  rintro rfl
  exact meaning_ne_processId command o (List.mem_of_find?_eq_some ho) hmeaning

/-- The letters of an argument name no process. -/
theorem Unnamed.meetLetters (hs : s.Unnamed) {cs : List Char}
    (h : s.meetLetters isFile command cs = .ok s') : s'.Unnamed := by
  induction cs generalizing s with
  | nil =>
    cases h
    exact hs
  | cons c cs ih =>
    rw [Progress.meetLetters] at h
    split at h
    · cases h
    · obtain ⟨t, ht, h⟩ := bind_eq_ok_iff.mp h
      exact ih (hs.meetSwitch ht) h
    · next hmeaning => exact hs.meetParameter (ne_processId_of_find? hmeaning) h

/-- An option by its word names no process. -/
theorem Unnamed.meetLong (hs : s.Unnamed) {word : List Char} {value : Option (List Char)}
    (h : s.meetLong isFile command word value = .ok s') : s'.Unnamed := by
  rw [Progress.meetLong] at h
  split at h
  · cases h
  · next hmeaning => exact hs.meetParameter (ne_processId_of_find? hmeaning) h
  · split at h
    · cases h
    · exact hs.meetSwitch h

/-- What is no word names no process. -/
theorem Unnamed.meet (hs : s.Unnamed) (htrailing : s.trailing = false) {arg : List Char}
    (harg : Shape.of arg ≠ .word) (h : s.meet isFile command arg = .ok s') : s'.Unnamed := by
  rw [Progress.meet, htrailing] at h
  simp only [Bool.false_eq_true, if_false] at h
  split at h
  · cases h
    exact ⟨hs.given, hs.pending⟩
  · exact hs.meetLong h
  · exact hs.meetLetters h
  · next hword => exact absurd hword harg

end Progress

/-! ## Commands about a process -/

variable {isFile : Path → Bool} {verb : Verb}

/-- A number has the shape of a word. -/
theorem IsNumeral.shape (h : IsNumeral text n) : Shape.of text = .word := by
  have hword : ∀ c cs, c ≠ '-' → Shape.of (c :: cs) = .word := by
    intro c cs hc
    rw [Shape.of.eq_def]
    split
    · rfl
    · next heq => exact absurd (List.cons.inj heq).1 hc
    · next heq => exact absurd (List.cons.inj heq).1 hc
    · next heq => exact absurd (List.cons.inj heq).1 hc
    · rfl
  obtain ⟨digits, rfl | rfl, hne, hdigits, -⟩ := h
  · cases text with
    | nil => exact absurd rfl hne
    | cons c cs =>
      refine hword c cs ?_
      rintro rfl
      exact absurd (hdigits '-' List.mem_cons_self) (by decide)
  · exact hword '+' digits (by decide)

/-- A word beside the command is read as a process number. -/
theorem readCommandLevel_word (h : Shape.of text = .word) :
    readCommandLevel isFile (.quarantine verb) [text]
    = match readProcessId text with
      | .ok pid => .ok (.quarantine verb pid, { processId := some pid })
      | .error fault => .error (.valueRefused (.processId (String.ofList text) fault)) := by
  have hmeet : Progress.meet isFile (some (.quarantine verb)) {} text
      = .ok { pending := .value .processId text, positionTaken := true } := by
    rw [Progress.meet, h]
    rfl
  rw [readCommandLevel, List.foldlM_cons, hmeet]
  cases hread : readProcessId text with
  | ok pid =>
    have htake : Given.take isFile {} .processId text = .ok { processId := some pid } := by
      simp only [Given.take, hread]
      rfl
    simp only [finish, Progress.settle, List.foldlM_nil, bind, Except.bind, pure, Except.pure,
      htake]
    rfl
  | error fault =>
    have htake : Given.take isFile {} .processId text
        = .error (.valueRefused (.processId (String.ofList text) fault)) := by
      simp only [Given.take, hread]
      rfl
    simp only [finish, Progress.settle, List.foldlM_nil, bind, Except.bind, pure, Except.pure,
      htake]

/-- Without a word no process is named, and the command is not carried out. -/
theorem readCommandLevel_of_not_word (h : Shape.of text ≠ .word) (result : Command × Given) :
    readCommandLevel isFile (.quarantine verb) [text] ≠ .ok result := by
  intro hread
  obtain ⟨s, hs, hread⟩ := bind_eq_ok_iff.mp hread
  obtain ⟨given, hgiven, hread⟩ := bind_eq_ok_iff.mp hread
  obtain ⟨-, -, hread⟩ := bind_eq_ok_iff.mp hread
  obtain ⟨command, hcommand, -⟩ := bind_eq_ok_iff.mp hread
  obtain ⟨t, ht, hs⟩ := bind_eq_ok_iff.mp hs
  cases hs
  obtain ⟨u, hu, hgiven⟩ := bind_eq_ok_iff.mp hgiven
  cases hgiven
  have hnone := ((Progress.unnamed_start.meet rfl h ht).settle hu).given
  rw [CommandName.applied, hnone] at hcommand
  cases hcommand

/-- The word of a command leads to what stands behind it. -/
theorem ofArguments_eq (isFile : Path → Bool) (verb : Verb) (s : String) :
    Invocation.ofArguments isFile [(CommandName.quarantine verb).word, s]
      = (readCommandLevel isFile (.quarantine verb) [s.toList]).map fun r =>
        invocation {} r.1 r.2 := by
  have hhelp : ((CommandName.quarantine verb).word == helpWord) = false := by cases verb <;> decide
  have hstart : Progress.mayStartCommand {} = true := rfl
  rw [Invocation.ofArguments, List.map_cons, readProgramLevel, String.ofList_toList, hhelp,
    CommandName.ofWord?_word, Bool.and_false, if_neg Bool.false_ne_true, if_pos hstart]
  show (readCommandLevel isFile (.quarantine verb) [s.toList]
      >>= fun r => .ok (invocation {} r.1 r.2)) = _
  cases readCommandLevel isFile (.quarantine verb) [s.toList] <;> rfl

/-- **A command about a process** is carried out exactly if what stands behind its word names
one. -/
theorem ofArguments_eq_ok_iff (isFile : Path → Bool) (verb : Verb) (s : String) (i : Invocation) :
    Invocation.ofArguments isFile [(CommandName.quarantine verb).word, s] = .ok i
      ↔ ∃ pid, NamesProcess s.toList pid ∧ i = ⟨.quarantine verb pid, none, .warn⟩ := by
  rw [ofArguments_eq, map_eq_ok_iff]
  by_cases hword : Shape.of s.toList = .word
  · rw [readCommandLevel_word hword]
    constructor
    · rintro ⟨r, hr, rfl⟩
      split at hr
      · next pid hpid =>
        cases hr
        exact ⟨pid, (readProcessId_eq_ok_iff _ _).mp hpid, rfl⟩
      · cases hr
    · rintro ⟨pid, hpid, rfl⟩
      rw [(readProcessId_eq_ok_iff _ _).mpr hpid]
      exact ⟨_, rfl, rfl⟩
  · constructor
    · rintro ⟨r, hr, -⟩
      exact absurd hr (readCommandLevel_of_not_word hword r)
    · rintro ⟨pid, hpid, -⟩
      exact absurd hpid.1.shape hword

end CommandLine

/-! ## What the agent makes of it -/

/-- An agent that can act refuses of the single processes only the first one and itself. -/
theorem QuarantineActor.command_of_single {σ : Type} {a : QuarantineActor σ}
    {control : ProcessControl σ} {pid : ProcessId} (hcontrol : a.control = some control)
    (hpos : 0 < pid) (hle : pid ≤ maxProcessId) (verb : Verb) (s : σ) : a.command verb pid s
      = if pid = 1 ∨ pid = a.ownPid then (.error (.protectedProcess pid), s)
        else control.perform verb pid s := by
  have havailable : (!a.isAvailable) = false := by rw [isAvailable, hcontrol]; rfl
  have hzero : pid ≠ 0 := UInt32.pos_iff_ne_zero.mp hpos
  rw [command_eq, objection, havailable, if_neg Bool.false_ne_true, hcontrol]
  by_cases hprotected : pid = 1 ∨ pid = a.ownPid
  · rw [if_pos (Or.inr hprotected), if_pos hprotected]
  · rw [if_neg fun h => h.elim hzero hprotected, if_neg hprotected, if_neg (UInt32.not_lt.mpr hle)]

namespace CommandLine

/-- **Which texts name a process**, and what becomes of a command about it.

* A text names the process `p` exactly if it is an optional plus sign with one or more decimal
  digits behind it, any number of zeros in front included, whose value is `p` with
  `1 ≤ p ≤ 2³¹ - 1`.
* Any other text is refused: a number of four bytes as out of range, and everything else, larger
  numbers of any length included, as no number.
* A command about a process is carried out exactly if what stands behind its word names a
  process in this way.
* Such a number may be signalled, with a sign or without.  An agent that can act refuses it only
  if it is 1 or the agent's own, and else passes it on to what carries commands out. -/
theorem process_named_iff (text : List Char) :
    (∀ pid, readProcessId text = .ok pid ↔ NamesProcess text pid)
    ∧ (readProcessId text = .error .outOfRange
        ↔ ∃ n, IsNumeral text n ∧ n ≤ 0xffffffff ∧ ¬ (1 ≤ n ∧ n ≤ 0x7fffffff))
    ∧ (readProcessId text = .error .notNumber ↔ ¬ ∃ n, IsNumeral text n ∧ n ≤ 0xffffffff)
    ∧ (∀ isFile verb i,
        Invocation.ofArguments isFile [(CommandName.quarantine verb).word, String.ofList text]
            = .ok i
          ↔ ∃ pid, NamesProcess text pid ∧ i = ⟨.quarantine verb pid, none, .warn⟩)
    ∧ ∀ pid, NamesProcess text pid → signalTarget pid = .ok pid ∧ pid.toInt32.toInt = pid.toNat
      ∧ ∀ {σ : Type} (a : QuarantineActor σ) (control : ProcessControl σ),
        a.control = some control →
        ∀ (verb : Verb) (s : σ), a.command verb pid s
          = if pid = 1 ∨ pid = a.ownPid then (.error (.protectedProcess pid), s)
            else control.perform verb pid s := by
  refine ⟨readProcessId_eq_ok_iff text, readProcessId_eq_outOfRange_iff text,
    readProcessId_eq_notNumber_iff text, fun isFile verb i => ?_, fun pid hpid => ?_⟩
  · rw [ofArguments_eq_ok_iff, String.toList_ofList]
  · obtain ⟨htarget, hsigned⟩ := hpid.signalTarget_eq
    refine ⟨htarget, hsigned, fun a control hcontrol verb s => ?_⟩
    exact a.command_of_single hcontrol (UInt32.lt_iff_toNat_lt.mpr hpid.2.1)
      (UInt32.le_iff_toNat_le.mpr hpid.2.2)
      verb s

/-- Zeros in front of a number do not count, and the last number that names a process reaches
the control. -/
theorem process_named_iff_greatest :
    NamesProcess "+0002147483647".toList 2147483647
    ∧ (⟨some scriptedControl, 77⟩ : QuarantineActor Script).control = some scriptedControl
    ∧ (⟨some scriptedControl, 77⟩ : QuarantineActor Script).command .terminate 2147483647 ⟨[], []⟩
      = (.ok (), ⟨[], [(.terminate, 2147483647)]⟩) := by
  have hnamed : NamesProcess "+0002147483647".toList 2147483647 := by
    have hdigits : ("0002147483647".toList.all Char.isDigit) = true := by decide
    exact ⟨⟨"0002147483647".toList, Or.inr rfl, by decide, List.all_eq_true.mp hdigits, by decide⟩,
      by decide, by decide⟩
  obtain ⟨-, -, -, -, hreaches⟩ := process_named_iff "+0002147483647".toList
  refine ⟨hnamed, rfl, ?_⟩
  rw [(hreaches _ hnamed).2.2 ⟨some scriptedControl, 77⟩ scriptedControl rfl, if_neg (by decide)]
  rfl

end CommandLine

end FileActivity
