/-
# Write access after many calls

Taking write access away clears the write bits of everybody, and giving it back sets that of the
owner alone.  So after any calls the mode of a file is told by its first mode, by whether write
access was ever taken away, and by the last call (`modeAfter`).  Calls change modes only, so a
path leads to the same file throughout, also through links.

The mode that a call asks for is not always the one that is stored.  A process that is neither
privileged nor in the group of the file is answered that all went well, and the set-group-id bit
is dropped (`StoresButSetGroupId`).  For every other process the system stores what it is asked
for (`StoresAsAsked`).

Main statement: `write_access_after_calls`.
-/
import FileActivity.Proofs.Files.Tree
import FileActivity.Proofs.InTurn
import FileActivity.Quarantine.WriteAccess
import Mathlib.Data.List.Induction

namespace FileActivity

/-! ## Modes -/

section Modes

variable {mode asked i : Nat} {history : List Bool}

/-- The mode of a file after calls in turn, each of which takes write access away or gives it
back. -/
def modeAfter (mode : Nat) (history : List Bool) : Nat :=
  match history.getLast? with
  | none => mode
  | some readOnly =>
    (if true ∈ history then mode ^^^ (mode &&& writeBits) else mode) |||
      if readOnly then 0 else ownerWriteBit

/-- The write bits are three: that of the others, of the group, and of the owner. -/
theorem testBit_writeBits (i : Nat) : writeBits.testBit i = decide (i = 1 ∨ i = 4 ∨ i = 7) := by
  rcases Nat.lt_or_ge i 8 with hlow | hhigh
  · revert i
    decide
  · have hlarge : writeBits < 2 ^ i :=
      Nat.lt_of_lt_of_le (by decide) (Nat.pow_le_pow_right Nat.two_pos hhigh)
    rw [Nat.testBit_lt_two_pow hlarge]
    exact (decide_eq_false (by omega)).symm

/-- The owner's write bit is the one with the number seven. -/
theorem testBit_ownerWriteBit (i : Nat) : ownerWriteBit.testBit i = decide (i = 7) := by
  rw [show ownerWriteBit = 2 ^ 7 from rfl, Nat.testBit_two_pow]
  exact decide_eq_decide.mpr eq_comm

/-- What is cleared of a mode is the bits of the mask. -/
theorem testBit_cleared (mode mask i : Nat) :
    (mode ^^^ (mode &&& mask)).testBit i = (mode.testBit i && !mask.testBit i) := by
  rw [Nat.testBit_xor, Nat.testBit_and]
  cases mode.testBit i <;> cases mask.testBit i <;> rfl

/-- Taking write access away clears three bits, and giving it back sets one. -/
theorem testBit_accessMode (readOnly : Bool) (mode i : Nat) : (accessMode readOnly mode).testBit i
    = if readOnly then mode.testBit i && !decide (i = 1 ∨ i = 4 ∨ i = 7)
      else mode.testBit i || decide (i = 7) := by
  cases readOnly with
  | true => exact (testBit_cleared ..).trans (by rw [testBit_writeBits, if_pos rfl])
  | false =>
    rw [accessMode, if_neg Bool.false_ne_true, if_neg Bool.false_ne_true, Nat.testBit_or,
      testBit_ownerWriteBit]

@[simp] theorem modeAfter_nil (mode : Nat) : modeAfter mode [] = mode := rfl

/-- After some calls, the owner may write exactly if the last one gave write access back. -/
theorem testBit_modeAfter_owner (mode : Nat) (history : List Bool) (readOnly : Bool) :
    (modeAfter mode (history ++ [readOnly])).testBit 7 = !readOnly := by
  rw [modeAfter, List.getLast?_concat, Nat.testBit_or]
  cases readOnly with
  | true =>
    have htaken : true ∈ history ++ [true] := List.mem_concat_self
    rw [if_pos htaken, testBit_cleared, testBit_writeBits]
    simp
  | false => simp [testBit_ownerWriteBit]

/-- Of the other bits, two are cleared as soon as write access is taken away, and all else is as
it was. -/
theorem testBit_modeAfter_of_ne (howner : i ≠ 7) (mode : Nat) (history : List Bool) :
    (modeAfter mode history).testBit i
      = (mode.testBit i && !(decide (true ∈ history) && decide (i = 1 ∨ i = 4))) := by
  rcases List.eq_nil_or_concat history with rfl | ⟨history, readOnly, rfl⟩
  · simp
  · have hset : Nat.testBit (if readOnly = true then 0 else ownerWriteBit) i = false := by
      cases readOnly with
      | true => exact Nat.zero_testBit i
      | false => exact (testBit_ownerWriteBit i).trans (decide_eq_false howner)
    rw [List.concat_eq_append, modeAfter, List.getLast?_concat, Nat.testBit_or, hset, Bool.or_false]
    by_cases htaken : true ∈ history ++ [readOnly]
    · rw [if_pos htaken, testBit_cleared, testBit_writeBits]
      simp [htaken, howner]
    · simp [htaken]

/-- Bits for which no one's right to write stands are as they were. -/
theorem testBit_modeAfter_of_kept (hkept : ¬ (i = 1 ∨ i = 4 ∨ i = 7)) (mode : Nat)
    (history : List Bool) : (modeAfter mode history).testBit i = mode.testBit i := by
  have howner : i ≠ 7 := fun h => hkept (Or.inr (Or.inr h))
  have hothers : ¬ (i = 1 ∨ i = 4) := fun h => hkept (h.elim Or.inl fun h => Or.inr (Or.inl h))
  rw [testBit_modeAfter_of_ne howner, decide_eq_false hothers, Bool.and_false, Bool.not_false,
    Bool.and_true]

/-- One more call changes the mode as a call does. -/
theorem modeAfter_concat (mode : Nat) (history : List Bool) (readOnly : Bool) :
    modeAfter mode (history ++ [readOnly]) = accessMode readOnly (modeAfter mode history) := by
  apply Nat.eq_of_testBit_eq
  intro i
  rw [testBit_accessMode]
  by_cases howner : i = 7
  · subst howner
    rw [testBit_modeAfter_owner]
    cases readOnly <;> simp
  · rw [testBit_modeAfter_of_ne howner, testBit_modeAfter_of_ne howner]
    by_cases hothers : i = 1 ∨ i = 4
    · cases readOnly <;> simp [howner, hothers]
    · cases readOnly <;> simp [howner, hothers]

/-- Only whether write access was ever taken away counts, and the last call. -/
theorem modeAfter_congr {history' : List Bool} (htaken : true ∈ history ↔ true ∈ history')
    (hlast : history.getLast? = history'.getLast?) :
    modeAfter mode history = modeAfter mode history' := by
  unfold modeAfter
  simp only [htaken, hlast]

/-- What the mode of a file owes to the calls so far: `left` is the mode that they leave. -/
structure AccessLaws (left : List Bool → Nat) : Prop where
  /-- Right after write access is taken away, nobody may write. -/
  taken : ∀ history, left (history ++ [true]) &&& writeBits = 0
  /-- Right after it is given back, the owner may. -/
  returned : ∀ history, (left (history ++ [false])).testBit 7 = true
  /-- No call lets anybody else write. -/
  others : ∀ history readOnly i, i ≠ 7 → (left (history ++ [readOnly])).testBit i = true →
    (left history).testBit i = true
  /-- No other bit ever changes. -/
  kept : ∀ history i, ¬ (i = 1 ∨ i = 4 ∨ i = 7) → (left history).testBit i = (left []).testBit i
  /-- Only whether write access was ever taken away counts, and the last call. -/
  determined : ∀ history history' : List Bool, (true ∈ history ↔ true ∈ history') →
    history.getLast? = history'.getLast? → left history = left history'
  /-- Doing the same again changes nothing. -/
  repeated : ∀ history readOnly,
    left (history ++ [readOnly] ++ [readOnly]) = left (history ++ [readOnly])

/-- The laws hold of the modes that histories tell, whatever the first mode was. -/
theorem accessLaws_modeAfter (mode : Nat) : AccessLaws (modeAfter mode) where
  taken history := by
    apply Nat.eq_of_testBit_eq
    intro i
    rw [modeAfter_concat, Nat.testBit_and, testBit_accessMode, testBit_writeBits, Nat.zero_testBit]
    by_cases hwrite : i = 1 ∨ i = 4 ∨ i = 7 <;> simp [hwrite]
  returned history := testBit_modeAfter_owner mode history false
  others history readOnly i howner hset := by
    rw [testBit_modeAfter_of_ne howner, Bool.and_eq_true] at hset ⊢
    refine ⟨hset.1, ?_⟩
    by_cases htaken : true ∈ history
    · simpa [htaken] using hset.2
    · simp [htaken]
  kept history i hkept := testBit_modeAfter_of_kept hkept mode history
  determined history history' := modeAfter_congr
  repeated history readOnly := by
    apply modeAfter_congr
    · rw [List.mem_append, List.mem_singleton, or_iff_left_of_imp]
      rintro rfl
      exact List.mem_concat_self
    · rw [List.getLast?_concat, List.getLast?_concat]

/-! ## What the system stores -/

/-- The set-group-id bit. -/
def setGroupIdBit : Nat := 0o2000

/-- A mode without the set-group-id bit. -/
def withoutSetGroupId (mode : Nat) : Nat := mode ^^^ (mode &&& setGroupIdBit)

/-- A mode is as asked for, but may lack the set-group-id bit. -/
def IsStored (asked mode : Nat) : Prop := mode = asked ∨ mode = withoutSetGroupId asked

/-- The system stores every mode that it is asked for, as it does for a process that is
privileged or in the group of the file. -/
def StoresAsAsked (stored : Nat → Nat) : Prop := ∀ mode, stored mode = mode

/-- The system stores every mode that it is asked for, or leaves out the set-group-id bit, as it
does for a process that is neither privileged nor in the group of the file. -/
def StoresButSetGroupId (stored : Nat → Nat) : Prop := ∀ mode, IsStored mode (stored mode)

/-- Only the set-group-id bit is left out. -/
theorem testBit_withoutSetGroupId (mode i : Nat) :
    (withoutSetGroupId mode).testBit i = (mode.testBit i && !decide (i = 10)) := by
  rw [withoutSetGroupId, testBit_cleared, show setGroupIdBit = 2 ^ 10 from rfl, Nat.testBit_two_pow]
  simp only [eq_comm]

/-- The set-group-id bit is left out once and for all. -/
theorem withoutSetGroupId_withoutSetGroupId (mode : Nat) :
    withoutSetGroupId (withoutSetGroupId mode) = withoutSetGroupId mode := by
  apply Nat.eq_of_testBit_eq
  intro i
  rw [testBit_withoutSetGroupId, testBit_withoutSetGroupId, Bool.and_assoc, Bool.and_self]

/-- A mode without the set-group-id bit has none to leave out. -/
theorem withoutSetGroupId_of_testBit_eq_false (h : mode.testBit 10 = false) :
    withoutSetGroupId mode = mode := by
  apply Nat.eq_of_testBit_eq
  intro i
  rw [testBit_withoutSetGroupId]
  by_cases hbit : i = 10
  · rw [hbit, h, Bool.false_and]
  · rw [decide_eq_false hbit, Bool.not_false, Bool.and_true]

/-- A call asks for the same of a mode that lacks the set-group-id bit, but for that bit. -/
theorem accessMode_withoutSetGroupId (readOnly : Bool) (mode : Nat) :
    accessMode readOnly (withoutSetGroupId mode)
      = withoutSetGroupId (accessMode readOnly mode) := by
  apply Nat.eq_of_testBit_eq
  intro i
  rw [testBit_accessMode, testBit_withoutSetGroupId, testBit_withoutSetGroupId, testBit_accessMode]
  by_cases hbit : i = 10
  · subst hbit
    cases readOnly <;> simp
  · simp [hbit]

/-- Leaving the set-group-id bit out first or last is the same. -/
theorem modeAfter_withoutSetGroupId (mode : Nat) (history : List Bool) :
    modeAfter (withoutSetGroupId mode) history = withoutSetGroupId (modeAfter mode history) := by
  induction history using List.reverseRecOn with
  | nil => rfl
  | append_singleton history readOnly ih =>
    rw [modeAfter_concat, modeAfter_concat, ih, accessMode_withoutSetGroupId]

namespace IsStored

/-- Without the set-group-id bit, there is no difference. -/
theorem withoutSetGroupId_eq (h : IsStored asked mode) :
    withoutSetGroupId mode = withoutSetGroupId asked := by
  rcases h with rfl | rfl
  · rfl
  · exact withoutSetGroupId_withoutSetGroupId asked

/-- Where that bit was not asked for, there is none either. -/
theorem eq_of_testBit_eq_false (h : IsStored asked mode) (hbit : asked.testBit 10 = false) :
    mode = asked := by
  rcases h with rfl | rfl
  · rfl
  · exact withoutSetGroupId_of_testBit_eq_false hbit

/-- What a call asks for is stored in turn. -/
theorem stored_accessMode {stored : Nat → Nat} (h : IsStored asked mode)
    (hstored : StoresButSetGroupId stored) (readOnly : Bool) :
    IsStored (accessMode readOnly asked) (stored (accessMode readOnly mode)) := by
  rcases hstored (accessMode readOnly mode) with hsame | hdropped
  · rw [hsame]
    rcases h with rfl | rfl
    · exact Or.inl rfl
    · exact Or.inr (accessMode_withoutSetGroupId ..)
  · refine Or.inr (hdropped.trans ?_)
    rw [← accessMode_withoutSetGroupId, ← accessMode_withoutSetGroupId, h.withoutSetGroupId_eq]

end IsStored

end Modes

/-! ## Where paths lead -/

namespace Files

/-- Trees, seen from the same place, that have the same objects up to their modes. -/
structure SameButModes (f f' : Files) : Prop where
  workingDirectory : f'.workingDirectory = f.workingDirectory
  socketsBound : f'.socketsBound = f.socketsBound
  kinds : ∀ place, (f'.at? place).map (·.kind) = (f.at? place).map (·.kind)

variable {f f' f'' : Files} {p : Path} {place : Location} {o : FileObject}

namespace SameButModes

theorem refl (f : Files) : f.SameButModes f := ⟨rfl, rfl, fun _ => rfl⟩

theorem trans (h : f.SameButModes f') (h' : f'.SameButModes f'') : f.SameButModes f'' where
  workingDirectory := h'.workingDirectory.trans h.workingDirectory
  socketsBound := h'.socketsBound.trans h.socketsBound
  kinds place := (h'.kinds place).trans (h.kinds place)

/-- What is at a place is of the same kind, or there is nothing in both trees. -/
theorem cases (h : f.SameButModes f') (place : Location) : f.at? place = none ∧ f'.at? place = none
    ∨ ∃ kind mode mode', f.at? place = some ⟨kind, mode⟩ ∧ f'.at? place = some ⟨kind, mode'⟩ := by
  have hkind := h.kinds place
  cases hat : f.at? place with
  | none =>
    rw [hat, Option.map_none, Option.map_eq_none_iff] at hkind
    exact Or.inl ⟨rfl, hkind⟩
  | some o =>
    rw [hat, Option.map_some, Option.map_eq_some_iff] at hkind
    obtain ⟨⟨kind, mode'⟩, hat', rfl⟩ := hkind
    exact Or.inr ⟨_, o.mode, mode', rfl, hat'⟩

/-- Steps lead to the same place, or to the same jump. -/
theorem advance (h : f.SameButModes f')
    (jump : Location → List FileEntryName → Except IoError Location) (start : Location)
    (cs : List FileEntryName) : f'.advance jump start cs = f.advance jump start cs := by
  induction cs generalizing start with
  | nil => rfl
  | cons c cs ih =>
    rw [Files.advance, Files.advance]
    rcases h.cases start with ⟨hat, hat'⟩ | ⟨kind, mode, mode', hat, hat'⟩
    · rw [hat, hat']
    rw [hat, hat']
    cases kind with
    | directory =>
      dsimp only
      rw [ih, ih, ih]
      rcases h.cases (start ++ [c]) with ⟨hnext, hnext'⟩ | ⟨kind, mode, mode', hnext, hnext'⟩
      · rw [hnext, hnext']
      · rw [hnext, hnext']
        cases kind <;> rfl
    | _ => rfl

/-- Modes have no influence on where a path leads. -/
theorem follow (h : f.SameButModes f') (links : Nat) (start : Location) (cs : List FileEntryName) :
    f'.follow links start cs = f.follow links start cs := by
  induction links generalizing start cs with
  | zero => exact h.advance ..
  | succ links ih =>
    have hjump : f'.follow links = f.follow links :=
      funext fun start => funext fun cs => ih start cs
    rw [Files.follow, Files.follow, hjump, h.advance]

end SameButModes

/-- The place of what a path leads to. -/
def leadsTo (f : Files) (p : Path) : Except IoError Location := (f.lookUp p).map Prod.fst

/-- A path leads to the same place, or nowhere for the same reason. -/
theorem SameButModes.leadsTo (h : f.SameButModes f') (p : Path) : f'.leadsTo p = f.leadsTo p := by
  unfold Files.leadsTo lookUp
  rw [startOf, startOf, h.workingDirectory, h.follow]
  cases checkPath p with
  | error e => rfl
  | ok =>
    cases f.follow maxLinks (if p.isAbsolute = true then [] else f.workingDirectory) p.steps with
    | error e => rfl
    | ok place =>
      rcases h.cases place with ⟨hat, hat'⟩ | ⟨kind, mode, mode', hat, hat'⟩
      · simp only [bind, Except.bind, hat, hat']
      · simp only [bind, Except.bind, hat, hat']
        rfl

/-- What a path leads to is looked up at the same place. -/
theorem SameButModes.lookUp (h : f.SameButModes f') (hlookUp : f.lookUp p = .ok (place, o))
    {o' : FileObject} (hat : f'.at? place = some o') : f'.lookUp p = .ok (place, o') := by
  obtain ⟨hcheck, hfollow, -⟩ := lookUp_eq_ok_iff.mp hlookUp
  refine lookUp_eq_ok_iff.mpr ⟨hcheck, ?_, hat⟩
  rw [startOf, h.workingDirectory, h.follow]
  exact hfollow

/-- Another mode for what is at a place. -/
theorem sameButModes_put (hat : f.at? place = some o) (mode : Nat) :
    f.SameButModes (f.put place { o with mode }) := by
  refine ⟨rfl, rfl, fun q => ?_⟩
  rw [at?_put_mode hat]
  by_cases hplace : q = place
  · rw [if_pos hplace, hplace, hat]
    rfl
  · rw [if_neg hplace]

/-- Taking write access away or giving it back changes the mode of what the path leads to. -/
theorem setReadOnly_eq (f : Files) (p : Path) (readOnly : Bool) (stored : Nat → Nat) :
    f.setReadOnly p readOnly stored
      = match f.lookUp p with
        | .error cause => .error (.permissionUpdateFailed p cause)
        | .ok (place, o) =>
          .ok (f.put place { o with mode := stored (accessMode readOnly o.mode) }) := by
  unfold setReadOnly Files.mode setMode
  cases f.lookUp p <;> rfl

end Files

/-! ## Calls -/

/-- A call that takes write access away or gives it back. -/
structure AccessCall where
  path : Path
  readOnly : Bool
  /-- Why the system refuses to change the mode, if it does. -/
  refusal : Option IoError := none
  /-- What the system stores of the mode that it is asked for, if it does not refuse. -/
  stored : Nat → Nat := id

namespace AccessCall

variable {c : AccessCall} {f f' : Files} {p : Path} {place : Location} {o : FileObject}
  {calls : List AccessCall} {stored : Nat → Nat}

/-- What a call answers and leaves.  The system leaves a mode that it refuses to change. -/
def perform (c : AccessCall) (f : Files) : Except Error Unit × Files :=
  match f.setReadOnly c.path c.readOnly c.stored, c.refusal with
  | .ok f', none => (.ok (), f')
  | .ok _, some cause => (.error (.permissionUpdateFailed c.path cause), f)
  | .error e, _ => (.error e, f)

/-- What a call has to answer: that it succeeded if the path leads to something whose mode may
be changed. -/
def answer (c : AccessCall) (f : Files) : Except Error Unit :=
  match f.leadsTo c.path, c.refusal with
  | .ok _, none => .ok ()
  | .ok _, some cause => .error (.permissionUpdateFailed c.path cause)
  | .error cause, _ => .error (.permissionUpdateFailed c.path cause)

/-- Whether a call changes the mode of what is at a place. -/
def changes (c : AccessCall) (f : Files) (place : Location) : Bool :=
  c.refusal.isNone && (f.leadsTo c.path).toOption == some place

/-- **What a call does**: it changes the mode of what its path leads to, or fails and leaves
everything. -/
theorem perform_cases (c : AccessCall) (f : Files) :
    (∃ place o, f.at? place = some o
      ∧ c.perform f = (.ok (), f.put place
        { o with mode := c.stored (accessMode c.readOnly o.mode) })
      ∧ c.answer f = .ok () ∧ ∀ q, c.changes f q = decide (q = place))
    ∨ ∃ cause, c.perform f = (.error (.permissionUpdateFailed c.path cause), f)
      ∧ c.answer f = .error (.permissionUpdateFailed c.path cause)
        ∧ ∀ q, c.changes f q = false := by
  unfold perform answer changes Files.leadsTo
  rw [Files.setReadOnly_eq]
  cases hlookUp : f.lookUp c.path with
  | error cause =>
    refine Or.inr ⟨cause, rfl, rfl, fun q => ?_⟩
    rw [Bool.and_eq_false_iff]
    exact Or.inr rfl
  | ok found =>
    obtain ⟨place, o⟩ := found
    cases hrefusal : c.refusal with
    | some cause => exact Or.inr ⟨cause, rfl, rfl, fun q => rfl⟩
    | none =>
      refine Or.inl ⟨place, o, (Files.lookUp_eq_ok_iff.mp hlookUp).2.2, rfl, rfl, fun q => ?_⟩
      rw [Bool.eq_iff_iff, decide_eq_true_eq, Option.isNone_none, Bool.true_and, beq_iff_eq,
        eq_comm (a := q)]
      exact Option.some_inj

/-- Nothing but modes is changed. -/
theorem sameButModes_perform (c : AccessCall) (f : Files) : f.SameButModes (c.perform f).2 := by
  rcases c.perform_cases f with ⟨place, o, hat, hperform, -⟩ | ⟨cause, hperform, -⟩
  · rw [hperform]
    exact Files.sameButModes_put hat _
  · rw [hperform]
    exact .refl f

/-- A call answers what the tree before it says. -/
theorem fst_perform (c : AccessCall) (f : Files) : (c.perform f).1 = c.answer f := by
  rcases c.perform_cases f with ⟨place, o, -, hperform, hanswer, -⟩
    | ⟨cause, hperform, hanswer, -⟩ <;>
    rw [hperform, hanswer]

/-- A call changes the mode at the place that it is about. -/
theorem at?_perform (hat : f.at? place = some o) : (c.perform f).2.at? place
    = some { o with
        mode := if c.changes f place then c.stored (accessMode c.readOnly o.mode)
          else o.mode } := by
  rcases c.perform_cases f with ⟨q, o', hq, hperform, -, hchanges⟩ | ⟨cause, hperform, -, hchanges⟩
  · rw [hperform, hchanges, Files.at?_put_mode hq]
    by_cases hsame : place = q
    · subst hsame
      obtain rfl := Option.some.inj (hat.symm.trans hq)
      simp
    · simp [hsame, hat]
  · rw [hperform, hchanges, hat]
    rfl

/-- Answers depend on where paths lead alone. -/
theorem answer_congr (h : f.SameButModes f') (c : AccessCall) : c.answer f' = c.answer f := by
  rw [answer, answer, h.leadsTo]

/-- So does what is changed. -/
theorem changes_congr (h : f.SameButModes f') (c : AccessCall) (place : Location) :
    c.changes f' place = c.changes f place := by
  rw [changes, changes, h.leadsTo]

/-! ## Modes that are stored -/

/-- The mode that calls leave in turn, each of which changes the mode that the one before has
left. -/
def storedAfter (mode : Nat) (calls : List AccessCall) : Nat :=
  calls.foldl (fun mode c => c.stored (accessMode c.readOnly mode)) mode

/-- Where the system stores what it is asked for, the history tells the mode. -/
theorem storedAfter_eq (hstored : ∀ c ∈ calls, StoresAsAsked c.stored) (mode : Nat) :
    storedAfter mode calls = modeAfter mode (calls.map (·.readOnly)) := by
  induction calls using List.reverseRecOn with
  | nil => rfl
  | append_singleton calls c ih =>
    have hlast : StoresAsAsked c.stored := hstored c List.mem_concat_self
    rw [storedAfter, List.foldl_concat, ← storedAfter, hlast,
      ih fun c hc => hstored c (List.mem_append_left _ hc), List.map_append, List.map_singleton,
      modeAfter_concat]

/-- Where the set-group-id bit may be dropped, the history tells the mode up to that bit. -/
theorem isStored_storedAfter (hstored : ∀ c ∈ calls, StoresButSetGroupId c.stored) (mode : Nat) :
    IsStored (modeAfter mode (calls.map (·.readOnly))) (storedAfter mode calls) := by
  induction calls using List.reverseRecOn with
  | nil => exact Or.inl rfl
  | append_singleton calls c ih =>
    rw [storedAfter, List.foldl_concat, ← storedAfter, List.map_append, List.map_singleton,
      modeAfter_concat]
    exact (ih fun c hc => hstored c (List.mem_append_left _ hc)).stored_accessMode
      (hstored c List.mem_concat_self) c.readOnly

/-! ## Calls in turn -/

/-- What the calls that changed the mode of what is at a place made of write access. -/
def history (f : Files) (place : Location) (calls : List AccessCall) : List Bool :=
  (calls.filter (·.changes f place)).map (·.readOnly)

/-- Calls, however many, change nothing but modes. -/
theorem sameButModes_inTurn (calls : List AccessCall) (f : Files) :
    f.SameButModes (inTurn perform calls f).2 :=
  inTurn_keeps (fun c _ h => h.trans (c.sameButModes_perform _)) calls (.refl f)

/-- Each call answers as the first tree tells. -/
theorem fst_inTurn (calls : List AccessCall) (f : Files) :
    (inTurn perform calls f).1 = calls.map (·.answer f) := by
  induction calls generalizing f with
  | nil => rfl
  | cons c calls ih =>
    show (c.perform f).1 :: (inTurn perform calls (c.perform f).2).1 = _
    rw [ih, fst_perform, List.map_cons]
    congr 1
    apply List.map_congr_left
    intro c' _
    exact answer_congr (c.sameButModes_perform f) c'

/-- A place keeps its object, with the mode that the calls about it leave. -/
theorem at?_inTurn (calls : List AccessCall) (hat : f.at? place = some o) :
    (inTurn perform calls f).2.at? place
      = some { o with mode := storedAfter o.mode (calls.filter (·.changes f place)) } := by
  induction calls generalizing f o with
  | nil => exact hat
  | cons c calls ih =>
    have hchanges : (fun c' : AccessCall => c'.changes (c.perform f).2 place)
        = fun c' => c'.changes f place :=
      funext fun c' => changes_congr (c.sameButModes_perform f) c' place
    rw [inTurn, ih (at?_perform hat), hchanges, List.filter_cons]
    cases c.changes f place <;> rfl

/-! ## Calls about one path -/

/-- Calls about one path that the system does not refuse. -/
def onPath (p : Path) (stored : Nat → Nat) (history : List Bool) : List AccessCall :=
  history.map fun readOnly => { path := p, readOnly, stored }

/-- A call changes the file that its path leads to. -/
theorem changes_of_lookUp (hlookUp : f.lookUp p = .ok (place, o)) (readOnly : Bool) :
    changes { path := p, readOnly, stored } f place = true := by
  rw [changes, Files.leadsTo, hlookUp]
  exact beq_self_eq_true (some place)

theorem answer_of_lookUp (hlookUp : f.lookUp p = .ok (place, o)) (readOnly : Bool) :
    answer { path := p, readOnly, stored } f = .ok () := by
  rw [answer, Files.leadsTo, hlookUp]
  rfl

/-- All of them change the mode of what the path leads to. -/
theorem filter_changes_onPath (hlookUp : f.lookUp p = .ok (place, o)) (bs : List Bool) :
    (onPath p stored bs).filter (·.changes f place) = onPath p stored bs := by
  rw [List.filter_eq_self, onPath, List.forall_mem_map]
  exact fun readOnly _ => changes_of_lookUp hlookUp readOnly

theorem map_readOnly_onPath (bs : List Bool) : (onPath p stored bs).map (·.readOnly) = bs := by
  rw [onPath, List.map_map]
  exact List.map_id bs

/-- The mode that the path shows after them. -/
theorem mode_inTurn_onPath (hlookUp : f.lookUp p = .ok (place, o)) (bs : List Bool) :
    (inTurn perform (onPath p stored bs) f).2.mode p
      = .ok (storedAfter o.mode (onPath p stored bs)) := by
  have hat := at?_inTurn (onPath p stored bs) (Files.lookUp_eq_ok_iff.mp hlookUp).2.2
  rw [filter_changes_onPath hlookUp] at hat
  rw [Files.mode, (sameButModes_inTurn _ f).lookUp hlookUp hat]
  rfl

/-- What holds of a way to store modes holds of all calls that store so. -/
theorem forall_onPath {holds : (Nat → Nat) → Prop} (h : holds stored) (bs : List Bool) :
    ∀ c ∈ onPath p stored bs, holds c.stored := by
  rw [onPath, List.forall_mem_map]
  exact fun _ _ => h

/-- Where the system stores what it is asked for, the calls leave what their history tells. -/
theorem storedAfter_onPath_eq (hstored : StoresAsAsked stored) (mode : Nat) (bs : List Bool) :
    storedAfter mode (onPath p stored bs) = modeAfter mode bs := by
  rw [storedAfter_eq (forall_onPath hstored bs), map_readOnly_onPath]

/-- Where it may drop the set-group-id bit, the calls leave that up to this bit. -/
theorem isStored_storedAfter_onPath (hstored : StoresButSetGroupId stored) (mode : Nat)
    (bs : List Bool) : IsStored (modeAfter mode bs) (storedAfter mode (onPath p stored bs)) := by
  have h := isStored_storedAfter (forall_onPath (p := p) hstored bs) mode
  rwa [map_readOnly_onPath] at h

/-- What is left up to the set-group-id bit obeys the laws but for this bit. -/
theorem accessLaws_of_isStored {left : List Bool → Nat} {mode : Nat}
    (hleft : ∀ bs, IsStored (modeAfter mode bs) (left bs)) :
    AccessLaws fun bs => withoutSetGroupId (left bs) := by
  have hwithout : (fun bs => withoutSetGroupId (left bs)) = modeAfter (withoutSetGroupId mode) := by
    funext bs
    rw [(hleft bs).withoutSetGroupId_eq, modeAfter_withoutSetGroupId]
  exact hwithout ▸ accessLaws_modeAfter _

/-! ## The whole -/

/-- **Write access after many calls.**

* Calls in turn on one file whose mode may be changed all succeed.  Where the system stores what
  it is asked for, they leave the file with the mode that their history tells: the write bits of
  its first mode are cleared if write access was ever taken away, and the owner's is set if the
  last call gave it back. So the modes that they leave obey the laws of `AccessLaws`.  Where the
  system may drop the set-group-id bit, all this holds up to that bit, which no call sets, and
  in full for a file that does not have it.
* The same holds for calls about any paths, some of which fail: what counts for a file is the
  history of the calls that lead to it and are not refused.  Each call answers as the first tree
  tells, and nothing but modes is changed.
* A call that fails says so about its path, and leaves everything as it was. -/
theorem write_access_after_calls (f : Files) :
    (∀ p stored place o, f.lookUp p = .ok (place, o) → ∃ left : List Bool → Nat,
      (∀ bs, (inTurn perform (onPath p stored bs) f).1 = bs.map (fun _ => .ok ())
        ∧ (inTurn perform (onPath p stored bs) f).2.mode p = .ok (left bs))
      ∧ (StoresAsAsked stored → (∀ bs, left bs = modeAfter o.mode bs) ∧ AccessLaws left)
      ∧ (StoresButSetGroupId stored → (∀ bs, IsStored (modeAfter o.mode bs) (left bs))
        ∧ AccessLaws (fun bs => withoutSetGroupId (left bs))
        ∧ (o.mode.testBit 10 = false → ∀ bs, left bs = modeAfter o.mode bs)))
    ∧ (∀ calls, (inTurn perform calls f).1 = calls.map (·.answer f)
      ∧ f.SameButModes (inTurn perform calls f).2
      ∧ ∀ place o, f.at? place = some o → ∃ mode,
          (inTurn perform calls f).2.at? place = some { o with mode }
          ∧ ((∀ c ∈ calls, StoresAsAsked c.stored) →
            mode = modeAfter o.mode (history f place calls))
          ∧ ((∀ c ∈ calls, StoresButSetGroupId c.stored) →
            IsStored (modeAfter o.mode (history f place calls)) mode))
    ∧ ∀ c e, (perform c f).1 = .error e →
      (perform c f).2 = f ∧ ∃ cause, e = .permissionUpdateFailed c.path cause := by
  refine ⟨fun p stored place o hlookUp => ⟨fun bs => storedAfter o.mode (onPath p stored bs),
      fun bs => ⟨?answers, mode_inTurn_onPath hlookUp bs⟩, fun hstored => ?asAsked, fun hstored =>
        ?upToOne⟩,
    fun calls => ⟨fst_inTurn calls f, sameButModes_inTurn calls f, fun place o hat =>
      ⟨_, at?_inTurn calls hat, fun hstored => ?allAsAsked, fun hstored => ?allUpToOne⟩⟩,
    fun c e he => ?failed⟩
  case answers =>
    rw [fst_inTurn, onPath, List.map_map]
    apply List.map_congr_left
    intro readOnly _
    exact answer_of_lookUp hlookUp readOnly
  case asAsked =>
    have hleft : (fun bs => storedAfter o.mode (onPath p stored bs)) = modeAfter o.mode :=
      funext (storedAfter_onPath_eq hstored o.mode)
    exact ⟨congrFun hleft, hleft ▸ accessLaws_modeAfter o.mode⟩
  case upToOne =>
    have hleft := isStored_storedAfter_onPath (p := p) hstored o.mode
    refine ⟨hleft, accessLaws_of_isStored hleft, fun hbit bs =>
      (hleft bs).eq_of_testBit_eq_false ?_⟩
    rw [testBit_modeAfter_of_kept (by decide), hbit]
  case allAsAsked =>
    exact storedAfter_eq (fun c hc => hstored c (List.mem_of_mem_filter hc)) o.mode
  case allUpToOne =>
    exact isStored_storedAfter (fun c hc => hstored c (List.mem_of_mem_filter hc)) o.mode
  case failed =>
    rcases c.perform_cases f with ⟨place, o, -, hperform, -⟩ | ⟨cause, hperform, -⟩
    · rw [hperform] at he
      cases he
    · rw [hperform] at he ⊢
      cases he
      exact ⟨rfl, cause, rfl⟩

/-- A tree with one file, which everybody may write and which has the set-group-id bit, and a
link to it. -/
def sharedFile : Files where
  objects := [([[0x61]], ⟨.regular [], 0o3666⟩), ([[0x6c]], ⟨.link ⟨[0x61]⟩, 0o777⟩)]

/-- Write access that is taken away and given back through a link is left to the owner of the
file.  The set-group-id bit stays only if the system leaves it, and a refused call changes
nothing. -/
theorem write_access_after_calls_round_trip :
    sharedFile.lookUp ⟨[0x6c]⟩ = .ok ([[0x61]], ⟨.regular [], 0o3666⟩)
    ∧ StoresAsAsked id ∧ StoresButSetGroupId withoutSetGroupId
    ∧ (inTurn perform (onPath ⟨[0x6c]⟩ id [true, false]) sharedFile).2.mode ⟨[0x6c]⟩ = .ok 0o3644
    ∧ (∃ mode, (inTurn perform (onPath ⟨[0x6c]⟩ withoutSetGroupId [true, false]) sharedFile).2.mode
        ⟨[0x6c]⟩ = .ok mode ∧ IsStored 0o3644 mode ∧ mode = 0o1644)
    ∧ (inTurn perform [{ path := ⟨[0x61]⟩, readOnly := true },
      { path := ⟨[0x62]⟩, readOnly := false }]
        sharedFile).2.at? [[0x61]] = some ⟨.regular [], 0o3444⟩
    ∧ (perform { path := ⟨[0x61]⟩, readOnly := true, refusal := some (.system .notPermitted) }
        sharedFile).2 = sharedFile := by
  have hlookUp : sharedFile.lookUp ⟨[0x6c]⟩ = .ok ([[0x61]], ⟨.regular [], 0o3666⟩) := by rfl
  have hasked : StoresAsAsked id := fun _ => rfl
  have hdropped : StoresButSetGroupId withoutSetGroupId := fun _ => Or.inr rfl
  obtain ⟨hone, hmany, hfailed⟩ := write_access_after_calls sharedFile
  refine ⟨hlookUp, hasked, hdropped, ?_, ?_, ?_, ?_⟩
  · obtain ⟨left, hleft, hexact, -⟩ := hone _ id _ _ hlookUp
    rw [(hleft [true, false]).2, (hexact hasked).1]
    rfl
  · obtain ⟨left, hleft, -, hstored⟩ := hone _ withoutSetGroupId _ _ hlookUp
    exact ⟨_, (hleft _).2, (hstored hdropped).1 [true, false],
      Except.ok.inj ((hleft [true, false]).2.symm.trans rfl)⟩
  · obtain ⟨mode, hat, hexact, -⟩ := (hmany _).2.2 [[0x61]] _ rfl
    rw [hat, hexact (by simp [StoresAsAsked])]
    rfl
  · exact (hfailed _ _ rfl).1

end AccessCall

end FileActivity
