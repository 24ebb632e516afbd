/-
# What commands reach

Commands may name any process number, and a number that is too large would address a whole group
of processes.  What gets through to the control is told by the number alone: those that name a
single process which is neither the first one nor the agent itself, and only if there is a
control at all.  Every other command is refused, for the first reason that applies, and touches
nothing.

Main statement: `QuarantineActor.commands_reach`.
-/
import FileActivity.Proofs.InTurn
import FileActivity.Quarantine.Actor

namespace FileActivity

/-- What is to be done, and to which process. -/
abbrev ProcessCommand := Verb × ProcessId

/-! ## Writing calls down -/

/-- An action on a process that also writes down each call. -/
def writtenDown {α ω σ : Type} (act : α → ProcessId → σ → ω × σ) (a : α) (pid : ProcessId)
    (s : σ × List (α × ProcessId)) : ω × σ × List (α × ProcessId) :=
  ((act a pid s.1).1, (act a pid s.1).2, s.2 ++ [(a, pid)])

/-! ## Process numbers -/

/-- A number that names a single process is signalled as it is. -/
theorem signalTarget_of_mem {pid : ProcessId} (h : 0 < pid ∧ pid ≤ maxProcessId) :
    signalTarget pid = .ok pid := if_pos h

/-- A number that names no single process is refused. -/
theorem signalTarget_of_not_mem {pid : ProcessId} (h : ¬ (0 < pid ∧ pid ≤ maxProcessId)) :
    signalTarget pid = .error (.processNotFound pid) := if_neg h

theorem one_le_iff_pos {pid : ProcessId} : 1 ≤ pid ↔ 0 < pid := by
  rw [UInt32.le_iff_toNat_le, UInt32.lt_iff_toNat_lt]
  exact Iff.rfl

/-- A number that names a single process is the same number with a sign. -/
theorem toInt_toInt32 {pid : ProcessId} (h : pid ≤ maxProcessId) :
    pid.toInt32.toInt = pid.toNat := by
  have hle : pid.toNat ≤ 0x7fffffff := UInt32.le_iff_toNat_le.mp h
  have hlt : 2 * pid.toBitVec.toNat < 2 ^ 32 := by rw [UInt32.toNat_toBitVec]; omega
  rw [← Int32.toInt_toBitVec, UInt32.toBitVec_toInt32, BitVec.toInt_eq_toNat_of_lt hlt,
    UInt32.toNat_toBitVec]

namespace ProcessControl

variable {σ : Type}

/-- A control that also writes down the commands that reach it. -/
def recorded (control : ProcessControl σ) : ProcessControl (σ × List ProcessCommand) :=
  ⟨writtenDown control.perform⟩

/-- Carries out commands in turn. -/
def performAll (control : ProcessControl σ) :
    List ProcessCommand → σ → List (Except Error Unit) × σ :=
  inTurn fun command => control.perform command.1 command.2

end ProcessControl

/-! ## Signals -/

section Signals

variable {σ : Type} {send : Signal → ProcessId → σ → Except Errno Unit × σ} {pid : ProcessId}

/-- A number that names no single process is refused before any signal. -/
theorem signalControl_perform_of_not_mem (h : ¬ (0 < pid ∧ pid ≤ maxProcessId)) (verb : Verb)
    (s : σ) : (signalControl send).perform verb pid s = (.error (.processNotFound pid), s) := by
  simp only [signalControl, signalTarget_of_not_mem h]

/-- A single process gets the signal of the command. -/
theorem signalControl_perform_of_mem (h : 0 < pid ∧ pid ≤ maxProcessId) (verb : Verb) (s : σ) :
    (signalControl send).perform verb pid s
      = ((send verb.signal pid s).1.mapError (signalFailure pid), (send verb.signal pid s).2) := by
  simp only [signalControl, signalTarget_of_mem h]

/-- The two failures that concern the process are told from all others. -/
theorem mapError_signalFailure (outcome : Except Errno Unit) (pid : ProcessId) :
    outcome.mapError (signalFailure pid)
      = match outcome with
        | .ok () => .ok ()
        | .error e =>
          if e = .notPermitted then .error (.quarantinePrivilegeDenied pid)
          else if e = .noProcess then .error (.processNotFound pid)
          else .error (.systemCall e) := by
  cases outcome with
  | ok => rfl
  | error e =>
    have hfailure : (Except.error e : Except Errno Unit).mapError (signalFailure pid)
        = .error (signalFailure pid e) := rfl
    rw [hfailure, signalFailure]
    dsimp only
    split
    · rfl
    · split <;> rfl

end Signals

namespace QuarantineActor

variable {σ : Type} {a : QuarantineActor σ} {command : ProcessCommand}
  {commands : List ProcessCommand} {s : σ}

/-! ## Which commands reach the control -/

/-- Whether a command reaches the control: there is one, and the number names a single process
that is neither the first one nor the agent itself. -/
def reaches (a : QuarantineActor σ) (command : ProcessCommand) : Bool :=
  a.isAvailable && decide (2 ≤ command.2 ∧ command.2 ≤ maxProcessId ∧ command.2 ≠ a.ownPid)

/-- What stands against acting on a process, the first reason that applies. -/
def objection (a : QuarantineActor σ) (pid : ProcessId) : Option Error :=
  if !a.isAvailable then some .quarantineUnavailable
  else if pid = 0 ∨ pid = 1 ∨ pid = a.ownPid then some (.protectedProcess pid)
  else if maxProcessId < pid then some (.processNotFound pid)
  else none

/-- The agent protects the first process, itself, and the number that names no process. -/
theorem isProtected_iff {pid : ProcessId} :
    a.isProtected pid ↔ pid = 0 ∨ pid = 1 ∨ pid = a.ownPid := by
  simp only [isProtected, Bool.or_eq_true, decide_eq_true_eq, beq_iff_eq, UInt32.le_iff_toNat_le,
    ← UInt32.toNat_inj, UInt32.toNat_ofNat]
  omega

/-- Protected numbers are those below two and the agent's own. -/
theorem two_le_and_ne_iff {pid : ProcessId} :
    (2 ≤ pid ∧ pid ≠ a.ownPid) ↔ ¬ (pid = 0 ∨ pid = 1 ∨ pid = a.ownPid) := by
  simp only [UInt32.le_iff_toNat_le, ne_eq, ← UInt32.toNat_inj, UInt32.toNat_ofNat]
  omega

/-- A command reaches the control exactly if nothing stands against it. -/
theorem reaches_iff : a.reaches command ↔ a.objection command.2 = none := by
  rw [reaches, objection, Bool.and_eq_true, decide_eq_true_eq, and_left_comm (a := 2 ≤ command.2),
    two_le_and_ne_iff]
  cases a.isAvailable with
  | false => simp
  | true =>
    by_cases hprotected : command.2 = 0 ∨ command.2 = 1 ∨ command.2 = a.ownPid
    · simp [hprotected]
    · simp [hprotected]

/-- **What a command does**: it is refused if something stands against it, and else carried out. -/
theorem command_eq (a : QuarantineActor σ) (verb : Verb) (pid : ProcessId) (s : σ) :
    a.command verb pid s =
      match a.objection pid, a.control with
      | none, some control => control.perform verb pid s
      | some e, _ => (.error e, s)
      | none, none => (.error .quarantineUnavailable, s) := by
  rw [QuarantineActor.command, checked, objection, isAvailable]
  cases hcontrol : a.control with
  | none => rfl
  | some control =>
    simp only [Option.isSome_some, Bool.not_true, Bool.false_eq_true, if_false]
    by_cases hprotected : pid = 0 ∨ pid = 1 ∨ pid = a.ownPid
    · rw [if_pos (isProtected_iff.mpr hprotected), if_pos hprotected]
    · rw [if_neg (mt isProtected_iff.mp hprotected), if_neg hprotected]
      -- 0 is protected, so only a number that is too large is left to refuse
      have hpos : 0 < pid := UInt32.pos_iff_ne_zero.mpr fun hzero => hprotected (Or.inl hzero)
      by_cases hle : pid ≤ maxProcessId
      · rw [signalTarget_of_mem ⟨hpos, hle⟩, if_neg (UInt32.not_lt.mpr hle)]
        rfl
      · rw [signalTarget_of_not_mem (fun h => hle h.2), if_pos (UInt32.not_le.mp hle)]
        rfl

/-- A command that reaches the control is carried out by it. -/
theorem command_of_reaches {control : ProcessControl σ} (hcontrol : a.control = some control)
    (h : a.reaches command) :
    a.command command.1 command.2 s = control.perform command.1 command.2 s := by
  rw [command_eq, reaches_iff.mp h, hcontrol]

/-- A command reaches a control only if there is one. -/
theorem exists_control (h : a.reaches command) : ∃ control, a.control = some control := by
  rw [reaches, Bool.and_eq_true] at h
  exact Option.isSome_iff_exists.mp h.1

/-- What commands reach is a single process, and its number is greater than one also with a sign. -/
theorem target_of_reaches (h : a.reaches command) :
    (0 < command.2 ∧ command.2 ≤ maxProcessId) ∧ 1 < command.2.toInt32 ∧ command.2 ≠ a.ownPid := by
  rw [reaches, Bool.and_eq_true, decide_eq_true_eq] at h
  obtain ⟨-, htwo, hle, hown⟩ := h
  have htwo : 2 ≤ command.2.toNat := UInt32.le_iff_toNat_le.mp htwo
  refine ⟨⟨?_, hle⟩, ?_, hown⟩
  · rw [UInt32.lt_iff_toNat_lt]
    exact Nat.lt_of_lt_of_le Nat.zero_lt_two htwo
  · rw [Int32.lt_iff_toInt_lt, toInt_toInt32 hle]
    exact Int.ofNat_lt.mpr htwo

/-- What does not reach the control is answered by what stands against it, and leaves the state. -/
theorem command_of_objection {e : Error} (h : a.objection command.2 = some e) :
    a.command command.1 command.2 s = (.error e, s) := by
  rw [command_eq, h]

/-- Something stands against every command that does not reach the control. -/
theorem exists_objection (h : a.reaches command = false) : ∃ e, a.objection command.2 = some e := by
  rw [← Option.ne_none_iff_exists', ne_eq, ← reaches_iff, h]
  exact Bool.false_ne_true

/-! ## Commands in turn -/

/-- Takes commands in turn. -/
def run (a : QuarantineActor σ) : List ProcessCommand → σ → List (Except Error Unit) × σ :=
  inTurn fun command => a.command command.1 command.2

/-- An actor whose control also writes down the commands that reach it. -/
def recorded (a : QuarantineActor σ) : QuarantineActor (σ × List ProcessCommand) :=
  ⟨a.control.map ProcessControl.recorded, a.ownPid⟩

@[simp] theorem reaches_recorded (command : ProcessCommand) :
    a.recorded.reaches command = a.reaches command := by
  obtain ⟨control, ownPid⟩ := a
  cases control <;> rfl

@[simp] theorem objection_recorded (pid : ProcessId) :
    a.recorded.objection pid = a.objection pid := by
  obtain ⟨control, ownPid⟩ := a
  cases control <;> rfl

/-- Writing calls down changes nothing else. -/
theorem command_recorded (verb : Verb) (pid : ProcessId) (s : σ × List ProcessCommand) :
    a.command verb pid s.1
      = ((a.recorded.command verb pid s).1, (a.recorded.command verb pid s).2.1) := by
  rw [command_eq, command_eq, objection_recorded]
  obtain ⟨control, ownPid⟩ := a
  cases objection ⟨control, ownPid⟩ pid with
  | some e => rfl
  | none => cases control <;> rfl

/-- A command that reaches the control is written down. -/
theorem log_command_recorded (s : σ × List ProcessCommand) (h : a.reaches command) :
    (a.recorded.command command.1 command.2 s).2.2 = s.2 ++ [command] := by
  obtain ⟨control, hcontrol⟩ := exists_control h
  have hrecorded : a.recorded.control = some control.recorded := by
    rw [recorded, hcontrol, Option.map_some]
  rw [command_of_reaches hrecorded (by rwa [reaches_recorded])]
  rfl

/-- Whatever the control writes down about each command that reaches it: after a run, that is
written down about the commands that reached it, in order. -/
theorem log_run {β : Type} (log : σ → List β) (entry : ProcessCommand → β)
    (hlog : ∀ command s, a.reaches command →
      log (a.command command.1 command.2 s).2 = log s ++ [entry command])
    (commands : List ProcessCommand) (s : σ) :
    log (a.run commands s).2 = log s ++ (commands.filter a.reaches).map entry := by
  -- a command that does not get through leaves the state, so nothing is written down about it
  induction commands generalizing s with
  | nil => exact (List.append_nil _).symm
  | cons command commands ih =>
    have hrun : (a.run (command :: commands) s).2
      = (a.run commands (a.command command.1 command.2 s).2).2 := rfl
    rw [hrun, ih]
    cases hreaches : a.reaches command with
    | true =>
      rw [hlog command s hreaches, List.filter_cons_of_pos hreaches, List.map_cons,
        List.append_assoc, List.singleton_append]
    | false =>
      obtain ⟨e, he⟩ := exists_objection hreaches
      rw [command_of_objection he, List.filter_cons_of_neg
        (by rw [hreaches]; exact Bool.false_ne_true)]

/-- The commands that reach the control are answered as if it had been given these commands
alone. -/
theorem performAll_reaching {control : ProcessControl σ} (hcontrol : a.control = some control)
    (commands : List ProcessCommand) (s : σ) :
    control.performAll (commands.filter a.reaches) s
      = (((commands.zip (a.run commands s).1).filter (a.reaches ·.1)).map Prod.snd,
        (a.run commands s).2) := by
  induction commands generalizing s with
  | nil => rfl
  | cons command commands ih =>
    rw [run, inTurn, ← run, List.zip_cons_cons]
    cases hreaches : a.reaches command with
    | true =>
      simp only [List.filter_cons, hreaches, if_true, List.map_cons]
      rw [ProcessControl.performAll, inTurn, ← ProcessControl.performAll,
        command_of_reaches hcontrol hreaches, ih]
    | false =>
      obtain ⟨e, he⟩ := exists_objection hreaches
      simp only [List.filter_cons, hreaches, Bool.false_eq_true, if_false]
      rw [command_of_objection he, ih]

/-- Every other command is answered by what stands against it. -/
theorem answer_of_not_reaches {answer : ProcessCommand × Except Error Unit}
    (hanswer : answer ∈ commands.zip (a.run commands s).1) (h : a.reaches answer.1 = false) :
    ∃ e, a.objection answer.1.2 = some e ∧ answer.2 = .error e := by
  induction commands generalizing s with
  | nil => cases hanswer
  | cons command commands ih =>
    rw [run, inTurn, ← run, List.zip_cons_cons, List.mem_cons] at hanswer
    rcases hanswer with rfl | hanswer
    · obtain ⟨e, he⟩ := exists_objection h
      exact ⟨e, he, congrArg Prod.fst (command_of_objection he)⟩
    · exact ih hanswer

/-- Without a control nothing changes, whatever the commands. -/
theorem state_run_of_unavailable (h : a.control = none) (commands : List ProcessCommand) (s : σ) :
    (a.run commands s).2 = s := by
  induction commands generalizing s with
  | nil => rfl
  | cons command commands ih =>
    have hreaches : a.reaches command = false := by rw [reaches, isAvailable, h]; rfl
    obtain ⟨e, he⟩ := exists_objection hreaches
    rw [run, inTurn, ← run, command_of_objection he, ih]

/-- Writing down what reaches the control changes nothing else, and what is written down is the
commands that reach it. -/
theorem run_recorded (a : QuarantineActor σ) (commands : List ProcessCommand) (s : σ) :
    a.recorded.run commands (s, [])
      = ((a.run commands s).1, (a.run commands s).2, commands.filter a.reaches) := by
  -- without what it writes down the recorded actor is the actor itself
  have hview : a.run commands s
      = ((a.recorded.run commands (s, [])).1, (a.recorded.run commands (s, [])).2.1) :=
    inTurn_view Prod.fst (fun command => command_recorded command.1 command.2) commands (s, [])
  have hlog : (a.recorded.run commands (s, [])).2.2 = commands.filter a.reaches := by
    rw [log_run Prod.snd id fun command t h => log_command_recorded t
      (by rwa [reaches_recorded] at h), List.nil_append, List.map_id, funext reaches_recorded]
  rw [hview, ← hlog]

/-! ## Commands as signals -/

/-- An actor that carries commands out by signals. -/
def bySignals (send : Signal → ProcessId → σ → Except Errno Unit × σ) (ownPid : ProcessId) :
    QuarantineActor σ := ⟨some (signalControl send), ownPid⟩

/-- The signals that are sent in a run are those of the commands that reach the control. -/
theorem signals_run (send : Signal → ProcessId → σ → Except Errno Unit × σ) (ownPid : ProcessId)
    (commands : List ProcessCommand) (s : σ) :
    ((bySignals (writtenDown send) ownPid).run commands (s, [])).2.2
      = (commands.filter (bySignals send ownPid).reaches).map fun c => (c.1.signal, c.2) := by
  refine log_run Prod.snd (fun c => (c.1.signal, c.2)) (fun command s hreaches => ?_) commands
    (s, [])
  have htarget := target_of_reaches hreaches
  rw [command_of_reaches rfl hreaches, signalControl_perform_of_mem htarget.1]
  rfl

/-- **What commands reach.**  For every actor, available or not, and all commands, whatever the
control makes of them:

* the calls that reach the control are the commands about a process `p` with `2 ≤ p ≤ 2³¹ - 1`
  that is not the agent itself, in order and with the same verb, if there is a control at all;
* those commands are answered by the control, as if it had been given these commands alone, and
  every other command by what stands against it: that there is no control, that the process is
  protected, or that the number names no single process, the first that applies;
* where the control sends signals, they go to numbers that are greater than one also with a
  sign, and never to the agent; on its own that control refuses what names no single process
  before any signal, and tells the two failures that concern the process from all others. -/
theorem commands_reach (a : QuarantineActor σ) (commands : List ProcessCommand) (s : σ) :
    a.recorded.run commands (s, [])
        = ((a.run commands s).1, (a.run commands s).2, commands.filter a.reaches)
    ∧ (∀ control, a.control = some control → control.performAll (commands.filter a.reaches) s
        = (((commands.zip (a.run commands s).1).filter (a.reaches ·.1)).map Prod.snd,
          (a.run commands s).2))
    ∧ (a.control = none → (a.run commands s).2 = s)
    ∧ (a.run commands s).1.length = commands.length
    ∧ (∀ answer ∈ commands.zip (a.run commands s).1, a.reaches answer.1 = false →
        ∃ e, a.objection answer.1.2 = some e ∧ answer.2 = .error e)
    ∧ (∀ send : Signal → ProcessId → σ → Except Errno Unit × σ,
        ((bySignals (writtenDown send) a.ownPid).run commands (s, [])).2.2
            = (commands.filter (bySignals send a.ownPid).reaches).map (fun c => (c.1.signal, c.2))
        ∧ ∀ call ∈ ((bySignals (writtenDown send) a.ownPid).run commands (s, [])).2.2,
            1 < call.2.toInt32 ∧ call.2 ≠ a.ownPid)
    ∧ (∀ (send : Signal → ProcessId → σ → Except Errno Unit × σ) (verb : Verb) (pid : ProcessId),
        (¬ (1 ≤ pid ∧ pid ≤ 0x7fffffff) →
          (signalControl (writtenDown send)).perform verb pid (s, [])
            = (.error (.processNotFound pid), s, []))
        ∧ (1 ≤ pid ∧ pid ≤ 0x7fffffff →
          (signalControl (writtenDown send)).perform verb pid (s, [])
            = (match (send verb.signal pid s).1 with
                | .ok () => .ok ()
                | .error e =>
                  if e = .notPermitted then .error (.quarantinePrivilegeDenied pid)
                  else if e = .noProcess then .error (.processNotFound pid)
                  else .error (.systemCall e),
              (send verb.signal pid s).2, [(verb.signal, pid)]))) := by
  refine ⟨?calls, fun control hcontrol => performAll_reaching hcontrol commands s,
    fun hcontrol => state_run_of_unavailable hcontrol commands s, length_inTurn _ _ _,
    fun answer hanswer => answer_of_not_reaches hanswer, fun send => ⟨?signals, ?targets⟩,
    fun send verb pid => ⟨fun hpid => ?outside, fun hpid => ?inside⟩⟩
  case calls => exact run_recorded a commands s
  case signals => exact signals_run send a.ownPid commands s
  case targets =>
    intro call hcall
    rw [signals_run, List.mem_map] at hcall
    obtain ⟨command, hcommand, rfl⟩ := hcall
    exact (target_of_reaches (List.mem_filter.mp hcommand).2).2
  case outside =>
    exact signalControl_perform_of_not_mem (fun h => hpid ⟨one_le_iff_pos.mpr h.1, h.2⟩) verb _
  case inside =>
    rw [signalControl_perform_of_mem ⟨one_le_iff_pos.mp hpid.1, hpid.2⟩]
    simp only [writtenDown, List.nil_append]
    congr 1
    exact mapError_signalFailure _ pid

end QuarantineActor

end FileActivity
