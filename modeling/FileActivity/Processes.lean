/-
# Processes

The processes of the system as the agent meets them: what it can read about them, and what its
signals do to them.
-/
import FileActivity.Error

namespace FileActivity

/-! ## Process numbers -/

/-- The greatest number that names a single process.  Zero and the numbers above it would
address a group of processes, or all of them. -/
def maxProcessId : UInt32 := 0x7fffffff

/-- The process number that a signal may be sent to. -/
def signalTarget (pid : ProcessId) : Except Error ProcessId :=
  if 0 < pid ∧ pid ≤ maxProcessId then .ok pid else .error (.processNotFound pid)

/-! ## Signals -/

/-- The signals that the agent sends. -/
inductive Signal where
  /-- Stops a process in place. -/
  | stop
  /-- Lets a stopped process go on. -/
  | proceed
  /-- Ends a process. -/
  | kill
  deriving DecidableEq, Repr

/-- The number of a signal. -/
def Signal.number : Signal → Nat
  | stop => 19
  | proceed => 18
  | kill => 9

/-! ## Processes -/

/-- What a process is doing. -/
inductive RunState where
  | running
  | stopped
  /-- Ended by a signal, and not yet waited for. -/
  | dead (signal : Nat)
  deriving DecidableEq, Repr, Inhabited

/-- A process of the system. -/
structure ProcessEntry where
  pid : ProcessId
  parent : ProcessId
  /-- The path of its program, empty if it cannot be read. -/
  image : Path
  /-- The bytes of its command line: each argument with a zero byte behind it. -/
  commandLine : List UInt8
  state : RunState := .running
  deriving DecidableEq, Repr, Inhabited

/-- The processes of the system, by increasing number. -/
abbrev Processes := List ProcessEntry

namespace Processes

/-- The process with a number. -/
def find? (ps : Processes) (pid : ProcessId) : Option ProcessEntry := List.find? (·.pid == pid) ps

/-- What a signal makes of a process: one that has ended stays as it is. -/
def after (signal : Signal) : RunState → RunState
  | .dead n => .dead n
  | state => match signal with
    | .stop => .stopped
    | .proceed => .running
    | .kill => match state with
      | .dead n => .dead n
      | _ => .dead signal.number

/-- Sends a signal to a process. -/
def signal (ps : Processes) (pid : ProcessId) (s : Signal) : Except Errno Unit × Processes :=
  match ps.find? pid with
  | none => (.error .noProcess, ps)
  | some _ =>
    (.ok (), ps.map fun p => if p.pid = pid then { p with state := after s p.state } else p)

/-- Whether a process is stopped. -/
def isStopped (ps : Processes) (pid : ProcessId) : Except Error Bool := do
  let pid ← signalTarget pid
  match ps.find? pid with
  | none => .error (.processNotFound pid)
  | some p => return p.state == .stopped

end Processes

end FileActivity
