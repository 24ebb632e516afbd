/-
# Quarantine

Stopping, resuming and ending a process once a consumer has reached its verdict.  Commands go
through an actor, which refuses what must never be touched before anything reaches the system.
-/
import FileActivity.Processes
import FileActivity.Settings.Basic

namespace FileActivity

/-- What can be done to a process. -/
inductive Verb where
  | suspend
  | resume
  | terminate
  deriving DecidableEq, Repr

/-- The name of a command. -/
def Verb.name : Verb → String
  | suspend => "suspend"
  | resume => "resume"
  | terminate => "terminate"

/-- What carries a command out on a system whose state is of type `σ`. -/
structure ProcessControl (σ : Type) where
  perform : Verb → ProcessId → σ → Except Error Unit × σ

/-! ## Signals -/

/-- The signal that carries a command out. -/
def Verb.signal : Verb → Signal
  | suspend => .stop
  | resume => .proceed
  | terminate => .kill

/-- Why a signal could not be sent. -/
def signalFailure (pid : ProcessId) (e : Errno) : Error :=
  if e = .notPermitted then .quarantinePrivilegeDenied pid
  else if e = .noProcess then .processNotFound pid
  else .systemCall e

/-- Carries commands out by signals.  Only numbers that name a single process are ever signalled. -/
def signalControl {σ : Type} (send : Signal → ProcessId → σ → Except Errno Unit × σ) :
    ProcessControl σ where
  perform verb pid s :=
    match signalTarget pid with
    | .error e => (.error e, s)
    | .ok pid =>
      let (outcome, s) := send verb.signal pid s
      (outcome.mapError (signalFailure pid), s)

/-- Carries commands out on the processes of the system. -/
def processSignals : ProcessControl Processes :=
  signalControl fun signal pid ps => ps.signal pid signal

/-! ## A stand-in -/

/-- What is left of a list of prepared outcomes, and the commands that came so far. -/
structure Script where
  outcomes : List (Except Error Unit)
  calls : List (Verb × ProcessId) := []

/-- Answers each command with the next prepared outcome, success when there is none left, and
writes the command down. -/
def scriptedControl : ProcessControl Script where
  perform verb pid s :=
    (s.outcomes.head?.getD (.ok ()), ⟨s.outcomes.tail, s.calls ++ [(verb, pid)]⟩)

/-! ## The actor -/

/-- Takes commands on behalf of the agent, whose own process number is known. -/
structure QuarantineActor (σ : Type) where
  /-- What carries commands out; nothing does if quarantine is unavailable. -/
  control : Option (ProcessControl σ)
  ownPid : ProcessId

namespace QuarantineActor

variable {σ : Type}

/-- An actor without a control. -/
def unavailable (ownPid : ProcessId) : QuarantineActor σ := ⟨none, ownPid⟩

/-- An actor as the settings say: it stays unavailable if quarantine is disabled or the first
attempt to use the control fails. -/
def resolve (s : QuarantineSettings) (probe : Except Error Unit) (control : ProcessControl σ)
    (ownPid : ProcessId) : QuarantineActor σ :=
  if s.enabled && probe.toBool then ⟨some control, ownPid⟩ else unavailable ownPid

/-- Whether commands are carried out at all. -/
def isAvailable (a : QuarantineActor σ) : Bool := a.control.isSome

/-- Process 0, process 1 and the agent itself are never touched. -/
def isProtected (a : QuarantineActor σ) (pid : ProcessId) : Bool := pid ≤ 1 || pid == a.ownPid

/-- The control for a process that commands may reach. -/
def checked (a : QuarantineActor σ) (pid : ProcessId) : Except Error (ProcessControl σ) :=
  match a.control with
  | none => .error .quarantineUnavailable
  | some control =>
    if a.isProtected pid then .error (.protectedProcess pid)
    else do
      let _ ← signalTarget pid
      return control

/-- Carries a command out on a process. -/
def command (a : QuarantineActor σ) (verb : Verb) (pid : ProcessId) (s : σ) :
    Except Error Unit × σ :=
  match a.checked pid with
  | .error e => (.error e, s)
  | .ok control => control.perform verb pid s

/-- The actor in words. -/
def text (a : QuarantineActor σ) : String :=
  "QuarantineActor \x7b available: " ++ toString a.isAvailable ++ ", own_pid: " ++ toString a.ownPid
    ++ " \x7d"

end QuarantineActor

end FileActivity
