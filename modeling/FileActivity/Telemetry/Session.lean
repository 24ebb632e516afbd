/-
# Trace sessions

A session is registered with a filter and a receiver, started, and finally stopped, each once
and in this order; a call out of order fails and changes nothing.  One kind of session never
reports anything. The other is polled: it compares the processes it finds with those of the poll
before and reports those that are new.
-/
import FileActivity.Processes
import FileActivity.Telemetry.Event
import FileActivity.Telemetry.ShadowCopy
import FileActivity.Telemetry.TraceKind

namespace FileActivity

/-! ## Life cycle -/

/-- How far a session has come. -/
inductive SessionState where
  | idle
  | registered
  | running
  | stopped
  deriving DecidableEq, Repr, Inhabited

namespace SessionState

/-- The name of a state. -/
def name : SessionState → String
  | idle => "idle"
  | registered => "registered"
  | running => "running"
  | stopped => "stopped"

/-- Fails unless a session is in the expected state. -/
def require (actual expected : SessionState) : Except Error Unit :=
  if actual = expected then .ok () else .error (.traceSessionState expected.name actual.name)

@[simp] theorem require_self (s : SessionState) : s.require s = .ok () := by simp [require]

end SessionState

/-! ## Sessions that report nothing -/

/-- A session that goes through the states and reports nothing.  Receivers are of type `κ`. -/
structure InertSession (κ : Type) where
  state : SessionState := .idle
  filter : TraceFilter := .empty
  receiver : Option κ := none

namespace InertSession

variable {κ : Type}

/-- Takes a filter and a receiver. -/
def register (s : InertSession κ) (filter : TraceFilter) (receiver : κ) :
    Except Error (InertSession κ) := do
  s.state.require .idle
  return { s with state := .registered, filter, receiver := some receiver }

/-- Starts the session. -/
def start (s : InertSession κ) : Except Error (InertSession κ) := do
  s.state.require .registered
  return { s with state := .running }

/-- Stops the session. -/
def stop (s : InertSession κ) : InertSession κ := { s with state := .stopped, receiver := none }

end InertSession

/-! ## What is reported about a process -/

/-- Cuts bytes at zero bytes; `part` holds the bytes of the part so far, the last one first. -/
def cutAtZeros (part : List Char) : List Char → List (List Char)
  | [] => [part.reverse]
  | c :: cs => if c = '\x00' then part.reverse :: cutAtZeros [] cs else cutAtZeros (c :: part) cs

/-- The command line of a process as text: its arguments, without empty ones, with a space
between two. Nothing is known of a command line that is no text. -/
def ProcessEntry.commandText (p : ProcessEntry) : String :=
  match Utf8.decode? p.commandLine with
  | none => ""
  | some cs =>
    " ".intercalate (((cutAtZeros [] cs).filter (!·.isEmpty)).map String.ofList)

/-- The events about a process that has appeared: its creation, and before that the deletion of
shadow copies if its command line says so. -/
def ProcessEntry.events (p : ProcessEntry) : List TelemetryEvent :=
  let text := p.commandText
  let created := TelemetryEvent.processCreate p.pid p.parent p.image text
  if ShadowCopy.isDeletion text then [.shadowCopyDelete p.pid p.image text, created] else [created]

/-! ## Sessions that are polled -/

/-- A session that reports processes that appear. -/
structure PollingSession (κ : Type) where
  state : SessionState := .idle
  filter : TraceFilter := .empty
  receiver : Option κ := none
  /-- The processes that the latest poll found. -/
  known : List ProcessId := []
  /-- Whether there was a poll since the start. -/
  seeded : Bool := false

namespace PollingSession

variable {κ : Type}

/-- Takes a filter and a receiver. -/
def register (s : PollingSession κ) (filter : TraceFilter) (receiver : κ) :
    Except Error (PollingSession κ) := do
  s.state.require .idle
  return { s with state := .registered, filter, receiver := some receiver }

/-- Starts the session, which knows of no process yet. -/
def start (s : PollingSession κ) : Except Error (PollingSession κ) := do
  s.state.require .registered
  return { s with state := .running, known := [], seeded := false }

/-- Stops the session. -/
def stop (s : PollingSession κ) : PollingSession κ :=
  { s with state := .stopped, receiver := none, known := [] }

/-- The processes of a scan that are to be reported: none at the first scan, then those that the
scan before did not find. -/
def appeared (s : PollingSession κ) (scan : Processes) : Processes :=
  if s.seeded then scan.filter fun p => !s.known.contains p.pid else []

/-- Takes a scan of the processes and gives the events to deliver, each with its receiver.  A
scan that failed changes nothing. -/
def poll (s : PollingSession κ) (scan : Except Error Processes) :
    Except Error (List (κ × TelemetryEvent) × PollingSession κ) := do
  s.state.require .running
  let scan ← scan
  let after := { s with known := scan.map (·.pid), seeded := true }
  match s.receiver with
  | some receiver =>
    if s.filter.contains .process then
      return ((s.appeared scan).flatMap ProcessEntry.events |>.map (receiver, ·), after)
    else return ([], after)
  | none => return ([], after)

end PollingSession

end FileActivity
