/-
# Commands

What each command of the program does, given the settings and the machine: printing records and
settings, and acting on processes.
-/
import FileActivity.Host
import FileActivity.Quarantine.Actor
import FileActivity.Record.Line
import FileActivity.Record.Stream
import FileActivity.Settings.File

namespace FileActivity

/-- Why a command failed. -/
inductive ProgramError where
  /-- The settings file could not be used. -/
  | load (fault : LoadFault)
  /-- The settings could not be written. -/
  | write (fault : WriteFault)
  /-- Nobody answered at the path of the socket. -/
  | unreachable (path : Path) (cause : IoError)
  /-- The agent failed. -/
  | agent (error : Error)
  deriving Repr

/-- How a failure is told. -/
def ProgramError.message : ProgramError → String
  | load fault => fault.message
  | write fault => fault.message
  | unreachable path cause => "Failed to connect to " ++ path.display ++ ": " ++ cause.message
  | agent error => error.message

namespace Program

/-! ## Records -/

/-- The lines that are printed for records. -/
def printLines (records : List EventRecord) : String :=
  String.join (records.map fun r => r.line ++ "\n")

/-- Prints the records that are received at a path, at most `count` of them.  What was printed
before a failure stays printed. -/
def consume (h : Host) (p : Path) (count : Option Nat) : String × Except ProgramError Unit :=
  match h.receive p with
  | .error e => ("", .error (.unreachable p e))
  | .ok bytes =>
    let (records, outcome) := readStream count bytes
    (printLines records, outcome.mapError .agent)

/-! ## Processes -/

/-- Acts on a process, as the settings allow it. -/
def quarantine (s : QuarantineSettings) (verb : Verb) (pid : ProcessId) (h : Host) :
    Except Error Unit × Host :=
  let actor : QuarantineActor Processes := .resolve s (.ok ()) processSignals h.ownPid
  let (outcome, processes) := actor.command verb pid h.processes
  (outcome, { h with processes })

/-! ## Settings -/

/-- Prints settings. -/
def printSettings (s : Settings) : Except ProgramError String := s.render.mapError .write

end Program

end FileActivity
