/-
# The program

What the program does with its arguments on a machine.  It reads the arguments, then the
settings file if there is one, and then carries its command out; the first failure ends it.
-/
import FileActivity.CommandLine.Help
import FileActivity.CommandLine.Invocation
import FileActivity.Daemon
import FileActivity.Program.Commands

namespace FileActivity.Program

/-! ## How the program ends -/

/-- What the program leaves behind when it ends: its status, its output, and what it complains
of. -/
structure Ending where
  status : Nat
  output : String := ""
  complaint : Option String := none
  deriving DecidableEq, Repr, Inhabited

namespace Ending

/-- The end of a command with some output. -/
def ofOutcome (output : String) : Except ProgramError Unit → Ending
  | .ok () => { status := 0, output }
  | .error e => { status := 1, output, complaint := some e.message }

/-- The end of a command that failed. -/
def failed (e : ProgramError) : Ending := ofOutcome "" (.error e)

end Ending

/-- What has come of starting the program. -/
inductive Outcome where
  /-- The arguments ask for nothing that can be carried out. -/
  | misused (fault : CommandLine.UsageFault)
  /-- The command was carried out, or failed. -/
  | ended (ending : Ending)
  /-- The agent serves until it is stopped. -/
  | serving (daemon : Daemon)

/-- How the program ends if its arguments ask for nothing that can be carried out. -/
def Ending.ofMisuse (fault : CommandLine.UsageFault) : Ending where
  status := if fault.isAnswer then 0 else 2
  output := fault.answer

/-- The settings that an invocation is carried out with. -/
def settingsFor (h : Host) (i : Invocation) : Except LoadFault Settings :=
  match i.settingsFile with
  | some path => Settings.load h.files path
  | none => .ok {}

/-! ## Running -/

/-- Carries a command out. -/
def perform (s : Settings) (command : Command) (h : Host) : Outcome × Host :=
  match command with
  | .serve socket =>
    let path := socket.getD s.channel.socketPath
    match Daemon.start { s with channel := { s.channel with socketPath := path } } h with
    | .ok (daemon, h) => (.serving daemon, h)
    | .error e => (.ended (.failed (.agent e)), h)
  | .consume socket count =>
    let (output, outcome) := consume h (socket.getD s.channel.socketPath) count
    (.ended (.ofOutcome output outcome), h)
  | .quarantine verb pid =>
    let (outcome, h) := quarantine s.quarantine verb pid h
    (.ended (.ofOutcome "" (outcome.mapError .agent)), h)
  | .printConfig =>
    match printSettings s with
    | .ok output => (.ended { status := 0, output }, h)
    | .error e => (.ended (.failed e), h)

/-- Runs the program with its arguments. -/
def run (h : Host) (args : List String) : Outcome × Host :=
  match Invocation.ofArguments h.files.isFile args with
  | .error fault => (.misused fault, h)
  | .ok i =>
    match settingsFor h i with
    | .error fault => (.ended (.failed (.load fault)), h)
    | .ok s => perform s i.command h

end FileActivity.Program
