/-
# Reading the command line

The arguments are read from left to right, first beside the program and then, from the word of a
command on, beside that command.  A value is looked at as soon as the next thing of any kind is
understood, so of two faults the one that shows first is told; a command and what it was given
come before what the program was given in front of it.
-/
import FileActivity.CommandLine.Argument
import FileActivity.CommandLine.Usage

namespace FileActivity

namespace CommandLine

/-! ## What was given -/

/-- What has been given on one level, beside the program or beside its command. -/
structure Given where
  settingsFile : Option Path := none
  verbose : Option Nat := none
  quiet : Option Nat := none
  socket : Option Path := none
  count : Option Nat := none
  processId : Option ProcessId := none
  deriving DecidableEq, Repr, Inhabited

/-- A parameter whose value has not been looked at. -/
inductive Pending where
  | nothing
  /-- The value is to come. -/
  | awaited (p : Parameter)
  | value (p : Parameter) (text : List Char)
  deriving DecidableEq, Repr, Inhabited

/-- How far the reading of a level has come. -/
structure Progress where
  given : Given := {}
  pending : Pending := .nothing
  /-- Whether the options have ended. -/
  trailing : Bool := false
  /-- Whether the process number has been met. -/
  positionTaken : Bool := false
  deriving DecidableEq, Repr, Inhabited

/-- The greatest number of records that can be asked for. -/
def maxRecords : Nat := UInt64.size - 1

/-- The greatest number of times that a switch is counted. -/
def maxRepeats : Nat := 255

namespace Given

/-- Fails if a parameter was given before. -/
def once {α : Type} (before : Option α) : Except UsageFault Unit :=
  if before.isSome then .error .conflict else .ok ()

/-- Takes the value of a parameter.  A settings file must be a regular file, which `isFile`
tells. -/
def take (isFile : Path → Bool) (g : Given) (p : Parameter) (text : List Char) :
    Except UsageFault Given :=
  let name := String.ofList text
  match p with
  | .settingsFile => do
    once g.settingsFile
    let path := Path.ofString name
    if isFile path then return { g with settingsFile := some path }
    else .error (.valueRefused (.fileNotFound name))
  | .socket => do
    once g.socket
    if text.isEmpty then .error .valueMissing
    else return { g with socket := some (.ofString name) }
  | .count => do
    once g.count
    match readNumber maxRecords text with
    | .ok n => return { g with count := some n }
    | .error fault => .error (.valueRefused (.number fault))
  | .processId => do
    once g.processId
    match readProcessId text with
    | .ok pid => return { g with processId := some pid }
    | .error fault => .error (.valueRefused (.processId name fault))

/-- Counts a switch once more. -/
def again (n : Option Nat) : Option Nat := some (min (n.getD 0 + 1) maxRepeats)

/-- Takes a switch. -/
def turn (g : Given) : Switch → Except UsageFault Given
  | .verbose => .ok { g with verbose := again g.verbose }
  | .quiet => .ok { g with quiet := again g.quiet }
  | .help => .error .help
  | .version => .error .version

/-- Whether nothing was given. -/
def isEmpty (g : Given) : Bool := g == {}

/-- Being verbose and being quiet exclude each other. -/
def checkSwitches (g : Given) : Except UsageFault Unit :=
  if g.verbose.isSome && g.quiet.isSome then .error .conflict else .ok ()

end Given

/-! ## Steps -/

namespace Progress

/-- Looks at the value that is pending. -/
def settle (isFile : Path → Bool) (s : Progress) : Except UsageFault Progress :=
  match s.pending with
  | .nothing => .ok s
  | .awaited _ => .error .valueMissing
  | .value p text => do return { s with given := ← s.given.take isFile p text, pending := .nothing }

/-- Meets a switch. -/
def meetSwitch (isFile : Path → Bool) (s : Progress) (switch : Switch) :
    Except UsageFault Progress := do
  let s ← s.settle isFile
  return { s with given := ← s.given.turn switch }

/-- Meets a parameter, with its value or without. -/
def meetParameter (isFile : Path → Bool) (s : Progress) (p : Parameter)
    (value : Option (List Char)) : Except UsageFault Progress := do
  let s ← s.settle isFile
  match value with
  | some text => return { s with given := ← s.given.take isFile p text }
  | none => return { s with pending := .awaited p }

/-- Meets the letters of options: switches one after another, up to a parameter, whose value is
what is left. -/
def meetLetters (isFile : Path → Bool) (command : Option CommandName) :
    Progress → List Char → Except UsageFault Progress
  | s, [] => .ok s
  | s, c :: cs =>
    match meaningOfLetter command c with
    | none => .error .unknownArgument
    | some (.switch switch) => do meetLetters isFile command (← s.meetSwitch isFile switch) cs
    | some (.parameter p) => s.meetParameter isFile p (attachedValue cs)

/-- Meets the word of an option. -/
def meetLong (isFile : Path → Bool) (command : Option CommandName) (s : Progress) (word : List Char)
    (value : Option (List Char)) : Except UsageFault Progress :=
  match meaningOfWord command (String.ofList word) with
  | none => .error .unknownArgument
  | some (.parameter p) => s.meetParameter isFile p value
  | some (.switch switch) =>
    if value.isSome then .error .valueUnexpected else s.meetSwitch isFile switch

/-- What a word means that has no place here: before a command it should have been one, unless
it is one and the options have ended. -/
def misplaced (command : Option CommandName) (s : Progress) (arg : List Char) : UsageFault :=
  let word := String.ofList arg
  if command.isSome then .unknownArgument
  else if s.trailing && ((CommandName.ofWord? word).isSome || word == helpWord) then
    .unknownArgument
  else .unknownCommand

/-- Meets a word: the value that is awaited while options are read, or else the process number. -/
def meetWord (isFile : Path → Bool) (command : Option CommandName) (s : Progress)
    (arg : List Char) : Except UsageFault Progress :=
  match s.trailing, s.pending with
  | false, .awaited p => .ok { s with pending := .value p arg }
  | _, _ =>
    if (command.map CommandName.takesProcessId).getD false && !s.positionTaken then do
      let s ← s.settle isFile
      return { s with pending := .value .processId arg, positionTaken := true }
    else .error (s.misplaced command arg)

/-- Meets an argument. -/
def meet (isFile : Path → Bool) (command : Option CommandName) (s : Progress) (arg : List Char) :
    Except UsageFault Progress :=
  if s.trailing then s.meetWord isFile command arg
  else match Shape.of arg with
    | .divider => .ok { s with trailing := true }
    | .long word value => s.meetLong isFile command word value
    | .letters cs => s.meetLetters isFile command cs
    | .word => s.meetWord isFile command arg

/-- Whether the next argument may be the word of a command: it may not while a value is awaited
or after the options have ended. -/
def mayStartCommand (s : Progress) : Bool :=
  !s.trailing && match s.pending with
    | .awaited _ => false
    | _ => true

end Progress

/-! ## The two levels -/

/-- What is known at the end of a level. -/
def finish (isFile : Path → Bool) (s : Progress) : Except UsageFault Given :=
  return (← s.settle isFile).given

/-- The command with what it was given. -/
def CommandName.applied (command : CommandName) (g : Given) : Except UsageFault Command :=
  match command with
  | serve => .ok (.serve g.socket)
  | consume => .ok (.consume g.socket g.count)
  | quarantine verb =>
    match g.processId with
    | some pid => .ok (.quarantine verb pid)
    | none => .error .processIdMissing
  | printConfig => .ok .printConfig

/-- Reads what stands behind the word of a command. -/
def readCommandLevel (isFile : Path → Bool) (command : CommandName) (args : List (List Char)) :
    Except UsageFault (Command × Given) := do
  let given ← finish isFile (← args.foldlM (Progress.meet isFile (some command)) {})
  given.checkSwitches
  return (← command.applied given, given)

/-- What was given beside the command counts, and what it leaves open is taken from what was
given before the command. -/
def invocation (outer : Given) (command : Command) (inner : Given) : Invocation where
  command := command
  settingsFile := inner.settingsFile.or outer.settingsFile
  level := .shifted ((inner.verbose.or outer.verbose).getD 0) ((inner.quiet.or outer.quiet).getD 0)

/-- What asking for help about something gives. -/
def helpAbout : List (List Char) → UsageFault
  | [] => .help
  | [word] =>
    let word := String.ofList word
    if (CommandName.ofWord? word).isSome || word == helpWord then .help else .unknownCommand
  | _ => .unknownCommand

/-- Reads the arguments from the place that `s` tells on. -/
def readProgramLevel (isFile : Path → Bool) (s : Progress) :
    List (List Char) → Except UsageFault Invocation
  | [] => do
    let given ← finish isFile s
    .error (if given.isEmpty then .nothingGiven else .commandMissing)
  | arg :: rest =>
    let word := String.ofList arg
    if s.mayStartCommand && word == helpWord then .error (helpAbout rest)
    else
      match if s.mayStartCommand then CommandName.ofWord? word else none with
      | some command => do
        let (command, inner) ← readCommandLevel isFile command rest
        let outer ← finish isFile s
        outer.checkSwitches
        return invocation outer command inner
      | none => do readProgramLevel isFile (← s.meet isFile none arg) rest

end CommandLine

/-- Reads the arguments of the program, without its own name. -/
def Invocation.ofArguments (isFile : Path → Bool) (args : List String) :
    Except CommandLine.UsageFault Invocation :=
  CommandLine.readProgramLevel isFile {} (args.map String.toList)

end FileActivity
