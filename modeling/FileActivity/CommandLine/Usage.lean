/-
# What the command line offers

The commands, and the options that are understood beside each of them.  Some options can stand
anywhere; the others belong to one command, or to the program before its command.
-/
import FileActivity.CommandLine.Number
import FileActivity.Quarantine.Actor
import FileActivity.Text.Quoted

namespace FileActivity

namespace CommandLine

/-! ## Commands -/

/-- A command, before it is known what it was given. -/
inductive CommandName where
  | serve
  | consume
  | quarantine (verb : Verb)
  | printConfig
  deriving DecidableEq, Repr

namespace CommandName

/-- All commands. -/
def all : List CommandName :=
  [serve, consume, quarantine .suspend, quarantine .resume, quarantine .terminate, printConfig]

/-- The word for a command. -/
def word : CommandName → String
  | serve => "serve"
  | consume => "consume"
  | quarantine .suspend => "suspend"
  | quarantine .resume => "resume"
  | quarantine .terminate => "kill"
  | printConfig => "print-config"

/-- The command that a word stands for. -/
def ofWord? (s : String) : Option CommandName := all.find? fun c => c.word == s

@[simp] theorem ofWord?_word (c : CommandName) : ofWord? c.word = some c := by
  cases c with
  | quarantine v => cases v <;> decide
  | _ => decide

/-- Whether a command is given a process number. -/
def takesProcessId : CommandName → Bool
  | quarantine _ => true
  | _ => false

end CommandName

/-- The word that asks for help, with or without the word of a command behind it. -/
def helpWord : String := "help"

/-! ## Options -/

/-- Something that carries a value. -/
inductive Parameter where
  /-- The settings file. -/
  | settingsFile
  | socket
  /-- The number of records to read. -/
  | count
  | processId
  deriving DecidableEq, Repr

/-- Something that is set by being there. -/
inductive Switch where
  | verbose
  | quiet
  | help
  | version
  deriving DecidableEq, Repr

/-- What an option is about. -/
inductive Meaning where
  | switch (s : Switch)
  | parameter (p : Parameter)
  deriving DecidableEq, Repr

/-- An option: its letter, its word and its meaning. -/
structure OptionSpec where
  letter : Char
  word : String
  meaning : Meaning
  deriving DecidableEq, Repr

/-- The options that can stand anywhere. -/
def commonOptions : List OptionSpec :=
  [⟨'c', "conffile", .parameter .settingsFile⟩, ⟨'v', "verbose", .switch .verbose⟩,
   ⟨'q', "quiet", .switch .quiet⟩, ⟨'h', "help", .switch .help⟩]

/-- The options that belong to a command; `none` is the program before its command. -/
def ownOptions : Option CommandName → List OptionSpec
  | none => [⟨'V', "version", .switch .version⟩]
  | some .serve => [⟨'s', "socket", .parameter .socket⟩]
  | some .consume => [⟨'s', "socket", .parameter .socket⟩, ⟨'n', "count", .parameter .count⟩]
  | some _ => []

/-- The options that are understood beside a command. -/
def optionsOf (command : Option CommandName) : List OptionSpec :=
  commonOptions ++ ownOptions command

/-- What a letter means. -/
def meaningOfLetter (command : Option CommandName) (c : Char) : Option Meaning :=
  ((optionsOf command).find? (·.letter == c)).map (·.meaning)

/-- What a word means. -/
def meaningOfWord (command : Option CommandName) (w : String) : Option Meaning :=
  ((optionsOf command).find? (·.word == w)).map (·.meaning)

/-! ## Faults -/

/-- Why a value is refused. -/
inductive ValueFault where
  | fileNotFound (name : String)
  | processId (text : String) (fault : ProcessIdFault)
  | number (fault : NumberFault)
  deriving DecidableEq, Repr

/-- How a refusal is told. -/
def ValueFault.message : ValueFault → String
  | fileNotFound name => "File not found: " ++ Quoted.quote name
  | processId text .notNumber => "\x60" ++ text ++ "\x60 is not a valid process id"
  | processId _ .outOfRange => "Process id must be between 1 and " ++ toString maxProcessId
  | number fault => fault.message

/-- Why the arguments are not carried out. -/
inductive UsageFault where
  /-- Help was asked for. -/
  | help
  /-- The version was asked for. -/
  | version
  /-- Nothing was given at all. -/
  | nothingGiven
  /-- There are options, but no command. -/
  | commandMissing
  /-- A word stands where a command should. -/
  | unknownCommand
  /-- An option or a word that means nothing here. -/
  | unknownArgument
  /-- A parameter has no value, or an empty one where that cannot be. -/
  | valueMissing
  /-- A switch was given a value. -/
  | valueUnexpected
  | valueRefused (fault : ValueFault)
  /-- A parameter was given twice, or two switches exclude each other. -/
  | conflict
  /-- The command needs a process number. -/
  | processIdMissing
  deriving DecidableEq, Repr

namespace UsageFault

/-- Help and the version are answers and no failures. -/
def isAnswer : UsageFault → Bool
  | help | version => true
  | _ => false

end UsageFault

end CommandLine

/-! ## Invocations -/

/-- What the program is to do. -/
inductive Command where
  /-- Run the agent. -/
  | serve (socket : Option Path)
  /-- Print the records that an agent sends. -/
  | consume (socket : Option Path) (count : Option Nat)
  /-- Act on a process. -/
  | quarantine (verb : Verb) (pid : ProcessId)
  /-- Print the settings. -/
  | printConfig
  deriving DecidableEq, Repr

/-- How much is logged. -/
inductive LogLevel where
  | off
  | error
  | warn
  | info
  | debug
  | trace
  deriving DecidableEq, Repr

namespace LogLevel

/-- All levels, the quietest first. -/
def all : List LogLevel := [off, error, warn, info, debug, trace]

/-- The name of a level. -/
def name : LogLevel → String
  | off => "OFF"
  | error => "ERROR"
  | warn => "WARN"
  | info => "INFO"
  | debug => "DEBUG"
  | trace => "TRACE"

/-- The place of the level that is used when none is asked for. -/
def standard : Nat := 2

/-- The level so many steps louder and so many quieter than the standard one, or the last level
on the way there. -/
def shifted (louder quieter : Nat) : LogLevel := all.getD (standard + louder - quieter) trace

end LogLevel

/-- What the command line asks for. -/
structure Invocation where
  command : Command
  settingsFile : Option Path
  level : LogLevel
  deriving DecidableEq, Repr

end FileActivity
