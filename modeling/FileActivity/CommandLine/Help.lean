/-
# Help

What the program says about itself: its version, what can be asked of it, and in a few words why
a command line was not understood.
-/
import FileActivity.CommandLine.Usage

namespace FileActivity.CommandLine

/-- The name of the program. -/
def programName : String := "sentinelguard"

/-- What is said of the version. -/
def versionText : String := programName ++ " 0.1.0\n"

/-- What a command does, in a few words. -/
def CommandName.summary : CommandName → String
  | serve => "Run the interceptor and accept a consumer on the event socket"
  | consume => "Connect to a running interceptor and print every event record"
  | quarantine .suspend => "Stop a process in place"
  | quarantine .resume => "Let a suspended process continue"
  | quarantine .terminate => "Terminate a process"
  | printConfig => "Print the effective configuration as TOML"

/-- What an option is for, in a few words. -/
def Meaning.summary : Meaning → String
  | parameter .settingsFile => "Path to configuration file"
  | parameter .socket => "Override the configured socket path"
  | parameter .count => "Stop after this many records"
  | parameter .processId => "The process to act on"
  | switch .verbose => "Increase logging verbosity"
  | switch .quiet => "Decrease logging verbosity"
  | switch .help => "Print help"
  | switch .version => "Print version"

/-- A line of a list: a name, filled up with blanks, and what is said about it. -/
def helpLine (name summary : String) : String :=
  "  " ++ name ++ String.ofList (List.replicate (16 - name.length) ' ') ++ summary ++ "\n"

/-- The line of an option. -/
def OptionSpec.helpLine (o : OptionSpec) : String :=
  CommandLine.helpLine ("-" ++ String.ofList [o.letter] ++ ", --" ++ o.word) o.meaning.summary

/-- What is said when help is asked for. -/
def helpText : String :=
  "Usage: " ++ programName ++ " [OPTIONS] <COMMAND>\n\nCommands:\n"
    ++ String.join (CommandName.all.map fun c => helpLine c.word c.summary)
    ++ "\nOptions:\n" ++ String.join ((optionsOf none).map OptionSpec.helpLine)

namespace UsageFault

/-- What is printed as an answer. -/
def answer : UsageFault → String
  | help => helpText
  | version => versionText
  | _ => ""

/-- Why the command line was not understood, in a few words. -/
def summary : UsageFault → String
  | help => "help was asked for"
  | version => "the version was asked for"
  | nothingGiven => "nothing was given"
  | commandMissing => "a command is missing"
  | unknownCommand => "there is no such command"
  | unknownArgument => "an argument is not understood"
  | valueMissing => "a value is missing"
  | valueUnexpected => "a value is given where there is none"
  | valueRefused fault => fault.message
  | conflict => "two arguments exclude each other"
  | processIdMissing => "a process id is missing"

end UsageFault

end FileActivity.CommandLine
