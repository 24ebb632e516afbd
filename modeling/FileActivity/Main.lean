/-
# The entry point

Reads the files that the arguments may name, runs the program on what was read, and prints what
has come of it.  Sockets and processes of other programs are out of reach from here, so of the
commands only the one that prints settings is carried out.
-/
import FileActivity.Program.Run

namespace FileActivity.Program

/-- The endings of a list, the longest first. -/
def endings : List Char → List (List Char)
  | [] => [[]]
  | c :: cs => (c :: cs) :: endings cs

/-- The texts that may be the name of a file: the endings of the arguments, since a name may
follow an option in the same argument. -/
def possibleNames (args : List String) : List String :=
  args.flatMap fun arg => (endings arg.toList).map String.ofList

/-- The files among some names, as far as they can be read. -/
def readFiles (names : List String) : IO Files :=
  names.foldlM (fun (files : Files) (name : String) => do
    try
      let content ← IO.FS.readBinFile name
      return (files.writeFile (.ofString name) content.toList).toOption.getD files
    catch _ => return files) {}

/-- Prints how the program ended, and gives its status. -/
def conclude (e : Ending) : IO UInt32 := do
  IO.print e.output
  match e.complaint with
  | some complaint => IO.eprintln ("Error: " ++ complaint)
  | none => pure ()
  return e.status.toUInt32

/-- Whether files are all that carrying the arguments out on a machine takes: settings are only
printed, or cannot be had in the first place. -/
def isWithinReach (h : Host) (args : List String) : Bool :=
  match Invocation.ofArguments h.files.isFile args with
  | .ok i => i.command = .printConfig || !(settingsFor h i).toBool
  | .error _ => true

/-- What is said of a command that cannot be carried out from here. -/
def outOfReach : Ending where
  status := 1
  complaint := some "sockets and other processes are out of reach"

end FileActivity.Program

open FileActivity in
/-- Runs the program.  A fault in the arguments or in the settings ends every command. -/
def main (args : List String) : IO UInt32 := do
  let files ← Program.readFiles (Program.possibleNames args)
  let host : Host := { files, processes := [], ownPid := 0 }
  match Program.run host args with
  | (.misused fault, _) =>
    unless fault.isAnswer do IO.eprintln ("error: " ++ fault.summary)
    Program.conclude (.ofMisuse fault)
  | (.ended e, _) =>
    Program.conclude (if Program.isWithinReach host args then e else Program.outOfReach)
  | (.serving _, _) => Program.conclude Program.outOfReach
