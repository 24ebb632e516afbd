/-
# Settings files

A settings file has to be a regular file.  What is wrong with one is told together with its name
and, where there is one, with the key of the value that does not fit.
-/
import FileActivity.Files.Tree
import FileActivity.Settings.Layers

namespace FileActivity

/-- Why a file gives no settings. -/
inductive LoadFault where
  /-- There is no regular file at the path. -/
  | notAFile (path : Path)
  /-- The file that is shown as `name` holds no settings. -/
  | unusable (name : Path) (error : SettingsError)
  deriving Repr

namespace LoadFault

/-- What does not fit in a valid document that was read from a file, and the key that leads to
it.  A label is told by the place of its value alone. -/
def valueFault : LoadFault → Option (String × List String)
  | unusable _ (.mislabelled place fault) =>
    some ((place.map (·.message fault.textMessage)).getD fault.textMessage, [])
  | unusable _ (.misfit m) => some (m.fault.fileMessage, m.key)
  | _ => none

/-- How the name of a file is told. -/
def inFile (name : Path) : String := " in " ++ name.display ++ " TOML file"

/-- How the key of a value is told. -/
def forKey (key : List String) : String :=
  if key.isEmpty then "" else " for key " ++ Quoted.quote (".".intercalate ("default" :: key))

/-- How a fault is told. -/
def message (fault : LoadFault) : String :=
  match fault with
  | notAFile path => "invalid path: " ++ path.display
  | unusable name error =>
    match fault.valueFault with
    | some (text, key) => "failed to extract config: " ++ text ++ forKey key ++ inFile name
    | none =>
      match error with
      | .notUtf8 => "failed to extract config: stream did not contain valid UTF-8" ++ inFile name
      | _ => "failed to extract config: TOML parse error"

end LoadFault

/-- The settings of a file. -/
def Settings.load (f : Files) (p : Path) : Except LoadFault Settings :=
  match f.find p with
  | .ok (_, ⟨.regular content, _⟩) =>
    (Settings.ofFile content).mapError (.unusable (p.shownFrom f.workingDirectory))
  | _ => .error (.notAFile p)

end FileActivity
