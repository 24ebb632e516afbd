/-
# The file tree

Files, directories, sockets and links by their locations, and the few operations on them that
the agent uses, each failing as the system lets it fail.  A socket carries the number of the
bind that made it, so that one socket can be told from another that took its place.  Links are
followed where permission bits are looked up or set; everywhere else a link is an object like
any other, and no way leads through it.
-/
import FileActivity.Files.Location
import FileActivity.SystemError

namespace FileActivity

/-! ## Objects -/

/-- The number of the bind that made a socket. -/
structure SocketId where
  number : Nat
  deriving DecidableEq, Repr, Inhabited

/-- What an object of the file system is. -/
inductive FileKind where
  | regular (content : List UInt8)
  | directory
  | socket (id : SocketId)
  /-- A link to what a path leads to from the link's directory. -/
  | link (target : Path)
  /-- Anything else, such as a device. -/
  | special
  deriving DecidableEq, Repr

/-- An object of the file system: what it is, and its permission bits. -/
structure FileObject where
  kind : FileKind
  mode : Nat
  deriving DecidableEq, Repr

/-- The permission bits of a new directory. -/
def directoryMode : Nat := 0o755

/-- The permission bits of a new file or socket. -/
def fileMode : Nat := 0o644

/-- The objects of the file system by location, the place that relative paths begin at, and the
number of sockets bound so far.  The root is there whether or not it is listed. -/
structure Files where
  objects : List (Location × FileObject) := []
  workingDirectory : Location := []
  socketsBound : Nat := 0
  deriving Repr, Inhabited

namespace Files

/-! ## Objects by location -/

/-- The permission bits of the root. -/
def rootMode (f : Files) : Nat := ((f.objects.lookup []).map FileObject.mode).getD directoryMode

/-- The object at a location; the root is a directory. -/
def at? (f : Files) (place : Location) : Option FileObject :=
  if place = [] then some ⟨.directory, f.rootMode⟩ else f.objects.lookup place

/-- Puts an object at a location. -/
def put (f : Files) (place : Location) (object : FileObject) : Files :=
  { f with objects := (place, object) :: f.objects.filter (·.1 != place) }

/-- Takes the object at a location away. -/
def erase (f : Files) (place : Location) : Files :=
  { f with objects := f.objects.filter (·.1 != place) }

/-! ## Walking -/

/-- Walks from a location along components; all places on the way must be directories, which the one
that is reached need not be. -/
def walk (f : Files) (place : Location) : List FileEntryName → Except IoError Location
  | [] => .ok place
  | c :: cs =>
    match f.at? place with
    | none => .error (.system .noEntry)
    | some ⟨.directory, _⟩ =>
      if c.length > maxNameLength then .error (.system .nameTooLong)
      else if c = dotDot then f.walk place.dropLast cs
      else f.walk (place ++ [c]) cs
    | some _ => .error (.system .notDirectory)

/-- Fails where no path can lead anywhere that has these bytes. -/
def checkPath (p : Path) : Except IoError Unit :=
  if p.bytes.contains 0 then .error .zeroByteInName
  else if p.bytes.isEmpty then .error (.system .noEntry)
  else if p.bytes.length ≥ maxPathLength then .error (.system .nameTooLong)
  else .ok ()

/-- The location that a path begins at. -/
def startOf (f : Files) (p : Path) : Location := if p.isAbsolute then [] else f.workingDirectory

/-- The location that a path leads to, whether or not something is there.  A path that has to
lead to a directory may not lead to anything else. -/
def resolve (f : Files) (p : Path) : Except IoError Location := do
  checkPath p
  let place ← f.walk (f.startOf p) p.components
  match f.at? place with
  | some ⟨.directory, _⟩ => return place
  | none => return place
  | some _ => if p.wantsDirectory then .error (.system .notDirectory) else return place

/-- The location that something new at a path would take.  What is there already is in its way,
whether or not it is the directory that a slash at the end of the path asks for. -/
def placeForNew (f : Files) (p : Path) : Except IoError Location := f.resolve p.withoutFinalSlashes

/-- The location of the object that a path leads to, and the object.  No link is followed. -/
def find (f : Files) (p : Path) : Except IoError (Location × FileObject) := do
  let place ← f.resolve p
  match f.at? place with
  | some object => return (place, object)
  | none => .error (.system .noEntry)

/-! ## Following links -/

/-- The most links that are followed on the way of one path. -/
def maxLinks : Nat := 40

/-- Walks from a location along steps up to the first link, where `jump` goes on: it is given
the location that the link's target begins at, and the steps of the target with those that are
left. -/
def advance (f : Files) (jump : Location → List FileEntryName → Except IoError Location)
    (place : Location) : List FileEntryName → Except IoError Location
  | [] => .ok place
  | c :: cs =>
    match f.at? place with
    | none => .error (.system .noEntry)
    | some ⟨.directory, _⟩ =>
      if c.length > maxNameLength then .error (.system .nameTooLong)
      else if c = dot then f.advance jump place cs
      else if c = dotDot then f.advance jump place.dropLast cs
      else
        match f.at? (place ++ [c]) with
        | some ⟨.link target, _⟩ =>
          jump (if target.isAbsolute then [] else place) (target.steps ++ cs)
        | _ => f.advance jump (place ++ [c]) cs
    | some _ => .error (.system .notDirectory)

/-- Walks from a location along steps and follows every link on the way, unless there are more than
`links`. -/
def follow (f : Files) : (links : Nat) → Location → List FileEntryName → Except IoError Location
  | 0 => f.advance fun _ _ => .error (.system .tooManyLinks)
  | links + 1 => f.advance (f.follow links)

/-- The location of what a path leads to when links are followed, and the object. -/
def lookUp (f : Files) (p : Path) : Except IoError (Location × FileObject) := do
  checkPath p
  let place ← f.follow maxLinks (f.startOf p) p.steps
  match f.at? place with
  | some object => return (place, object)
  | none => .error (.system .noEntry)

/-! ## Looking -/

/-- Whether a path leads to anything. -/
def exists? (f : Files) (p : Path) : Bool := (f.find p).toBool

/-- Whether a path leads to a regular file. -/
def isFile (f : Files) (p : Path) : Bool :=
  match f.find p with
  | .ok (_, ⟨.regular _, _⟩) => true
  | _ => false

/-- Whether a path leads to a directory. -/
def isDirectory (f : Files) (p : Path) : Bool :=
  match f.find p with
  | .ok (_, ⟨.directory, _⟩) => true
  | _ => false

/-- The permission bits of the object that a path leads to when links are followed. -/
def mode (f : Files) (p : Path) : Except IoError Nat := do
  return (← f.lookUp p).2.mode

/-! ## Changing -/

/-- Sets the permission bits of the object that a path leads to when links are followed.  The
bits that the system stores are those that it is asked for, or what `stored` makes of them. -/
def setMode (f : Files) (p : Path) (mode : Nat) (stored : Nat → Nat := id) :
    Except IoError Files := do
  let (place, object) ← f.lookUp p
  return f.put place { object with mode := stored mode }

/-- Makes a directory. -/
def makeDirectory (f : Files) (p : Path) : Except IoError Files := do
  let place ← f.placeForNew p
  match f.at? place with
  | some _ => .error (.system .exists_)
  | none => return f.put place ⟨.directory, directoryMode⟩

/-- Makes a directory and those above it that are missing; `depth` bounds how far up. -/
def makeDirectories (f : Files) : (depth : Nat) → Path → Except IoError Files
  | 0, _ => .ok f
  | depth + 1, p =>
    if p.bytes.isEmpty then .ok f
    else
      match f.makeDirectory p with
      | .ok f => .ok f
      | .error e =>
        if e = .system .noEntry then
          match p.parent with
          | none => .error (.custom "failed to create whole tree")
          | some parent => do
            let f ← f.makeDirectories depth parent
            match f.makeDirectory p with
            | .ok f => return f
            | .error e => if f.isDirectory p then return f else .error e
        else if f.isDirectory p then .ok f
        else .error e

/-- Removes a path's entry, which may not be a directory. -/
def remove (f : Files) (p : Path) : Except IoError Files := do
  match ← f.find p with
  | (_, ⟨.directory, _⟩) => .error (.system .isDirectory)
  | (place, _) => return f.erase place

/-- Writes a file, with the directories above it. -/
def writeFile (f : Files) (p : Path) (content : List UInt8) : Except IoError Files := do
  let f ← match p.parent with
    | some parent => f.makeDirectories (parent.components.length + 1) parent
    | none => .ok f
  let place ← f.resolve p
  return f.put place ⟨.regular content, fileMode⟩

end Files

end FileActivity
