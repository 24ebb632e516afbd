/-
# Sockets in the file tree

Binding gives a socket a name in the file tree, and connecting follows a name to the socket that
has it. A socket's address has less room than a path.
-/
import FileActivity.Files.Tree

namespace FileActivity

/-- The number of bytes in a socket address, with the zero byte that ends a path. -/
def socketAddressLength : Nat := 108

/-- Whether a path can be a socket address. -/
def checkSocketPath (p : Path) : Except IoError Unit :=
  if p.bytes.contains 0 then .error .zeroByteInSocketPath
  else if p.bytes.length ≥ socketAddressLength then .error .socketPathTooLong
  else .ok ()

namespace Files

/-- Puts a new socket at a path.  A path that begins with a zero byte is a name outside the file
tree, and the empty path leaves the choice of such a name to the system. -/
def bindSocket (f : Files) (p : Path) : Except IoError (SocketId × Files) :=
  let id : SocketId := ⟨f.socketsBound⟩
  let counted := { f with socketsBound := f.socketsBound + 1 }
  if p.bytes.isEmpty then .ok (id, counted)
  else if p.bytes.head? == some 0 then
    if p.bytes.length > socketAddressLength then .error .socketNameTooLong else .ok (id, counted)
  else do
    checkSocketPath p
    let place ← f.placeForNew p
    match f.at? place with
    | some _ => .error (.system .addressInUse)
    | none =>
      if p.wantsDirectory then .error (.system .noEntry)
      else return (id, counted.put place ⟨.socket id, fileMode⟩)

/-- Follows a path to a socket that somebody listens on. -/
def findListener (f : Files) (listening : SocketId → Bool) (p : Path) : Except IoError SocketId :=
  if p.bytes.isEmpty then .error (.system .invalidArgument)
  else if p.bytes.head? == some 0 then
    if p.bytes.length > socketAddressLength then .error .socketNameTooLong
    else .error (.system .connectionRefused)
  else do
    checkSocketPath p
    match ← f.find p with
    | (_, ⟨.socket id, _⟩) =>
      if listening id then return id else .error (.system .connectionRefused)
    | _ => .error (.system .connectionRefused)

/-- Removes a socket that was left behind; whatever else is at the path stays. -/
def removeStaleSocket (f : Files) (p : Path) : Except IoError Files :=
  match f.find p with
  | .ok (_, ⟨.socket _, _⟩) => f.remove p
  | _ => .ok f

end Files

end FileActivity
