/-
# The channel server

The server owns the socket that consumers connect to.  It admits those that its policy allows,
each one superseding the one before, lets a consumer go when it hangs up, and takes its socket
away when it stops.
-/
import FileActivity.Delivery.Channel
import FileActivity.Files.Sockets
import FileActivity.Server.Policy
import FileActivity.Settings.Basic

namespace FileActivity

/-- A server that is bound to its socket. -/
structure Server where
  path : Path
  /-- The socket that the server listens on. -/
  socket : SocketId
  policy : ConnectPolicy
  sendTimeout : Duration
  deriving DecidableEq, Repr

namespace Server

/-- The permission bits of the server's socket: only its owner may connect. -/
def socketMode : Nat := 0o600

/-- The directories above a path are made if they are missing. -/
def prepareParent (f : Files) (p : Path) : Except IoError Files :=
  match p.parent with
  | none => .ok f
  | some parent => f.makeDirectories (parent.components.length + 1) parent

/-- Binds a server to a path: makes the directories above it, removes a socket that was left
behind, and puts a socket there that only its owner can connect to. -/
def bind (f : Files) (p : Path) (policy : ConnectPolicy) (sendTimeout : Duration) :
    Except Error (Server × Files) :=
  Except.mapError Error.io do
    let f ← prepareParent f p
    let f ← f.removeStaleSocket p
    let (socket, f) ← f.bindSocket p
    let f ← f.setMode p socketMode
    return (⟨p, socket, policy, sendTimeout⟩, f)

/-- Binds a server as the settings say. -/
def ofSettings (f : Files) (s : ChannelSettings) : Except Error (Server × Files) :=
  bind f s.socketPath (.ofList s.allowedUids) s.sendTimeout

/-- A peer of some user connects.  If the policy allows it and its socket can be set up, it
becomes the consumer; otherwise it is turned away and the channel stays as it is. -/
def accept (server : Server) (uid : UserId) (setup : Except Error Unit) (c : Channel) :
    Except Error Cookie × Channel :=
  match server.policy.authorize uid, setup with
  | .error e, _ => (.error e, c)
  | .ok (), .error e => (.error e, c)
  | .ok (), .ok () =>
    let (cookie, c) := c.connect .newSocket
    (.ok cookie, c)

/-- The peer of a connection has hung up. -/
def hangUp (cookie : Cookie) (c : Channel) : Channel := (c.release cookie).2

/-- Stops a server: the consumer is dropped, and what has the server's name in the file tree is
removed, if it can be. -/
def stop (server : Server) (f : Files) (c : Channel) : Files × Channel :=
  ((f.remove server.path).toOption.getD f, c.disconnect.2)

end Server

end FileActivity
