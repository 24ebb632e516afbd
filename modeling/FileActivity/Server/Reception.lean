/-
# The reception of a server

Everybody who came to a server, in the order in which they came, and what each of them sees:
whether it was let in, the records that reach it, and the end of its stream.
-/
import FileActivity.Server.Basic

namespace FileActivity

/-- What became of somebody who came to a server. -/
inductive Peer where
  /-- It was let in on this connection. -/
  | admitted (connection : Connection)
  /-- It was turned away. -/
  | refused
  /-- It has hung up. -/
  | gone
  deriving DecidableEq, Repr

/-- The channel of a server, and all who came to it. -/
structure Reception where
  channel : Channel := {}
  peers : List Peer := []
  deriving Inhabited

namespace Reception

/-- A peer of some user comes; tells whether it was let in. -/
def connect (s : Reception) (server : Server) (uid : UserId) : Bool × Reception :=
  match server.accept uid (.ok ()) s.channel with
  | (.ok cookie, channel) =>
    (true, ⟨channel, s.peers ++ [.admitted ⟨cookie, s.channel.consumers.length⟩]⟩)
  | (.error _, channel) => (false, ⟨channel, s.peers ++ [.refused]⟩)

/-- Whether a peer is still there. -/
def isPresent (s : Reception) (i : Nat) : Bool :=
  match s.peers[i]? with
  | some .gone | none => false
  | _ => true

/-- Whether the stream of a peer has ended. -/
def isClosed (s : Reception) (i : Nat) : Bool :=
  match s.peers[i]? with
  | some (.admitted connection) => (s.channel.endpoint connection.consumer).isShut
  | _ => true

/-- A peer reads one record, if a whole one has come. -/
def read (s : Reception) (i : Nat) : Option EventRecord × Reception :=
  match s.peers[i]? with
  | some (.admitted connection) =>
    match s.channel.endpoint connection.consumer with
    | .socket stream =>
      let (r, stream) := stream.readRecord
      (r, { s with channel := s.channel.setEndpoint connection.consumer (.socket stream) })
    | _ => (none, s)
  | _ => (none, s)

/-- A peer hangs up, and the server lets it go. -/
def hangUp (s : Reception) (i : Nat) : Reception :=
  match s.peers[i]? with
  | some (.admitted connection) =>
    let e := (s.channel.endpoint connection.consumer).drop
    ⟨Server.hangUp connection.cookie (s.channel.setEndpoint connection.consumer e),
      s.peers.set i .gone⟩
  | _ => { s with peers := s.peers.set i .gone }

/-- The server stops. -/
def stop (s : Reception) (server : Server) (f : Files) : Files × Reception :=
  let (f, channel) := server.stop f s.channel
  (f, { s with channel })

end Reception

end FileActivity
