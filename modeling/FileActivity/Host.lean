/-
# The host

The machine that the program runs on, as far as the program can tell: its files, its processes,
what is sent by those who listen on its sockets, and the time.
-/
import FileActivity.Files.Sockets
import FileActivity.Processes
import FileActivity.Record.Report

namespace FileActivity

/-- The images of processes; an image that cannot be read is as good as no process. -/
def Processes.imageTable (ps : Processes) : ProcessTable :=
  ⟨fun pid => (ps.find? pid).bind fun p => if p.image = .empty then none else some p.image⟩

/-- The machine that the program runs on. -/
structure Host where
  files : Files
  processes : Processes
  /-- The number of the program's own process. -/
  ownPid : ProcessId
  /-- What each socket that somebody listens on sends to whoever connects, before it is closed. -/
  listeners : List (SocketId × List UInt8) := []
  now : Timestamp := ⟨0⟩
  deriving Inhabited

namespace Host

/-- Connects to the socket at a path and receives what is sent. -/
def receive (h : Host) (p : Path) : Except IoError (List UInt8) := do
  let id ← h.files.findListener (fun id => (h.listeners.lookup id).isSome) p
  return (h.listeners.lookup id).getD []

/-- The making of records on this machine. -/
def reporter (h : Host) (previewBudget : Nat) : Reporter :=
  ⟨h.processes.imageTable, h.now, previewBudget⟩

end Host

end FileActivity
