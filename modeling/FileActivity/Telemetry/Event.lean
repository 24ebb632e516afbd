/-
# Telemetry events

Signals about processes, the registry and the network that come beside the file operations.
-/
import FileActivity.Error

namespace FileActivity

/-- A secondary signal. -/
inductive TelemetryEvent where
  /-- A process appeared. -/
  | processCreate (pid parent : ProcessId) (image : Path) (commandLine : String)
  /-- A registry key was changed. -/
  | registryChange (pid : ProcessId) (key : String)
  /-- A connection was opened to a remote address. -/
  | networkConnect (pid : ProcessId) (remote : String)
  /-- A process appeared whose command line deletes volume shadow copies. -/
  | shadowCopyDelete (pid : ProcessId) (image : Path) (commandLine : String)
  deriving DecidableEq, Repr

/-- The process that an event is about. -/
def TelemetryEvent.processId : TelemetryEvent → ProcessId
  | processCreate pid .. => pid
  | registryChange pid _ => pid
  | networkConnect pid _ => pid
  | shadowCopyDelete pid .. => pid

end FileActivity
