/-
# Errors

Why an operation of the library failed.  An error is a cause with the facts that belong to it; its
wording is made by `Error.message` alone.
-/
import FileActivity.SystemError
import FileActivity.Text.Path

namespace FileActivity

/-- A process number. -/
abbrev ProcessId := UInt32

/-- A user number. -/
abbrev UserId := UInt32

/-- The causes of failure. -/
inductive Error where
  /-- The process number names no live process. -/
  | processLookupFailed (pid : ProcessId)
  /-- The operation carries no usable name. -/
  | nameUnavailable
  /-- No consumer is connected; the record was dropped. -/
  | channelDisconnected
  /-- The record could not be handed over in time. -/
  | sendTimedOut
  /-- The consumer's side failed; the record was dropped. -/
  | transportFailure (text : String)
  /-- A peer tried to connect without being allowed to. -/
  | connectionRejected (uid : UserId)
  /-- A wire record of the wrong length. -/
  | malformedRecord (expected actual : Nat)
  /-- A wire record with a tag that stands for no kind. -/
  | unknownEventKind (tag : UInt32)
  /-- Quarantine was not available at startup. -/
  | quarantineUnavailable
  /-- The system refused to act on the process. -/
  | quarantinePrivilegeDenied (pid : ProcessId)
  /-- There is no such process. -/
  | processNotFound (pid : ProcessId)
  /-- Process 0, process 1 and the agent itself are never quarantined. -/
  | protectedProcess (pid : ProcessId)
  /-- The access bits of a file could not be changed. -/
  | permissionUpdateFailed (path : Path) (source : IoError)
  /-- A trace session was asked for something out of order. -/
  | traceSessionState (expected actual : String)
  /-- The process information of the system could not be read. -/
  | processInfoUnreadable (text : String)
  /-- A system call failed. -/
  | systemCall (errno : Errno)
  /-- A file or socket operation failed. -/
  | io (source : IoError)
  deriving DecidableEq, Repr, Inhabited

namespace Error

/-- The wording of an error. -/
def message : Error → String
  | processLookupFailed pid => "Process lookup failed for pid " ++ toString pid
  | nameUnavailable => "File name unavailable"
  | channelDisconnected => "Channel disconnected"
  | sendTimedOut => "Send timed out"
  | transportFailure text => "Transport failure: " ++ text
  | connectionRejected uid => "Connection from uid " ++ toString uid ++ " rejected"
  | malformedRecord expected actual =>
    "Malformed record: expected " ++ toString expected ++ " bytes, got " ++ toString actual
  | unknownEventKind tag => "Unknown event kind tag: " ++ toString tag
  | quarantineUnavailable => "Quarantine unavailable"
  | quarantinePrivilegeDenied pid => "Quarantine denied for pid " ++ toString pid
  | processNotFound pid => "No such process: " ++ toString pid
  | protectedProcess pid => "Refusing to act on protected pid " ++ toString pid
  | permissionUpdateFailed path source =>
    "Failed to update permissions of " ++ path.display ++ ": " ++ source.message
  | traceSessionState expected actual => "Trace session is " ++ actual ++ ", expected " ++ expected
  | processInfoUnreadable text => "Failed to read procfs info: Unknown error " ++ text
  | systemCall errno => "System call failed: " ++ errno.callMessage
  | io source => "I/O error: " ++ source.message

/-- Failures to resolve a field; they leave the field empty and never stop a record. -/
def isResolutionFailure : Error → Bool
  | processLookupFailed _ | nameUnavailable => true
  | _ => false

/-- Failures after which the connection cannot be trusted any more. -/
def isFatal : Error → Bool
  | transportFailure _ => true
  | _ => false

end Error

end FileActivity
