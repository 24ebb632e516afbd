/-
# Writing settings

The sheet that settings are written as.  Times are rounded to whole units, a half upwards.  What
TOML cannot hold is refused, and the first such field in the order of writing says why.
-/
import FileActivity.Settings.Basic
import FileActivity.Toml.Sheet

namespace FileActivity

open Toml (Value Sheet)

/-- Why settings cannot be written. -/
inductive WriteFault where
  /-- The path is no text. -/
  | pathNotText
  /-- The time is too long to be counted in its unit. -/
  | timeNotCountable
  /-- The number is too large for a document. -/
  | numberTooLarge
  deriving DecidableEq, Repr

/-- How a fault of writing is told. -/
def WriteFault.message (f : WriteFault) : String :=
  "failed to serialize TOML: " ++ match f with
    | pathNotText => "path contains invalid UTF-8 characters"
    | timeNotCountable => "Failed to serialize value as the value cannot be represented."
    | numberTooLarge => "out-of-range value for u64 type"

/-- The number of values of a 64-bit word. -/
def wordCount : Nat := UInt64.size

/-- The number of whole units in a duration, a half counting as one.  The count is a 64-bit
word: rounding up the greatest one gives zero. -/
def Duration.roundTo (d : Duration) (unit : Nat) : Nat := (d.nanos + unit / 2) / unit % wordCount

/-- Writes a natural number, if a document can hold it. -/
def writeNat (n : Nat) : Except WriteFault Toml.Plain :=
  if (n : Int) ≤ Value.maxInteger then .ok (.integer n) else .error .numberTooLarge

/-- Writes a time in milliseconds. -/
def writeMillis (d : Duration) : Except WriteFault Toml.Plain :=
  if d.nanos / 1000000 < wordCount then writeNat (d.roundTo 1000000) else .error .timeNotCountable

/-- Writes a time in seconds. -/
def writeSeconds (d : Duration) : Except WriteFault Toml.Plain := writeNat (d.roundTo 1000000000)

/-- Writes a path. -/
def writePath (p : Path) : Except WriteFault Toml.Plain :=
  match p.toString? with
  | some s => .ok (.string s)
  | none => .error .pathNotText

/-- The sheet of some settings. -/
def Settings.toSheet (s : Settings) : Except WriteFault Sheet := do
  let socketPath ← writePath s.channel.socketPath
  let sendTimeout ← writeMillis s.channel.sendTimeout
  let queueCapacity ← writeNat s.channel.queueCapacity
  let budget ← writeNat s.preview.budget
  let pollInterval ← writeSeconds s.telemetry.pollInterval
  return [
    ("channel", [
      ("socket_path", .plain socketPath),
      ("send_timeout", .plain sendTimeout),
      ("queue_capacity", .plain queueCapacity),
      ("allowed_uids", .list (s.channel.allowedUids.map fun uid => .integer uid.toNat))]),
    ("entropy", [("preview_budget", .plain budget)]),
    ("quarantine", [("enabled", .plain (.boolean s.quarantine.enabled))]),
    ("telemetry", [
      ("enabled", .plain (.boolean s.telemetry.enabled)),
      ("poll_interval", .plain pollInterval),
      ("filter", .list (s.telemetry.filter.map fun kind => .string kind.name))])]

/-- The text of some settings. -/
def Settings.render (s : Settings) : Except WriteFault String := s.toSheet.map Sheet.render

end FileActivity
