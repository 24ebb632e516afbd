/-
# Settings

What the agent can be told: where its consumer connects and who may, how much of a write is
looked at, whether processes may be quarantined, and what telemetry is collected.
-/
import FileActivity.Telemetry.TraceKind
import FileActivity.UserSet

namespace FileActivity

/-! ## Durations -/

/-- A length of time, in nanoseconds. -/
structure Duration where
  nanos : Nat
  deriving DecidableEq, Repr, Inhabited

namespace Duration

/-- A number of seconds. -/
def ofSeconds (n : Nat) : Duration := ⟨n * 1000000000⟩

/-- A number of milliseconds. -/
def ofMillis (n : Nat) : Duration := ⟨n * 1000000⟩

end Duration

/-! ## Sections -/

/-- Where and how records reach the consumer. -/
structure ChannelSettings where
  /-- The socket that the consumer connects to. -/
  socketPath : Path := .ofString "/run/sentinelguard/events.sock"
  /-- The longest time that handing over a record may take. -/
  sendTimeout : Duration := .ofMillis 50
  /-- The number of records that a queue in the same process holds. -/
  queueCapacity : Nat := 1024
  /-- The users that may connect; if none is listed, all may. -/
  allowedUids : List UserId := []
  deriving DecidableEq, Repr, Inhabited

/-- How written bytes are looked at. -/
structure PreviewSettings where
  /-- The number of leading bytes of a write that are looked at. -/
  budget : Nat := 4096
  deriving DecidableEq, Repr, Inhabited

/-- Whether processes may be stopped. -/
structure QuarantineSettings where
  enabled : Bool := true
  deriving DecidableEq, Repr, Inhabited

/-- Which telemetry is collected. -/
structure TelemetrySettings where
  enabled : Bool := false
  /-- The time between two looks at the process table. -/
  pollInterval : Duration := .ofSeconds 1
  filter : List TraceKind := TraceKind.all
  deriving DecidableEq, Repr, Inhabited

/-- All settings. -/
structure Settings where
  channel : ChannelSettings := {}
  preview : PreviewSettings := {}
  quarantine : QuarantineSettings := {}
  telemetry : TelemetrySettings := {}
  deriving DecidableEq, Repr, Inhabited

/-! ## Normal form -/

/-- The smallest sample worth scoring. -/
def minPreviewBudget : Nat := 16

/-- The largest sample, which bounds the time that a write can be held up. -/
def maxPreviewBudget : Nat := 64 * 1024

/-- The nearest budget that is allowed. -/
def clampBudget (n : Nat) : Nat := max minPreviewBudget (min n maxPreviewBudget)

namespace Settings

/-- The settings as they are used: the budget within its bounds, room for at least one record,
and the users listed once each and in order. -/
def normalized (s : Settings) : Settings :=
  { s with
    channel := { s.channel with
      queueCapacity := max s.channel.queueCapacity 1
      allowedUids := sortedSet s.channel.allowedUids }
    preview := { s.preview with budget := clampBudget s.preview.budget } }

end Settings

theorem clampBudget_clampBudget (n : Nat) : clampBudget (clampBudget n) = clampBudget n := by
  simp only [clampBudget, minPreviewBudget, maxPreviewBudget]; omega

end FileActivity
