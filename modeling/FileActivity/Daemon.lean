/-
# The daemon

The agent while it serves: a server that admits consumers, a monitor that their records come
from, and, if the settings ask for it, a trace session that is polled.  Between two polls the
daemon answers to signals.
-/
import FileActivity.Host
import FileActivity.Monitor
import FileActivity.Server.Basic
import FileActivity.Telemetry.Session

namespace FileActivity

/-- The agent while it serves.  The receiver of its session is always its own monitor. -/
structure Daemon where
  server : Server
  monitor : Monitor
  session : Option (PollingSession Unit)

namespace Daemon

/-! ## Starting -/

/-- A session that has been started with the filter of the settings, if telemetry is wanted. -/
def startSession (s : TelemetrySettings) : Option (PollingSession Unit) :=
  if s.enabled then
    ((PollingSession.register {} (.ofList s.filter) ()).bind PollingSession.start).toOption
  else none

/-- Starts the agent: its server is bound first, and if that fails nothing else happens. -/
def start (s : Settings) (h : Host) : Except Error (Daemon × Host) := do
  let (server, files) ← Server.ofSettings h.files s.channel
  return (⟨server, { reporter := h.reporter s.preview.budget }, startSession s.telemetry⟩,
    { h with files })

/-! ## Serving -/

/-- The channel to the consumer. -/
def channel (d : Daemon) : Channel := d.monitor.channel

/-- The daemon with another state of its channel. -/
def withChannel (d : Daemon) (c : Channel) : Daemon :=
  { d with monitor := { d.monitor with channel := c } }

/-- Looks at the processes of the machine and reports those that have appeared. -/
def poll (d : Daemon) (h : Host) : Daemon :=
  match d.session with
  | none => d
  | some session =>
    match session.poll (.ok h.processes) with
    | .error _ => d
    | .ok (delivered, session) =>
      let monitor := { d.monitor with reporter := h.reporter d.monitor.reporter.previewBudget }
      { d with session := some session
               monitor := delivered.foldl (fun m event => m.report event.2) monitor }

/-- The line that is logged when statistics are asked for. -/
def statistics (d : Daemon) : String := d.monitor.statistics

/-- Drops the consumer, if there is one. -/
def dropConsumer (d : Daemon) : Daemon := d.withChannel d.channel.disconnect.2

/-! ## Stopping -/

/-- Stops the server and the session, and drops the consumer. -/
def stop (d : Daemon) (h : Host) : Daemon × Host :=
  let (files, c) := d.server.stop h.files d.channel
  ({ d.withChannel c with monitor := (d.withChannel c).monitor.tearDown
                          session := d.session.map PollingSession.stop }, { h with files })

end Daemon

end FileActivity
