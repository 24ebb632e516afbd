/-
# The monitor

The one object that every intercepted operation passes through.  It classifies the operation,
makes a record of it and hands the record on; it never fails and never holds an operation up.
Its counters tell what became of the operations and records.
-/
import FileActivity.Delivery.Channel
import FileActivity.Record.Report

namespace FileActivity

/-! ## Counters -/

/-- What became of operations and records so far. -/
structure Counters where
  /-- Operations seen. -/
  observed : UInt64 := 0
  /-- Operations worth a record. -/
  classified : UInt64 := 0
  /-- Records handed over. -/
  delivered : UInt64 := 0
  /-- Records dropped because nobody was connected. -/
  droppedDisconnected : UInt64 := 0
  /-- Records dropped because the hand-over failed. -/
  droppedTransport : UInt64 := 0
  deriving DecidableEq, Repr, Inhabited

namespace Counters

/-- Counts an operation that was seen. -/
def observe (c : Counters) : Counters := { c with observed := c.observed + 1 }

/-- Counts an operation that is worth a record. -/
def classify (c : Counters) : Counters := { c with classified := c.classified + 1 }

/-- Counts what became of a record. -/
def settle (c : Counters) : Except Error Unit → Counters
  | .ok () => { c with delivered := c.delivered + 1 }
  | .error .channelDisconnected => { c with droppedDisconnected := c.droppedDisconnected + 1 }
  | .error _ => { c with droppedTransport := c.droppedTransport + 1 }

/-- All records dropped. -/
def dropped (c : Counters) : UInt64 := c.droppedDisconnected + c.droppedTransport

/-- The counters in words. -/
def text (c : Counters) : String :=
  "Counters \x7b observed: " ++ toString c.observed ++ ", classified: " ++ toString c.classified
    ++ ", delivered: " ++ toString c.delivered
    ++ ", dropped_disconnected: " ++ toString c.droppedDisconnected
    ++ ", dropped_transport: " ++ toString c.droppedTransport ++ " \x7d"

end Counters

/-! ## The monitor -/

/-- How records are made, where they go, and what became of them. -/
structure Monitor where
  reporter : Reporter
  channel : Channel := {}
  counters : Counters := {}
  deriving Inhabited

namespace Monitor

/-- Sends a record without counting it. -/
def send (m : Monitor) (r : EventRecord) : Except Error Unit × Monitor :=
  let (outcome, channel) := m.channel.send r
  (outcome, { m with channel })

/-- Sends a record and counts what became of it. -/
def emit (m : Monitor) (r : EventRecord) : Except Error Unit × Monitor :=
  let (outcome, m) := m.send r
  (outcome, { m with counters := m.counters.settle outcome })

/-- Sees an operation; what becomes of its record shows in the counters alone. -/
def observe (m : Monitor) (op : Operation) : Monitor :=
  let m := { m with counters := m.counters.observe }
  match op.category.classify with
  | none => m
  | some kind =>
    let m := { m with counters := m.counters.classify }
    (m.emit (m.reporter.record kind op)).2

/-- Sees an operation several times. -/
def observeTimes (m : Monitor) (op : Operation) : Nat → Monitor
  | 0 => m
  | n + 1 => (m.observe op).observeTimes op n

/-- Sends the record of a telemetry event, if it has one; what becomes of it shows in the
counters alone. -/
def report (m : Monitor) (event : TelemetryEvent) : Monitor :=
  match m.reporter.telemetryRecord event with
  | some r => (m.emit r).2
  | none => m

/-- Drops the consumer; operations that come later are still seen. -/
def tearDown (m : Monitor) : Monitor := { m with channel := m.channel.disconnect.2 }

/-- The counters and the state of the channel, as they are logged. -/
def statistics (m : Monitor) : String :=
  "observed=" ++ toString m.counters.observed ++ " classified=" ++ toString m.counters.classified
    ++ " delivered=" ++ toString m.counters.delivered ++ " dropped=" ++ toString m.counters.dropped
    ++ " channel=" ++ m.channel.stateText

/-- The monitor in words. -/
def text (m : Monitor) : String :=
  "FilterContext \x7b builder: EventBuilder \x7b preview_budget: "
    ++ toString m.reporter.previewBudget
    ++ ", .. \x7d, channel: DeliveryChannel \x7b state: " ++ m.channel.stateText
    ++ " \x7d, counters: " ++ m.counters.text ++ " \x7d"

/-- An operation that is not worth a record leaves the channel alone. -/
theorem channel_observe_of_classify_eq_none (m : Monitor) {op : Operation}
    (h : op.category.classify = none) : (m.observe op).channel = m.channel := by
  simp [observe, h]

end Monitor

end FileActivity
