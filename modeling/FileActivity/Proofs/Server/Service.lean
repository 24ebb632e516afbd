/-
# A server at work

What can happen to a server and to its channel: somebody comes and is let in or turned away,
whoever was let in is noticed to have hung up, records are sent, the consumer is dropped by
hand, and the server is stopped.

All consumers of the channel of a server are sockets, and all of them were shut down but the one
whose connection is in the slot (`Channel.Peopled`).
-/
import FileActivity.Proofs.Delivery.LifeCycle
import FileActivity.Proofs.Delivery.Printing
import FileActivity.Proofs.Trace
import FileActivity.Server.Basic

namespace FileActivity

/-! ## Arrivals -/

/-- Somebody who comes to a server: the user it comes as, if that can be found out, and how each
call goes that its socket is set up with. -/
structure Arrival where
  credentials : Except IoError UserId
  /-- Taking the socket out of the hands of the runtime. -/
  detach : Except IoError Unit
  /-- Letting writes wait. -/
  blocking : Except IoError Unit
  /-- Setting how long writes may wait. -/
  timeout : Except IoError Unit
  /-- A second handle, to shut the socket down with. -/
  control : Except IoError Unit
  /-- A third handle, to notice with that the peer hangs up. -/
  watch : Except IoError Unit

namespace Arrival

/-- Sets the socket up, and stops at the first call that fails. -/
def setUp (a : Arrival) : Except Error Unit :=
  Except.mapError Error.io do
    a.detach
    a.blocking
    a.timeout
    a.control
    a.watch

/-- Every call goes well. -/
def ofUser (uid : UserId) : Arrival := ⟨.ok uid, .ok (), .ok (), .ok (), .ok (), .ok ()⟩

end Arrival

/-- Handles somebody who comes. -/
def Server.handle (server : Server) (a : Arrival) (c : Channel) : Except Error Cookie × Channel :=
  match a.credentials with
  | .error e => (.error (.io e), c)
  | .ok uid => server.accept uid a.setUp c

namespace Server

variable {server : Server} {a : Arrival} {c c' : Channel} {cookie : Cookie} {e : Error}

/-- **Whoever is turned away leaves no trace.** -/
theorem channel_of_handle_error (h : server.handle a c = (.error e, c')) : c' = c := by
  unfold handle at h
  split at h
  · exact (Prod.mk.inj h).2.symm
  · unfold accept at h
    split at h
    · exact (Prod.mk.inj h).2.symm
    · exact (Prod.mk.inj h).2.symm
    · cases h

/-- Whoever is let in comes as a user that the policy allows, with a socket that was set up, and is
connected. -/
theorem handle_eq_ok_iff : server.handle a c = (.ok cookie, c')
    ↔ (∃ uid, a.credentials = .ok uid ∧ server.policy.authorize uid = .ok ()) ∧ a.setUp = .ok ()
      ∧ c.connect .newSocket = (cookie, c') := by
  unfold handle
  cases hcredentials : a.credentials with
  | error e => simp
  | ok uid =>
    unfold accept
    cases hauthorize : server.policy.authorize uid with
    | error e => simp [hauthorize]
    | ok => cases a.setUp <;> simp [hauthorize, Prod.ext_iff]

end Server

/-! ## Peopled channels -/

namespace Endpoint

/-- A socket that was shut down is shut. -/
theorem isShut_shutDown_of_isSocket {e : Endpoint} (h : e.isSocket) : e.shutDown.isShut = true := by
  cases e with
  | socket => rfl
  | _ => cases h

end Endpoint

namespace Channel

open SharedChannel (connectionAt connectionAt_injective)

variable {c c' : Channel} {connection : Connection}

/-- Shutting a connection down shuts down its own consumer, and no other. -/
theorem endpoint_shutDown?_eq (c : Channel) (previous : Option Connection) (i : ConsumerId) :
    (c.shutDown? previous).endpoint i
      = if previous.map Connection.consumer = some i then (c.endpoint i).shutDown
        else c.endpoint i := by
  cases previous with
  | none => rfl
  | some connection =>
    by_cases hi : connection.consumer = i
    · subst hi
      rw [Option.map_some, if_pos rfl]
      exact endpoint_setEndpoint_map rfl _ _
    · rw [Option.map_some, if_neg (fun h => hi (Option.some.inj h))]
      exact endpoint_setEndpoint_of_ne hi _

/-- A consumer that comes shuts down the one that it supersedes, and nobody else. -/
theorem endpoint_connect_eq {i : ConsumerId} (hi : i < c.consumers.length) (e : Endpoint) :
    (c.connect e).2.endpoint i
      = if c.slot.map Connection.consumer = some i then (c.endpoint i).shutDown
        else c.endpoint i := by
  rw [connect_snd, endpoint_shutDown?_eq]
  have hbefore := endpoint_addConsumer_of_lt hi e
  split
  · exact congrArg Endpoint.shutDown hbefore
  · exact hbefore

/-- All consumers are sockets, numbered as they came, and all of them were shut down but the one
whose connection is in the slot. -/
structure Peopled (c : Channel) : Prop where
  issued : c.issued = UInt64.ofNat c.consumers.length
  slot : ∀ connection, c.slot = some connection →
    connection.consumer < c.consumers.length ∧ connection = connectionAt connection.consumer
  isSocket : ∀ i, i < c.consumers.length → (c.endpoint i).isSocket
  isShut_iff : ∀ i, i < c.consumers.length →
    ((c.endpoint i).isShut = true ↔ c.slot ≠ some (connectionAt i))

namespace Peopled

/-- A channel that nobody has come to is peopled as it should be. -/
theorem fresh : ({} : Channel).Peopled where
  issued := rfl
  slot := fun _ hslot => by cases hslot
  isSocket := fun i hi => absurd hi (Nat.not_lt_zero i)
  isShut_iff := fun i hi => absurd hi (Nat.not_lt_zero i)

/-- The slot tells who is in it. -/
theorem map_slot_iff (h : c.Peopled) (i : ConsumerId) :
    c.slot.map Connection.consumer = some i ↔ c.slot = some (connectionAt i) := by
  rw [Option.map_eq_some_iff]
  constructor
  · rintro ⟨connection, hslot, rfl⟩
    rw [hslot, ← (h.slot connection hslot).2]
  · exact fun hslot => ⟨_, hslot, rfl⟩

/-- A consumer is shut down by and by, and exactly if its connection is not in the slot any more. -/
theorem isShut_shutDown_iff (h : c.Peopled) {i : ConsumerId} (hi : i < c.consumers.length) :
    (if c.slot.map Connection.consumer = some i then (c.endpoint i).shutDown
      else c.endpoint i).isShut = true := by
  split
  · exact Endpoint.isShut_shutDown_of_isSocket (h.isSocket i hi)
  · next hnot => exact (h.isShut_iff i hi).mpr fun hslot => hnot ((h.map_slot_iff i).mpr hslot)

/-- Taking the connection out of the slot and shutting it down. -/
theorem drop (h : c.Peopled) : (shutDown? { c with slot := none } c.slot).Peopled where
  issued := by cases c.slot <;> simpa [shutDown?, shutDown, setEndpoint] using h.issued
  slot := fun _ hslot => by
    rw [slot_shutDown?] at hslot
    cases hslot
  isSocket := by
    intro i hi
    rw [length_consumers_shutDown?] at hi
    rw [endpoint_shutDown?_eq]
    split
    · rw [Endpoint.isSocket_shutDown]
      exact h.isSocket i hi
    · exact h.isSocket i hi
  isShut_iff := by
    intro i hi
    rw [length_consumers_shutDown?] at hi
    rw [endpoint_shutDown?_eq, slot_shutDown?]
    exact iff_of_true (h.isShut_shutDown_iff hi) (Option.some_ne_none _).symm

/-- A consumer that comes supersedes whoever was there. -/
theorem connect (h : c.Peopled) : (c.connect .newSocket).2.Peopled := by
  have hlength := c.length_consumers_connect .newSocket
  have hself : (c.connect .newSocket).2.endpoint c.consumers.length = .newSocket :=
    endpoint_connect_of_slot_lt (fun d hd => (h.slot d hd).1) _
  have hcookie : c.issued + 1 = UInt64.ofNat (c.consumers.length + 1) := by
    rw [h.issued, UInt64.ofNat_add]
    rfl
  have hslot : (c.connect .newSocket).2.slot = some (connectionAt c.consumers.length) := by
    rw [slot_connect, hcookie]
    rfl
  constructor
  case issued =>
    rw [hlength, ← hcookie, connect_snd]
    cases c.slot <;> rfl
  case slot =>
    intro connection hc
    rw [hslot] at hc
    cases hc
    exact ⟨by rw [hlength]; exact Nat.lt_succ_self _, rfl⟩
  case isSocket =>
    intro i hi
    rw [hlength] at hi
    rcases Nat.lt_succ_iff_lt_or_eq.mp hi with hi | rfl
    · rw [endpoint_connect_eq hi]
      split
      · rw [Endpoint.isSocket_shutDown]
        exact h.isSocket i hi
      · exact h.isSocket i hi
    · rw [hself]
      rfl
  case isShut_iff =>
    intro i hi
    rw [hlength] at hi
    rw [hslot]
    rcases Nat.lt_succ_iff_lt_or_eq.mp hi with hi | rfl
    · rw [endpoint_connect_eq hi]
      refine iff_of_true (h.isShut_shutDown_iff hi) fun heq => ?_
      exact Nat.ne_of_gt hi (connectionAt_injective (Option.some.inj heq))
    · rw [hself]
      exact iff_of_false Bool.false_ne_true fun hne => hne rfl

/-- A record is handed over, and a consumer whose socket failed is let go. -/
theorem handedOver {r : EventRecord} (h : c.Peopled) (hslot : c.slot = some connection)
    (hover : c.HandedOver connection r c') : c'.Peopled := by
  obtain ⟨hlt, hconnection⟩ := h.slot connection hslot
  constructor
  case issued => rw [hover.issued, hover.length_consumers, h.issued]
  case slot =>
    intro d hd
    rw [hover.slot] at hd
    split at hd
    · cases hd
    · cases hd
      rw [hover.length_consumers]
      exact ⟨hlt, hconnection⟩
  case isSocket =>
    intro i hi
    rw [hover.length_consumers] at hi
    by_cases hself : connection.consumer = i
    · subst hself
      rw [hover.endpoint_self]
      split <;> simpa using h.isSocket _ hi
    · rw [hover.endpoint_of_ne i hself]
      exact h.isSocket i hi
  case isShut_iff =>
    intro i hi
    rw [hover.length_consumers] at hi
    rw [hover.slot]
    by_cases hself : connection.consumer = i
    · subst hself
      rw [hover.endpoint_self]
      split
      · refine iff_of_true (Endpoint.isShut_shutDown_of_isSocket ?_) (Option.some_ne_none _).symm
        rw [Endpoint.isSocket_deliver]
        exact h.isSocket _ hi
      · rw [Endpoint.isShut_deliver, h.isShut_iff _ hi, hslot]
    · rw [hover.endpoint_of_ne i hself, h.isShut_iff i hi, hslot]
      have hother : connection ≠ connectionAt i :=
        fun heq => hself (congrArg Connection.consumer heq)
      split
      · exact iff_of_true (fun heq => hother (Option.some.inj heq)) (Option.some_ne_none _).symm
      · exact Iff.rfl

/-- Sending a record keeps a channel peopled as it should be. -/
theorem send (h : c.Peopled) (r : EventRecord) : (c.send r).2.Peopled := by
  cases hslot : c.slot with
  | none => rwa [send_snd_of_slot_eq_none hslot]
  | some connection => exact h.handedOver hslot (handedOver_send hslot (h.slot _ hslot).1 r)

/-- Something happens at the end of a consumer. -/
theorem react (h : c.Peopled) (i : ConsumerId) (act : ConsumerAct) :
    (c.setEndpoint i ((c.endpoint i).react act)).Peopled := by
  have hendpoint (j : ConsumerId) : (c.setEndpoint i ((c.endpoint i).react act)).endpoint j
      = if i = j then (c.endpoint j).react act else c.endpoint j := by
    by_cases hj : i = j
    · subst hj
      rw [if_pos rfl]
      exact endpoint_setEndpoint_map (f := fun e => e.react act) (by cases act <;> rfl) c i
    · rw [if_neg hj]
      exact endpoint_setEndpoint_of_ne hj _
  constructor
  case issued => rw [length_consumers_setEndpoint]; exact h.issued
  case slot => rw [length_consumers_setEndpoint]; exact h.slot
  case isSocket =>
    intro j hj
    rw [length_consumers_setEndpoint] at hj
    rw [hendpoint]
    split <;> simpa using h.isSocket j hj
  case isShut_iff =>
    intro j hj
    rw [length_consumers_setEndpoint] at hj
    rw [hendpoint]
    split <;> simpa using h.isShut_iff j hj

/-- Letting go of a cookie lets go of the connection in the slot or of none. -/
theorem release (h : c.Peopled) (cookie : Cookie) : (c.release cookie).2.Peopled := by
  rw [release_snd]
  split
  · exact h.drop
  · exact h

end Peopled

end Channel

/-! ## Steps -/

/-- A channel with its server, and those who were let in and are watched for hanging up. -/
structure Service where
  channel : Channel := {}
  watched : List Connection := []
  stopped : Bool := false

namespace Service

/-- What happens in one step. -/
inductive Event where
  /-- A user came and was let in on this connection. -/
  | admitted (uid : UserId) (connection : Connection)
  /-- Somebody came and was turned away. -/
  | refused (a : Arrival) (e : Error)
  /-- It was noticed that the peer of a connection has hung up. -/
  | hungUp (connection : Connection)
  /-- A record was sent to whoever was found in the slot. -/
  | sent (found : Option Connection) (r : EventRecord) (outcome : Except Error Unit)
  /-- The consumer was dropped by hand. -/
  | disconnected
  /-- The server was stopped. -/
  | cancelled
  /-- Something happened at the end of a consumer. -/
  | consumer (i : ConsumerId) (act : ConsumerAct)

/-- The steps.  Every peer that was let in is watched on its own until it hangs up, or is shut
down, or reading from it fails; nothing here depends on when that is, so it may be at any
time. -/
inductive Step (server : Server) : Service → Event → Service → Prop where
  | letIn {s : Service} {a : Arrival} {uid : UserId} {cookie : Cookie} {c : Channel}
      (hrunning : s.stopped = false) (hcredentials : a.credentials = .ok uid)
      (hhandle : server.handle a s.channel = (.ok cookie, c)) :
    Step server s (.admitted uid ⟨cookie, s.channel.consumers.length⟩)
      { s with channel := c, watched := s.watched ++ [⟨cookie, s.channel.consumers.length⟩] }
  | refuse {s : Service} {a : Arrival} {e : Error} {c : Channel} (hrunning : s.stopped = false)
      (hhandle : server.handle a s.channel = (.error e, c)) :
    Step server s (.refused a e) { s with channel := c }
  | hangUp {s : Service} {connection : Connection} (hwatched : connection ∈ s.watched) :
    Step server s (.hungUp connection)
      { s with
        channel := Server.hangUp connection.cookie s.channel
        watched := s.watched.erase connection }
  | send {s : Service} (r : EventRecord) :
    Step server s (.sent s.channel.slot r (s.channel.send r).1)
      { s with channel := (s.channel.send r).2 }
  /-- Another thread kept the socket's own lock for too long. -/
  | expire {s : Service} {connection : Connection} (r : EventRecord)
      (hslot : s.channel.slot = some connection) :
    Step server s (.sent (some connection) r (.error .sendTimedOut)) s
  | disconnect {s : Service} :
    Step server s .disconnected { s with channel := s.channel.disconnect.2 }
  | cancel {s : Service} (f : Files) (hrunning : s.stopped = false) :
    Step server s .cancelled { s with channel := (server.stop f s.channel).2, stopped := true }
  | consumer {s : Service} (i : ConsumerId) (act : ConsumerAct) :
    Step server s (.consumer i act)
      { s with channel := s.channel.setEndpoint i ((s.channel.endpoint i).react act) }

/-- Steps of a server that has just been bound. -/
abbrev Run (server : Server) : List Event → Service → Prop := Trace (Step server) {}

end Service

end FileActivity
