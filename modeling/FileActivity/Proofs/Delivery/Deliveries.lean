/-
# What consumers get

Over any session: a record is handed over at most once, to the consumer that is connected when
it is sent, and never later.  What a consumer has got, what it lost when it went away, and what
is still held for it are together the records that its connection took, in the order in which
they were sent.

Main statement: `delivered_run`.
-/
import FileActivity.Proofs.Delivery.Session

namespace FileActivity

/-! ## Queues -/

namespace Endpoint

/-- **What a queue answers**: that it is full, if somebody still holds its other end; that the
other end was dropped, whether it is full or not. -/
theorem deliver_queue (capacity : Nat) (queued : List EventRecord) (receiverOpen : Bool)
    (r : EventRecord) :
    ((queue capacity queued receiverOpen).deliver r).1
      = if receiverOpen = false then .error (.transportFailure "consumer receiver dropped")
        else if queued.length < capacity then .ok () else .error .sendTimedOut := by
  cases receiverOpen with
  | false => rfl
  | true =>
    unfold deliver
    dsimp only
    by_cases hroom : queued.length < capacity <;> simp [hroom]

end Endpoint

/-- What fits a queue is a queue with the capacity that was asked for, or one more than none. -/
theorem Transport.Fits.queue {n : Nat} {e : Endpoint} (h : (Transport.queue n).Fits e) :
    ∃ queued receiverOpen, e = .queue (max n 1) queued receiverOpen ∧ queued.length ≤ max n 1 := by
  cases e with
  | queue capacity queued receiverOpen =>
    obtain ⟨rfl, hlen⟩ := h
    exact ⟨queued, receiverOpen, rfl, hlen⟩
  | _ => exact h.elim

namespace Session

variable {s : Session} {call : Call} {connection : Connection} {r : EventRecord}

/-- The records that the connection of a consumer took, in the order in which they were sent. -/
def acceptedBy (s : Session) (i : ConsumerId) : List EventRecord :=
  (s.handOffsTo i).filterMap HandOff.accepted

/-- What is held for a consumer. -/
def heldFor (s : Session) (i : ConsumerId) : List Piece := (s.channel.endpoint i).held

/-! ## What a session guarantees -/

/-- What is true of a session at any time, and of any call that comes next. -/
structure Delivered (s : Session) : Prop where
  /-- Whatever sends a record, by sending, emitting or observing, is one attempt, which hands it
  over once to the consumer in the slot, -/
  handedOver : ∀ call r connection, s.monitor.recordOf call = some r →
    s.channel.slot = some connection →
    (s.step call).attempts = s.attempts ++ [s.channel.attempt r]
      ∧ s.channel.HandedOver connection r (s.step call).channel
      ∧ (s.channel.attempt r).outcome = ((s.channel.endpoint connection.consumer).deliver r).1
  /-- or, if there is none, to nobody. -/
  nobody : ∀ call r, s.monitor.recordOf call = some r → s.channel.slot = none →
    (s.step call).attempts = s.attempts ++ [s.channel.attempt r]
      ∧ (s.step call).channel = s.channel
      ∧ (s.channel.attempt r).outcome = .error .channelDisconnected
  /-- Sending and emitting give back how the attempt ends. -/
  outcome : ∀ r, (s.monitor.send r).1 = (s.channel.attempt r).outcome
    ∧ (s.monitor.emit r).1 = (s.channel.attempt r).outcome
  /-- Nothing else hands anything over, or shows at an endpoint that was there before, unless it
  is shut down or its own consumer does something. -/
  quiet : ∀ call, s.monitor.recordOf call = none →
    (s.step call).attempts = s.attempts
      ∧ ∀ i, i < s.transports.length → call.actOf i = none →
        (s.step call).channel.endpoint i = s.channel.endpoint i
          ∨ (s.step call).channel.endpoint i = (s.channel.endpoint i).shutDown
  /-- What a consumer of whole records has got, what it lost and what is still held for it are
  the records that its connection took, in order, each once. -/
  records : ∀ i t, s.transports[i]? = some t → t.isSocket = false →
    s.received i ++ s.lost i ++ s.heldFor i = (s.acceptedBy i).map .record
  /-- The bytes that went to a socket are the encodings of these records and a part of one that
  failed. -/
  bytes : ∀ i t, s.transports[i]? = some t → t.isSocket →
    ∃ rest, s.received i ++ s.lost i ++ s.heldFor i
        = ((s.acceptedBy i).flatMap EventRecord.encode ++ rest).map .byte
      ∧ (rest = [] ∨ ∃ x ∈ s.handOffsTo i, x.Torn ∧ rest = x.written) ∧ rest.length < recordSize
  /-- So a consumer that reads on to the end has these records in its hands and no others, -/
  all : ∀ i t, s.transports[i]? = some t →
    Piece.recordsOf (s.received i ++ s.lost i ++ s.heldFor i)
      = ((s.acceptedBy i).map t.seen, .ok ())
  /-- and before that the first of them. -/
  received : ∀ i t, s.transports[i]? = some t →
    ∃ n, Piece.recordsOf (s.received i) = (((s.acceptedBy i).take n).map t.seen, .ok ())
  /-- A queue never holds more than it was made for. -/
  bounded : ∀ i n, s.transports[i]? = some (.queue n) →
    ∃ queued receiverOpen, s.channel.endpoint i = .queue (max n 1) queued receiverOpen
      ∧ queued.length ≤ max n 1
  /-- A hand-off to a queue times out exactly if the queue is full and its other end is held,
  and then the connection stays; it fails beyond repair exactly if the other end was dropped,
  and then the connection is released. -/
  queue : ∀ connection n r queued receiverOpen, s.channel.slot = some connection →
    s.transports[connection.consumer]? = some (.queue n) →
    s.channel.endpoint connection.consumer = .queue (max n 1) queued receiverOpen →
    ((s.channel.attempt r).outcome = .error .sendTimedOut
        ↔ queued.length = max n 1 ∧ receiverOpen = true)
      ∧ ((∃ reason, (s.channel.attempt r).outcome = .error (.transportFailure reason))
        ↔ receiverOpen = false)
      ∧ (s.channel.send r).2.slot = if receiverOpen then some connection else none

/-- What sends nothing shows at an endpoint that was there before at most by shutting it down. -/
theorem endpoint_step (hrecord : s.monitor.recordOf call = none) {i : ConsumerId}
    (hi : i < s.channel.consumers.length) (hact : call.actOf i = none) :
    (s.step call).channel.endpoint i = s.channel.endpoint i
      ∨ (s.step call).channel.endpoint i = (s.channel.endpoint i).shutDown := by
  rcases s.channel_step call with ⟨t, -, hchannel⟩ | ⟨r, hsome, -⟩ | ⟨j, act, rfl, hchannel⟩
    | ⟨-, -, -, hchannel | hchannel⟩
  · rw [hchannel]
    exact Channel.endpoint_connect_of_lt hi t.endpoint
  · rw [hrecord] at hsome
    cases hsome
  · rw [hchannel]
    refine Or.inl (Channel.endpoint_setEndpoint_of_ne (fun hj => ?_) _)
    rw [Call.actOf, if_pos hj] at hact
    cases hact
  · exact Or.inl (congrArg (Channel.endpoint · i) hchannel)
  · rw [hchannel]
    exact Channel.endpoint_shutDown? { s.channel with slot := none } s.channel.slot i

/-- A call that sends a record is one more attempt. -/
theorem attempts_step (hrecord : s.monitor.recordOf call = some r) :
    (s.step call).attempts = s.attempts ++ [s.channel.attempt r] := by
  rw [step, hrecord]
  rfl

namespace Consistent

/-- What the invariant of a session says of its deliveries. -/
theorem delivered (h : s.Consistent) : s.Delivered where
  handedOver := by
    intro call r connection hrecord hslot
    have hlt : connection.consumer < s.channel.consumers.length :=
      h.length_consumers ▸ h.slot_lt connection hslot
    refine ⟨attempts_step hrecord, ?_, ?_⟩
    · have hchannel : (s.step call).channel = (s.channel.send r).2 :=
        Monitor.channel_after_of_recordOf hrecord
      rw [hchannel]
      exact Channel.handedOver_send hslot hlt r
    · simp [Channel.attempt, Attempt.outcome, hslot]
  nobody := by
    intro call r hrecord hslot
    have hchannel : (s.step call).channel = (s.channel.send r).2 :=
      Monitor.channel_after_of_recordOf hrecord
    refine ⟨attempts_step hrecord, ?_, ?_⟩
    · rw [hchannel, Channel.send_snd_of_slot_eq_none hslot]
    · simp [Channel.attempt, Attempt.outcome, hslot]
  outcome := fun r => ⟨s.monitor.send_fst r, s.monitor.emit_fst r⟩
  quiet := by
    intro call hrecord
    constructor
    · rw [Session.step, hrecord]
      exact List.append_nil _
    · intro i hi hact
      exact endpoint_step hrecord (h.length_consumers ▸ hi) hact
  records := fun i t ht hsocket => (h.balanced i t ht).all_record hsocket
  bytes := fun i t ht hsocket => (h.balanced i t ht).all_byte hsocket
  all := fun i t ht => (h.balanced i t ht).recordsOf_all
  received := fun i t ht => (h.balanced i t ht).recordsOf_received
  bounded := fun i n hn => (h.balanced i _ hn).fits.queue
  queue := by
    intro connection n r queued receiverOpen hslot hn he
    obtain ⟨queued', receiverOpen', he', hlen⟩ := (h.balanced _ _ hn).fits.queue
    obtain ⟨-, rfl, rfl⟩ := Endpoint.queue.inj (he.symm.trans he')
    have hlt : connection.consumer < s.channel.consumers.length :=
      h.length_consumers ▸ h.slot_lt connection hslot
    have hdeliver := Endpoint.deliver_queue (max n 1) queued receiverOpen r
    have houtcome : (s.channel.attempt r).outcome
        = ((Endpoint.queue (max n 1) queued receiverOpen).deliver r).1 := by
      simp [Channel.attempt, Attempt.outcome, hslot, he]
    rw [(Channel.handedOver_send hslot hlt r).slot, he, houtcome, hdeliver]
    cases receiverOpen with
    | false => simp [isFatal, Error.isFatal]
    | true =>
      by_cases hroom : queued.length < max n 1
      · simp [hroom, isFatal, Nat.ne_of_lt hroom]
      · simp [isFatal, Error.isFatal, Nat.le_antisymm hlen (Nat.not_lt.mp hroom)]

end Consistent

/-- **At most once, in order, and never late.** -/
theorem delivered_run (reporter : Reporter) (calls : List Call) :
    ((Session.fresh reporter).run calls).Delivered :=
  ((Consistent.fresh reporter).run calls).delivered

/-- A queue for one record: the second record finds it full and is lost to whoever connects
later, too. -/
example (reporter : Reporter) (r r' : EventRecord) :
    let s := (Session.fresh reporter).run
      [.connect (.queue 0), .send r, .send r', .connect (.queue 0), .consumer 0 (.read 2)]
    s.acceptedBy 0 = [r] ∧ s.acceptedBy 1 = [] ∧ s.received 0 = [.record r] ∧ s.heldFor 1 = [] := by
  exact ⟨rfl, rfl, rfl, rfl⟩

end Session

end FileActivity
