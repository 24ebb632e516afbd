/-
# What a reader prints

From the calls of a session to the lines that the program prints at the other end of a socket.
A socket carries bytes without any framing, and a write may fail after any part of a record;
still the reader prints the records whose sending succeeded, in order, and nothing else, and a
part of a record at the end of its stream is neither printed nor an error.

Main statement: `printed_run`.
-/
import FileActivity.Program.Commands
import FileActivity.Proofs.Delivery.Deliveries

namespace FileActivity

/-! ## Bytes on their way -/

namespace Endpoint

/-- Handing a record over does not shut an endpoint down. -/
@[simp] theorem isShut_deliver (e : Endpoint) (r : EventRecord) :
    (e.deliver r).2.isShut = e.isShut := by
  rcases e.deliver_cases r with ⟨-, h⟩ | ⟨_, _, _, _, rfl, h⟩ | ⟨_, _, rfl, -, h⟩ | ⟨_, rfl, h⟩ <;>
    rw [h] <;> rfl

/-- No consumer shuts its endpoint down itself. -/
@[simp] theorem isShut_react (e : Endpoint) (act : ConsumerAct) :
    (e.react act).isShut = e.isShut := by
  cases e <;> cases act <;> rfl

/-- Who was shut down stays so. -/
theorem isShut_shutDown {e : Endpoint} (h : e.isShut = true) : e.shutDown.isShut = true := by
  cases e with
  | socket => rfl
  | _ => exact h

end Endpoint

/-- A new endpoint is not shut down. -/
theorem Transport.isShut_endpoint (t : Transport) : t.endpoint.isShut = false := by
  cases t <;> rfl

/-- Only whoever was there before can be shut down when a consumer comes. -/
theorem Channel.endpoint_connect_of_slot_lt {c : Channel}
    (h : ∀ connection, c.slot = some connection → connection.consumer < c.consumers.length)
    (e : Endpoint) : (c.connect e).2.endpoint c.consumers.length = e := by
  rw [connect_snd]
  cases hslot : c.slot with
  | none => exact endpoint_addConsumer_self c e
  | some connection =>
    have hne : connection.consumer ≠ c.consumers.length := Nat.ne_of_lt (h connection hslot)
    exact (endpoint_setEndpoint_of_ne hne _).trans (endpoint_addConsumer_self c e)

namespace Session

variable {s : Session} {call : Call} {i : ConsumerId} {t : Transport} {r : EventRecord}

/-! ## Records whose sending succeeded -/

/-- The record that a call sends over the connection of a consumer with success. -/
def sentBy (s : Session) (i : ConsumerId) (call : Call) : Option EventRecord :=
  (s.monitor.recordOf call).filter fun r =>
    s.channel.slot.any (fun connection => connection.consumer = i) && (s.channel.send r).1.isOk

/-- The records that calls send over the connection of a consumer with success, one after
another. -/
def sentTo (i : ConsumerId) : Session → List Call → List EventRecord
  | _, [] => []
  | s, call :: calls => (s.sentBy i call).toList ++ sentTo i (s.step call) calls

/-- What is sent with success is what a hand-off to the consumer took. -/
theorem accepted_handOffTo_attempt (s : Session) (i : ConsumerId) (r : EventRecord) :
    ((s.channel.attempt r).handOffTo i).bind HandOff.accepted
      = if s.channel.slot.any (fun connection => connection.consumer = i)
          && (s.channel.send r).1.isOk then some r else none := by
  cases hslot : s.channel.slot with
  | none => simp [Channel.attempt, Attempt.handOffTo, hslot]
  | some connection =>
    by_cases hi : connection.consumer = i
    · subst hi
      rw [Channel.handOffTo_attempt_self hslot, Channel.send_fst]
      cases houtcome : ((s.channel.endpoint connection.consumer).deliver r).1 <;>
        simp [Channel.attempt, Attempt.outcome, HandOff.accepted, hslot, houtcome, Except.isOk,
          Except.toBool]
    · rw [Channel.handOffTo_attempt_of_ne fun d hd => Option.some.inj (hslot.symm.trans hd) ▸ hi]
      simp [hi]

/-- A call adds to the hand-offs that were made to a consumer the one that it makes. -/
theorem handOffsTo_step (s : Session) (i : ConsumerId) (call : Call) :
    (s.step call).handOffsTo i = s.handOffsTo i
      ++ ((s.monitor.recordOf call).bind fun r => (s.channel.attempt r).handOffTo i).toList := by
  rw [handOffsTo, step, List.filterMap_append]
  cases s.monitor.recordOf call with
  | none => rfl
  | some r => cases h : (s.channel.attempt r).handOffTo i <;> simp [handOffsTo, h]

/-- A call adds the record that it sends to a consumer to what that consumer accepted. -/
theorem acceptedBy_step (s : Session) (i : ConsumerId) (call : Call) :
    (s.step call).acceptedBy i = s.acceptedBy i ++ (s.sentBy i call).toList := by
  rw [acceptedBy, handOffsTo_step, List.filterMap_append, sentBy]
  cases s.monitor.recordOf call with
  | none => rfl
  | some r =>
    have haccepted := s.accepted_handOffTo_attempt i r
    rw [Option.filter_some, ← haccepted]
    cases h : (s.channel.attempt r).handOffTo i with
    | none => simp [acceptedBy, h]
    | some x => cases hx : x.accepted <;> simp [acceptedBy, h, hx]

/-- **What the connection of a consumer took is what was sent to it with success.** -/
theorem acceptedBy_run (s : Session) (i : ConsumerId) (calls : List Call) :
    (s.run calls).acceptedBy i = s.acceptedBy i ++ sentTo i s calls := by
  induction calls generalizing s with
  | nil => exact (List.append_nil _).symm
  | cons call calls ih =>
    have hrun : s.run (call :: calls) = (s.step call).run calls := rfl
    rw [hrun, ih, acceptedBy_step, sentTo, List.append_assoc]

/-! ## Streams -/

/-- The bytes that have come out of the socket of a consumer, or were left in it, or are still
in it. -/
def streamOf (s : Session) (i : ConsumerId) : List UInt8 :=
  (s.received i ++ s.lost i ++ s.heldFor i).filterMap Piece.byte?

/-- A stream is what the hand-offs to its consumer wrote. -/
theorem Consistent.streamOf_eq (h : s.Consistent) (ht : s.transports[i]? = some t)
    (hsocket : t.isSocket) : s.streamOf i = (s.handOffsTo i).flatMap HandOff.written := by
  have hbalance := (h.balanced i t ht).balance
  rw [hsocket, HandOff.flatMap_pieces_socket] at hbalance
  have hstream := congrArg (List.filterMap Piece.byte?) hbalance
  rw [List.filterMap_map] at hstream
  exact hstream.trans List.filterMap_some

/-- A consumer that has come keeps its transport. -/
theorem getElem?_transports_step (ht : s.transports[i]? = some t) (call : Call) :
    (s.step call).transports[i]? = some t := by
  have hlt : i < s.transports.length := (List.getElem?_eq_some_iff.mp ht).1
  rw [step, List.getElem?_append_left hlt]
  exact ht

/-! ### The end of a stream -/

/-- The connection in the slot has not been shut down. -/
def Open (s : Session) : Prop :=
  ∀ connection, s.channel.slot = some connection →
    (s.channel.endpoint connection.consumer).isShut = false

/-- What a consumer does shuts nobody down. -/
@[simp] theorem isShut_step_consumer (s : Session) (i j : ConsumerId) (act : ConsumerAct) :
    ((s.step (.consumer j act)).channel.endpoint i).isShut = (s.channel.endpoint i).isShut := by
  have haccount := congrArg Account.endpoint (s.account_step_consumer i j act)
  have hendpoint : (s.step (.consumer j act)).channel.endpoint i = _ := haccount
  rw [hendpoint]
  split
  · exact Endpoint.isShut_react _ act
  · rfl

/-- A call leaves the connection in the slot open, or takes it out. -/
theorem Consistent.open_step (h : s.Consistent) (hopen : s.Open) (call : Call) :
    (s.step call).Open := by
  intro connection hslot
  rcases s.channel_step call with ⟨t, -, hchannel⟩ | ⟨r, -, hchannel⟩ | ⟨j, act, rfl, hchannel⟩
    | ⟨-, -, -, hchannel | hchannel⟩
  · rw [hchannel, Channel.slot_connect] at hslot
    cases hslot
    rw [hchannel, Channel.endpoint_connect_of_slot_lt
      fun d hd => h.length_consumers ▸ h.slot_lt d hd]
    exact t.isShut_endpoint
  · rw [hchannel] at hslot ⊢
    cases hbefore : s.channel.slot with
    | none =>
      rw [Channel.send_snd_of_slot_eq_none hbefore, hbefore] at hslot
      cases hslot
    | some previous =>
      -- whoever is still in the slot was there, and was handed the record
      have hover := Channel.handedOver_send hbefore
        (h.length_consumers ▸ h.slot_lt previous hbefore) r
      rw [hover.slot] at hslot
      split at hslot
      · cases hslot
      · next hfatal =>
        cases hslot
        rw [hover.endpoint_self, if_neg hfatal, Endpoint.isShut_deliver]
        exact hopen _ hbefore
  · rw [isShut_step_consumer]
    rw [hchannel] at hslot
    exact hopen connection hslot
  · rw [hchannel] at hslot ⊢
    exact hopen connection hslot
  · rw [hchannel, Channel.slot_shutDown?] at hslot
    cases hslot

/-- Whatever the calls, the connection in the slot is open. -/
theorem Consistent.open_run (h : s.Consistent) (hopen : s.Open) (calls : List Call) :
    (s.run calls).Open := by
  induction calls generalizing s with
  | nil => exact hopen
  | cons call calls ih => exact ih (h.step call) (h.open_step hopen call)

/-- Who was shut down stays so. -/
theorem Consistent.isShut_step (h : s.Consistent) (hi : i < s.transports.length)
    (hshut : (s.channel.endpoint i).isShut = true) (call : Call) :
    ((s.step call).channel.endpoint i).isShut = true := by
  cases hrecord : s.monitor.recordOf call with
  | some r =>
    have hchannel : (s.step call).channel = (s.channel.send r).2 :=
      Monitor.channel_after_of_recordOf hrecord
    rw [hchannel]
    cases hslot : s.channel.slot with
    | none => rwa [Channel.send_snd_of_slot_eq_none hslot]
    | some connection =>
      have hover :=
        Channel.handedOver_send hslot (h.length_consumers ▸ h.slot_lt connection hslot) r
      by_cases hself : connection.consumer = i
      · subst hself
        rw [hover.endpoint_self]
        split
        · exact Endpoint.isShut_shutDown (by rwa [Endpoint.isShut_deliver])
        · rwa [Endpoint.isShut_deliver]
      · rwa [hover.endpoint_of_ne i hself]
  | none =>
    cases hact : call.actOf i with
    | none =>
      rcases endpoint_step hrecord (h.length_consumers ▸ hi) hact with hsame | hdown
      · rwa [hsame]
      · rw [hdown]
        exact Endpoint.isShut_shutDown hshut
    | some act =>
      cases call with
      | consumer j act => rwa [isShut_step_consumer]
      | _ => cases hact

/-- **Nothing is written to a socket after it was shut down.** -/
theorem Consistent.streamOf_run_of_isShut (h : s.Consistent) (hopen : s.Open)
    (ht : s.transports[i]? = some t) (hsocket : t.isSocket)
    (hshut : (s.channel.endpoint i).isShut = true) (calls : List Call) :
    (s.run calls).streamOf i = s.streamOf i := by
  induction calls generalizing s with
  | nil => rfl
  | cons call calls ih =>
    have hi : i < s.transports.length := (List.getElem?_eq_some_iff.mp ht).1
    have hstep : (s.step call).streamOf i = s.streamOf i := by
      have hnobody : ∀ r, (s.channel.attempt r).handOffTo i = none := by
        refine Channel.handOffTo_attempt_of_ne fun d hd hdi => ?_
        have hdown := hopen d hd
        rw [hdi, hshut] at hdown
        cases hdown
      have hsame : (s.step call).handOffsTo i = s.handOffsTo i := by
        rw [handOffsTo_step]
        cases s.monitor.recordOf call <;> simp [hnobody]
      rw [(h.step call).streamOf_eq (getElem?_transports_step ht call) hsocket, hsame,
        h.streamOf_eq ht hsocket]
    rw [← hstep]
    exact ih (h.step call) (h.open_step hopen call) (getElem?_transports_step ht call)
      (h.isShut_step hi hshut call)

/-! ### What a write can do -/

/-- What a hand-off to a socket writes is added to its stream. -/
theorem Consistent.streamOf_step_of_recordOf (h : s.Consistent) (ht : s.transports[i]? = some t)
    (hsocket : t.isSocket) {connection : Connection} (hslot : s.channel.slot = some connection)
    (hi : connection.consumer = i) (hrecord : s.monitor.recordOf call = some r) :
    (s.step call).streamOf i = s.streamOf i ++ (s.channel.endpoint i).written r := by
  subst hi
  rw [(h.step call).streamOf_eq (getElem?_transports_step ht call) hsocket, handOffsTo_step,
    hrecord, Option.bind_some, Channel.handOffTo_attempt_self hslot, List.flatMap_append,
    ← h.streamOf_eq ht hsocket]
  exact congrArg _ (List.flatMap_singleton ..)

/-- **A write can end after any number of bytes**, as room is found: short of a whole record it
fails. -/
theorem Consistent.anyWrite (h : s.Consistent) (ht : s.transports[i]? = some t)
    (hsocket : t.isSocket) (hpresent : s.Present i) {stream : Stream}
    (hstream : s.channel.endpoint i = .socket stream) (hreader : stream.readerOpen = true)
    (r : EventRecord) {n : Nat} (hn : n ≤ recordSize) :
    ∃ room, ((s.step (.consumer i (.resize room))).step (.send r)).streamOf i
        = s.streamOf i ++ r.encode.take n
      ∧ ((s.step (.consumer i (.resize room))).channel.send r).1.isOk
        = decide (n = recordSize) := by
  obtain ⟨connection, hslot, hi⟩ := hpresent
  refine ⟨stream.pending.length + n, ?_⟩
  generalize hs' : s.step (.consumer i (.resize (stream.pending.length + n))) = s'
  have hconsistent : s'.Consistent := hs' ▸ h.step _
  have ht' : s'.transports[i]? = some t := hs' ▸ getElem?_transports_step ht _
  have hslot' : s'.channel.slot = some connection := hs' ▸ hslot
  have hsame : s'.streamOf i = s.streamOf i := by
    rw [hconsistent.streamOf_eq ht' hsocket, h.streamOf_eq ht hsocket, ← hs', handOffsTo_step]
    exact congrArg _ (List.append_nil _)
  have hendpoint : s'.channel.endpoint i
      = .socket { stream with capacity := stream.pending.length + n } := by
    have haccount := congrArg Account.endpoint
      (s.account_step_consumer i i (.resize (stream.pending.length + n)))
    rw [if_pos rfl, hs', Account.react] at haccount
    have hreact : s'.channel.endpoint i
        = (s.channel.endpoint i).react (.resize (stream.pending.length + n)) := haccount
    rw [hreact, hstream]
    rfl
  constructor
  · rw [hconsistent.streamOf_step_of_recordOf ht' hsocket hslot' hi rfl, hsame, hendpoint]
    simp [Endpoint.written, Stream.accepts, hreader]
  · rw [Channel.send_fst_of_slot hslot', hi, hendpoint]
    by_cases hwhole : n = recordSize
    · simp [Endpoint.deliver, Stream.write, hreader, r.length_encode, hwhole, Except.mapError,
        Except.isOk, Except.toBool]
    · have hshort : ¬ recordSize ≤ n := fun hle => hwhole (Nat.le_antisymm hn hle)
      simp [Endpoint.deliver, Stream.write, hreader, r.length_encode, hwhole, hshort,
        Except.mapError, Except.isOk, Except.toBool]

end Session

/-! ## Printing -/

/-- A machine with one socket, on which somebody listens and sends some bytes. -/
def Host.serving (bytes : List UInt8) : Host where
  files := { objects := [([[115]], ⟨.socket ⟨0⟩, fileMode⟩)] }
  processes := []
  ownPid := default
  listeners := [(⟨0⟩, bytes)]

/-- The path of that socket. -/
def Host.servingPath : Path := ⟨[47, 115]⟩

/-- The stream that is served is what the consumer receives. -/
theorem Host.receive_serving (bytes : List UInt8) :
    (serving bytes).receive servingPath = .ok bytes := rfl

/-- **What is printed of the beginning of a stream**: its whole records, as many as are asked
for. -/
theorem Program.consume_of_isPrefix {h : Host} {p : Path} {rs : List EventRecord}
    {rest bytes : List UInt8} (hreceive : h.receive p = .ok bytes)
    (hrest : rest.length < recordSize) (hbytes : bytes <+: rs.flatMap EventRecord.encode ++ rest)
    (count : Option Nat) :
    consume h p count
      = (printLines (atMost count ((rs.take (bytes.length / recordSize)).map EventRecord.onWire)),
        .ok ()) := by
  rw [consume, hreceive]
  dsimp only
  rw [readStream_of_isPrefix hrest hbytes count]
  rfl

namespace Session

/-- What is printed by those who read the stream of a consumer, to which `sent` was sent with
success, and what they decode is `shown`. -/
structure Printed (s : Session) (i : ConsumerId) (sent shown : List EventRecord) : Prop where
  decoded : sent.map (fun r => EventRecord.decode r.encode) = shown.map .ok
  /-- The stream is the encodings of what was sent, and of one more record that failed a part at
  most. -/
  stream : ∃ rest, s.streamOf i = sent.flatMap EventRecord.encode ++ rest ∧ rest.length < recordSize
    ∧ (rest = [] ∨ ∃ x ∈ s.handOffsTo i, x.Torn ∧ rest = x.written)
  /-- As long as the connection is in the slot, a write can end after any number of bytes, and
  succeeds if that is all of them. -/
  anyWrite : ∀ r stream n, s.Present i → s.channel.endpoint i = .socket stream →
    stream.readerOpen = true → n ≤ recordSize →
    ∃ room, ((s.step (.consumer i (.resize room))).step (.send r)).streamOf i
        = s.streamOf i ++ r.encode.take n
      ∧ ((s.step (.consumer i (.resize room))).channel.send r).1.isOk = decide (n = recordSize)
  /-- Once the socket was shut down its stream has ended. -/
  ended : (s.channel.endpoint i).isShut = true → ∀ calls, (s.run calls).streamOf i = s.streamOf i
  /-- Whoever reads the stream to its end prints all of them, and that is no error. -/
  whole : ∀ (h : Host) (p : Path), h.receive p = .ok (s.streamOf i) →
    Program.consume h p none = (Program.printLines shown, .ok ())
  /-- Whoever asks for `n` prints the first `n`, and needs no more of the stream than holds them. -/
  counted : ∀ (h : Host) (p : Path) bytes n, h.receive p = .ok bytes → bytes <+: s.streamOf i →
    bytes = s.streamOf i ∨ n * recordSize ≤ bytes.length →
    Program.consume h p (some n) = (Program.printLines (shown.take (min n sent.length)), .ok ())

/-- **End to end.**  Whatever happens in a session, those who read the stream of a socket print
the lines of the records that were sent to it with success, in order, and fail never. -/
theorem printed_run (reporter : Reporter) (calls : List Call) {i : ConsumerId} {capacity : Nat}
    (ht : ((fresh reporter).run calls).transports[i]? = some (.socket capacity)) :
    ∃ shown, ((fresh reporter).run calls).Printed i (sentTo i (fresh reporter) calls) shown := by
  have hconsistent := (Consistent.fresh reporter).run calls
  have hopen : ((fresh reporter).run calls).Open := (Consistent.fresh reporter).open_run nofun calls
  have hsent := (fresh reporter).acceptedBy_run i calls
  rw [show (fresh reporter).acceptedBy i = [] from rfl, List.nil_append] at hsent
  generalize (fresh reporter).run calls = s at *
  generalize sentTo i (fresh reporter) calls = sent at *
  -- the bytes of the account are those of the stream
  obtain ⟨rest, hall, htorn, hrest⟩ := (hconsistent.balanced i _ ht).all_byte rfl
  have hstream : s.streamOf i = sent.flatMap EventRecord.encode ++ rest := by
    rw [← hsent]
    have hbytes := congrArg (List.filterMap Piece.byte?) hall
    rw [List.filterMap_map] at hbytes
    exact hbytes.trans List.filterMap_some
  have hdiv : (s.streamOf i).length / recordSize = sent.length := by
    rw [hstream, List.length_append, EventRecord.length_flatMap_encode, Nat.mul_comm,
      Nat.mul_add_div recordSize_pos, Nat.div_eq_of_lt hrest, Nat.add_zero]
  refine ⟨sent.map EventRecord.onWire, ?_⟩
  constructor
  case decoded => simp [EventRecord.decode_encode]
  case stream => exact ⟨rest, hstream, hrest, htorn⟩
  case anyWrite =>
    intro r stream n hpresent hendpoint hreader hn
    exact hconsistent.anyWrite ht rfl hpresent hendpoint hreader r hn
  case ended => exact hconsistent.streamOf_run_of_isShut hopen ht rfl
  case whole =>
    intro h p hreceive
    have hself : s.streamOf i <+: sent.flatMap EventRecord.encode ++ rest :=
      ⟨[], (List.append_nil _).trans hstream⟩
    rw [Program.consume_of_isPrefix hreceive hrest hself, hdiv, List.take_length]
    rfl
  case counted =>
    intro h p bytes n hreceive hbytes henough
    rw [Program.consume_of_isPrefix hreceive hrest (hstream ▸ hbytes)]
    have htake : (sent.take (bytes.length / recordSize)).take n
        = sent.take (min n sent.length) := by
      rw [List.take_take]
      rcases henough with rfl | hlen
      · rw [hdiv]
      · have hn : n ≤ bytes.length / recordSize := (Nat.le_div_iff_mul_le recordSize_pos).mpr hlen
        rw [Nat.min_eq_left hn, ← List.take_take, List.take_length]
    rw [atMost, ← List.map_take, htake, List.map_take]

/-! ### A record in two -/

/-- A channel whose consumer has a socket with room for a record and a byte, and left these
bytes in it. -/
def narrow (pending : List UInt8) : Channel where
  slot := some ⟨⟨1⟩, 0⟩
  issued := 1
  consumers := [.socket { capacity := recordSize + 1, pending }]

/-- There is room for one record, -/
theorem send_narrow_nil (r : EventRecord) : (narrow []).send r = (.ok (), narrow r.encode) := by
  have hall : r.encode.take (recordSize + 1) = r.encode :=
    List.take_of_length_le (Nat.le_trans (Nat.le_of_eq r.length_encode) (Nat.le_succ _))
  have hslot : (narrow []).slot = some ⟨⟨1⟩, 0⟩ := rfl
  have hdeliver : ((narrow []).endpoint 0).deliver r
      = (.ok (), .socket { capacity := recordSize + 1, pending := r.encode }) := by
    simp [narrow, Channel.endpoint, Endpoint.deliver, Stream.write, r.length_encode, hall,
      Except.mapError]
  rw [Channel.send_of_slot hslot hdeliver]
  rfl

/-- and not for the next one. -/
theorem send_narrow_encode (r r' : EventRecord) :
    ((narrow r.encode).send r').1 = .error (Endpoint.writeFailure (.system .again)) := by
  have hshort : ¬ recordSize ≤ 1 := by decide
  have hslot : (narrow r.encode).slot = some ⟨⟨1⟩, 0⟩ := rfl
  rw [Channel.send_fst_of_slot hslot]
  simp [narrow, Channel.endpoint, Endpoint.deliver, Stream.write, EventRecord.length_encode, hshort,
    Except.mapError]

/-- Two records that are sent to a socket with room for one and a byte. -/
def tearing (r r' : EventRecord) : List Call :=
  [.connect (.socket (recordSize + 1)), .send r, .send r']

/-- The channel when the second record is about to be sent. -/
theorem channel_tearing (reporter : Reporter) (r : EventRecord) :
    (((fresh reporter).step (.connect (.socket (recordSize + 1)))).step (.send r)).channel
      = narrow r.encode :=
  congrArg Prod.snd (send_narrow_nil r)

/-- Only the first of the two records is accepted. -/
theorem sentTo_tearing (reporter : Reporter) (r r' : EventRecord) :
    sentTo 0 (fresh reporter) (tearing r r') = [r] := by
  have hbefore : ((fresh reporter).step (.connect (.socket (recordSize + 1)))).channel
      = narrow [] := rfl
  simp only [tearing, sentTo, sentBy, hbefore, channel_tearing, Monitor.recordOf, send_narrow_nil,
    send_narrow_encode]
  rfl

/-- One byte of the second record follows the first record. -/
theorem streamOf_tearing (reporter : Reporter) (r r' : EventRecord) :
    ((fresh reporter).run (tearing r r')).streamOf 0 = r.encode ++ r'.encode.take 1 := by
  have hconnected := (Consistent.fresh reporter).step (.connect (.socket (recordSize + 1)))
  have hsent := hconnected.step (.send r)
  have hslot := congrArg Channel.slot (channel_tearing reporter r)
  have hfirst : (((fresh reporter).step (.connect (.socket (recordSize + 1)))).step
      (.send r)).streamOf 0
      = r.encode.take (recordSize + 1) :=
    hconnected.streamOf_step_of_recordOf rfl rfl rfl rfl rfl
  have hsecond : ((narrow r.encode).endpoint 0).written r'
      = r'.encode.take (recordSize + 1 - r.encode.length) := rfl
  calc ((fresh reporter).run (tearing r r')).streamOf 0
      = r.encode.take (recordSize + 1) ++ ((narrow r.encode).endpoint 0).written r' := by
        rw [← hfirst, ← channel_tearing reporter r]
        exact hsent.streamOf_step_of_recordOf rfl rfl hslot rfl rfl
    _ = r.encode ++ r'.encode.take 1 := by
        rw [hsecond, r.length_encode, Nat.add_sub_cancel_left,
          List.take_of_length_le (Nat.le_trans (Nat.le_of_eq r.length_encode) (Nat.le_succ _))]

/-- A socket with room for a record and a byte, and somebody who reads it after two records were
sent: the first is printed, and the byte of the second is not. -/
theorem printed_run_torn :
    let s := (fresh default).run (tearing default default)
    s.transports[0]? = some (.socket (recordSize + 1))
      ∧ (∃ shown, s.Printed 0 (sentTo 0 (fresh default) (tearing default default)) shown)
      ∧ s.streamOf 0 = EventRecord.encode default ++ (EventRecord.encode default).take 1
      ∧ Program.consume (.serving (s.streamOf 0)) Host.servingPath none
        = (Program.printLines [EventRecord.onWire default], .ok ()) := by
  have hsocket : ((fresh default).run (tearing default default)).transports[0]?
      = some (.socket (recordSize + 1)) := rfl
  obtain ⟨shown, hprinted⟩ := printed_run default (tearing default default) hsocket
  refine ⟨hsocket, ⟨shown, hprinted⟩, streamOf_tearing .., ?_⟩
  have hshown : shown = [EventRecord.onWire default] := by
    have hdecoded := hprinted.decoded
    rw [sentTo_tearing, List.map_singleton, EventRecord.decode_encode] at hdecoded
    rw [eq_comm, List.map_eq_singleton_iff] at hdecoded
    obtain ⟨r, rfl, hr⟩ := hdecoded
    rw [Except.ok.inj hr]
  rw [hprinted.whole _ _ (Host.receive_serving _), hshown]

end Session

end FileActivity
