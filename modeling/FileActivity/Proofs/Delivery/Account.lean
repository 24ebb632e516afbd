/-
# Accounts

The account of one consumer: its endpoint, what it has got so far, what it lost when it went
away, and the hand-offs that were made to it.  Whatever happens at the endpoint, in any order,
what was handed over is with the consumer, or lost, or still held for it (`Balanced.balance`).
-/
import FileActivity.Proofs.Delivery.HandOff
import FileActivity.Proofs.Record.Streams

namespace FileActivity

/-! ## Records in pieces -/

namespace Piece

/-- A whole record. -/
def record? : Piece → Option EventRecord
  | record r => some r
  | byte _ => none

/-- A byte of a stream. -/
def byte? : Piece → Option UInt8
  | record _ => none
  | byte b => some b

/-- The records that a consumer makes of what it has got: the whole ones, and those that it
reads from the stream. -/
def recordsOf (ps : List Piece) : List EventRecord × Except Error Unit :=
  let (rs, outcome) := readStream none (ps.filterMap byte?)
  (ps.filterMap record? ++ rs, outcome)

/-- Records that stand in a queue are read as they are. -/
theorem recordsOf_map_record (rs : List EventRecord) :
    recordsOf (rs.map record) = (rs, .ok ()) := by
  have hwhole : (rs.map record).filterMap record? = rs := by
    rw [List.filterMap_map]
    exact List.filterMap_some
  have hbytes : (rs.map record).filterMap byte? = [] := by
    rw [List.filterMap_map, List.filterMap_eq_nil_iff]
    exact fun _ _ => rfl
  rw [recordsOf, hbytes, hwhole, readStream_nil]
  simp

/-- Bytes of a stream are read as a stream. -/
theorem recordsOf_map_byte (bytes : List UInt8) :
    recordsOf (bytes.map byte) = readStream none bytes := by
  have hwhole : (bytes.map byte).filterMap record? = [] := by
    rw [List.filterMap_map, List.filterMap_eq_nil_iff]
    exact fun _ _ => rfl
  have hbytes : (bytes.map byte).filterMap byte? = bytes := by
    rw [List.filterMap_map]
    exact List.filterMap_some
  rw [recordsOf, hbytes, hwhole]
  rfl

end Piece

/-! ## Transports -/

/-- How a consumer is connected. -/
inductive Transport where
  /-- A stand-in that answers each record with the next of these outcomes, and then with success. -/
  | script (outcomes : List (Except Error Unit))
  /-- A queue in the same process. -/
  | queue (capacity : Nat)
  /-- A socket that takes so many unread bytes at first. -/
  | socket (capacity : Nat)

namespace Transport

/-- The endpoint of a consumer that has just been connected. -/
def endpoint : Transport → Endpoint
  | script outcomes => .scripted outcomes [] 0
  | queue capacity => .ofCapacity capacity
  | socket capacity => .socket { capacity }

/-- Whether a consumer is connected by a socket. -/
def isSocket : Transport → Bool
  | socket _ => true
  | _ => false

/-- What can become of the endpoint of a transport. -/
def Fits : Transport → Endpoint → Prop
  | script _, .scripted .. => True
  | queue n, .queue capacity queued _ => capacity = max n 1 ∧ queued.length ≤ capacity
  | socket _, .socket _ => True
  | _, _ => False

/-- How the consumer of a transport sees a record. -/
def seen (t : Transport) : EventRecord → EventRecord :=
  if t.isSocket then EventRecord.onWire else id

variable {t : Transport} {e : Endpoint}

/-- A queue shows a record as it was sent. -/
theorem seen_eq_id (h : t.isSocket = false) : t.seen = id := by rw [seen, h]; rfl

/-- A socket shows a record as it comes off the wire. -/
theorem seen_eq_onWire (h : t.isSocket) : t.seen = EventRecord.onWire := by rw [seen, h]; rfl

/-- A new endpoint fits the transport that it was made for. -/
theorem fits_endpoint (t : Transport) : t.Fits t.endpoint := by
  cases t with
  | queue n => exact ⟨rfl, Nat.zero_le _⟩
  | _ => trivial

/-- Shutting an endpoint down keeps its kind, and what it may hold. -/
theorem Fits.shutDown (h : t.Fits e) : t.Fits e.shutDown := by
  cases t <;> cases e <;> exact h

/-- Handing a record over keeps an endpoint's kind, and what it may hold. -/
theorem Fits.deliver (h : t.Fits e) (r : EventRecord) : t.Fits (e.deliver r).2 := by
  rcases e.deliver_cases r with ⟨-, he⟩ | ⟨_, _, _, _, rfl, he⟩ | ⟨_, _, rfl, hroom, he⟩
    | ⟨_, rfl, he⟩ <;>
    rw [he]
  case inl => exact h
  case inr.inr.inl =>
    cases t with
    | queue n => exact ⟨h.1, by rwa [List.length_append]⟩
    | _ => exact h.elim
  all_goals
    cases t <;> exact h

/-- What a consumer does keeps the kind of its endpoint, and what that may hold. -/
theorem Fits.react (h : t.Fits e) (act : ConsumerAct) : t.Fits (e.react act) := by
  cases t <;> cases e <;> try exact h.elim
  case script.scripted => cases act <;> trivial
  case queue.queue n capacity queued receiverOpen =>
    obtain ⟨hcapacity, hlen⟩ := h
    cases act with
    | read count => exact ⟨hcapacity, Nat.le_trans (List.length_drop ▸ Nat.sub_le ..) hlen⟩
    | leave => exact ⟨hcapacity, Nat.zero_le _⟩
    | resize => exact ⟨hcapacity, hlen⟩
  case socket.socket => cases act <;> trivial

/-- An endpoint is a socket exactly if the transport is one. -/
theorem Fits.isSocket_eq (h : t.Fits e) : e.isSocket = t.isSocket := by
  cases t <;> cases e <;> first | rfl | exact h.elim

/-- **A hand-off adds to what is held what it leaves with the consumer.** -/
theorem Fits.held_deliver (h : t.Fits e) (c : Connection) (r : EventRecord) :
    (e.deliver r).2.held
      = e.held ++ HandOff.pieces t.isSocket ⟨c, r, (e.deliver r).1, e.written r⟩ := by
  cases t <;> cases e <;> try exact h.elim
  case script.scripted outcomes taken _ =>
    rcases outcomes with _ | ⟨outcome, rest⟩
    · simp [Endpoint.deliver, Endpoint.held, HandOff.pieces, HandOff.accepted, isSocket]
    · cases outcome <;>
        simp [Endpoint.deliver, Endpoint.held, HandOff.pieces, HandOff.accepted, isSocket]
  case queue.queue n capacity queued receiverOpen =>
    -- a receiver that was dropped is noticed before the queue is
    cases receiverOpen with
    | false => simp [Endpoint.deliver, Endpoint.held, HandOff.pieces, HandOff.accepted, isSocket]
    | true =>
      by_cases hroom : queued.length < capacity <;>
        simp [Endpoint.deliver, hroom, Endpoint.held, HandOff.pieces, HandOff.accepted, isSocket]
  case socket.socket stream =>
    have hpending := (Endpoint.socket stream).pending_deliver r
    have hheld := congrArg (List.map Piece.byte) hpending
    rw [List.map_append] at hheld
    exact hheld

end Transport

/-! ## Accounts -/

/-- Whether an outcome is a failure beyond repair. -/
def isFatal : Except Error Unit → Bool
  | .error e => e.isFatal
  | .ok () => false

/-- What has happened at the endpoint of a consumer. -/
structure Account where
  endpoint : Endpoint
  /-- What the consumer has got. -/
  received : List Piece := []
  /-- What the consumer left unread when it went away. -/
  lost : List Piece := []
  /-- The hand-offs that were made to the consumer. -/
  log : List HandOff := []

namespace Account

/-- The endpoint is shut down. -/
def shutDown (a : Account) : Account := { a with endpoint := a.endpoint.shutDown }

/-- Something happens at the consumer's end. -/
def react (a : Account) (act : ConsumerAct) : Account where
  endpoint := a.endpoint.react act
  received := a.received ++ a.endpoint.given act
  lost := a.lost ++ a.endpoint.lost act
  log := a.log

/-- A record is handed over. -/
def deliver (a : Account) (c : Connection) (r : EventRecord) : Account :=
  { a with
    endpoint := (a.endpoint.deliver r).2
    log := a.log ++ [⟨c, r, (a.endpoint.deliver r).1, a.endpoint.written r⟩] }

/-- The records that were taken, in order. -/
def accepted (a : Account) : List EventRecord := a.log.filterMap HandOff.accepted

/-- What is true of an account at any time; `present` says whether the connection is in the slot. -/
structure Balanced (t : Transport) (present : Prop) (a : Account) : Prop where
  fits : t.Fits a.endpoint
  /-- What was handed over is with the consumer, or lost, or still held for it. -/
  balance : a.received ++ a.lost ++ a.endpoint.held = a.log.flatMap (HandOff.pieces t.isSocket)
  abandoned : a.lost ≠ [] → a.endpoint.Abandoned
  sound : t.isSocket → ∀ x ∈ a.log, x.Sound
  /-- Nothing is written to a socket after a part of a record. -/
  last : t.isSocket → a.log.Pairwise fun x y => x.Torn → y.written = []
  not_torn_of_present : t.isSocket → present → ∀ x ∈ a.log, ¬ x.Torn

variable {t : Transport} {present present' : Prop} {a : Account}

/-- The account of a consumer that has just come is balanced. -/
theorem balanced_endpoint (t : Transport) (present : Prop) :
    Balanced t present { endpoint := t.endpoint } where
  fits := t.fits_endpoint
  balance := by cases t <;> rfl
  abandoned := fun h => absurd rfl h
  sound := fun _ => nofun
  last := fun _ => List.Pairwise.nil
  not_torn_of_present := fun _ _ => nofun

namespace Balanced

/-- The account of a consumer stays balanced when it leaves the slot. -/
theorem mono (h : a.Balanced t present) (hpresent : present' → present) : a.Balanced t present' :=
  { h with not_torn_of_present := fun hsocket hp => h.not_torn_of_present hsocket (hpresent hp) }

/-- Shutting a consumer down keeps its account balanced. -/
theorem shutDown (h : a.Balanced t present) : a.shutDown.Balanced t present :=
  { h with
    fits := h.fits.shutDown
    balance := by rw [Account.shutDown, Endpoint.held_shutDown]; exact h.balance
    abandoned := fun hlost => (h.abandoned hlost).shutDown }

/-- Whatever a consumer does at its end, its account stays balanced. -/
theorem react (h : a.Balanced t present) (act : ConsumerAct) :
    (a.react act).Balanced t present := by
  refine { h with fits := h.fits.react act, balance := ?_, abandoned := fun hlost => ?_ }
  · -- who has lost something gets nothing any more
    have hcomm : a.lost ++ a.endpoint.given act = a.endpoint.given act ++ a.lost := by
      by_cases hlost : a.lost = []
      · rw [hlost, List.nil_append, List.append_nil]
      · rw [(h.abandoned hlost).given_eq_nil, List.nil_append, List.append_nil]
    calc (a.received ++ a.endpoint.given act) ++ (a.lost ++ a.endpoint.lost act)
          ++ (a.endpoint.react act).held
        = a.received ++ (a.endpoint.given act ++ a.lost)
          ++ (a.endpoint.lost act ++ (a.endpoint.react act).held) := by
          simp only [List.append_assoc]
      _ = a.received ++ a.lost
          ++ (a.endpoint.given act ++ a.endpoint.lost act ++ (a.endpoint.react act).held) := by
          rw [← hcomm]
          simp only [List.append_assoc]
      _ = a.log.flatMap (HandOff.pieces t.isSocket) := by
          rw [← a.endpoint.held_react act, h.balance]
  · by_cases hbefore : a.lost = []
    · refine Endpoint.abandoned_of_lost fun hnow => hlost ?_
      rw [Account.react, hbefore, hnow]
      rfl
    · exact (h.abandoned hbefore).react act

/-- A record is handed only to a connection in the slot, and a failure beyond repair takes it
out. -/
theorem deliver (h : a.Balanced t present) (hpresent : present) (c : Connection) (r : EventRecord)
    (hfatal : present' → isFatal (a.endpoint.deliver r).1 = false) :
    (a.deliver c r).Balanced t present' := by
  have hsound : t.isSocket → HandOff.Sound ⟨c, r, (a.endpoint.deliver r).1,
      a.endpoint.written r⟩ := by
    intro hsocket
    have hdeliver : a.endpoint.deliver r = ((a.endpoint.deliver r).1, (a.endpoint.deliver r).2) :=
      rfl
    exact HandOff.sound_of_deliver (h.fits.isSocket_eq ▸ hsocket) hdeliver
  constructor
  case fits => exact h.fits.deliver r
  case balance =>
    rw [Account.deliver, List.flatMap_append, List.flatMap_singleton, ← h.balance,
      h.fits.held_deliver c r]
    simp only [List.append_assoc]
  case abandoned => exact fun hlost => (h.abandoned hlost).deliver r
  case sound =>
    intro hsocket x hx
    rcases List.mem_append.mp hx with hx | hx
    · exact h.sound hsocket x hx
    · exact List.mem_singleton.mp hx ▸ hsound hsocket
  case last =>
    intro hsocket
    refine List.pairwise_append.mpr ⟨h.last hsocket, List.pairwise_singleton _ _, ?_⟩
    intro x hx y _ htorn
    exact absurd htorn (h.not_torn_of_present hsocket hpresent x hx)
  case not_torn_of_present =>
    intro hsocket hp x hx htorn
    rcases List.mem_append.mp hx with hx | hx
    · exact h.not_torn_of_present hsocket hpresent x hx htorn
    · -- this hand-off was torn, so it failed beyond repair
      rw [List.mem_singleton.mp hx] at htorn
      obtain ⟨e, he, hfatale⟩ := (hsound hsocket).isFatal_of_torn htorn
      have hnot := hfatal hp
      rw [show (a.endpoint.deliver r).1 = .error e from he, isFatal, hfatale] at hnot
      exact nomatch hnot

/-! ## What the consumer makes of it -/

/-- Beside a queue the accepted records are with the consumer, or lost, or still in the queue.
-/
theorem all_record (h : a.Balanced t present) (hsocket : t.isSocket = false) :
    a.received ++ a.lost ++ a.endpoint.held = a.accepted.map .record := by
  rw [h.balance, hsocket, HandOff.flatMap_pieces_record, accepted]

/-- Beside a socket it is their encodings, and behind them at most a part of one more record. -/
theorem all_byte (h : a.Balanced t present) (hsocket : t.isSocket) :
    ∃ rest, a.received ++ a.lost ++ a.endpoint.held
        = (a.accepted.flatMap EventRecord.encode ++ rest).map .byte
      ∧ (rest = [] ∨ ∃ x ∈ a.log, x.Torn ∧ rest = x.written) ∧ rest.length < recordSize := by
  obtain ⟨rest, hstream, hrest⟩ := HandOff.flatMap_written (h.sound hsocket) (h.last hsocket)
  refine ⟨rest, ?_, hrest, ?_⟩
  · rw [h.balance, hsocket, HandOff.flatMap_pieces_socket, hstream, accepted]
  · rcases hrest with rfl | ⟨x, hx, htorn, rfl⟩
    · exact recordSize_pos
    · exact (h.sound hsocket x hx).length_lt htorn.2

/-- **Everything that was handed over and taken is with the consumer, or lost, or held for it**,
in the order in which it was handed over, each record once, and nothing else is. -/
theorem recordsOf_all (h : a.Balanced t present) :
    Piece.recordsOf (a.received ++ a.lost ++ a.endpoint.held)
      = (a.accepted.map t.seen, .ok ()) := by
  cases hsocket : t.isSocket with
  | false =>
    rw [h.all_record hsocket, Piece.recordsOf_map_record, Transport.seen_eq_id hsocket, List.map_id]
  | true =>
    obtain ⟨rest, hall, -, hrest⟩ := h.all_byte hsocket
    rw [hall, Piece.recordsOf_map_byte, readStream_flatMap_encode _ hrest,
      Transport.seen_eq_onWire hsocket, atMost_none]

/-- What the consumer has got so far is the beginning of that. -/
theorem recordsOf_received (h : a.Balanced t present) :
    ∃ n, Piece.recordsOf a.received = ((a.accepted.take n).map t.seen, .ok ()) := by
  cases hsocket : t.isSocket with
  | false =>
    have hall := h.all_record hsocket
    rw [List.append_assoc, eq_comm, List.map_eq_append_iff] at hall
    obtain ⟨got, others, haccepted, hgot, -⟩ := hall
    refine ⟨got.length, ?_⟩
    rw [← hgot, Piece.recordsOf_map_record, haccepted, List.take_left, Transport.seen_eq_id hsocket,
      List.map_id]
  | true =>
    obtain ⟨rest, hall, -, hrest⟩ := h.all_byte hsocket
    rw [List.append_assoc, eq_comm, List.map_eq_append_iff] at hall
    obtain ⟨got, others, hbytes, hgot, -⟩ := hall
    -- the consumer may have stopped in the middle of a record
    have hbeginning : got <+: a.accepted.flatMap EventRecord.encode ++ rest := ⟨others, hbytes.symm⟩
    refine ⟨got.length / recordSize, ?_⟩
    rw [← hgot, Piece.recordsOf_map_byte, readStream_of_isPrefix hrest hbeginning,
      Transport.seen_eq_onWire hsocket, atMost_none]

end Balanced

end Account

end FileActivity
