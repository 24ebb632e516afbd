/-
# Consumers

What a consumer does at its own end of an endpoint, and what a hand-off puts on a socket.  A
consumer reads as much as it likes whenever it likes, and goes away when it likes; how much fits
into its socket is up to the system.
-/
import FileActivity.Delivery.Channel
import Mathlib.Data.List.GetD

namespace FileActivity

/-! ## Sockets -/

namespace Stream

/-- The bytes of a write that go out: as many as fit, and none to a reader that is gone. -/
def accepts (s : Stream) (bytes : List UInt8) : List UInt8 :=
  if s.readerOpen then bytes.take (s.capacity - s.pending.length) else []

/-- What a stream accepts of a text is its beginning. -/
theorem accepts_isPrefix (s : Stream) (bytes : List UInt8) : s.accepts bytes <+: bytes := by
  unfold accepts
  split
  · exact List.take_prefix _ _
  · exact List.nil_prefix

/-- A write appends the bytes that go out, and changes nothing else. -/
theorem write_snd (s : Stream) (bytes : List UInt8) :
    (s.write bytes).2 = { s with pending := s.pending ++ s.accepts bytes } := by
  unfold write accepts
  by_cases hopen : s.readerOpen = true
  · simp only [hopen, Bool.not_true, Bool.false_eq_true, if_false, if_true]
    split <;> rfl
  · rw [if_pos (by simpa using hopen), if_neg hopen, List.append_nil]

/-- A write that succeeds puts everything out. -/
theorem accepts_of_write_ok {s : Stream} {bytes : List UInt8} (h : (s.write bytes).1 = .ok ()) :
    s.accepts bytes = bytes := by
  unfold write at h
  unfold accepts
  cases hopen : s.readerOpen with
  | false => simp [hopen] at h
  | true =>
    simp only [hopen, Bool.not_true, Bool.false_eq_true, if_false, if_true] at h ⊢
    split at h
    · exact List.take_of_length_le ‹_›
    · exact nomatch h

/-- A write that fails does not put everything out. -/
theorem length_accepts_of_write_error {s : Stream} {bytes : List UInt8} {e : IoError}
    (h : (s.write bytes).1 = .error e) (hbytes : bytes ≠ []) :
    (s.accepts bytes).length < bytes.length := by
  have hpos : 0 < bytes.length := List.length_pos_iff.mpr hbytes
  unfold write at h
  unfold accepts
  cases hopen : s.readerOpen with
  | false => simpa using hpos
  | true =>
    simp only [hopen, Bool.not_true, Bool.false_eq_true, if_false, if_true] at h ⊢
    split at h
    · exact nomatch h
    · rw [List.length_take]
      omega

end Stream

/-! ## What a hand-off writes -/

namespace Endpoint

/-- Whether an endpoint is a socket. -/
def isSocket : Endpoint → Bool
  | socket _ => true
  | _ => false

/-- The bytes that handing a record over puts on a socket; to anything else none. -/
def written (e : Endpoint) (r : EventRecord) : List UInt8 :=
  match e with
  | socket stream => stream.accepts r.encode
  | _ => []

/-- The bytes that are on their way through a socket. -/
def pending : Endpoint → List UInt8
  | socket stream => stream.pending
  | _ => []

/-- **What a hand-off leaves of an endpoint.**  Nothing changes, or a stand-in has its next
outcome ready, or one more record is queued, or some more bytes are on their way. -/
theorem deliver_cases (e : Endpoint) (r : EventRecord) :
    (e.isSocket = false ∧ (e.deliver r).2 = e)
    ∨ (∃ outcomes taken taken' shutdowns, e = scripted outcomes taken shutdowns
      ∧ (e.deliver r).2 = scripted outcomes.tail taken' shutdowns)
    ∨ (∃ capacity queued, e = queue capacity queued true ∧ queued.length < capacity
      ∧ (e.deliver r).2 = queue capacity (queued ++ [r]) true)
    ∨ ∃ stream, e = socket stream
      ∧ (e.deliver r).2
        = socket { stream with pending := stream.pending ++ stream.accepts r.encode } := by
  cases e with
  | plain => exact Or.inl ⟨rfl, rfl⟩
  | scripted outcomes taken shutdowns =>
    refine Or.inr (Or.inl ?_)
    rcases outcomes with _ | ⟨outcome, rest⟩
    · exact ⟨_, _, _, _, rfl, rfl⟩
    · cases outcome <;> exact ⟨_, _, _, _, rfl, rfl⟩
  | queue capacity queued receiverOpen =>
    cases receiverOpen with
    | false => exact Or.inl ⟨rfl, rfl⟩
    | true =>
      by_cases hroom : queued.length < capacity
      · exact Or.inr (Or.inr (Or.inl ⟨_, _, rfl, hroom, by simp [deliver, hroom]⟩))
      · exact Or.inl ⟨rfl, by simp [deliver, hroom]⟩
  | socket stream =>
    exact Or.inr (Or.inr (Or.inr ⟨stream, rfl, congrArg socket (stream.write_snd r.encode)⟩))

@[simp] theorem isSocket_deliver (e : Endpoint) (r : EventRecord) :
    (e.deliver r).2.isSocket = e.isSocket := by
  rcases e.deliver_cases r with ⟨-, h⟩ | ⟨_, _, _, _, rfl, h⟩ | ⟨_, _, rfl, -, h⟩ | ⟨_, rfl, h⟩ <;>
    rw [h] <;> rfl

/-- A hand-off appends to what is on its way. -/
theorem pending_deliver (e : Endpoint) (r : EventRecord) :
    (e.deliver r).2.pending = e.pending ++ e.written r := by
  rcases e.deliver_cases r with ⟨hsocket, h⟩ | ⟨_, _, _, _, rfl, h⟩ | ⟨_, _, rfl, -, h⟩
    | ⟨_, rfl, h⟩
  · rw [h]
    cases e with
    | socket => cases hsocket
    | _ => rfl
  all_goals
    rw [h]
    rfl

@[simp] theorem isSocket_shutDown (e : Endpoint) : e.shutDown.isSocket = e.isSocket := by
  cases e <;> rfl

end Endpoint

/-! ## What a consumer does -/

/-- What can happen at the consumer's end. -/
inductive ConsumerAct where
  /-- The consumer takes so many records from a queue, or so many bytes from a socket. -/
  | read (count : Nat)
  /-- The consumer goes away. -/
  | leave
  /-- So many unread bytes fit into the socket from now on. -/
  | resize (capacity : Nat)
  deriving DecidableEq, Repr

namespace Endpoint

/-- An endpoint after something happened at the consumer's end. -/
def react : Endpoint → ConsumerAct → Endpoint
  | queue capacity queued receiverOpen, .read count =>
    queue capacity (queued.drop count) receiverOpen
  | socket stream, .read count => socket { stream with pending := stream.pending.drop count }
  | scripted outcomes _ shutdowns, .read _ => scripted outcomes [] shutdowns
  | socket stream, .resize capacity => socket { stream with capacity }
  | e, .leave => e.drop
  | e, _ => e

@[simp] theorem isSocket_react (e : Endpoint) (act : ConsumerAct) :
    (e.react act).isSocket = e.isSocket := by
  cases e <;> cases act <;> rfl

end Endpoint

/-! ## How often an endpoint was shut down -/

namespace Endpoint

/-- A later form of an endpoint that was shut down so many times in between: a stand-in has
counted that, a socket is shut from the first time on, and the others do not notice. -/
def ShutTimes (times : Nat) : Endpoint → Endpoint → Prop
  | scripted _ _ before, scripted _ _ after => after = before + times
  | socket before, socket after => after.shut = (before.shut || decide (0 < times))
  | plain, plain | queue .., queue .. => True
  | _, _ => False

theorem ShutTimes.refl (e : Endpoint) : ShutTimes 0 e e := by
  cases e <;> simp [ShutTimes]

/-- Shutting down adds up. -/
theorem ShutTimes.trans {m n : Nat} {e e' e'' : Endpoint} (h : ShutTimes m e e')
    (h' : ShutTimes n e' e'') : ShutTimes (m + n) e e'' := by
  -- all three are of one kind
  cases e with
  | scripted =>
    cases e' with
    | scripted =>
      cases e'' with
      | scripted => exact Eq.trans h' (Eq.trans (congrArg (· + n) h) (Nat.add_assoc ..))
      | _ => exact h'.elim
    | _ => exact h.elim
  | socket =>
    cases e' with
    | socket =>
      cases e'' with
      | socket =>
        have hpos : decide (0 < m + n) = (decide (0 < m) || decide (0 < n)) := by
          rw [← Bool.decide_or]
          exact decide_eq_decide.mpr Nat.add_pos_iff_pos_or_pos
        simp only [ShutTimes] at h h' ⊢
        rw [h', h, hpos, Bool.or_assoc]
      | _ => exact h'.elim
    | _ => exact h.elim
  | _ => cases e' <;> cases e'' <;> trivial

/-- Shutting an endpoint down once is shutting it down once. -/
theorem shutTimes_shutDown (e : Endpoint) : ShutTimes 1 e e.shutDown := by
  cases e <;> simp [ShutTimes, shutDown]

/-- Handing something over shuts nothing down, -/
theorem shutTimes_deliver (e : Endpoint) (r : EventRecord) : ShutTimes 0 e (e.deliver r).2 := by
  rcases e.deliver_cases r with ⟨-, h⟩ | ⟨_, _, _, _, rfl, h⟩ | ⟨_, _, rfl, -, h⟩ | ⟨_, rfl, h⟩
    <;> rw [h]
  · exact .refl e
  all_goals simp [ShutTimes]

/-- and neither does anything that a consumer does. -/
theorem shutTimes_react (e : Endpoint) (act : ConsumerAct) : ShutTimes 0 e (e.react act) := by
  cases e <;> cases act <;> simp [ShutTimes, react, drop]

end Endpoint

/-! ## What a consumer gets -/

/-- What reaches a consumer: whole records from a queue or a stand-in, bytes from a socket. -/
inductive Piece where
  | record (r : EventRecord)
  | byte (b : UInt8)

namespace Endpoint

/-- What an endpoint holds for its consumer. -/
def held : Endpoint → List Piece
  | plain => []
  | scripted _ taken _ => taken.reverse.map .record
  | queue _ queued _ => queued.map .record
  | socket stream => stream.pending.map .byte

/-- What the consumer gets by what it does. -/
def given : Endpoint → ConsumerAct → List Piece
  | scripted outcomes taken shutdowns, .read _ => (scripted outcomes taken shutdowns).held
  | e, .read count => e.held.take count
  | _, _ => []

/-- What is lost by what the consumer does: if it goes away, everything that it left unread. -/
def lost : Endpoint → ConsumerAct → List Piece
  | queue capacity queued receiverOpen, .leave => (queue capacity queued receiverOpen).held
  | socket stream, .leave => (socket stream).held
  | _, _ => []

/-- The consumer has gone away, and nothing reaches it any more. -/
def Abandoned : Endpoint → Prop
  | queue _ queued receiverOpen => queued = [] ∧ receiverOpen = false
  | socket stream => stream.pending = [] ∧ stream.readerOpen = false
  | _ => False

@[simp] theorem held_shutDown (e : Endpoint) : e.shutDown.held = e.held := by
  cases e <;> rfl

/-- **What an endpoint held is with the consumer, or lost, or still held.** -/
theorem held_react (e : Endpoint) (act : ConsumerAct) :
    e.held = e.given act ++ e.lost act ++ (e.react act).held := by
  cases e <;> cases act <;> simp [held, given, lost, react, drop]

/-- Who has gone away has nothing held for it. -/
theorem Abandoned.held_eq_nil {e : Endpoint} (h : e.Abandoned) : e.held = [] := by
  cases e with
  | queue => exact congrArg (List.map Piece.record) h.1
  | socket => exact congrArg (List.map Piece.byte) h.1
  | _ => exact h.elim

/-- Who has gone away is given nothing more. -/
theorem Abandoned.given_eq_nil {e : Endpoint} (h : e.Abandoned) (act : ConsumerAct) :
    e.given act = [] := by
  have hall := e.held_react act
  rw [h.held_eq_nil, eq_comm, List.append_eq_nil_iff, List.append_eq_nil_iff] at hall
  exact hall.1.1

/-- Who has gone away stays so when it is shut down. -/
theorem Abandoned.shutDown {e : Endpoint} (h : e.Abandoned) : e.shutDown.Abandoned := by
  cases e <;> exact h

/-- Who has gone away stays so when a record is handed to it. -/
theorem Abandoned.deliver {e : Endpoint} (h : e.Abandoned) (r : EventRecord) :
    (e.deliver r).2.Abandoned := by
  cases e with
  | queue capacity queued receiverOpen =>
    obtain ⟨rfl, rfl⟩ := h
    exact ⟨rfl, rfl⟩
  | socket stream =>
    have hsame : (stream.write r.encode).2 = stream := by simp [Stream.write, h.2]
    show (stream.write r.encode).2.pending = [] ∧ (stream.write r.encode).2.readerOpen = false
    rw [hsame]
    exact h
  | _ => exact h.elim

/-- Who has gone away does not come back. -/
theorem Abandoned.react {e : Endpoint} (h : e.Abandoned) (act : ConsumerAct) :
    (e.react act).Abandoned := by
  cases e with
  | queue capacity queued receiverOpen =>
    obtain ⟨rfl, rfl⟩ := h
    cases act <;> exact ⟨by simp, rfl⟩
  | socket stream =>
    obtain ⟨hpending, hopen⟩ := h
    cases act with
    | read count => exact ⟨by rw [hpending]; exact List.drop_nil, hopen⟩
    | leave => exact ⟨rfl, rfl⟩
    | resize capacity => exact ⟨hpending, hopen⟩
  | _ => exact h.elim

/-- Only who goes away loses anything. -/
theorem abandoned_of_lost {e : Endpoint} {act : ConsumerAct} (h : e.lost act ≠ []) :
    (e.react act).Abandoned := by
  cases e <;> cases act <;> first | exact ⟨rfl, rfl⟩ | exact absurd rfl h

end Endpoint

/-! ## The slot and the consumers of a channel -/

namespace Channel

/-- A cookie that is the current one lets go of its connection. -/
theorem vacateIf_of_connected {c : Channel} {cookie : Cookie} (h : c.connected = some cookie) :
    c.vacateIf cookie = c.vacate := by
  obtain ⟨connection, hslot, hcookie⟩ := Option.map_eq_some_iff.mp h
  simp [vacateIf, hslot, hcookie]

/-- Any other cookie lets go of nothing. -/
theorem vacateIf_of_not_connected {c : Channel} {cookie : Cookie} (h : c.connected ≠ some cookie) :
    c.vacateIf cookie = (none, c) := by
  unfold vacateIf
  cases hslot : c.slot with
  | none => rfl
  | some connection =>
    have hcookie : connection.cookie ≠ cookie := fun hc => h (by simp [connected, hslot, hc])
    simp [hcookie]

/-- Releasing the current cookie lets go of its connection, and any other cookie of nothing. -/
theorem release_snd (c : Channel) (cookie : Cookie) : (c.release cookie).2
    = if c.connected = some cookie then shutDown? { c with slot := none } c.slot else c := by
  by_cases h : c.connected = some cookie
  · rw [if_pos h, release, vacateIf_of_connected h]
    rfl
  · rw [if_neg h, release, vacateIf_of_not_connected h]
    rfl

/-- Sending to nobody fails and changes nothing. -/
theorem send_of_slot_eq_none {c : Channel} (h : c.slot = none) (r : EventRecord) :
    c.send r = (.error .channelDisconnected, c) := by
  simp [send, handOff, h]

/-- Sending to the connection in the slot is handing the record over, and releasing the
connection if that fails beyond repair. -/
theorem send_of_slot {c : Channel} {connection : Connection} (h : c.slot = some connection)
    {r : EventRecord} {outcome : Except Error Unit} {e : Endpoint}
    (hdeliver : (c.endpoint connection.consumer).deliver r = (outcome, e)) :
    c.send r = (outcome,
      (c.setEndpoint connection.consumer e).releaseIfFatal connection.cookie outcome) := by
  simp [send, handOff, h, hdeliver]

/-- Sending to the connection in the slot answers as the hand-off does. -/
theorem send_fst_of_slot {c : Channel} {connection : Connection} (h : c.slot = some connection)
    (r : EventRecord) : (c.send r).1 = ((c.endpoint connection.consumer).deliver r).1 :=
  congrArg Prod.fst (send_of_slot h rfl)

@[simp] theorem length_consumers_setEndpoint (c : Channel) (i : ConsumerId) (e : Endpoint) :
    (c.setEndpoint i e).consumers.length = c.consumers.length := List.length_set

/-- Whoever has not come stands for nobody. -/
theorem endpoint_of_length_le {c : Channel} {i : ConsumerId} (h : c.consumers.length ≤ i) :
    c.endpoint i = .plain := List.getD_eq_default _ _ h

/-- A changed endpoint is the one that it was changed to. -/
theorem endpoint_setEndpoint_self {c : Channel} {i : ConsumerId} (hi : i < c.consumers.length)
    (e : Endpoint) : (c.setEndpoint i e).endpoint i = e := by
  rw [endpoint, setEndpoint, List.getD_eq_getElem?_getD, List.getElem?_set_self hi]
  rfl

/-- What changes nothing about nobody can be applied to any consumer. -/
theorem endpoint_setEndpoint_map {f : Endpoint → Endpoint} (hf : f .plain = .plain) (c : Channel)
    (i : ConsumerId) : (c.setEndpoint i (f (c.endpoint i))).endpoint i = f (c.endpoint i) := by
  by_cases hi : i < c.consumers.length
  · exact endpoint_setEndpoint_self hi _
  · -- nobody has come, and nobody is there afterwards
    have hlen := Nat.not_lt.mp hi
    rw [endpoint_of_length_le hlen, hf]
    exact endpoint_of_length_le (by rwa [length_consumers_setEndpoint])

/-- Changing an endpoint changes no other. -/
theorem endpoint_setEndpoint_of_ne {c : Channel} {i j : ConsumerId} (h : i ≠ j) (e : Endpoint) :
    (c.setEndpoint i e).endpoint j = c.endpoint j := by
  rw [endpoint, setEndpoint, List.getD_eq_getElem?_getD, List.getElem?_set_ne h]
  exact List.getD_eq_getElem?_getD.symm

/-- A change of one endpoint is a change of this one, or does not touch it. -/
theorem endpoint_setEndpoint_cases {f : Endpoint → Endpoint} (hf : f .plain = .plain) (c : Channel)
    (j i : ConsumerId) :
    j = i ∧ (c.setEndpoint j (f (c.endpoint j))).endpoint i = f (c.endpoint i)
    ∨ j ≠ i ∧ (c.setEndpoint j (f (c.endpoint j))).endpoint i = c.endpoint i := by
  by_cases hj : j = i
  · subst hj
    exact Or.inl ⟨rfl, endpoint_setEndpoint_map hf _ _⟩
  · exact Or.inr ⟨hj, endpoint_setEndpoint_of_ne hj _⟩

/-- Whoever was there before a consumer came keeps the endpoint. -/
theorem endpoint_addConsumer_of_lt {c : Channel} {i : ConsumerId} (hi : i < c.consumers.length)
    (e : Endpoint) : (c.addConsumer e).2.endpoint i = c.endpoint i := by
  rw [endpoint, addConsumer, List.getD_eq_getElem?_getD, List.getElem?_append_left hi]
  exact List.getD_eq_getElem?_getD.symm

@[simp] theorem endpoint_addConsumer_self (c : Channel) (e : Endpoint) :
    (c.addConsumer e).2.endpoint c.consumers.length = e := by
  rw [endpoint, addConsumer, List.getD_eq_getElem?_getD, List.getElem?_concat_length]
  rfl

/-- Shutting a connection down touches its own consumer and no other. -/
theorem endpoint_shutDown? (c : Channel) (previous : Option Connection) (i : ConsumerId) :
    (c.shutDown? previous).endpoint i = c.endpoint i
      ∨ (c.shutDown? previous).endpoint i = (c.endpoint i).shutDown := by
  cases previous with
  | none => exact Or.inl rfl
  | some connection =>
    by_cases hi : connection.consumer = i
    · subst hi
      exact Or.inr (endpoint_setEndpoint_map rfl _ _)
    · exact Or.inl (endpoint_setEndpoint_of_ne hi _)

@[simp] theorem length_consumers_shutDown? (c : Channel) (previous : Option Connection) :
    (c.shutDown? previous).consumers.length = c.consumers.length := by
  cases previous with
  | none => rfl
  | some connection => exact length_consumers_setEndpoint ..

/-- Connecting is letting a consumer come, putting its connection into the slot, and shutting
down the one that was there. -/
theorem connect_snd (c : Channel) (e : Endpoint) :
    (c.connect e).2
      = (((c.addConsumer e).2.allocate.2.install ⟨⟨c.issued + 1⟩, c.consumers.length⟩).2).shutDown?
        c.slot := rfl

@[simp] theorem slot_connect (c : Channel) (e : Endpoint) :
    (c.connect e).2.slot = some ⟨⟨c.issued + 1⟩, c.consumers.length⟩ := by
  rw [connect_snd, slot_shutDown?]
  rfl

@[simp] theorem length_consumers_connect (c : Channel) (e : Endpoint) :
    (c.connect e).2.consumers.length = c.consumers.length + 1 := by
  rw [connect_snd, length_consumers_shutDown?]
  exact List.length_append

/-- Whoever came before keeps the endpoint, at most shut down. -/
theorem endpoint_connect_of_lt {c : Channel} {i : ConsumerId} (hi : i < c.consumers.length)
    (e : Endpoint) : (c.connect e).2.endpoint i = c.endpoint i
      ∨ (c.connect e).2.endpoint i = (c.endpoint i).shutDown := by
  rw [← endpoint_addConsumer_of_lt hi e]
  exact endpoint_shutDown? ((c.addConsumer e).2.allocate.2.install _).2 c.slot i

/-- A consumer that comes has its own endpoint, at most shut down. -/
theorem endpoint_connect_self (c : Channel) (e : Endpoint) :
    (c.connect e).2.endpoint c.consumers.length = e
      ∨ (c.connect e).2.endpoint c.consumers.length = e.shutDown := by
  have hcame := endpoint_shutDown? ((c.addConsumer e).2.allocate.2.install
    ⟨⟨c.issued + 1⟩, c.consumers.length⟩).2 c.slot c.consumers.length
  rw [← connect_snd] at hcame
  have hself : ((c.addConsumer e).2.allocate.2.install
      ⟨⟨c.issued + 1⟩, c.consumers.length⟩).2.endpoint c.consumers.length = e :=
    endpoint_addConsumer_self c e
  rwa [hself] at hcame

end Channel

end FileActivity
