/-
# Sessions

Consumers come and go and read, and callers send records and have operations observed, in any
order.  A session keeps, beside the monitor itself, how each consumer was connected, every
attempt to send a record, and what each consumer has got and lost so far; none of it has any
influence on the monitor.

The invariant of a session is that every consumer's account is balanced, and that only the
consumer whose connection is in the slot is handed anything (`Consistent.run`).
-/
import FileActivity.Monitor
import FileActivity.Proofs.Delivery.Account

namespace FileActivity

/-! ## Attempts to send -/

/-- One attempt to send a record, and the hand-off that it led to, if anybody was in the slot. -/
structure Attempt where
  record : EventRecord
  handOff : Option HandOff

namespace Attempt

/-- How an attempt ends. -/
def outcome (x : Attempt) : Except Error Unit :=
  match x.handOff with
  | some handOff => handOff.outcome
  | none => .error .channelDisconnected

/-- The hand-off to a consumer that an attempt led to. -/
def handOffTo (i : ConsumerId) (x : Attempt) : Option HandOff :=
  x.handOff.filter fun handOff => handOff.connection.consumer = i

end Attempt

namespace Channel

variable {c : Channel} {connection : Connection} {r : EventRecord}

/-- The attempt that sending a record is. -/
def attempt (c : Channel) (r : EventRecord) : Attempt where
  record := r
  handOff := c.slot.map fun connection =>
    ⟨connection, r, ((c.endpoint connection.consumer).deliver r).1,
      (c.endpoint connection.consumer).written r⟩

/-- Sending a record answers as the attempt ends. -/
theorem send_fst (c : Channel) (r : EventRecord) : (c.send r).1 = (c.attempt r).outcome := by
  cases hslot : c.slot with
  | none => simp [send, handOff, attempt, Attempt.outcome, hslot]
  | some connection => simp [send, handOff, attempt, Attempt.outcome, hslot]

/-- The attempt is a hand-off to the consumer in the slot. -/
theorem handOffTo_attempt_self (h : c.slot = some connection) (r : EventRecord) :
    (c.attempt r).handOffTo connection.consumer
      = some ⟨connection, r, ((c.endpoint connection.consumer).deliver r).1,
        (c.endpoint connection.consumer).written r⟩ := by
  simp [attempt, Attempt.handOffTo, h, Option.filter]

/-- The attempt is no hand-off to anybody else. -/
theorem handOffTo_attempt_of_ne {i : ConsumerId} (h : ∀ d, c.slot = some d → d.consumer ≠ i)
    (r : EventRecord) : (c.attempt r).handOffTo i = none := by
  cases hslot : c.slot with
  | none => simp [attempt, Attempt.handOffTo, hslot]
  | some d => simp [attempt, Attempt.handOffTo, hslot, h d hslot]

/-- Sending to nobody changes nothing. -/
theorem send_snd_of_slot_eq_none (h : c.slot = none) : (c.send r).2 = c := by
  rw [send_of_slot_eq_none h]

/-- Sending to the connection in the slot; a failure beyond repair takes it out and shuts it
down. -/
theorem send_snd_of_slot (h : c.slot = some connection)
    (hlt : connection.consumer < c.consumers.length) (r : EventRecord) :
    (c.send r).2
      = if isFatal ((c.endpoint connection.consumer).deliver r).1
        then { c.setEndpoint connection.consumer
                ((c.endpoint connection.consumer).deliver r).2.shutDown with slot := none }
        else c.setEndpoint connection.consumer ((c.endpoint connection.consumer).deliver r).2 := by
  cases hdeliver : (c.endpoint connection.consumer).deliver r with
  | mk outcome e =>
  rw [send_of_slot h hdeliver]
  cases outcome with
  | ok => rfl
  | error failure =>
    cases hfatal : failure.isFatal with
    | false => simp [releaseIfFatal, isFatal, hfatal]
    | true =>
      have hconnected : (c.setEndpoint connection.consumer e).connected
          = some connection.cookie := by
        simp [connected, h]
      have hendpoint : Channel.endpoint { c.setEndpoint connection.consumer e with slot := none }
          connection.consumer = e := endpoint_setEndpoint_self hlt e
      simp only [releaseIfFatal, isFatal, hfatal, if_true, release,
        vacateIf_of_connected hconnected, vacate, slot_setEndpoint, h, shutDown?, shutDown,
        hendpoint]
      simp [setEndpoint]

/-- A channel after a record was handed over, once and to one consumer. -/
structure HandedOver (c : Channel) (connection : Connection) (r : EventRecord) (c' : Channel) :
    Prop where
  /-- The consumer was handed the record, and was shut down if that failed beyond repair. -/
  endpoint_self : c'.endpoint connection.consumer
    = if isFatal ((c.endpoint connection.consumer).deliver r).1
      then ((c.endpoint connection.consumer).deliver r).2.shutDown
      else ((c.endpoint connection.consumer).deliver r).2
  /-- Nobody else noticed. -/
  endpoint_of_ne : ∀ i, connection.consumer ≠ i → c'.endpoint i = c.endpoint i
  length_consumers : c'.consumers.length = c.consumers.length
  issued : c'.issued = c.issued
  /-- The connection left the slot if the hand-off failed beyond repair. -/
  slot : c'.slot
    = if isFatal ((c.endpoint connection.consumer).deliver r).1 then none else some connection

/-- Only the connection that took the record is left in the slot, and only if that did not fail
beyond repair. -/
theorem HandedOver.of_slot {c' : Channel} (h : HandedOver c connection r c') {d : Connection}
    (hd : c'.slot = some d) :
    d = connection ∧ isFatal ((c.endpoint connection.consumer).deliver r).1 = false := by
  rw [h.slot] at hd
  split at hd
  · cases hd
  · next hfatal => exact ⟨(Option.some.inj hd).symm, Bool.eq_false_of_not_eq_true hfatal⟩

/-- **Sending hands the record over once**, to the consumer in the slot. -/
theorem handedOver_send (h : c.slot = some connection)
    (hlt : connection.consumer < c.consumers.length) (r : EventRecord) :
    HandedOver c connection r (c.send r).2 := by
  rw [send_snd_of_slot h hlt r]
  constructor
  case endpoint_self => split <;> exact endpoint_setEndpoint_self hlt _
  case endpoint_of_ne => intro i hi; split <;> exact endpoint_setEndpoint_of_ne hi _
  case length_consumers => split <;> exact length_consumers_setEndpoint ..
  case issued => split <;> rfl
  case slot =>
    split
    · rfl
    · exact h

end Channel

/-! ## Calls -/

/-- What can happen to a monitor. -/
inductive Call where
  /-- A consumer is connected. -/
  | connect (t : Transport)
  | disconnect
  | release (cookie : Cookie)
  | send (r : EventRecord)
  | emit (r : EventRecord)
  | observe (op : Operation)
  /-- Something happens at the end of a consumer. -/
  | consumer (i : ConsumerId) (act : ConsumerAct)

namespace Call

/-- How the consumer that a call lets come is connected. -/
def arriving : Call → Option Transport
  | connect t => some t
  | _ => none

/-- What happens at the end of a consumer. -/
def actOf (i : ConsumerId) : Call → Option ConsumerAct
  | consumer j act => if j = i then some act else none
  | _ => none

end Call

namespace Monitor

/-- The monitor after a call. -/
def after (m : Monitor) : Call → Monitor
  | .connect t => { m with channel := (m.channel.connect t.endpoint).2 }
  | .disconnect => { m with channel := m.channel.disconnect.2 }
  | .release cookie => { m with channel := (m.channel.release cookie).2 }
  | .send r => (m.send r).2
  | .emit r => (m.emit r).2
  | .observe op => m.observe op
  | .consumer i act =>
    { m with channel := m.channel.setEndpoint i ((m.channel.endpoint i).react act) }

/-- The record that a call sends, if it sends one. -/
def recordOf (m : Monitor) : Call → Option EventRecord
  | .send r | .emit r => some r
  | .observe op => op.category.classify.map fun kind => m.reporter.record kind op
  | _ => none

variable {m : Monitor} {call : Call} {r : EventRecord}

/-- **Sending, emitting, and observing what is worth a record do the same to the channel.** -/
theorem channel_after_of_recordOf (h : m.recordOf call = some r) :
    (m.after call).channel = (m.channel.send r).2 := by
  cases call with
  | send | emit => cases h; rfl
  | observe op =>
    obtain ⟨kind, hkind, rfl⟩ := Option.map_eq_some_iff.mp h
    simp only [after, observe, hkind]
    rfl
  | _ => cases h

/-- What sending and emitting give back is how the attempt ends. -/
theorem send_fst (m : Monitor) (r : EventRecord) : (m.send r).1 = (m.channel.attempt r).outcome :=
  m.channel.send_fst r

/-- Emitting a record answers as the attempt ends. -/
theorem emit_fst (m : Monitor) (r : EventRecord) : (m.emit r).1 = (m.channel.attempt r).outcome :=
  m.channel.send_fst r

end Monitor

/-! ## Sessions -/

/-- A monitor, and what has happened to it. -/
structure Session where
  monitor : Monitor
  /-- How each consumer was connected. -/
  transports : List Transport := []
  /-- Every attempt to send a record. -/
  attempts : List Attempt := []
  /-- What each consumer has got. -/
  received : ConsumerId → List Piece := fun _ => []
  /-- What each consumer left unread when it went away. -/
  lost : ConsumerId → List Piece := fun _ => []

namespace Session

/-- A session that is about to begin. -/
def fresh (reporter : Reporter) : Session where
  monitor := { reporter }

/-- The channel of a session. -/
def channel (s : Session) : Channel := s.monitor.channel

/-- One call. -/
def step (s : Session) (call : Call) : Session where
  monitor := s.monitor.after call
  transports := s.transports ++ call.arriving.toList
  attempts := s.attempts ++ (s.monitor.recordOf call).toList.map s.channel.attempt
  received := fun i => s.received i ++ (call.actOf i).toList.flatMap (s.channel.endpoint i).given
  lost := fun i => s.lost i ++ (call.actOf i).toList.flatMap (s.channel.endpoint i).lost

/-- Calls one after another. -/
def run (s : Session) (calls : List Call) : Session := calls.foldl step s

/-- The hand-offs that were made to a consumer. -/
def handOffsTo (s : Session) (i : ConsumerId) : List HandOff :=
  s.attempts.filterMap (Attempt.handOffTo i)

/-- The account of a consumer. -/
def account (s : Session) (i : ConsumerId) : Account where
  endpoint := s.channel.endpoint i
  received := s.received i
  lost := s.lost i
  log := s.handOffsTo i

/-- The connection of a consumer is in the slot. -/
def Present (s : Session) (i : ConsumerId) : Prop :=
  ∃ connection, s.channel.slot = some connection ∧ connection.consumer = i

variable {s s' : Session} {call : Call} {i : ConsumerId} {r : EventRecord}

/-- **What a call does to the channel.**  A consumer is connected, or a record is sent, or
something happens at the end of a consumer; anything else lets go of whoever is in the slot or
changes nothing. -/
theorem channel_step (s : Session) (call : Call) :
    (∃ t, call = .connect t ∧ (s.step call).channel = (s.channel.connect t.endpoint).2)
    ∨ (∃ r, s.monitor.recordOf call = some r ∧ (s.step call).channel = (s.channel.send r).2)
    ∨ (∃ j act, call = .consumer j act
      ∧ (s.step call).channel = s.channel.setEndpoint j ((s.channel.endpoint j).react act))
    ∨ s.monitor.recordOf call = none ∧ call.arriving = none ∧ (∀ i, call.actOf i = none)
      ∧ ((s.step call).channel = s.channel
        ∨ (s.step call).channel = Channel.shutDown?
          { s.channel with slot := none } s.channel.slot) := by
  cases hrecord : s.monitor.recordOf call with
  | some r => exact Or.inr (Or.inl ⟨r, rfl, Monitor.channel_after_of_recordOf hrecord⟩)
  | none =>
    cases call with
    | connect t => exact Or.inl ⟨t, rfl, rfl⟩
    | consumer j act => exact Or.inr (Or.inr (Or.inl ⟨j, act, rfl, rfl⟩))
    | disconnect => exact Or.inr (Or.inr (Or.inr ⟨rfl, rfl, fun _ => rfl, Or.inr rfl⟩))
    | release cookie =>
      refine Or.inr (Or.inr (Or.inr ⟨rfl, rfl, fun _ => rfl, ?_⟩))
      have hchannel : (s.step (.release cookie)).channel = (s.channel.release cookie).2 := rfl
      rw [hchannel, Channel.release_snd]
      split
      · exact Or.inr rfl
      · exact Or.inl rfl
    | send | emit => cases hrecord
    | observe op =>
      have hclass : op.category.classify = none := Option.map_eq_none_iff.mp hrecord
      exact Or.inr (Or.inr (Or.inr ⟨rfl, rfl, fun _ => rfl,
        Or.inl (s.monitor.channel_observe_of_classify_eq_none hclass)⟩))

/-! ## What a call does to an account -/

/-- What happens neither by the consumer nor to its records shows at most in its endpoint. -/
theorem account_step (hrecord : s.monitor.recordOf call = none) (hact : call.actOf i = none) :
    (s.step call).account i
      = { s.account i with endpoint := (s.step call).channel.endpoint i } := by
  simp [account, step, handOffsTo, hrecord, hact]

/-- What sends a record shows in the log as well. -/
theorem account_step_of_recordOf (hrecord : s.monitor.recordOf call = some r) :
    (s.step call).account i
      = { s.account i with
          endpoint := (s.channel.send r).2.endpoint i
          log := (s.account i).log ++ ((s.channel.attempt r).handOffTo i).toList } := by
  have hact : call.actOf i = none := by cases call <;> first | rfl | exact nomatch hrecord
  have hchannel : (s.step call).channel = (s.channel.send r).2 :=
    Monitor.channel_after_of_recordOf hrecord
  have hreceived : (s.step call).received i = s.received i := by simp [step, hact]
  have hlost : (s.step call).lost i = s.lost i := by simp [step, hact]
  have hlog : (s.step call).handOffsTo i
      = s.handOffsTo i ++ ((s.channel.attempt r).handOffTo i).toList := by
    rw [handOffsTo, step, hrecord, List.filterMap_append]
    cases h : (s.channel.attempt r).handOffTo i <;> simp [handOffsTo, h]
  rw [account, hchannel, hreceived, hlost, hlog]
  rfl

/-- A record that is sent to nobody, or to somebody else, leaves an account as it is. -/
theorem account_step_of_ne (hrecord : s.monitor.recordOf call = some r)
    (hlt : ∀ d, s.channel.slot = some d → d.consumer < s.channel.consumers.length)
    (hne : ∀ d, s.channel.slot = some d → d.consumer ≠ i) :
    (s.step call).account i = s.account i := by
  have hendpoint : (s.channel.send r).2.endpoint i = s.channel.endpoint i := by
    cases hslot : s.channel.slot with
    | none => rw [Channel.send_snd_of_slot_eq_none hslot]
    | some d => exact (Channel.handedOver_send hslot (hlt d hslot) r).endpoint_of_ne i (hne d hslot)
  rw [account_step_of_recordOf hrecord, hendpoint, Channel.handOffTo_attempt_of_ne hne,
    Option.toList_none, List.append_nil]
  rfl

/-- A call that sends a record lets nobody come. -/
theorem transports_step_of_recordOf (hrecord : s.monitor.recordOf call = some r) :
    (s.step call).transports = s.transports := by
  have harriving : call.arriving = none := by cases call <;> first | rfl | exact nomatch hrecord
  rw [step, harriving]
  exact List.append_nil _

/-- A consumer that comes changes nothing in an account but the endpoint. -/
theorem account_step_connect (s : Session) (t : Transport) (i : ConsumerId) :
    (s.step (.connect t)).account i
      = { s.account i with endpoint := (s.channel.connect t.endpoint).2.endpoint i } :=
  account_step rfl rfl

/-- What a consumer does shows in its own account only. -/
theorem account_step_consumer (s : Session) (i j : ConsumerId) (act : ConsumerAct) :
    (s.step (.consumer j act)).account i
      = if j = i then (s.account i).react act else s.account i := by
  by_cases hj : j = i
  · subst hj
    have hendpoint : (s.step (.consumer j act)).channel.endpoint j
        = (s.channel.endpoint j).react act :=
      Channel.endpoint_setEndpoint_map (f := fun e => e.react act)
        (by cases act <;> rfl) s.channel j
    rw [if_pos rfl, account, hendpoint]
    simp [account, Account.react, step, handOffsTo, Call.actOf, Monitor.recordOf]
  · have hendpoint : (s.step (.consumer j act)).channel.endpoint i = s.channel.endpoint i :=
      Channel.endpoint_setEndpoint_of_ne hj _
    have hact : (Call.consumer j act).actOf i = none := if_neg hj
    rw [if_neg hj, account_step rfl hact, hendpoint]
    rfl

/-- What is true of a session at any time. -/
structure Consistent (s : Session) : Prop where
  length_consumers : s.channel.consumers.length = s.transports.length
  slot_lt : ∀ connection, s.channel.slot = some connection →
    connection.consumer < s.transports.length
  balanced : ∀ i t, s.transports[i]? = some t → (s.account i).Balanced t (s.Present i)
  /-- Whoever has not come has no account. -/
  nobody : ∀ i, s.transports.length ≤ i → s.account i = { endpoint := .plain }

namespace Consistent

/-- Before anything has happened the invariant holds. -/
theorem fresh (reporter : Reporter) : (Session.fresh reporter).Consistent where
  length_consumers := rfl
  slot_lt := nofun
  balanced := nofun
  nobody := fun _ _ => rfl

/-- The invariant is kept if endpoints are at most shut down, and the slot keeps its connection
or none. -/
theorem of_shutDown (h : s.Consistent) (htransports : s'.transports = s.transports)
    (hlength : s'.channel.consumers.length = s.channel.consumers.length)
    (hslot : ∀ connection, s'.channel.slot = some connection → s.channel.slot = some connection)
    (haccount : ∀ i, s'.account i = s.account i ∨ s'.account i = (s.account i).shutDown) :
    s'.Consistent where
  length_consumers := by rw [hlength, htransports, h.length_consumers]
  slot_lt := fun connection hc => htransports ▸ h.slot_lt connection (hslot connection hc)
  balanced := by
    intro i t ht
    have hpresent : s'.Present i → s.Present i := fun ⟨c, hc, hi⟩ => ⟨c, hslot c hc, hi⟩
    have hbalanced := (h.balanced i t (htransports ▸ ht)).mono hpresent
    rcases haccount i with hsame | hshut
    · rwa [hsame]
    · rw [hshut]
      exact hbalanced.shutDown
  nobody := by
    intro i hi
    have hnobody := h.nobody i (htransports ▸ hi)
    rcases haccount i with hsame | hshut
    · rw [hsame, hnobody]
    · rw [hshut, hnobody]
      rfl

/-- Whoever was there before a consumer comes is not in the slot any more, and has a balanced
account still. -/
theorem balanced_connect_of_getElem? (h : s.Consistent) (t : Transport) {i : ConsumerId}
    {t' : Transport} (ht' : s.transports[i]? = some t') :
    ((s.step (.connect t)).account i).Balanced t' ((s.step (.connect t)).Present i) := by
  obtain ⟨hi, -⟩ := List.getElem?_eq_some_iff.mp ht'
  have habsent : (s.step (.connect t)).Present i → s.Present i := by
    rintro ⟨connection, hc, rfl⟩
    cases (Channel.slot_connect s.channel t.endpoint).symm.trans hc
    exact absurd h.length_consumers (Nat.ne_of_lt hi)
  have hbalanced := (h.balanced i t' ht').mono habsent
  rw [account_step_connect]
  rcases Channel.endpoint_connect_of_lt (h.length_consumers ▸ hi) t.endpoint with hsame | hshut
  · rw [hsame]
    exact hbalanced
  · rw [hshut]
    exact hbalanced.shutDown

/-- The account of a consumer that comes is balanced. -/
theorem balanced_connect_self (h : s.Consistent) (t : Transport) :
    ((s.step (.connect t)).account s.transports.length).Balanced t
      ((s.step (.connect t)).Present s.transports.length) := by
  rw [account_step_connect, h.nobody _ (Nat.le_refl _), ← h.length_consumers]
  rcases Channel.endpoint_connect_self s.channel t.endpoint with hsame | hshut
  · rw [hsame]
    exact Account.balanced_endpoint t _
  · rw [hshut]
    exact (Account.balanced_endpoint t _).shutDown

/-- A consumer that comes supersedes whoever was there. -/
theorem connect (h : s.Consistent) (t : Transport) : (s.step (.connect t)).Consistent := by
  have hchannel : (s.step (.connect t)).channel = (s.channel.connect t.endpoint).2 := rfl
  have htransports : (s.step (.connect t)).transports = s.transports ++ [t] := rfl
  have hlength : (s.step (.connect t)).channel.consumers.length = s.transports.length + 1 := by
    rw [hchannel, Channel.length_consumers_connect, h.length_consumers]
  constructor
  case length_consumers => rw [hlength, htransports, List.length_append]; rfl
  case slot_lt =>
    intro connection hc
    rw [hchannel, Channel.slot_connect] at hc
    cases hc
    rw [htransports, List.length_append, h.length_consumers]
    exact Nat.lt_succ_self _
  case balanced =>
    intro i t' ht'
    rw [htransports] at ht'
    rcases Nat.lt_trichotomy i s.transports.length with hi | rfl | hi
    · rw [List.getElem?_append_left hi] at ht'
      exact h.balanced_connect_of_getElem? t ht'
    · obtain rfl : t = t' := by simpa using ht'
      exact h.balanced_connect_self t
    · rw [List.getElem?_eq_none] at ht'
      · exact nomatch ht'
      · rw [List.length_append]
        exact hi
  case nobody =>
    intro i hi
    rw [htransports, List.length_append] at hi
    rw [account_step_connect, h.nobody i (Nat.le_trans (Nat.le_add_right _ _) hi), ← hchannel,
      Channel.endpoint_of_length_le (hlength ▸ hi)]

/-- Taking a connection out of the slot and shutting it down. -/
theorem take (h : s.Consistent) (hrecord : s.monitor.recordOf call = none)
    (hact : ∀ i, call.actOf i = none) (harriving : call.arriving = none)
    (hchannel : (s.step call).channel = s.channel
      ∨ (s.step call).channel = Channel.shutDown? { s.channel with slot := none } s.channel.slot) :
    (s.step call).Consistent := by
  have haccount : ∀ i, (s.step call).account i
      = { s.account i with endpoint := (s.step call).channel.endpoint i } :=
    fun i => account_step hrecord (hact i)
  have htransports : (s.step call).transports = s.transports := by
    rw [step, harriving]
    exact List.append_nil _
  refine h.of_shutDown htransports ?_ ?_ fun i => ?_
  · rcases hchannel with hc | hc
    · rw [hc]
    · rw [hc, Channel.length_consumers_shutDown?]
  · intro connection hslot
    rcases hchannel with hc | hc
    · rwa [hc] at hslot
    · rw [hc, Channel.slot_shutDown?] at hslot
      exact nomatch hslot
  · rw [haccount i]
    rcases hchannel with hc | hc
    · rw [hc]
      exact Or.inl rfl
    · rw [hc]
      rcases Channel.endpoint_shutDown? { s.channel with slot := none } s.channel.slot i
        with hi | hi
      · exact Or.inl (by rw [hi]; rfl)
      · exact Or.inr (by rw [hi]; rfl)

/-- The account of the consumer in the slot stays balanced when a record is handed to it. -/
theorem balanced_step_self {connection : Connection} {t : Transport}
    (hrecord : s.monitor.recordOf call = some r) (hslot : s.channel.slot = some connection)
    (hover : s.channel.HandedOver connection r (s.step call).channel)
    (hbalanced : (s.account connection.consumer).Balanced t (s.Present connection.consumer)) :
    ((s.step call).account connection.consumer).Balanced t
      ((s.step call).Present connection.consumer) := by
  have hchannel : (s.step call).channel = (s.channel.send r).2 :=
    Monitor.channel_after_of_recordOf hrecord
  have hpresent : s.Present connection.consumer := ⟨connection, hslot, rfl⟩
  have hdeliver := hbalanced.deliver hpresent connection r
    fun (hp : (s.step call).Present connection.consumer) => (hover.of_slot hp.choose_spec.1).2
  rw [account_step_of_recordOf hrecord, ← hchannel, hover.endpoint_self,
    Channel.handOffTo_attempt_self hslot]
  split
  · exact hdeliver.shutDown
  · exact hdeliver

/-- Sending a record, to whoever is in the slot or to nobody. -/
theorem deliver (h : s.Consistent) (hrecord : s.monitor.recordOf call = some r) :
    (s.step call).Consistent := by
  have hchannel : (s.step call).channel = (s.channel.send r).2 :=
    Monitor.channel_after_of_recordOf hrecord
  have htransports : (s.step call).transports = s.transports := transports_step_of_recordOf hrecord
  have hlt : ∀ d, s.channel.slot = some d → d.consumer < s.channel.consumers.length :=
    fun d hd => h.length_consumers ▸ h.slot_lt d hd
  cases hslot : s.channel.slot with
  | none =>
    have hsame : (s.step call).channel = s.channel := by
      rw [hchannel, Channel.send_snd_of_slot_eq_none hslot]
    refine h.of_shutDown htransports (by rw [hsame]) (fun _ hc => hsame ▸ hc) fun i => Or.inl ?_
    exact account_step_of_ne hrecord hlt (by simp [hslot])
  | some connection =>
    have hover := hchannel ▸ Channel.handedOver_send hslot (hlt connection hslot) r
    have hother : ∀ i, connection.consumer ≠ i → (s.step call).account i = s.account i := by
      intro i hi
      refine account_step_of_ne hrecord hlt fun d hd => ?_
      rwa [← Option.some.inj (hslot.symm.trans hd)]
    constructor
    case length_consumers =>
      rw [hover.length_consumers, htransports, h.length_consumers]
    case slot_lt =>
      intro d hd
      rw [(hover.of_slot hd).1, htransports]
      exact h.slot_lt connection hslot
    case balanced =>
      intro i t ht
      have hbalanced := h.balanced i t (htransports ▸ ht)
      by_cases hi : connection.consumer = i
      · subst hi
        exact balanced_step_self hrecord hslot hover hbalanced
      · rw [hother i hi]
        refine hbalanced.mono ?_
        rintro ⟨d, hd, hdi⟩
        exact absurd ((hover.of_slot hd).1 ▸ hdi) hi
    case nobody =>
      intro i hi
      rw [htransports] at hi
      have hne : connection.consumer ≠ i :=
        Nat.ne_of_lt (Nat.lt_of_lt_of_le (h.slot_lt connection hslot) hi)
      rw [hother i hne, h.nobody i hi]

/-- What happens at the end of a consumer. -/
theorem consumer (h : s.Consistent) (j : ConsumerId) (act : ConsumerAct) :
    (s.step (.consumer j act)).Consistent := by
  have htransports : (s.step (.consumer j act)).transports = s.transports := List.append_nil _
  have hslot : (s.step (.consumer j act)).channel.slot = s.channel.slot := rfl
  constructor
  case length_consumers =>
    rw [htransports, ← h.length_consumers]
    exact Channel.length_consumers_setEndpoint ..
  case slot_lt =>
    intro connection hc
    rw [htransports]
    exact h.slot_lt connection hc
  case balanced =>
    intro i t ht
    have hbalanced := h.balanced i t (htransports ▸ ht)
    rw [account_step_consumer]
    split
    · exact hbalanced.react act
    · exact hbalanced
  case nobody =>
    intro i hi
    rw [account_step_consumer, h.nobody i (htransports ▸ hi)]
    split
    · cases act <;>
        simp [Account.react, Endpoint.given, Endpoint.lost, Endpoint.react, Endpoint.held,
          Endpoint.drop]
    · rfl

/-- Every call keeps the invariant. -/
theorem step (h : s.Consistent) (call : Call) : (s.step call).Consistent := by
  rcases s.channel_step call with ⟨t, rfl, -⟩ | ⟨r, hrecord, -⟩ | ⟨j, act, rfl, -⟩
    | ⟨hrecord, harriving, hact, hchannel⟩
  · exact h.connect t
  · exact h.deliver hrecord
  · exact h.consumer j act
  · exact h.take hrecord hact harriving hchannel

/-- Every run keeps the invariant. -/
theorem run (h : s.Consistent) (calls : List Call) : (s.run calls).Consistent := by
  induction calls generalizing s with
  | nil => exact h
  | cons call calls ih => exact ih (h.step call)

end Consistent

end Session

end FileActivity
