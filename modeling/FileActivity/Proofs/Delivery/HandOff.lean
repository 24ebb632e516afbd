/-
# Hand-offs

One record handed to one connection: whether it was taken, and what it left with the consumer.
A queue takes a record or does not; a socket that fails may have written a part of it, and then
the failure is beyond repair (`sound_of_deliver`).
-/
import FileActivity.Proofs.Delivery.Consumer

namespace FileActivity

/-- One hand-off: what was handed to whom, how it went, and what it wrote. -/
structure HandOff where
  connection : Connection
  record : EventRecord
  outcome : Except Error Unit
  written : List UInt8

namespace HandOff

/-- The record of a hand-off that succeeded. -/
def accepted (x : HandOff) : Option EventRecord :=
  match x.outcome with
  | .ok () => some x.record
  | .error _ => none

/-- Something was written, and then the hand-off failed. -/
def Torn (x : HandOff) : Prop := x.written ≠ [] ∧ x.accepted = none

/-- What is true of a hand-off to a socket. -/
structure Sound (x : HandOff) : Prop where
  isPrefix : x.written <+: x.record.encode
  written_of_accepted : ∀ r, x.accepted = some r → x.written = r.encode
  length_lt : x.accepted = none → x.written.length < recordSize
  isFatal_of_torn : x.Torn → ∃ e, x.outcome = .error e ∧ e.isFatal

/-- A hand-off that was accepted wrote something. -/
theorem Sound.written_ne_nil {x : HandOff} (hx : x.Sound) {r : EventRecord}
    (hr : x.accepted = some r) : x.written ≠ [] := by
  intro hnil
  have hlen := r.length_encode
  rw [← hx.written_of_accepted r hr, hnil] at hlen
  exact nomatch hlen

/-- **A socket takes a record whole or reports a failure that is beyond repair.** -/
theorem sound_of_deliver {c : Connection} {r : EventRecord} {e e' : Endpoint}
    {outcome : Except Error Unit} (hsocket : e.isSocket) (h : e.deliver r = (outcome, e')) :
    Sound ⟨c, r, outcome, e.written r⟩ := by
  cases e with
  | socket stream =>
    have houtcome : (stream.write r.encode).1.mapError Endpoint.writeFailure = outcome :=
      congrArg Prod.fst h
    have hpos : r.encode ≠ [] := List.ne_nil_of_length_eq_add_one r.length_encode
    cases hwrite : (stream.write r.encode).1 with
    | ok =>
      rw [hwrite] at houtcome
      subst houtcome
      refine ⟨stream.accepts_isPrefix _, ?_, nofun, fun htorn => nomatch htorn.2⟩
      rintro r' ⟨⟩
      exact Stream.accepts_of_write_ok hwrite
    | error failure =>
      rw [hwrite] at houtcome
      subst houtcome
      refine ⟨stream.accepts_isPrefix _, nofun, fun _ => ?_, fun _ => ⟨_, rfl, rfl⟩⟩
      rw [← r.length_encode]
      exact Stream.length_accepts_of_write_error hwrite hpos
  | _ => exact nomatch hsocket

/-- Running out of time before the turn comes is a hand-off that writes nothing. -/
theorem sound_of_expired (c : Connection) (r : EventRecord) :
    Sound ⟨c, r, .error .sendTimedOut, []⟩ :=
  ⟨List.nil_prefix, nofun, fun _ => Nat.succ_pos _, fun h => absurd rfl h.1⟩

/-- Records that were handed over one after another, of which nothing but the last was torn,
leave their encodings and a part of one more. -/
theorem flatMap_written {log : List HandOff} (hsound : ∀ x ∈ log, x.Sound)
    (hlast : log.Pairwise fun x y => x.Torn → y.written = []) :
    ∃ rest, log.flatMap written = (log.filterMap accepted).flatMap EventRecord.encode ++ rest
      ∧ (rest = [] ∨ ∃ x ∈ log, x.Torn ∧ rest = x.written) := by
  induction log with
  | nil => exact ⟨[], rfl, Or.inl rfl⟩
  | cons x log ih =>
    obtain ⟨hx, hlog⟩ := List.pairwise_cons.mp hlast
    have hsoundx := hsound x List.mem_cons_self
    have hsoundlog : ∀ y ∈ log, y.Sound := fun y hy => hsound y (List.mem_cons_of_mem x hy)
    obtain ⟨rest, hrest, hor⟩ := ih hsoundlog hlog
    have hor' : rest = [] ∨ ∃ y ∈ x :: log, y.Torn ∧ rest = y.written := by
      rcases hor with h | ⟨y, hy, h⟩
      · exact Or.inl h
      · exact Or.inr ⟨y, List.mem_cons_of_mem x hy, h⟩
    cases haccepted : x.accepted with
    | some r =>
      refine ⟨rest, ?_, hor'⟩
      rw [List.flatMap_cons, List.filterMap_cons_some haccepted, List.flatMap_cons,
        hsoundx.written_of_accepted r haccepted, hrest, List.append_assoc]
    | none =>
      rw [List.flatMap_cons, List.filterMap_cons_none haccepted]
      by_cases hnil : x.written = []
      · exact ⟨rest, by rw [hnil, hrest]; rfl, hor'⟩
      · -- a torn record: nothing comes after it
        have hempty : ∀ y ∈ log, y.written = [] := fun y hy => hx y hy ⟨hnil, haccepted⟩
        have hnone : log.filterMap accepted = [] := by
          rw [List.filterMap_eq_nil_iff]
          intro y hy
          rw [Option.eq_none_iff_forall_ne_some]
          intro r hr
          exact (hsoundlog y hy).written_ne_nil hr (hempty y hy)
        refine ⟨x.written, ?_, Or.inr ⟨x, List.mem_cons_self, ⟨hnil, haccepted⟩, rfl⟩⟩
        rw [hnone, List.flatMap_eq_nil_iff.mpr hempty, List.append_nil]
        rfl

/-! ## What a hand-off leaves with the consumer -/

/-- The bytes that were written to a socket; otherwise the record, if it was taken. -/
def pieces (isSocket : Bool) (x : HandOff) : List Piece :=
  if isSocket then x.written.map .byte else x.accepted.toList.map .record

/-- What hand-offs leave in a socket is what they wrote, byte by byte. -/
theorem flatMap_pieces_socket (log : List HandOff) :
    log.flatMap (pieces true) = (log.flatMap written).map .byte := by
  rw [List.map_flatMap]
  rfl

/-- What hand-offs leave in a queue is what they accepted, record by record. -/
theorem flatMap_pieces_record (log : List HandOff) :
    log.flatMap (pieces false) = (log.filterMap accepted).map .record := by
  induction log with
  | nil => rfl
  | cons x log ih =>
    rw [List.flatMap_cons, ih, List.filterMap_cons, pieces]
    cases x.accepted <;> rfl

end HandOff

end FileActivity
