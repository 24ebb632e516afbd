/-
# What becomes of operations and records

The monitor's five counters are counted up at different places, and any number of threads come
between. Still nothing is lost: whatever a thread takes on in one step it counts in a later one,
so what was taken on and not yet counted is with the threads that are about to count it
(`Leg.balance`), and when no call is in progress the counters say exactly what happened.

Main statement: `conserved`.
-/
import FileActivity.Proofs.Delivery.Deliveries
import FileActivity.Proofs.Delivery.Framing
import FileActivity.Proofs.Monitor.SharedMonitor
import Mathlib.Data.Finset.Card

namespace FileActivity

/-! ## Ordinary endpoints -/

/-- What queues and sockets answer: that a record was taken, that this took too long, or that
the other end is gone. -/
def Ordinary : Except Error Unit → Prop
  | .ok () | .error .sendTimedOut | .error (.transportFailure _) => True
  | .error _ => False

namespace Endpoint

/-- A stand-in answers no otherwise than queues and sockets do. -/
def Ordinary : Endpoint → Prop
  | scripted outcomes _ _ => ∀ outcome ∈ outcomes, FileActivity.Ordinary outcome
  | _ => True

namespace Ordinary

variable {e : Endpoint}

/-- Handing a record to an ordinary endpoint has an ordinary outcome. -/
theorem outcome (h : e.Ordinary) (r : EventRecord) : FileActivity.Ordinary (e.deliver r).1 := by
  cases e with
  | plain => trivial
  | scripted outcomes taken shutdowns =>
    rcases outcomes with _ | ⟨outcome, rest⟩
    · trivial
    · have hfirst := h outcome List.mem_cons_self
      cases outcome <;> exact hfirst
  | queue capacity queued receiverOpen =>
    rw [deliver_queue]
    split
    · trivial
    · split <;> trivial
  | socket stream =>
    show FileActivity.Ordinary ((stream.write r.encode).1.mapError writeFailure)
    cases (stream.write r.encode).1 <;> trivial

/-- An ordinary endpoint stays so when a record is handed to it. -/
theorem deliver (h : e.Ordinary) (r : EventRecord) : (e.deliver r).2.Ordinary := by
  rcases e.deliver_cases r with ⟨-, he⟩ | ⟨_, _, _, _, rfl, he⟩ | ⟨_, _, rfl, -, he⟩
    | ⟨_, rfl, he⟩ <;>
    rw [he]
  case inl => exact h
  case inr.inl => exact fun outcome hmem => h outcome (List.mem_of_mem_tail hmem)
  all_goals trivial

/-- An ordinary endpoint stays so when it is shut down. -/
theorem shutDown (h : e.Ordinary) : e.shutDown.Ordinary := by
  cases e <;> exact h

/-- An ordinary endpoint stays so whatever its consumer does. -/
theorem react (h : e.Ordinary) (act : ConsumerAct) : (e.react act).Ordinary := by
  cases e <;> cases act <;> exact h

end Ordinary

end Endpoint

namespace SharedChannel

variable {s : SharedChannel} {tr : List Action}

/-- If every endpoint that comes is ordinary, they all are at any time. -/
theorem Steps.ordinary (h : Run tr s) (hcome : ∀ t e c, .allocate t e c ∈ tr → e.Ordinary)
    (i : ConsumerId) : (s.channel.endpoint i).Ordinary := by
  induction h with
  | refl => trivial
  | @tail tr a s s' _ hstep ih =>
    have hbefore := ih fun t e c hmem => hcome t e c (List.mem_append_left _ hmem)
    rcases hstep.endpoint_cases i with ⟨t, e, c, rfl, -, -, he⟩ | ⟨he, -⟩ | ⟨x, -, -, he⟩
      | ⟨-, he | ⟨act, he⟩⟩
    · rw [he]
      exact hcome t e c (by simp)
    · rwa [he]
    · rw [he]
      exact hbefore.deliver _
    · rw [he]
      exact hbefore.shutDown
    · rw [he]
      exact hbefore.react act

/-- Then every hand-off ends as hand-offs to queues and sockets do. -/
theorem Steps.ordinary_of_handOff (h : Run tr s)
    (hcome : ∀ t e c, .allocate t e c ∈ tr → e.Ordinary) {t : ThreadId} {x : HandOff}
    (hx : .handOff t x ∈ tr) : Ordinary x.outcome := by
  obtain ⟨pre, post, rfl⟩ := List.append_of_mem hx
  obtain ⟨s₁, s₂, hpre, hstep, -⟩ := Steps.split h
  have hordinary := hpre.ordinary fun t e c hmem => hcome t e c (List.mem_append_left _ hmem)
  cases hstep with
  | @handOff _ connection r outcome e _ hdeliver =>
    have houtcome := (hordinary connection.consumer).outcome r
    rwa [hdeliver] at houtcome
  | expire => trivial

end SharedChannel

/-! ## Counters -/

/-- The counters of a monitor. -/
inductive Tally where
  | observed
  | classified
  | delivered
  | droppedDisconnected
  | droppedTransport
  deriving DecidableEq

/-- The counter that counts how the sending of a record went. -/
def Tally.ofOutcome : Except Error Unit → Tally
  | .ok () => delivered
  | .error .channelDisconnected => droppedDisconnected
  | .error _ => droppedTransport

/-- An ordinary outcome is a delivery or a failure of the transport. -/
theorem Tally.ofOutcome_of_ordinary {outcome : Except Error Unit} (h : Ordinary outcome) :
    ofOutcome outcome = if outcome.isOk then delivered else droppedTransport := by
  unfold Ordinary at h
  split at h
  · rfl
  · rfl
  · rfl
  · exact h.elim

@[simp] theorem Tally.ofOutcome_ne_observed (outcome : Except Error Unit) :
    ofOutcome outcome ≠ observed := by
  unfold ofOutcome
  split <;> exact nofun

@[simp] theorem Tally.ofOutcome_ne_classified (outcome : Except Error Unit) :
    ofOutcome outcome ≠ classified := by
  unfold ofOutcome
  split <;> exact nofun

/-- A counter. -/
def Counters.get (c : Counters) : Tally → UInt64
  | .observed => c.observed
  | .classified => c.classified
  | .delivered => c.delivered
  | .droppedDisconnected => c.droppedDisconnected
  | .droppedTransport => c.droppedTransport

/-- Observing is counted as that, and as nothing else. -/
theorem Counters.get_observe (c : Counters) (k : Tally) :
    c.observe.get k = c.get k + if Tally.observed = k then 1 else 0 := by
  cases k <;> simp [observe, get]

/-- Classifying is counted as that, and as nothing else. -/
theorem Counters.get_classify (c : Counters) (k : Tally) :
    c.classify.get k = c.get k + if Tally.classified = k then 1 else 0 := by
  cases k <;> simp [classify, get]

/-- Settling an outcome is counted as that outcome, and as nothing else. -/
theorem Counters.get_settle (c : Counters) (outcome : Except Error Unit) (k : Tally) :
    (c.settle outcome).get k = c.get k + if Tally.ofOutcome outcome = k then 1 else 0 := by
  unfold settle Tally.ofOutcome
  split <;> cases k <;> simp [get]

/-- It makes no difference whether the operation or the sending of its record is counted first. -/
theorem Counters.settle_classify_observe (c : Counters) (outcome : Except Error Unit) :
    c.observe.classify.settle outcome = (c.settle outcome).observe.classify := by
  unfold settle
  split <;> rfl

namespace Deed

/-- The counter that a step counts up. -/
def tally : Deed → Option Tally
  | observe .. => some .observed
  | classify .. => some .classified
  | settle _ outcome => some (.ofOutcome outcome)
  | _ => none

end Deed

namespace SharedMonitor

variable {s s' : SharedMonitor} {d : Deed} {tr : List Deed} {t : ThreadId} {reporter : Reporter}

/-- A step moves the counter that belongs to it by one, and no other. -/
theorem Step.get_counters (h : Step s d s') (k : Tally) :
    s'.counters.get k = s.counters.get k + if d.tally = some k then 1 else 0 := by
  cases h with
  | observe op => simpa [Deed.tally] using s.counters.get_observe k
  | classify => simpa [Deed.tally] using s.counters.get_classify k
  | @settle t outcome => simpa [Deed.tally] using s.counters.get_settle outcome k
  | _ => simp [Deed.tally, turn]

/-- How often a run counted a counter up. -/
def countOf (k : Tally) (tr : List Deed) : Nat := tr.countP fun d => d.tally = some k

/-- **A counter says how often it was counted up**, but for whole rounds. -/
theorem get_counters (h : Run reporter tr s) (k : Tally) :
    s.counters.get k = UInt64.ofNat (countOf k tr) := by
  induction h with
  | refl => cases k <;> rfl
  | @tail tr d s s' _ hstep ih =>
    rw [hstep.get_counters, ih, countOf, countOf, List.countP_append, UInt64.ofNat_add]
    by_cases hd : d.tally = some k <;> simp [hd]

/-- No counter was counted up so often that it began anew. -/
def NoWrap (tr : List Deed) : Prop := ∀ k, countOf k tr < UInt64.size

/-- As long as no counter wraps around, each stands at the number of steps that it counts. -/
theorem toNat_get_counters (h : Run reporter tr s) (hnowrap : NoWrap tr) (k : Tally) :
    (s.counters.get k).toNat = countOf k tr := by
  rw [get_counters h, UInt64.toNat_ofNat_of_lt' (hnowrap k)]

end SharedMonitor

/-! ## Errands -/

namespace Deed

/-- An operation was seen. -/
def isObserve : Deed → Bool
  | observe .. => true
  | _ => false

/-- An operation was seen that is worth a record. -/
def isWorthy : Deed → Bool
  | observe _ op => op.category.classify.isSome
  | _ => false

/-- Somebody asked to emit a record. -/
def isEmit : Deed → Bool
  | emit .. => true
  | _ => false

/-- It was counted how the sending of an emitted record went. -/
def isSettle : Deed → Bool
  | settle .. => true
  | _ => false

/-- An emitted record was taken. -/
def isTaken : Deed → Bool
  | forward (.handOff _ x) => x.outcome.isOk
  | _ => false

/-- Nobody was found to hand an emitted record to. -/
def isForNobody : Deed → Bool
  | forward (.look _ _ none) => true
  | _ => false

/-- An emitted record was handed over, and that failed. -/
def isRefused : Deed → Bool
  | forward (.handOff _ x) => !x.outcome.isOk
  | _ => false

/-- A record is taken, or nobody is found for it, or it is refused, and each is counted as what
it is. -/
theorem sent_iff {d : Deed} (h : ∀ t x, d = forward (.handOff t x) → Ordinary x.outcome) :
    (d.sent.map Tally.ofOutcome = some .delivered ↔ d.isTaken = true)
      ∧ (d.sent.map Tally.ofOutcome = some .droppedDisconnected ↔ d.isForNobody = true)
      ∧ (d.sent.map Tally.ofOutcome = some .droppedTransport ↔ d.isRefused = true) := by
  cases d with
  | forward a =>
    cases a with
    | handOff t x =>
      have hx := Tally.ofOutcome_of_ordinary (h t x rfl)
      cases hok : x.outcome.isOk <;> simp [sent, isTaken, isForNobody, isRefused, hx, hok]
    | look t r found =>
      cases found <;> simp [sent, isTaken, isForNobody, isRefused, Tally.ofOutcome]
    | _ => simp [sent, isTaken, isForNobody, isRefused]
  | _ => simp [sent, isTaken, isForNobody, isRefused]

end Deed

namespace Errand

/-- A step as the thread sees it that takes it; any other step leaves a thread where it is. -/
inductive Move : Errand → Deed → Errand → Prop where
  | observe {t : ThreadId} {op : Operation} : Move idle (.observe t op) (afterSeeing op)
  | classify {t : ThreadId} {kind : EventKind} {op : Operation} {r : EventRecord} :
    Move (seen kind op) (.classify t r) (emitting r)
  | emit {t : ThreadId} {r : EventRecord} : Move idle (.emit t r) (emitting r)
  | forward {a : Action} {e e' : Errand} (h : e.Forwards a e') : Move e (.forward a) e'
  | settle {t : ThreadId} {outcome : Except Error Unit} :
    Move (settling outcome) (.settle t outcome) idle
  | channel {a : Action} {e : Errand} : Move e (.channel a) e
  | world {reporter : Reporter} {e : Errand} : Move e (.world reporter) e

end Errand

/-- A step is a move of one thread, and the others do not notice. -/
theorem SharedMonitor.Step.move {s s' : SharedMonitor} {d : Deed} (h : s.Step d s') :
    ∃ t e, (s.errand t).Move d e ∧ s'.errand = Function.update s.errand t e := by
  cases h with
  | observe op hidle => exact ⟨_, _, hidle.1 ▸ .observe, rfl⟩
  | classify herrand => exact ⟨_, _, herrand ▸ .classify, rfl⟩
  | emit r hidle => exact ⟨_, _, hidle.1 ▸ .emit, rfl⟩
  | forward _ _ hforwards => exact ⟨_, _, .forward hforwards, rfl⟩
  | settle herrand => exact ⟨_, _, herrand ▸ .settle, rfl⟩
  | channel => exact ⟨0, _, .channel, (Function.update_eq_self ..).symm⟩
  | world => exact ⟨0, _, .world, (Function.update_eq_self ..).symm⟩

/-- So many threads have come to such a point. -/
def Threads (errand : ThreadId → Errand) (p : Errand → Bool) (n : Nat) : Prop :=
  ∃ ts : Finset ThreadId, (∀ t, t ∈ ts ↔ p (errand t) = true) ∧ ts.card = n

namespace Threads

variable {errand : ThreadId → Errand} {p : Errand → Bool} {n m : Nat}

/-- A thread that moves is one more or one less, or makes no difference. -/
theorem update (h : Threads errand p n) (t : ThreadId) (e : Errand) :
    ∃ m, n + (p e).toNat = m + (p (errand t)).toNat
      ∧ Threads (Function.update errand t e) p m := by
  obtain ⟨ts, hts, rfl⟩ := h
  have hmem : ∀ u, p (Function.update errand t e u) = true
      ↔ u = t ∧ p e = true ∨ u ≠ t ∧ u ∈ ts := by
    intro u
    by_cases hu : u = t
    · subst hu; simp
    · simp [hu, hts]
  cases hbefore : p (errand t) <;> cases hafter : p e
  case false.false | true.true =>
    refine ⟨ts.card, rfl, ts, fun u => ?_, rfl⟩
    rw [hmem]
    by_cases hu : u = t
    · subst hu; simp [hts, hbefore, hafter]
    · simp [hu]
  case false.true =>
    have hnot : t ∉ ts := by rw [hts, hbefore]; exact nofun
    refine ⟨ts.card + 1, rfl, insert t ts, fun u => ?_, Finset.card_insert_of_notMem hnot⟩
    rw [hmem, Finset.mem_insert]
    by_cases hu : u = t <;> simp [hu, hafter]
  case true.false =>
    have hin : t ∈ ts := by rw [hts, hbefore]
    refine ⟨(ts.erase t).card, (Finset.card_erase_add_one hin).symm, ts.erase t, fun u => ?_, rfl⟩
    rw [hmem, Finset.mem_erase]
    simp [hafter]

/-- If there is no such thread, there are none of them. -/
theorem eq_zero (h : Threads errand p n) (hnone : ∀ t, p (errand t) = false) : n = 0 := by
  obtain ⟨ts, hts, rfl⟩ := h
  rw [Finset.card_eq_zero, Finset.eq_empty_iff_forall_notMem]
  intro t ht
  rw [hts, hnone] at ht
  cases ht

end Threads

/-! ## Legs -/

/-- A part of an errand: which steps lead into it and out of it, and who is on it. -/
structure Leg where
  enters : Deed → Bool
  leaves : Deed → Bool
  holds : Errand → Bool
  holds_idle : holds .idle = false
  /-- Who moves into it or is on it moves out of it or is on it afterwards. -/
  law : ∀ {e d e'}, Errand.Move e d e' →
    (enters d).toNat + (holds e).toNat = (leaves d).toNat + (holds e').toNat

namespace Leg

open SharedMonitor

variable {s : SharedMonitor} {tr : List Deed} {reporter : Reporter}

/-- **Who has moved into a leg has moved out of it or is still there.** -/
theorem balance (leg : Leg) (h : Run reporter tr s) :
    ∃ n, Threads s.errand leg.holds n ∧ tr.countP leg.enters = tr.countP leg.leaves + n := by
  induction h with
  | refl => exact ⟨0, ⟨∅, fun t => by simp [leg.holds_idle], rfl⟩, rfl⟩
  | @tail tr d s s' _ hstep ih =>
    obtain ⟨n, hthreads, hcount⟩ := ih
    obtain ⟨t, e, hmove, herrand⟩ := hstep.move
    have hlaw := leg.law hmove
    obtain ⟨m, hm, hthreads'⟩ := hthreads.update t e
    refine ⟨m, herrand ▸ hthreads', ?_⟩
    have hsingle (p : Deed → Bool) : [d].countP p = (p d).toNat := by
      cases hp : p d <;> simp [hp]
    rw [List.countP_append, List.countP_append, hsingle, hsingle]
    omega

/-- No more deeds leave a leg than have entered it. -/
theorem le (leg : Leg) (h : Run reporter tr s) : tr.countP leg.leaves ≤ tr.countP leg.enters := by
  obtain ⟨n, -, hn⟩ := leg.balance h
  exact hn ▸ Nat.le_add_right _ _

/-- When nobody is on any errand, whoever moved into a leg has moved out of it. -/
theorem eq (leg : Leg) (h : Run reporter tr s) (hquiet : ∀ t, s.errand t = .idle) :
    tr.countP leg.enters = tr.countP leg.leaves := by
  obtain ⟨n, hthreads, hn⟩ := leg.balance h
  have hzero : n = 0 := hthreads.eq_zero fun t => by rw [hquiet, leg.holds_idle]
  rw [hn, hzero, Nat.add_zero]

/-- From seeing an operation that is worth a record to counting it as such. -/
def classifying : Leg where
  enters := Deed.isWorthy
  leaves d := d.tally = some .classified
  holds
    | .seen .. => true
    | _ => false
  holds_idle := rfl
  law := by
    intro e d e' h
    cases h with
    | @observe t op =>
      cases hclass : op.category.classify <;>
        simp [Deed.isWorthy, Deed.tally, Errand.afterSeeing, hclass]
    | forward h => cases h <;> simp [Deed.isWorthy, Deed.tally]
    | _ => simp [Deed.isWorthy, Deed.tally]

/-- From asking to emit a record, or making one of an operation, to counting how its sending
went. -/
def emitting : Leg where
  enters d := d.isEmit || d.tally = some .classified
  leaves := Deed.isSettle
  holds
    | .emitting _ | .sending | .settling _ => true
    | _ => false
  holds_idle := rfl
  law := by
    intro e d e' h
    cases h with
    | @observe t op =>
      cases hclass : op.category.classify <;>
        simp [Deed.isEmit, Deed.isSettle, Deed.tally, Errand.afterSeeing, hclass]
    | forward h => cases h <;> simp [Deed.isEmit, Deed.isSettle, Deed.tally]
    | _ => simp [Deed.isEmit, Deed.isSettle, Deed.tally]

/-- From the sending of a record to counting how it went, for the outcomes that are counted as
one is. -/
def settling (outcome : Except Error Unit) : Leg where
  enters d := d.sent.map Tally.ofOutcome = some (.ofOutcome outcome)
  leaves d := d.tally = some (.ofOutcome outcome)
  holds
    | .settling sent => Tally.ofOutcome sent = Tally.ofOutcome outcome
    | _ => false
  holds_idle := rfl
  law := by
    intro e d e' h
    have hobserved : Tally.observed ≠ Tally.ofOutcome outcome :=
      (Tally.ofOutcome_ne_observed _).symm
    have hclassified : Tally.classified ≠ Tally.ofOutcome outcome :=
      (Tally.ofOutcome_ne_classified _).symm
    cases h with
    | @observe t op =>
      cases hclass : op.category.classify <;>
        simp [Deed.sent, Deed.tally, Errand.afterSeeing, hclass, hobserved]
    | forward h => cases h <;> simp [Deed.sent, Deed.tally]
    | _ => simp [Deed.sent, Deed.tally, hclassified]

end Leg

/-! ## What the counters say -/

namespace SharedMonitor

variable {s : SharedMonitor} {tr : List Deed} {reporter : Reporter}

/-- Every sending that was counted was counted once, as something. -/
theorem countOf_outcomes (tr : List Deed) :
    countOf .delivered tr + countOf .droppedDisconnected tr + countOf .droppedTransport tr
      = tr.countP Deed.isSettle := by
  induction tr with
  | nil => rfl
  | cons d tr ih =>
    simp only [countOf, List.countP_cons] at ih ⊢
    cases d with
    | settle t outcome =>
      cases hk : Tally.ofOutcome outcome <;> simp_all [Deed.tally, Deed.isSettle] <;> omega
    | _ => simpa [Deed.tally, Deed.isSettle] using ih

/-- What is counted as observed are the calls to observe. -/
theorem countOf_observed (tr : List Deed) : countOf .observed tr = tr.countP Deed.isObserve := by
  refine List.countP_congr fun d _ => ?_
  cases d <;> simp [Deed.tally, Deed.isObserve]

/-- What is worth a record is observed. -/
theorem countP_isWorthy_le (tr : List Deed) :
    tr.countP Deed.isWorthy ≤ tr.countP Deed.isObserve := by
  refine List.countP_mono_left fun d _ hd => ?_
  cases d with
  | observe => rfl
  | _ => cases hd

/-- What was emitted was classified before, or emitted on its own. -/
theorem countP_emitted (tr : List Deed) :
    tr.countP (fun d => d.isEmit || d.tally = some .classified)
      = countOf .classified tr + tr.countP Deed.isEmit := by
  induction tr with
  | nil => rfl
  | cons d tr ih =>
    simp only [countOf, List.countP_cons] at ih ⊢
    cases d <;> simp_all [Deed.tally, Deed.isEmit] <;> omega

/-- No call is in progress. -/
def Quiet (s : SharedMonitor) : Prop := ∀ t, s.errand t = .idle

/-- What the counters say when no call is in progress. -/
structure Settled (tr : List Deed) (s : SharedMonitor) : Prop where
  observed : s.counters.observed.toNat = tr.countP Deed.isObserve
  classified : s.counters.classified.toNat = tr.countP Deed.isWorthy
  delivered : s.counters.delivered.toNat = tr.countP Deed.isTaken
  droppedDisconnected : s.counters.droppedDisconnected.toNat = tr.countP Deed.isForNobody
  droppedTransport : s.counters.droppedTransport.toNat = tr.countP Deed.isRefused
  /-- Every record was delivered or dropped, whether it was made of an operation or emitted
  directly. -/
  total : s.counters.delivered.toNat + s.counters.droppedDisconnected.toNat
      + s.counters.droppedTransport.toNat
    = s.counters.classified.toNat + tr.countP Deed.isEmit

/-- What the counters say at any time. -/
structure Conserved (tr : List Deed) (s : SharedMonitor) : Prop where
  classified_le : s.counters.classified.toNat ≤ s.counters.observed.toNat
  settled_le : s.counters.delivered.toNat + s.counters.droppedDisconnected.toNat
      + s.counters.droppedTransport.toNat
    ≤ s.counters.classified.toNat + tr.countP Deed.isEmit
  settled : s.Quiet → Settled tr s
  /-- Having an operation observed that is worth a record does what emitting the record does,
  and counts the operation: alone, -/
  observe_eq : ∀ (m : Monitor) op kind, op.category.classify = some kind →
    let emitted := (m.emit (m.reporter.record kind op)).2
    m.observe op = { emitted with counters := emitted.counters.observe.classify }
  /-- and among other threads, where it comes to the same point from which the record is sent. -/
  emit_of_observe : ∀ t op kind r s₁ s₂, op.category.classify = some kind →
    Step s (.observe t op) s₁ → Step s₁ (.classify t r) s₂ →
    r = s.reporter.record kind op
      ∧ ∃ s₃, Step s (.emit t r) s₃ ∧ s₂ = { s₃ with counters := s₃.counters.observe.classify }
  /-- These steps are those of the monitor: without anybody in between, a thread emits a record
  in such steps, is answered how the sending of that record went, and leaves what emitting
  leaves, -/
  emits : ∀ t, s.Idle t → s.shared.Unlocked → ∀ r, s.Finishes t (s.monitor.emit r).2 fun tr =>
    tr.filterMap Deed.sent = [(s.monitor.emit r).1]
  /-- and has an operation observed in such steps, which send a record exactly if the operation
  is worth one. -/
  observes : ∀ t, s.Idle t → s.shared.Unlocked → ∀ op, s.Finishes t (s.monitor.observe op) fun tr =>
    (tr.filterMap Deed.sent).length = op.category.classify.toList.length

/-- The counters that count sendings stand at the number of those that were counted. -/
theorem toNat_outcomes (h : Run reporter tr s) (hnowrap : NoWrap tr) :
    s.counters.delivered.toNat + s.counters.droppedDisconnected.toNat
        + s.counters.droppedTransport.toNat
      = tr.countP Deed.isSettle := by
  rw [← countOf_outcomes, ← toNat_get_counters h hnowrap .delivered,
    ← toNat_get_counters h hnowrap .droppedDisconnected,
    ← toNat_get_counters h hnowrap .droppedTransport]
  rfl

/-- What was classified or emitted directly is what there is to send. -/
theorem toNat_classified_add (h : Run reporter tr s) (hnowrap : NoWrap tr) :
    s.counters.classified.toNat + tr.countP Deed.isEmit
      = tr.countP fun d => d.isEmit || d.tally = some .classified := by
  rw [countP_emitted, ← toNat_get_counters h hnowrap .classified]
  rfl

/-- When no call is in progress, a counter of sendings stands at the number of steps that decided
how a sending goes. -/
theorem toNat_get_of_quiet (h : Run reporter tr s) (hnowrap : NoWrap tr) (hquiet : s.Quiet)
    (outcome : Except Error Unit) {decides : Deed → Bool}
    (hdecides : ∀ d ∈ tr, d.sent.map Tally.ofOutcome = some (.ofOutcome outcome)
      ↔ decides d = true) :
    (s.counters.get (.ofOutcome outcome)).toNat = tr.countP decides := by
  rw [toNat_get_counters h hnowrap]
  refine ((Leg.settling outcome).eq h hquiet).symm.trans (List.countP_congr fun d hd => ?_)
  exact decide_eq_true_iff.trans (hdecides d hd)

/-- **When no call is in progress**, every counter says what it is for. -/
theorem settled_of_quiet (h : Run reporter tr s) (hnowrap : NoWrap tr)
    (hcome : ∀ t e c, .allocate t e c ∈ actionsIn tr → e.Ordinary) (hquiet : s.Quiet) :
    Settled tr s := by
  have hsent : ∀ d ∈ tr, _ := fun d hd => Deed.sent_iff (d := d) fun t x hx =>
    (shared_run h).ordinary_of_handOff hcome (t := t)
      (List.mem_filterMap.mpr ⟨d, hd, by rw [hx]; rfl⟩)
  constructor
  case observed => exact (toNat_get_counters h hnowrap .observed).trans (countOf_observed tr)
  case classified =>
    exact (toNat_get_counters h hnowrap .classified).trans (Leg.classifying.eq h hquiet).symm
  case delivered =>
    exact toNat_get_of_quiet h hnowrap hquiet (.ok ()) fun d hd => (hsent d hd).1
  case droppedDisconnected =>
    exact toNat_get_of_quiet h hnowrap hquiet (.error .channelDisconnected)
      fun d hd => (hsent d hd).2.1
  case droppedTransport =>
    exact toNat_get_of_quiet h hnowrap hquiet (.error .sendTimedOut) fun d hd => (hsent d hd).2.2
  case total =>
    rw [toNat_outcomes h hnowrap, toNat_classified_add h hnowrap]
    exact (Leg.emitting.eq h hquiet).symm

/-- A thread that classifies the operation that it has just seen comes to where emitting its
record would have brought it, and both are counted. -/
theorem Step.emit_of_observe {t : ThreadId} {op : Operation} {kind : EventKind} {r : EventRecord}
    {s₁ s₂ : SharedMonitor} (hkind : op.category.classify = some kind)
    (hobserve : Step s (.observe t op) s₁) (hclassify : Step s₁ (.classify t r) s₂) :
    r = s.reporter.record kind op
      ∧ ∃ s₃, Step s (.emit t r) s₃
        ∧ s₂ = { s₃ with counters := s₃.counters.observe.classify } := by
  cases hobserve with
  | observe _ hidle =>
  cases hclassify with
  | @classify _ kind' op' herrand =>
  have hseen : Errand.seen kind op = Errand.seen kind' op' := by
    simpa [turn, Errand.afterSeeing, hkind] using herrand
  obtain ⟨rfl, rfl⟩ := Errand.seen.inj hseen
  exact ⟨rfl, s.turn t (.emitting (s.reporter.record kind op)), Step.emit _ hidle, by simp [turn]⟩

/-- **Counters are conserved.**  Whatever the threads do and in whatever order, as long as no
counter begins anew and the endpoints answer as queues and sockets do. -/
theorem conserved (h : Run reporter tr s) (hnowrap : NoWrap tr)
    (hcome : ∀ t e c, .allocate t e c ∈ actionsIn tr → e.Ordinary) : Conserved tr s := by
  constructor
  case classified_le =>
    calc s.counters.classified.toNat
        = countOf .classified tr := toNat_get_counters h hnowrap .classified
      _ ≤ tr.countP Deed.isWorthy := Leg.classifying.le h
      _ ≤ tr.countP Deed.isObserve := countP_isWorthy_le tr
      _ = countOf .observed tr := (countOf_observed tr).symm
      _ = s.counters.observed.toNat := (toNat_get_counters h hnowrap .observed).symm
  case settled_le =>
    rw [toNat_outcomes h hnowrap, toNat_classified_add h hnowrap]
    exact Leg.emitting.le h
  case settled => exact settled_of_quiet h hnowrap hcome
  case observe_eq =>
    intro m op kind hkind
    simp [Monitor.observe, hkind, Monitor.emit, Monitor.send, Counters.settle_classify_observe]
  case emit_of_observe => exact fun _ _ _ _ _ _ => Step.emit_of_observe
  case emits => exact fun t hidle hfree r => finishes_emit hidle hfree r
  case observes => exact fun t hidle hfree op => finishes_observe hidle hfree op

/-- A file is created while another thread emits a record, and the consumer has room for one of
the two: the emitted record is delivered, and that of the operation times out. -/
theorem conserved_crossing : ∃ tr s, Run default tr s ∧ NoWrap tr
    ∧ (∀ t e c, .allocate t e c ∈ actionsIn tr → e.Ordinary) ∧ s.Quiet
    ∧ s.counters = ⟨1, 1, 1, 0, 1⟩ ∧ tr.countP Deed.isEmit = 1 ∧ Conserved tr s := by
  let op : Operation := { category := .create, processId := 7, name := .unnamed }
  have hrun := (Trace.refl : Run default [] { reporter := default })
    |>.tail (Step.channel (SharedChannel.Step.allocate (t := 1) (.ofCapacity 1) rfl) fun _ _ => rfl)
    |>.tail (Step.channel (SharedChannel.Step.install (t := 1) rfl ?_) fun _ _ => rfl)
    |>.tail (Step.observe (t := 0) op ⟨rfl, rfl⟩)
    |>.tail (Step.emit (t := 2) default ⟨rfl, rfl⟩)
    |>.tail (@Step.classify _ 0 .create op rfl)
    |>.tail (Step.forward (t := 0) (SharedChannel.Step.look _ rfl) rfl .found)
    |>.tail (Step.forward (t := 2) (SharedChannel.Step.look _ rfl) rfl .found)
    |>.tail (Step.forward (t := 2)
      (@SharedChannel.Step.handOff _ _ _ _ (.ok ()) _ rfl rfl) rfl .handOff)
    |>.tail (Step.forward (t := 0)
      (@SharedChannel.Step.handOff _ _ _ _ (.error .sendTimedOut) _ rfl rfl) rfl .handOff)
    |>.tail (@Step.settle _ 2 (.ok ()) rfl rfl)
    |>.tail (@Step.settle _ 0 (.error .sendTimedOut) rfl rfl)
  · refine ⟨_, _, hrun, ?nowrap, ?come, ?quiet, rfl, rfl, conserved hrun ?nowrap ?come⟩
    case nowrap => exact fun k => Nat.lt_of_le_of_lt List.countP_le_length (by decide)
    case come =>
      intro t e c hmem
      obtain ⟨-, rfl, -⟩ : _ ∧ e = .ofCapacity 1 ∧ _ := by
        simpa [actionsIn, Deed.action] using hmem
      trivial
    case quiet => rintro (_ | _ | _ | t) <;> rfl
  · rintro (_ | _ | t) connection r <;> exact nofun

end SharedMonitor

end FileActivity
