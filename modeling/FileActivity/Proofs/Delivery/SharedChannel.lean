/-
# A channel that threads share

Any number of threads connect, disconnect, release and send on one channel.  A call is taken
apart where other threads can come between: a connection is given its cookie, put into the slot,
and the one before it shut down; a record is handed over under the slot's read lock, and only
then, after a failure beyond repair, is its connection released.  What changes the slot waits
for every sender that holds the read lock (`Unlocked`).

A run is the list of the steps that were taken, in the order in which they were taken (`Steps`,
`Run`). Without anybody in between, the steps of a call have the effect of the call and show its
answer (`finishes_connect`, `finishes_disconnect`, `finishes_release`, `finishes_send`).
-/
import FileActivity.Proofs.Delivery.HandOff
import FileActivity.Proofs.Trace
import Mathlib.Logic.Function.Basic

namespace FileActivity

/-- A thread. -/
abbrev ThreadId := Nat

namespace Channel

/-- How connecting begins: the consumer comes, and its connection is given a cookie. -/
def prepare (c : Channel) (e : Endpoint) : Connection × Channel :=
  let (consumer, c) := c.addConsumer e
  let (cookie, c) := c.allocate
  (⟨cookie, consumer⟩, c)

end Channel

/-! ## Threads -/

/-- How far a thread has come with its call. -/
inductive Stage where
  /-- In no call. -/
  | idle
  /-- Connecting: the connection has its cookie and is not in the slot yet. -/
  | connecting (connection : Connection)
  /-- Sending: holds the read lock and has found this connection in the slot. -/
  | sending (connection : Connection) (record : EventRecord)
  /-- Sending: the hand-off failed beyond repair, and the connection is to be released. -/
  | failed (cookie : Cookie)
  /-- Has taken a connection out of the slot, and is to shut it down. -/
  | closing (connection : Connection)

namespace Stage

/-- What is left to do for who took this out of the slot. -/
def afterTaking : Option Connection → Stage
  | some connection => closing connection
  | none => idle

/-- What is left to do for who found this in the slot, and has a record to send. -/
def afterLooking (r : EventRecord) : Option Connection → Stage
  | some connection => sending connection r
  | none => idle

/-- What is left to do after a hand-off. -/
def afterHandOff (cookie : Cookie) : Except Error Unit → Stage
  | .error e => if e.isFatal then failed cookie else idle
  | .ok () => idle

end Stage

/-- A channel, and how far each thread has come. -/
structure SharedChannel where
  channel : Channel := {}
  stage : ThreadId → Stage := fun _ => .idle

/-! ## Steps -/

/-- What happens in one step, and what the thread that takes it gets to see. -/
inductive Action where
  /-- Connecting: this connection was given its cookie. -/
  | allocate (t : ThreadId) (e : Endpoint) (connection : Connection)
  /-- Connecting: the connection was put into the slot in place of another. -/
  | install (t : ThreadId) (connection : Connection) (previous : Option Connection)
  /-- Disconnecting: this was taken out of the slot. -/
  | vacate (t : ThreadId) (previous : Option Connection)
  /-- Releasing: this was taken out of the slot. -/
  | release (t : ThreadId) (cookie : Cookie) (previous : Option Connection)
  /-- Sending: the read lock was taken, and this was found in the slot. -/
  | look (t : ThreadId) (r : EventRecord) (found : Option Connection)
  /-- Sending: the record was handed over or not, and the read lock was given back. -/
  | handOff (t : ThreadId) (h : HandOff)
  /-- Sending: after a failed hand-off this was taken out of the slot. -/
  | letGo (t : ThreadId) (cookie : Cookie) (previous : Option Connection)
  /-- A connection that was taken out of the slot was shut down. -/
  | shutDown (t : ThreadId) (connection : Connection)
  /-- Something happened at the end of a consumer. -/
  | consumer (i : ConsumerId) (act : ConsumerAct)

namespace Action

/-- The thread that takes a step. -/
def thread : Action → Option ThreadId
  | allocate t .. | install t .. | vacate t _ | release t .. | look t .. | handOff t _ | letGo t ..
  | shutDown t _ => some t
  | consumer .. => none

/-- The connection that a step gives a cookie. -/
def issued : Action → Option Connection
  | allocate _ _ connection => some connection
  | _ => none

/-- The connection that a step puts into the slot. -/
def installed : Action → Option Connection
  | install _ connection _ => some connection
  | _ => none

/-- The connection that a step takes out of the slot. -/
def removed : Action → Option Connection
  | install _ _ previous | vacate _ previous | release _ _ previous | letGo _ _ previous => previous
  | _ => none

/-- The connection that a step shuts down. -/
def shut : Action → Option Connection
  | shutDown _ connection => some connection
  | _ => none

/-- The hand-off that a step is. -/
def handedOff : Action → Option HandOff
  | handOff _ h => some h
  | _ => none

/-- The cookie that a step releases, and what it took out of the slot. -/
def released : Action → Option (Cookie × Option Connection)
  | release _ cookie previous | letGo _ cookie previous => some (cookie, previous)
  | _ => none

end Action

namespace SharedChannel

/-- Nobody holds the read lock. -/
def Unlocked (s : SharedChannel) : Prop := ∀ t connection r, s.stage t ≠ .sending connection r

/-- No call is in progress. -/
def Quiet (s : SharedChannel) : Prop := ∀ t, s.stage t = .idle

/-- A thread moves on. -/
def move (s : SharedChannel) (t : ThreadId) (channel : Channel) (stage : Stage) : SharedChannel :=
  ⟨channel, Function.update s.stage t stage⟩

@[simp] theorem channel_move (s : SharedChannel) (t : ThreadId) (channel : Channel)
    (stage : Stage) :
    (s.move t channel stage).channel = channel := rfl

@[simp] theorem stage_move (s : SharedChannel) (t : ThreadId) (channel : Channel) (stage : Stage) :
    (s.move t channel stage).stage t = stage := Function.update_self ..

/-- A move of one thread leaves the others where they are. -/
theorem stage_move_of_ne (s : SharedChannel) {t u : ThreadId} (channel : Channel) (stage : Stage)
    (h : u ≠ t) : (s.move t channel stage).stage u = s.stage u := Function.update_of_ne h ..

/-- The steps.  What changes the slot needs the write lock, and so waits until nobody holds the
read lock; a hand-off is made to the connection that was found, and takes the endpoint's own
lock for as long as it writes. -/
inductive Step : SharedChannel → Action → SharedChannel → Prop where
  | allocate {s : SharedChannel} {t : ThreadId} (e : Endpoint) (hstage : s.stage t = .idle) :
    Step s (.allocate t e (s.channel.prepare e).1)
      (s.move t (s.channel.prepare e).2 (.connecting (s.channel.prepare e).1))
  | install {s : SharedChannel} {t : ThreadId} {connection : Connection}
      (hstage : s.stage t = .connecting connection) (hfree : s.Unlocked) :
    Step s (.install t connection (s.channel.install connection).1)
      (s.move t (s.channel.install connection).2 (.afterTaking (s.channel.install connection).1))
  | vacate {s : SharedChannel} {t : ThreadId} (hstage : s.stage t = .idle) (hfree : s.Unlocked) :
    Step s (.vacate t s.channel.vacate.1)
      (s.move t s.channel.vacate.2 (.afterTaking s.channel.vacate.1))
  | release {s : SharedChannel} {t : ThreadId} (cookie : Cookie) (hstage : s.stage t = .idle)
      (hfree : s.Unlocked) :
    Step s (.release t cookie (s.channel.vacateIf cookie).1)
      (s.move t (s.channel.vacateIf cookie).2 (.afterTaking (s.channel.vacateIf cookie).1))
  | look {s : SharedChannel} {t : ThreadId} (r : EventRecord) (hstage : s.stage t = .idle) :
    Step s (.look t r s.channel.slot) (s.move t s.channel (.afterLooking r s.channel.slot))
  | handOff {s : SharedChannel} {t : ThreadId} {connection : Connection} {r : EventRecord}
      {outcome : Except Error Unit} {e : Endpoint} (hstage : s.stage t = .sending connection r)
      (hdeliver : (s.channel.endpoint connection.consumer).deliver r = (outcome, e)) :
    Step s
      (.handOff t ⟨connection, r, outcome, (s.channel.endpoint connection.consumer).written r⟩)
      (s.move t (s.channel.setEndpoint connection.consumer e)
        (.afterHandOff connection.cookie outcome))
  /-- Another thread kept the socket's own lock for too long. -/
  | expire {s : SharedChannel} {t : ThreadId} {connection : Connection} {r : EventRecord}
      (hstage : s.stage t = .sending connection r)
      (hsocket : (s.channel.endpoint connection.consumer).isSocket) :
    Step s (.handOff t ⟨connection, r, .error .sendTimedOut, []⟩) (s.move t s.channel .idle)
  | letGo {s : SharedChannel} {t : ThreadId} {cookie : Cookie} (hstage : s.stage t = .failed cookie)
      (hfree : s.Unlocked) :
    Step s (.letGo t cookie (s.channel.vacateIf cookie).1)
      (s.move t (s.channel.vacateIf cookie).2 (.afterTaking (s.channel.vacateIf cookie).1))
  | shutDown {s : SharedChannel} {t : ThreadId} {connection : Connection}
      (hstage : s.stage t = .closing connection) :
    Step s (.shutDown t connection) (s.move t (s.channel.shutDown connection) .idle)
  | consumer {s : SharedChannel} (i : ConsumerId) (act : ConsumerAct) :
    Step s (.consumer i act)
      ⟨s.channel.setEndpoint i ((s.channel.endpoint i).react act), s.stage⟩

/-- Steps one after another. -/
inductive Steps (s₀ : SharedChannel) : List Action → SharedChannel → Prop where
  | refl : Steps s₀ [] s₀
  | tail {tr : List Action} {a : Action} {s s' : SharedChannel} (hrun : Steps s₀ tr s)
      (hstep : Step s a s') : Steps s₀ (tr ++ [a]) s'

/-- Steps from a channel that nobody has used. -/
abbrev Run : List Action → SharedChannel → Prop := Steps {}

variable {s s' : SharedChannel} {a : Action} {tr : List Action} {t : ThreadId}

/-! ## Runs -/

/-- A run can be cut before any of its steps. -/
theorem Steps.split {s₀ : SharedChannel} {pre post : List Action}
    (h : Steps s₀ (pre ++ a :: post) s) :
    ∃ s₁ s₂, Steps s₀ pre s₁ ∧ Step s₁ a s₂ ∧ Steps s₀ (pre ++ [a]) s₂ := by
  generalize htr : pre ++ a :: post = tr at h
  induction h generalizing post with
  | refl => simp at htr
  | @tail tr b s s' hrun hstep ih =>
    rcases concat_eq_append_cons htr.symm with ⟨-, rfl, rfl⟩ | ⟨post', -, htr'⟩
    · exact ⟨s, s', hrun, hstep, hrun.tail hstep⟩
    · exact ih htr'.symm

/-- A step leaves the other threads where they are. -/
theorem Step.stage_of_ne (h : Step s a s') (ht : a.thread ≠ some t) : s'.stage t = s.stage t := by
  have hne : ∀ {u : ThreadId}, some u ≠ some t → t ≠ u := fun hu hut => hu (hut ▸ rfl)
  cases h with
  | consumer => rfl
  | _ => exact stage_move_of_ne _ _ _ (hne ht)

/-! ## Calls without anybody in between -/

@[simp] theorem move_move (s : SharedChannel) (t : ThreadId) (channel channel' : Channel)
    (stage stage' : Stage) :
    (s.move t channel stage).move t channel' stage' = s.move t channel' stage' := by
  simp [move]

/-- Nobody holds the read lock if the others do not and a thread moves on to something else than
sending. -/
theorem Unlocked.move {channel : Channel} {stage : Stage}
    (h : ∀ u, u ≠ t → ∀ connection r, s.stage u ≠ .sending connection r)
    (hstage : ∀ connection r, stage ≠ .sending connection r) :
    (s.move t channel stage).Unlocked := by
  intro u connection r
  by_cases hu : u = t
  · rw [hu, stage_move]
    exact hstage connection r
  · rw [stage_move_of_ne _ _ _ hu]
    exact h u hu connection r

/-- A thread alone can come to the end of its call in steps of which this is true, and leaves this
channel. -/
def Finishes (s : SharedChannel) (t : ThreadId) (channel : Channel) (seen : List Action → Prop) :
    Prop :=
  ∃ tr, Steps s tr (s.move t channel .idle) ∧ seen tr

/-- One step and the steps that follow it are steps. -/
theorem Steps.cons {b : SharedChannel} (hstep : Step s a s') (hrun : Steps s' tr b) :
    Steps s (a :: tr) b := by
  induction hrun with
  | refl => exact Steps.tail Steps.refl hstep
  | tail _ hlast ih => exact Steps.tail ih hlast

section Finishes

variable {c channel : Channel} {seen : List Action → Prop}

/-- What one step leads to is finished when the rest is. -/
theorem Finishes.of_step {stage : Stage} (hstep : Step s a (s.move t c stage))
    (h : (s.move t c stage).Finishes t channel fun tr => seen (a :: tr)) :
    s.Finishes t channel seen := by
  obtain ⟨tr, hrun, hseen⟩ := h
  rw [move_move] at hrun
  exact ⟨a :: tr, Steps.cons hstep hrun, hseen⟩

/-- Who has nothing left to do is finished. -/
theorem finishes_idle (s : SharedChannel) (t : ThreadId) (c : Channel) (h : seen []) :
    (s.move t c .idle).Finishes t c seen :=
  ⟨[], by rw [move_move]; exact Steps.refl, h⟩

/-- What was taken out of the slot is shut down, and that is the end of the call. -/
theorem finishes_afterTaking (s : SharedChannel) (t : ThreadId) (c : Channel)
    (previous : Option Connection) (h : seen (previous.map (Action.shutDown t)).toList) :
    (s.move t c (.afterTaking previous)).Finishes t (c.shutDown? previous) seen := by
  cases previous with
  | none => exact finishes_idle s t c h
  | some connection =>
    refine Finishes.of_step (Step.shutDown (stage_move ..)) ?_
    exact finishes_idle _ t _ h

end Finishes

/-- Shutting down hands out no cookie and takes nothing out of the slot. -/
theorem filterMap_shutDown {β : Type} {f : Action → Option β} (hf : ∀ c, f (.shutDown t c) = none)
    (previous : Option Connection) :
    (previous.map (Action.shutDown t)).toList.filterMap f = [] := by
  cases previous with
  | none => rfl
  | some connection => exact List.filterMap_cons_none (hf connection)

/-- Connecting answers with the cookie that it gives the connection. -/
theorem finishes_connect (hidle : s.stage t = .idle) (hfree : s.Unlocked) (e : Endpoint) :
    s.Finishes t (s.channel.connect e).2 fun tr =>
      (tr.filterMap Action.issued).map Connection.cookie = [(s.channel.connect e).1] := by
  refine Finishes.of_step (Step.allocate e hidle) ?_
  refine Finishes.of_step (Step.install (stage_move ..) ?_) ?_
  · exact Unlocked.move (fun u _ => hfree u) (fun _ _ => nofun)
  · refine finishes_afterTaking _ _ _ _ ?_
    rw [List.filterMap_cons, List.filterMap_cons, filterMap_shutDown fun _ => rfl]
    rfl

/-- Disconnecting answers whether it takes a connection out of the slot. -/
theorem finishes_disconnect (hidle : s.stage t = .idle) (hfree : s.Unlocked) :
    s.Finishes t s.channel.disconnect.2 fun tr =>
      s.channel.disconnect.1 = !(tr.filterMap Action.removed).isEmpty := by
  refine Finishes.of_step (Step.vacate hidle hfree) (finishes_afterTaking _ _ _ _ ?_)
  rw [List.filterMap_cons, filterMap_shutDown fun _ => rfl]
  show s.channel.slot.isSome = _
  cases hprevious : s.channel.slot <;> simp [Action.removed, Channel.vacate, hprevious]

/-- So does releasing. -/
theorem finishes_release (hidle : s.stage t = .idle) (hfree : s.Unlocked) (cookie : Cookie) :
    s.Finishes t (s.channel.release cookie).2 fun tr =>
      (s.channel.release cookie).1 = !(tr.filterMap Action.removed).isEmpty := by
  refine Finishes.of_step (Step.release cookie hidle hfree) (finishes_afterTaking _ _ _ _ ?_)
  rw [List.filterMap_cons, filterMap_shutDown fun _ => rfl]
  show (s.channel.vacateIf cookie).1.isSome = _
  cases (s.channel.vacateIf cookie).1 <;> simp [Action.removed]

/-- How the sending of a record goes, told by its hand-offs. -/
def outcomeOf : List HandOff → Except Error Unit
  | x :: _ => x.outcome
  | [] => .error .channelDisconnected

/-- Sending answers how the hand-off goes, which fails if nobody is connected. -/
theorem finishes_send (hidle : s.stage t = .idle) (hfree : s.Unlocked) (r : EventRecord) :
    s.Finishes t (s.channel.send r).2 fun tr =>
      (s.channel.send r).1 = outcomeOf (tr.filterMap Action.handedOff) := by
  refine Finishes.of_step (Step.look r hidle) ?_
  cases hslot : s.channel.slot with
  | none =>
    rw [Channel.send_of_slot_eq_none hslot]
    exact finishes_idle _ _ _ rfl
  | some connection =>
    cases hdeliver : (s.channel.endpoint connection.consumer).deliver r with
    | mk outcome e =>
      refine Finishes.of_step (Step.handOff (stage_move ..) hdeliver) ?_
      rw [Channel.send_of_slot hslot hdeliver]
      cases outcome with
      | ok => exact finishes_idle _ _ _ rfl
      | error e =>
        by_cases hfatal : e.isFatal = true
        · simp only [Stage.afterHandOff, Channel.releaseIfFatal, hfatal, if_true]
          refine Finishes.of_step (Step.letGo (stage_move ..) ?_) (finishes_afterTaking _ _ _ _ rfl)
          rw [move_move]
          exact Unlocked.move (fun u _ => hfree u) (fun _ _ h => by cases h)
        · simp only [Stage.afterHandOff, Channel.releaseIfFatal, hfatal, if_false,
            Bool.false_eq_true]
          exact finishes_idle _ _ _ rfl

end SharedChannel

end FileActivity
