/-
# A monitor that threads share

Any number of threads have operations observed and emit records through one monitor, while
others connect, disconnect, release and send on its channel.  A call is taken apart where other
threads can come between: every counter is counted up in a step of its own, and in between the
record goes through the steps of the channel.  Records are made of what the processes and the
clock say at that time, and these change as they like.

Without anybody in between, the steps of a call have the effect of the call and show its answer
(`finishes_emit`, `finishes_observe`).
-/
import FileActivity.Monitor
import FileActivity.Proofs.Delivery.SharedChannel
import FileActivity.Proofs.Trace

namespace FileActivity

/-! ## Threads -/

/-- How far a thread has come with what it asked of the monitor. -/
inductive Errand where
  /-- It asked for nothing. -/
  | idle
  /-- An operation was counted as seen, and is worth a record of this kind. -/
  | seen (kind : EventKind) (op : Operation)
  /-- A record is to be sent. -/
  | emitting (r : EventRecord)
  /-- Somebody was found to hand the record to. -/
  | sending
  /-- The record was sent, and how that went is to be counted. -/
  | settling (outcome : Except Error Unit)

/-- What is left to do for who saw an operation. -/
def Errand.afterSeeing (op : Operation) : Errand :=
  match op.category.classify with
  | some kind => seen kind op
  | none => idle

/-- What sending a record takes on the channel, one step after another.  A connection that
failed beyond repair is released before it is counted how the hand-off went. -/
inductive Errand.Forwards : Errand → Action → Errand → Prop where
  | nobody {t : ThreadId} {r : EventRecord} :
    Forwards (emitting r) (.look t r none) (settling (.error .channelDisconnected))
  | found {t : ThreadId} {r : EventRecord} {connection : Connection} :
    Forwards (emitting r) (.look t r (some connection)) sending
  | handOff {t : ThreadId} {x : HandOff} : Forwards sending (.handOff t x) (settling x.outcome)
  | letGo {t : ThreadId} {cookie : Cookie} {previous : Option Connection}
      {outcome : Except Error Unit} :
    Forwards (settling outcome) (.letGo t cookie previous) (settling outcome)
  | shutDown {t : ThreadId} {connection : Connection} {outcome : Except Error Unit} :
    Forwards (settling outcome) (.shutDown t connection) (settling outcome)

/-- A monitor, and how far each thread has come. -/
structure SharedMonitor where
  reporter : Reporter
  shared : SharedChannel := {}
  counters : Counters := {}
  errand : ThreadId → Errand := fun _ => .idle

/-! ## Steps -/

/-- What happens in one step. -/
inductive Deed where
  /-- An operation was counted as seen. -/
  | observe (t : ThreadId) (op : Operation)
  /-- An operation was counted as worth a record, and this record was made of it. -/
  | classify (t : ThreadId) (r : EventRecord)
  /-- Somebody asks to emit a record. -/
  | emit (t : ThreadId) (r : EventRecord)
  /-- A step on the channel that sending an emitted record takes. -/
  | forward (a : Action)
  /-- It was counted how the sending of an emitted record went. -/
  | settle (t : ThreadId) (outcome : Except Error Unit)
  /-- Any other step on the channel. -/
  | channel (a : Action)
  /-- The processes changed, or the time. -/
  | world (reporter : Reporter)

/-- The step on the channel that a step is. -/
def Deed.action : Deed → Option Action
  | forward a | channel a => some a
  | _ => none

/-- How the sending of an emitted record went: it was handed over or not, or nobody was found to
hand it to. -/
def Deed.sent : Deed → Option (Except Error Unit)
  | forward (.handOff _ x) => some x.outcome
  | forward (.look _ _ none) => some (.error .channelDisconnected)
  | _ => none

namespace SharedMonitor

/-- The monitor as a thread alone sees it. -/
def monitor (s : SharedMonitor) : Monitor := ⟨s.reporter, s.shared.channel, s.counters⟩

/-- A thread is in no call. -/
def Idle (s : SharedMonitor) (t : ThreadId) : Prop := s.errand t = .idle ∧ s.shared.stage t = .idle

/-- A thread comes further with what it asked for. -/
def turn (s : SharedMonitor) (t : ThreadId) (e : Errand) : SharedMonitor :=
  { s with errand := Function.update s.errand t e }

/-- The steps. -/
inductive Step : SharedMonitor → Deed → SharedMonitor → Prop where
  | observe {s : SharedMonitor} {t : ThreadId} (op : Operation) (hidle : s.Idle t) :
    Step s (.observe t op) { s.turn t (.afterSeeing op) with counters := s.counters.observe }
  | classify {s : SharedMonitor} {t : ThreadId} {kind : EventKind} {op : Operation}
      (herrand : s.errand t = .seen kind op) :
    Step s (.classify t (s.reporter.record kind op))
      { s.turn t (.emitting (s.reporter.record kind op)) with counters := s.counters.classify }
  | emit {s : SharedMonitor} {t : ThreadId} (r : EventRecord) (hidle : s.Idle t) :
    Step s (.emit t r) (s.turn t (.emitting r))
  | forward {s : SharedMonitor} {t : ThreadId} {a : Action} {e : Errand} {shared : SharedChannel}
      (hstep : SharedChannel.Step s.shared a shared) (hthread : a.thread = some t)
      (hforwards : (s.errand t).Forwards a e) :
    Step s (.forward a) { s.turn t e with shared }
  | settle {s : SharedMonitor} {t : ThreadId} {outcome : Except Error Unit}
      (herrand : s.errand t = .settling outcome) (hstage : s.shared.stage t = .idle) :
    Step s (.settle t outcome) { s.turn t .idle with counters := s.counters.settle outcome }
  | channel {s : SharedMonitor} {a : Action} {shared : SharedChannel}
      (hstep : SharedChannel.Step s.shared a shared)
      (hidle : ∀ t, a.thread = some t → s.errand t = .idle) :
    Step s (.channel a) { s with shared }
  | world {s : SharedMonitor} (reporter : Reporter) : Step s (.world reporter) { s with reporter }

/-- Steps from a monitor that nobody has used. -/
abbrev Run (reporter : Reporter) : List Deed → SharedMonitor → Prop := Trace Step { reporter }

variable {s s' : SharedMonitor} {d : Deed} {tr : List Deed} {t : ThreadId} {reporter : Reporter}

/-- The steps on the channel that a run took. -/
def actionsIn (tr : List Deed) : List Action := tr.filterMap Deed.action

/-- What happens on the channel is a run of its own. -/
theorem shared_run (h : Run reporter tr s) : SharedChannel.Run (actionsIn tr) s.shared := by
  induction h with
  | refl => exact SharedChannel.Steps.refl
  | @tail tr d s s' _ hstep ih =>
    have hconcat : actionsIn (tr ++ [d]) = actionsIn tr ++ [d].filterMap Deed.action :=
      List.filterMap_append
    rw [hconcat]
    cases hstep with
    | forward hstep | channel hstep => exact ih.tail hstep
    | _ =>
      rw [List.filterMap_cons_none rfl, List.filterMap_nil, List.append_nil]
      exact ih

/-! ## Calls without anybody in between -/

/-- A monitor that a thread has left with its call done. -/
def rest (s : SharedMonitor) (t : ThreadId) (m : Monitor) : SharedMonitor where
  reporter := m.reporter
  shared := s.shared.move t m.channel .idle
  counters := m.counters
  errand := Function.update s.errand t .idle

/-- A thread alone can come to the end of its call in steps of which this is true, and leaves this
monitor. -/
def Finishes (s : SharedMonitor) (t : ThreadId) (m : Monitor) (seen : List Deed → Prop) : Prop :=
  ∃ tr, Trace Step s tr (s.rest t m) ∧ seen tr

/-- A thread comes further on the channel. -/
def pass (s : SharedMonitor) (t : ThreadId) (e : Errand) (shared : SharedChannel) : SharedMonitor :=
  { s.turn t e with shared }

/-- A step of the channel that forwards an errand is a step of the monitor. -/
theorem step_pass {e e' : Errand} {a : Action} {shared shared' : SharedChannel}
    (hstep : SharedChannel.Step shared a shared') (hthread : a.thread = some t)
    (hforwards : e.Forwards a e') :
    Step (s.pass t e shared) (.forward a) (s.pass t e' shared') := by
  have hforward := Step.forward (s := s.pass t e shared) hstep hthread (e := e')
    (by simpa [pass, turn] using hforwards)
  simpa [pass, turn] using hforward

/-- After a failed hand-off the connection is released before anything is counted. -/
theorem finishes_afterHandOff (s : SharedMonitor) (shared : SharedChannel) (c : Channel)
    (hfree : ∀ u, u ≠ t → ∀ connection r, shared.stage u ≠ .sending connection r) (cookie : Cookie)
    (outcome : Except Error Unit) :
    ∃ tr, Trace Step
      (s.pass t (.settling outcome) (shared.move t c (.afterHandOff cookie outcome))) tr
      (s.pass t (.settling outcome) (shared.move t (c.releaseIfFatal cookie outcome) .idle))
      ∧ tr.filterMap Deed.sent = [] := by
  by_cases hfatal : ∃ e, outcome = .error e ∧ e.isFatal
  · obtain ⟨e, rfl, he⟩ := hfatal
    simp only [Stage.afterHandOff, Channel.releaseIfFatal, he, if_true]
    have hunlocked : (shared.move t c (.failed cookie)).Unlocked :=
      .move hfree fun _ _ heq => by cases heq
    have hletGo := SharedChannel.Step.letGo (SharedChannel.stage_move ..) hunlocked
    rw [SharedChannel.move_move, SharedChannel.channel_move] at hletGo
    have hrelease : (c.release cookie).2 = (c.vacateIf cookie).2.shutDown? (c.vacateIf cookie).1 :=
      rfl
    rw [hrelease]
    cases hprevious : (c.vacateIf cookie).1 with
    | none =>
      rw [hprevious] at hletGo
      exact ⟨_, .single (step_pass hletGo rfl .letGo), rfl⟩
    | some connection =>
      rw [hprevious] at hletGo
      have hshutDown := SharedChannel.Step.shutDown
        (s := shared.move t (c.vacateIf cookie).2 (.closing connection))
          (SharedChannel.stage_move ..)
      rw [SharedChannel.move_move] at hshutDown
      exact ⟨_, .cons (step_pass hletGo rfl .letGo) (.single (step_pass hshutDown rfl .shutDown)),
        rfl⟩
  · have hstay : Stage.afterHandOff cookie outcome = .idle
        ∧ c.releaseIfFatal cookie outcome = c := by
      cases outcome with
      | ok => exact ⟨rfl, rfl⟩
      | error e =>
        have he : ¬ e.isFatal := fun he => hfatal ⟨e, rfl, he⟩
        exact ⟨if_neg he, if_neg he⟩
    rw [hstay.1, hstay.2]
    exact ⟨[], .refl, rfl⟩

/-- A record that is to be sent can go through the channel, and then it is known how that went. -/
theorem finishes_sending (s : SharedMonitor) {shared : SharedChannel} (r : EventRecord)
    (hstage : shared.stage t = .idle) (hfree : shared.Unlocked) :
    ∃ tr, Trace Step (s.pass t (.emitting r) shared) tr
      (s.pass t (.settling (shared.channel.send r).1)
        (shared.move t (shared.channel.send r).2 .idle))
      ∧ tr.filterMap Deed.sent = [(shared.channel.send r).1] := by
  have hlook := SharedChannel.Step.look r hstage
  cases hslot : shared.channel.slot with
  | none =>
    rw [hslot] at hlook
    rw [Channel.send_of_slot_eq_none hslot]
    exact ⟨_, .single (step_pass hlook rfl .nobody), rfl⟩
  | some connection =>
    rw [hslot] at hlook
    cases hdeliver : (shared.channel.endpoint connection.consumer).deliver r with
    | mk outcome e =>
    have hhandOff := SharedChannel.Step.handOff (s := shared.move t shared.channel _)
      (SharedChannel.stage_move ..) hdeliver
    rw [SharedChannel.move_move] at hhandOff
    obtain ⟨tr, hrun, hsent⟩ := s.finishes_afterHandOff shared
      (shared.channel.setEndpoint connection.consumer e)
        (fun u _ => hfree u) connection.cookie outcome
    rw [Channel.send_of_slot hslot hdeliver]
    exact ⟨_, .cons (step_pass hlook rfl .found) (.cons (step_pass hhandOff rfl .handOff) hrun),
      congrArg (outcome :: ·) hsent⟩

/-- When the record has gone through the channel, it is counted how that went. -/
theorem finishes_settling (s : SharedMonitor) {shared : SharedChannel} (r : EventRecord)
    (hstage : shared.stage t = .idle) (hfree : shared.Unlocked) :
    ∃ tr, Trace Step (s.pass t (.emitting r) shared) tr
      { s.pass t .idle (shared.move t (shared.channel.send r).2 .idle) with
        counters := s.counters.settle (shared.channel.send r).1 }
      ∧ tr.filterMap Deed.sent = [(shared.channel.send r).1] := by
  obtain ⟨tr, hrun, hsent⟩ := s.finishes_sending r hstage hfree
  have hsettle := @Step.settle
    (s.pass t (.settling (shared.channel.send r).1) (shared.move t (shared.channel.send r).2 .idle))
    t (shared.channel.send r).1 (Function.update_self ..) (SharedChannel.stage_move ..)
  refine ⟨tr ++ [.settle t (shared.channel.send r).1], hrun.tail ?_, ?_⟩
  · simpa [pass, turn] using hsettle
  · rw [List.filterMap_append, hsent]
    rfl

/-- Emitting a record answers how the sending of that record went. -/
theorem finishes_emit (hidle : s.Idle t) (hfree : s.shared.Unlocked) (r : EventRecord) :
    s.Finishes t (s.monitor.emit r).2 fun tr =>
      tr.filterMap Deed.sent = [(s.monitor.emit r).1] := by
  obtain ⟨tr, hrun, hsent⟩ := s.finishes_settling r hidle.2 hfree
  exact ⟨_, .cons (Step.emit r hidle) hrun, hsent⟩

/-- Having an operation observed sends a record exactly if the operation is worth one. -/
theorem finishes_observe (hidle : s.Idle t) (hfree : s.shared.Unlocked) (op : Operation) :
    s.Finishes t (s.monitor.observe op) fun tr =>
      (tr.filterMap Deed.sent).length = op.category.classify.toList.length := by
  have hobserve := Step.observe op hidle
  cases hclass : op.category.classify with
  | none =>
    have hstay : s.shared.move t s.shared.channel .idle = s.shared := by
      rw [← hidle.2, SharedChannel.move, Function.update_eq_self]
    refine ⟨[.observe t op], .single ?_, rfl⟩
    rw [rest, Monitor.channel_observe_of_classify_eq_none _ hclass]
    simpa [Errand.afterSeeing, Monitor.observe, hclass, monitor, hstay, turn] using hobserve
  | some kind =>
    -- counted as seen, then as worth a record, and then as emitting does
    let r := s.reporter.record kind op
    have hclassify :=
      @Step.classify { s.turn t (.seen kind op) with counters := s.counters.observe }
      t kind op (Function.update_self ..)
    obtain ⟨tr, hrun, hsent⟩ := finishes_settling (t := t)
      { s with counters := s.counters.observe.classify } r hidle.2 hfree
    refine ⟨.observe t op :: .classify t r :: tr, .cons ?_ (.cons hclassify ?_),
      congrArg List.length hsent⟩
    · simpa [Errand.afterSeeing, hclass] using hobserve
    · simpa [rest, Monitor.observe, hclass, monitor, turn, pass, Monitor.emit, Monitor.send, r]
        using hrun

end SharedMonitor

end FileActivity
