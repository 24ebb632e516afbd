/-
# The life of a session

Both kinds of session are registered, started and stopped in the same way, each call checking
the state before it changes anything.  So a call out of order leaves a session as it was, and no
call that is refused can put another receiver in the place of the one that was registered.

Main statement: `sessions_in_order`.
-/
import FileActivity.Proofs.Telemetry.Polls

namespace FileActivity

variable {κ σ : Type}

/-! ## Calls -/

/-- A call that moves a session of either kind on. -/
inductive LifeCall (κ : Type) where
  | register (filter : TraceFilter) (receiver : κ)
  | start
  | stop

/-- A call of a session that is polled. -/
inductive SessionCall (κ : Type) where
  | life (call : LifeCall κ)
  /-- A poll, and what the scan for it gives. -/
  | poll (scan : Except Error Processes)

/-- The answer to a call. -/
inductive SessionAnswer where
  | life (answer : Except Error Unit)
  | poll (answer : Except Error Nat)

/-- The state that a call asks for.  A session may be stopped in any state. -/
def LifeCall.required : LifeCall κ → Option SessionState
  | register _ _ => some .idle
  | start => some .registered
  | stop => none

/-- The state that a call leads to. -/
def LifeCall.reached : LifeCall κ → SessionState
  | register _ _ => .registered
  | start => .running
  | stop => .stopped

namespace SessionCall

/-- The state that a call asks for. -/
def required : SessionCall κ → Option SessionState
  | life call => call.required
  | poll _ => some .running

/-- The answer to a call that fails. -/
def refused : SessionCall κ → Error → SessionAnswer
  | life _, e => .life (.error e)
  | poll _, e => .poll (.error e)

/-- The call, unless it is a poll. -/
def life? : SessionCall κ → Option (LifeCall κ)
  | life call => some call
  | poll _ => none

end SessionCall

/-- The answer, unless it is one to a poll. -/
def SessionAnswer.life? : SessionAnswer → Option (Except Error Unit)
  | life answer => some answer
  | poll _ => none

/-! ## Calls step by step -/

/-- Steps that change a session.  What they have changed when one of them fails stays changed. -/
abbrev SessionSteps (σ α : Type) := ExceptT Error (StateM σ) α

/-- Takes steps. -/
def SessionSteps.take (steps : SessionSteps σ Unit) (s : σ) : Except Error Unit × σ :=
  (steps.run.run s).run

/-- The answer and the session if a call either succeeds or changes nothing. -/
def settled (s : σ) : Except Error σ → Except Error Unit × σ
  | .error e => (.error e, s)
  | .ok s' => (.ok (), s')

namespace InertSession

/-- The steps of a call, one field after another. -/
def steps : LifeCall κ → SessionSteps (InertSession κ) Unit
  | .register filter receiver => do
    -- the state is checked before anything is taken over
    (← get).state.require .idle
    modify fun s => { s with filter }
    modify fun s => { s with receiver := some receiver }
    modify fun s => { s with state := .registered }
  | .start => do
    (← get).state.require .registered
    modify fun s => { s with state := .running }
  | .stop => do
    modify fun s => { s with receiver := none }
    modify fun s => { s with state := .stopped }

/-- What a call makes of a session. -/
def call : LifeCall κ → InertSession κ → Except Error (InertSession κ)
  | .register filter receiver, s => s.register filter receiver
  | .start, s => s.start
  | .stop, s => .ok s.stop

theorem take_steps (call : LifeCall κ) (s : InertSession κ) :
    (steps call).take s = settled s (s.call call) := by
  obtain ⟨state, filter, receiver⟩ := s
  cases call <;> cases state <;> rfl

end InertSession

namespace PollingSession

/-- The steps of a call, one field after another. -/
def steps : LifeCall κ → SessionSteps (PollingSession κ) Unit
  | .register filter receiver => do
    (← get).state.require .idle
    modify fun s => { s with filter }
    modify fun s => { s with receiver := some receiver }
    modify fun s => { s with state := .registered }
  | .start => do
    (← get).state.require .registered
    modify fun s => { s with known := [] }
    modify fun s => { s with seeded := false }
    modify fun s => { s with state := .running }
  | .stop => do
    modify fun s => { s with receiver := none }
    modify fun s => { s with known := [] }
    modify fun s => { s with state := .stopped }

/-- What a call makes of a session. -/
def call : LifeCall κ → PollingSession κ → Except Error (PollingSession κ)
  | .register filter receiver, s => s.register filter receiver
  | .start, s => s.start
  | .stop, s => .ok s.stop

theorem take_steps (call : LifeCall κ) (s : PollingSession κ) :
    (steps call).take s = settled s (s.call call) := by
  obtain ⟨state, filter, receiver, known, seeded⟩ := s
  cases call <;> cases state <;> rfl

end PollingSession

/-! ## Order -/

namespace InertSession

variable {s : InertSession κ} {c : LifeCall κ}

/-- A call that the state does not allow is refused, and says which state it would need. -/
theorem call_of_ne {expected : SessionState} (hrequired : c.required = some expected)
    (hne : s.state ≠ expected) :
    s.call c = .error (.traceSessionState expected.name s.state.name) := by
  have hrefuse : s.state.require expected
      = .error (.traceSessionState expected.name s.state.name) := if_neg hne
  cases c with
  | register filter receiver =>
    cases hrequired
    rw [call, register, hrefuse]
    rfl
  | start =>
    cases hrequired
    rw [call, start, hrefuse]
    rfl
  | stop => cases hrequired

/-- A call that the state allows succeeds and leads where it should. -/
theorem call_of_eq (hrequired : ∀ expected, c.required = some expected → s.state = expected) :
    ∃ s', s.call c = .ok s' ∧ s'.state = c.reached := by
  cases c with
  | register filter receiver =>
    have hidle : s.state.require .idle = .ok () := if_pos (hrequired _ rfl)
    exact ⟨_, by rw [call, register, hidle]; rfl, rfl⟩
  | start =>
    have hregistered : s.state.require .registered = .ok () := if_pos (hrequired _ rfl)
    exact ⟨_, by rw [call, start, hregistered]; rfl, rfl⟩
  | stop => exact ⟨_, rfl, rfl⟩

/-- A call in order succeeds and leads to its state. -/
theorem take_of_eq (hrequired : ∀ expected, c.required = some expected → s.state = expected) :
    ∃ s', (steps c).take s = (.ok (), s') ∧ s'.state = c.reached := by
  obtain ⟨s', hcall, hreached⟩ := call_of_eq hrequired
  exact ⟨s', by rw [take_steps, hcall]; rfl, hreached⟩

end InertSession

namespace PollingSession

/-- The session that reports nothing and has come as far. -/
def silent (s : PollingSession κ) : InertSession κ := ⟨s.state, s.filter, s.receiver⟩

/-- **Both kinds of session** do the same on a call. -/
theorem call_silent (c : LifeCall κ) (s : PollingSession κ) :
    s.silent.call c = (s.call c).map silent := by
  obtain ⟨state, filter, receiver, known, seeded⟩ := s
  cases c <;> cases state <;> rfl

variable {s : PollingSession κ} {c : LifeCall κ}

theorem call_of_ne {expected : SessionState} (hrequired : c.required = some expected)
    (hne : s.state ≠ expected) :
    s.call c = .error (.traceSessionState expected.name s.state.name) := by
  have hsilent : s.silent.call c = .error (.traceSessionState expected.name s.state.name) :=
    InertSession.call_of_ne hrequired hne
  rw [call_silent] at hsilent
  cases hcall : s.call c with
  | error e =>
    rw [hcall] at hsilent
    cases hsilent
    rfl
  | ok s' =>
    rw [hcall] at hsilent
    cases hsilent

theorem call_of_eq (hrequired : ∀ expected, c.required = some expected → s.state = expected) :
    ∃ s', s.call c = .ok s' ∧ s'.state = c.reached := by
  obtain ⟨silent', hsilent, hreached⟩ := InertSession.call_of_eq (s := s.silent) hrequired
  rw [call_silent] at hsilent
  cases hcall : s.call c with
  | error e =>
    rw [hcall] at hsilent
    cases hsilent
  | ok s' =>
    rw [hcall] at hsilent
    cases hsilent
    exact ⟨s', rfl, hreached⟩

end PollingSession

/-! ## One call -/

namespace PollingSession

/-- Answers a call of a session that is watched. -/
def answer : SessionCall κ → Watched κ → SessionAnswer × Watched κ
  | .life call, w =>
    let (answer, session) := (steps call).take w.session
    (.life answer, { w with session })
  | .poll scan, w =>
    let (answer, w) := watch scan w
    (.poll answer, w)

theorem answer_life (c : LifeCall κ) (w : Watched κ) :
    answer (.life c) w = match w.session.call c with
    | .error e => (.life (.error e), w)
    | .ok s => (.life (.ok ()), { w with session := s }) := by
  rw [answer, take_steps]
  cases w.session.call c <;> rfl

theorem answer_poll (scan : Except Error Processes) (w : Watched κ) :
    answer (.poll scan) w = match w.session.poll scan with
      | .error e => (.poll (.error e), w)
      | .ok (new, s) => (.poll (.ok new.length), ⟨s, w.calls ++ new⟩) := by
  rw [answer, watch_eq]
  cases w.session.poll scan <;> rfl

theorem poll_of_ne (scan : Except Error Processes) {s : PollingSession κ}
    (hne : s.state ≠ .running) :
    s.poll scan = .error (.traceSessionState "running" s.state.name) := by
  have hrefuse : s.state.require .running = .error (.traceSessionState "running" s.state.name) :=
    if_neg hne
  rw [poll, hrefuse]
  rfl

theorem poll_error (e : Error) {s : PollingSession κ} (hrunning : s.state = .running) :
    s.poll (.error e) = .error e := by
  have hrequire : s.state.require .running = .ok () := if_pos hrunning
  rw [poll, hrequire]
  rfl

/-- A scan that comes through is remembered, and only the receiver of the session is called. -/
theorem poll_ok (ps : Processes) {s : PollingSession κ} (hrunning : s.state = .running) :
    ∃ new, s.poll (.ok ps) = .ok (new, { s with known := ps.map (·.pid), seeded := true })
      ∧ ∀ e ∈ new, s.receiver = some e.1 ∧ s.filter.contains .process = true := by
  obtain ⟨state, filter, receiver, known, seeded⟩ := s
  cases hrunning
  cases receiver with
  | none => exact ⟨[], rfl, fun e he => absurd he List.not_mem_nil⟩
  | some receiver =>
    cases hfilter : filter.contains .process with
    | false =>
      refine ⟨[], ?_, fun e he => absurd he List.not_mem_nil⟩
      simp [poll, hfilter, bind, Except.bind, pure, Except.pure]
    | true =>
      refine ⟨((appeared ⟨.running, filter, some receiver, known, seeded⟩ ps).flatMap
        ProcessEntry.events).map (receiver, ·), ?_, fun e he => ?_⟩
      · simp only [poll, hfilter, bind, Except.bind, pure, Except.pure, SessionState.require_self,
          if_true]
      · obtain ⟨event, -, rfl⟩ := List.mem_map.mp he
        exact ⟨rfl, rfl⟩

/-- A call in order succeeds and leads to its state. -/
theorem answer_life_of_eq {c : LifeCall κ} {w : Watched κ}
    (hrequired : ∀ expected, c.required = some expected → w.session.state = expected) :
    ∃ s', answer (.life c) w = (.life (.ok ()), { w with session := s' })
      ∧ s'.state = c.reached := by
  obtain ⟨s', hcall, hreached⟩ := call_of_eq hrequired
  exact ⟨s', by rw [answer_life, hcall], hreached⟩

/-- A poll in order fails as its scan does, or takes note of the scan. -/
theorem answer_poll_of_running {w : Watched κ} (hrunning : w.session.state = .running) :
    (∀ e, answer (.poll (.error e)) w = (.poll (.error e), w))
    ∧ ∀ ps, ∃ n w', answer (.poll (.ok ps)) w = (.poll (.ok n), w')
      ∧ w'.session.silent = w.session.silent := by
  refine ⟨fun e => by rw [answer_poll, poll_error e hrunning], fun ps => ?_⟩
  obtain ⟨new, hpoll, -⟩ := poll_ok ps hrunning
  refine ⟨new.length, ⟨{ w.session with known := ps.map (·.pid), seeded := true }, w.calls ++ new⟩,
    ?_, rfl⟩
  rw [answer_poll, hpoll]

/-- **What a poll can do**: nothing at all, or take note of a scan that came through and call
the receiver. -/
theorem answer_poll_cases (scan : Except Error Processes) (w : Watched κ) :
    (∃ e, answer (.poll scan) w = (.poll (.error e), w))
    ∨ ∃ ps new, scan = .ok ps ∧ w.session.state = .running
      ∧ answer (.poll scan) w = (.poll (.ok new.length),
          ⟨{ w.session with known := ps.map (·.pid), seeded := true }, w.calls ++ new⟩)
      ∧ ∀ e ∈ new, w.session.receiver = some e.1 ∧ w.session.filter.contains .process = true := by
  by_cases hrunning : w.session.state = .running
  · cases scan with
    | error e => exact .inl ⟨e, by rw [answer_poll, poll_error e hrunning]⟩
    | ok ps =>
      obtain ⟨new, hpoll, hnew⟩ := poll_ok ps hrunning
      exact .inr ⟨ps, new, rfl, hrunning, by rw [answer_poll, hpoll], hnew⟩
  · exact .inl ⟨_, by rw [answer_poll, poll_of_ne scan hrunning]⟩

/-- A poll leaves the state, the filter and the receiver alone. -/
theorem silent_answer_poll (scan : Except Error Processes) (w : Watched κ) :
    (answer (.poll scan) w).2.session.silent = w.session.silent := by
  rcases answer_poll_cases scan w with ⟨e, hanswer⟩ | ⟨ps, new, -, -, hanswer, -⟩ <;> rw [hanswer]
  rfl

/-- Without its reports a polling session is an inert one, call by call. -/
theorem take_silent (c : LifeCall κ) (w : Watched κ) : ∃ a, (answer (.life c) w).1 = .life a
    ∧ (InertSession.steps c).take w.session.silent
      = (a, (answer (.life c) w).2.session.silent) := by
  rw [answer_life, InertSession.take_steps, call_silent]
  cases w.session.call c with
  | error e => exact ⟨_, rfl, rfl⟩
  | ok s => exact ⟨_, rfl, rfl⟩

end PollingSession

/-! ## Calls in turn -/

/-- The calls of a new session that reports nothing. -/
def InertSession.run (calls : List (LifeCall κ)) : List (Except Error Unit) × InertSession κ :=
  inTurn (fun call => (steps call).take) calls {}

/-- The calls of a new session that is polled. -/
def PollingSession.run (calls : List (SessionCall κ)) : List SessionAnswer × Watched κ :=
  inTurn answer calls { session := {} }

/-- The calls other than polls. -/
def lifeCalls (calls : List (SessionCall κ)) : List (LifeCall κ) :=
  calls.filterMap SessionCall.life?

/-- The answers to the calls other than polls. -/
def lifeAnswers (answers : List SessionAnswer) : List (Except Error Unit) :=
  answers.filterMap SessionAnswer.life?

/-- Whether a call was one to register, and succeeded. -/
def isRegistered : LifeCall κ × Except Error Unit → Bool
  | (.register _ _, .ok ()) => true
  | _ => false

/-- Whether a call was one to start, and succeeded. -/
def isStarted : LifeCall κ × Except Error Unit → Bool
  | (.start, .ok ()) => true
  | _ => false

/-- **A simulation**: whatever a session that is polled has seen, the calls between its polls
have the same answers as those of a session that reports nothing, and lead equally far. -/
theorem inTurn_silent (calls : List (SessionCall κ)) (w : Watched κ) :
    inTurn (fun call => (InertSession.steps call).take) (lifeCalls calls) w.session.silent
      = (lifeAnswers (inTurn PollingSession.answer calls w).1,
          (inTurn PollingSession.answer calls w).2.session.silent) := by
  induction calls generalizing w with
  | nil => rfl
  | cons call calls ih =>
    have hrest := ih (PollingSession.answer call w).2
    rw [inTurn]
    cases call with
    | life c =>
      obtain ⟨a, hanswer, hsilent⟩ := PollingSession.take_silent c w
      have hcalls : lifeCalls (.life c :: calls) = c :: lifeCalls calls := rfl
      rw [hcalls, inTurn, hsilent, hrest, hanswer]
      rfl
    | poll scan =>
      have hcalls : lifeCalls (.poll scan :: calls) = lifeCalls calls := rfl
      -- the other session does not see the poll, and this one stays as far as it has come
      obtain ⟨a, hanswer⟩ : ∃ a, (PollingSession.answer (.poll scan) w).1 = .poll a := ⟨_, rfl⟩
      rw [PollingSession.silent_answer_poll] at hrest
      rw [hcalls, hrest, hanswer]
      rfl

namespace InertSession

/-- A call either fails and changes nothing, or it was in order and moves the session on. -/
theorem take_cases (c : LifeCall κ) (s : InertSession κ) :
    (∃ e, (steps c).take s = (.error e, s))
    ∨ (∀ expected, c.required = some expected → s.state = expected)
      ∧ ∃ s', (steps c).take s = (.ok (), s') ∧ s'.state = c.reached := by
  by_cases horder : ∀ expected, c.required = some expected → s.state = expected
  · exact .inr ⟨horder, take_of_eq horder⟩
  · push Not at horder
    obtain ⟨expected, hrequired, hne⟩ := horder
    exact .inl ⟨_, by rw [take_steps, call_of_ne hrequired hne]; rfl⟩

/-- Calls of a kind that succeed only where some are left, and leave fewer. -/
theorem countP_run_le (counts : LifeCall κ × Except Error Unit → Bool) (left : SessionState → Nat)
    (hfailed : ∀ c e, counts (c, .error e) = false)
    (hdone : ∀ c state, (∀ expected, c.required = some expected → state = expected) →
      (if counts (c, .ok ()) then 1 else 0) + left c.reached ≤ left state)
    (calls : List (LifeCall κ)) : (calls.zip (run calls).1).countP counts ≤ left .idle := by
  have hbound :=
    countP_inTurn_le (fun c : LifeCall κ => (steps c).take) counts (fun s => left s.state)
    (fun c s => ?step) calls {}
  · exact Nat.le_trans (Nat.le_add_right _ _) hbound
  · rcases take_cases c s with ⟨e, htake⟩ | ⟨horder, s', htake, hreached⟩
    · rw [htake, hfailed]
      exact Nat.le_of_eq (Nat.zero_add _)
    · rw [htake, hreached]
      exact hdone c s.state horder

theorem countP_isRegistered_le (calls : List (LifeCall κ)) :
    (calls.zip (run calls).1).countP isRegistered ≤ 1 := by
  -- a session can be registered as long as it is idle
  apply countP_run_le isRegistered fun state => if state = .idle then 1 else 0
  · intro c e
    cases c <;> rfl
  · intro c state horder
    cases c with
    | register filter receiver =>
      rw [horder .idle rfl]
      exact Nat.le_refl 1
    | start => exact Nat.zero_le _
    | stop => exact Nat.zero_le _

theorem countP_isStarted_le (calls : List (LifeCall κ)) :
    (calls.zip (run calls).1).countP isStarted ≤ 1 := by
  -- and it can be started as long as it has not run
  apply countP_run_le isStarted fun state => if state = .idle ∨ state = .registered then 1 else 0
  · intro c e
    cases c <;> rfl
  · intro c state horder
    cases c with
    | register filter receiver =>
      rw [horder .idle rfl]
      exact Nat.le_refl 1
    | start =>
      rw [horder .registered rfl]
      exact Nat.le_refl 1
    | stop => exact Nat.zero_le _

end InertSession

/-! ## Whose calls -/

/-- The filter and the receiver of a call that was one to register, and succeeded. -/
def grant? : LifeCall κ × Except Error Unit → Option (TraceFilter × κ)
  | (.register filter receiver, .ok ()) => some (filter, receiver)
  | _ => none

/-- The filters and the receivers that were registered. -/
def granted (calls : List (LifeCall κ)) (answers : List (Except Error Unit)) :
    List (TraceFilter × κ) :=
  (calls.zip answers).filterMap grant?

theorem length_granted (calls : List (LifeCall κ)) (answers : List (Except Error Unit)) :
    (granted calls answers).length = (calls.zip answers).countP isRegistered := by
  rw [granted, List.length_filterMap_eq_countP]
  congr 1
  funext ⟨c, a⟩
  cases c <;> cases a <;> rfl

/-- Only a call to register gives a session a receiver. -/
theorem PollingSession.receiver_call {c : LifeCall κ} {s s' : PollingSession κ}
    (hcall : s.call c = .ok s') {r : κ} (hr : s'.receiver = some r) :
    grant? (c, .ok ()) = some (s'.filter, r) ∨ s.receiver = some r ∧ s'.filter = s.filter := by
  obtain ⟨state, filter, receiver, known, seeded⟩ := s
  cases c with
  | register filter receiver =>
    cases state <;> cases hcall
    cases hr
    exact .inl rfl
  | start =>
    cases state <;> cases hcall
    exact .inr ⟨hr, rfl⟩
  | stop =>
    cases hcall
    cases hr

/-- The receiver of a session and those that were called are among those given, the latter
together with a filter that asks for processes. -/
structure Owned (given : List (TraceFilter × κ)) (w : Watched κ) : Prop where
  receiver : ∀ r, w.session.receiver = some r → (w.session.filter, r) ∈ given
  calls : ∀ e ∈ w.calls, ∃ filter, (filter, e.1) ∈ given ∧ filter.contains .process = true

namespace Owned

variable {given : List (TraceFilter × κ)} {w : Watched κ}

theorem append (h : Owned given w) (more : List (TraceFilter × κ)) : Owned (given ++ more) w where
  receiver := fun r hr => List.mem_append_left _ (h.receiver r hr)
  calls := fun e he => (h.calls e he).imp fun _ hfilter =>
    ⟨List.mem_append_left _ hfilter.1, hfilter.2⟩

theorem life (h : Owned given w) (c : LifeCall κ) :
    ∃ a, (PollingSession.answer (.life c) w).1 = .life a
    ∧ Owned (given ++ (grant? (c, a)).toList) (PollingSession.answer (.life c) w).2 := by
  rw [PollingSession.answer_life]
  cases hcall : w.session.call c with
  | error e => exact ⟨_, rfl, h.append _⟩
  | ok s =>
    refine ⟨_, rfl, fun r hr => ?_, (h.append _).calls⟩
    rcases PollingSession.receiver_call hcall hr with hgrant | ⟨hold, hfilter⟩
    · rw [hgrant]
      exact List.mem_append_right _ List.mem_cons_self
    · rw [hfilter]
      exact List.mem_append_left _ (h.receiver r hold)

theorem poll (h : Owned given w) (scan : Except Error Processes) :
    Owned given (PollingSession.answer (.poll scan) w).2 := by
  rcases PollingSession.answer_poll_cases scan w with ⟨e, hanswer⟩ | ⟨ps, new, -, -, hanswer, hnew⟩
  · rw [hanswer]
    exact h
  · rw [hanswer]
    refine ⟨h.receiver, fun e he => ?_⟩
    rcases List.mem_append.mp he with hbefore | hin
    · exact h.calls e hbefore
    · obtain ⟨hreceiver, hfilter⟩ := hnew e hin
      exact ⟨_, h.receiver e.1 hreceiver, hfilter⟩

/-- Whatever the calls, a receiver gets what it was granted. -/
theorem after (h : Owned given w) (calls : List (SessionCall κ)) :
    Owned (given ++ granted (lifeCalls calls)
      (lifeAnswers (inTurn PollingSession.answer calls w).1))
      (inTurn PollingSession.answer calls w).2 := by
  induction calls generalizing given w with
  | nil => exact h.append _
  | cons call calls ih =>
    cases call with
    | life c =>
      obtain ⟨a, hanswer, hnext⟩ := h.life c
      have hrest := ih hnext
      rw [inTurn, hanswer]
      have hgranted : ∀ answers, granted (lifeCalls (.life c :: calls))
          (lifeAnswers (.life a :: answers))
          = (grant? (c, a)).toList ++ granted (lifeCalls calls) (lifeAnswers answers) := by
        intro answers
        have hzip : (lifeCalls (.life c :: calls)).zip (lifeAnswers (.life a :: answers))
            = (c, a) :: (lifeCalls calls).zip (lifeAnswers answers) := rfl
        rw [granted, hzip, List.filterMap_cons]
        cases grant? (c, a) <;> rfl
      rw [hgranted, ← List.append_assoc]
      exact hrest
    | poll scan => exact ih (h.poll scan)

end Owned

/-! ## What is kept -/

/-- Calls out of order: whatever asks for one state and finds another is refused, with both of
their names, and changes nothing. -/
def KeepsOrder {α ω : Type} (required : α → Option SessionState) (state : σ → SessionState)
    (refused : α → Error → ω) (act : α → σ → ω × σ) : Prop :=
  ∀ a s expected, required a = some expected → state s ≠ expected →
    act a s = (refused a (.traceSessionState expected.name (state s).name), s)

theorem InertSession.keepsOrder : KeepsOrder LifeCall.required state (fun _ e => .error e)
    fun c : LifeCall κ => (steps c).take := by
  intro c s expected hrequired hne
  dsimp only
  rw [take_steps, call_of_ne hrequired hne]
  rfl

namespace PollingSession

theorem keepsOrder :
    KeepsOrder (σ := Watched κ) SessionCall.required
      (·.session.state) SessionCall.refused answer := by
  intro call w expected hrequired hne
  cases call with
  | life c =>
    rw [answer_life, call_of_ne hrequired hne]
    rfl
  | poll scan =>
    cases hrequired
    rw [answer_poll, poll_of_ne scan hne]
    rfl

/-- A receiver is called by a poll of a running session only, and it is the receiver of that
session. -/
theorem calls_answer (call : SessionCall κ) (w : Watched κ) :
    ∃ new, (answer call w).2.calls = w.calls ++ new
      ∧ ∀ e ∈ new, (∃ ps, call = .poll (.ok ps)) ∧ w.session.state = .running
        ∧ w.session.receiver = some e.1 := by
  have hnone : ∃ new, w.calls = w.calls ++ new ∧ ∀ e ∈ new,
      (∃ ps, call = .poll (.ok ps)) ∧ w.session.state = .running ∧ w.session.receiver = some e.1 :=
    ⟨[], (List.append_nil _).symm, fun e he => absurd he List.not_mem_nil⟩
  cases call with
  | life c =>
    rw [answer_life]
    cases w.session.call c <;> exact hnone
  | poll scan =>
    rcases answer_poll_cases scan w with ⟨e, hanswer⟩ | ⟨ps, new, rfl, hrunning, hanswer, hnew⟩
    · rw [hanswer]
      exact hnone
    · rw [hanswer]
      exact ⟨new, rfl, fun e he => ⟨⟨ps, rfl⟩, hrunning, (hnew e he).1⟩⟩

/-- A session that has stopped stays so, and reports nothing more. -/
theorem answer_of_stopped (call : SessionCall κ) {w : Watched κ}
    (hstopped : w.session.state = .stopped) :
    (answer call w).2.session.state = .stopped ∧ (answer call w).2.calls = w.calls := by
  have hrefused : ∀ expected, call.required = some expected → SessionState.stopped ≠ expected →
      (answer call w).2.session.state = .stopped ∧ (answer call w).2.calls = w.calls := by
    intro expected hrequired hne
    rw [keepsOrder call w expected hrequired fun heq => hne (hstopped.symm.trans heq)]
    exact ⟨hstopped, rfl⟩
  cases call with
  | life c =>
    cases c with
    | register filter receiver => exact hrefused .idle rfl (by decide)
    | start => exact hrefused .registered rfl (by decide)
    | stop => exact ⟨rfl, rfl⟩
  | poll scan => exact hrefused .running rfl (by decide)

/-- A session that is stopped stays so, and calls nobody. -/
theorem inTurn_of_stopped (calls : List (SessionCall κ)) {w : Watched κ}
    (hstopped : w.session.state = .stopped) :
    (inTurn answer calls w).2.session.state = .stopped
      ∧ (inTurn answer calls w).2.calls = w.calls := by
  apply inTurn_keeps (p := fun after : Watched κ => after.session.state = .stopped
    ∧ after.calls = w.calls)
  · rintro call after ⟨hafter, hcalls⟩
    obtain ⟨hnext, hsame⟩ := answer_of_stopped call hafter
    exact ⟨hnext, hsame.trans hcalls⟩
  · exact ⟨hstopped, rfl⟩

/-- After any calls, a poll of a session that was stopped is refused. -/
theorem answer_poll_of_stopped (calls : List (SessionCall κ)) {w : Watched κ}
    (hstopped : w.session.state = .stopped) (scan : Except Error Processes) :
    (answer (.poll scan) (inTurn answer calls w).2).1
      = .poll (.error (.traceSessionState "running" "stopped")) := by
  have hafter := (inTurn_of_stopped calls hstopped).1
  have hnot : (inTurn answer calls w).2.session.state ≠ .running := fun hrunning => by
    cases hafter.symm.trans hrunning
  rw [keepsOrder (.poll scan) _ .running rfl hnot]
  dsimp only
  rw [hafter]
  rfl

end PollingSession

theorem InertSession.inTurn_of_stopped (calls : List (LifeCall κ)) {s : InertSession κ}
    (hstopped : s.state = .stopped) :
    (inTurn (fun c => (steps c).take) calls s).2.state = .stopped := by
  apply inTurn_keeps (p := fun after : InertSession κ => after.state = .stopped) _ calls hstopped
  intro c after hafter
  rcases take_cases c after with ⟨e, htake⟩ | ⟨horder, s', htake, hreached⟩
  · rw [htake]
    exact hafter
  · rw [htake, hreached]
    -- of the calls that lead elsewhere none is in order
    cases c with
    | register filter receiver => cases hafter.symm.trans (horder .idle rfl)
    | start => cases hafter.symm.trans (horder .registered rfl)
    | stop => rfl

/-! ## The whole -/

/-- New sessions of both kinds have equal answers to the same calls, and come equally far. -/
theorem run_lifeCalls (calls : List (SessionCall κ)) : InertSession.run (lifeCalls calls)
    = (lifeAnswers (PollingSession.run calls).1, (PollingSession.run calls).2.session.silent) :=
  inTurn_silent calls { session := {} }

/-- At most one call to register a session that is polled succeeds, -/
theorem PollingSession.countP_isRegistered_le (calls : List (SessionCall κ)) :
    ((lifeCalls calls).zip (lifeAnswers (run calls).1)).countP isRegistered ≤ 1 := by
  have hbound := InertSession.countP_isRegistered_le (lifeCalls calls)
  rwa [run_lifeCalls] at hbound

/-- and at most one call to start it. -/
theorem PollingSession.countP_isStarted_le (calls : List (SessionCall κ)) :
    ((lifeCalls calls).zip (lifeAnswers (run calls).1)).countP isStarted ≤ 1 := by
  have hbound := InertSession.countP_isStarted_le (lifeCalls calls)
  rwa [run_lifeCalls] at hbound

/-- A receiver that was called is the only one that was registered. -/
theorem PollingSession.granted_of_mem_calls {calls : List (SessionCall κ)} {e : κ × TelemetryEvent}
    (he : e ∈ (run calls).2.calls) : ∃ filter,
      granted (lifeCalls calls) (lifeAnswers (run calls).1) = [(filter, e.1)]
      ∧ filter.contains .process = true := by
  have hfresh : Owned [] ({ session := {} } : Watched κ) :=
    ⟨fun _ hr => absurd hr.symm (Option.some_ne_none _), fun _ he => absurd he List.not_mem_nil⟩
  obtain ⟨filter, hmem, hfilter⟩ := (hfresh.after calls).calls e he
  obtain ⟨only, honly⟩ : ∃ only, granted (lifeCalls calls) (lifeAnswers (run calls).1)
      = [only] := by
    apply List.length_eq_one_iff.mp
    refine Nat.le_antisymm ?_ (List.length_pos_of_mem hmem)
    rw [length_granted]
    exact countP_isRegistered_le calls
  have hmem : (filter, e.1) ∈ [only] := honly ▸ hmem
  exact ⟨filter, honly.trans (congrArg (fun g => [g]) (List.mem_singleton.mp hmem).symm), hfilter⟩

/-- **Both kinds of session keep to the order of their calls.**  New sessions of both kinds are
given the same calls, and the one that is polled is polled in between.

* They give the same answers and are then in the same state, with the same filter and receiver.
* A call out of order is refused with the state it asks for and the one it finds, and changes
  nothing.
* A call in order succeeds and leads to its state; a poll in order fails only as its scan does,
  and then changes nothing either.
* At most one call to register and at most one call to start succeed.
* Stopping a session again changes nothing.  Once it is stopped it stays so, no receiver is
  called and every poll is refused.
* Receivers are called by polls of a running session only, with the receiver that it has, and
  this is the one of the only call to register that succeeded.
* All this is about the sessions' own calls: field by field, a call does what the session's
  function does, and a poll delivers what the session's poll gives. -/
theorem sessions_in_order (calls : List (SessionCall κ)) :
    (InertSession.run (lifeCalls calls)
      = (lifeAnswers (PollingSession.run calls).1, (PollingSession.run calls).2.session.silent))
    ∧ (KeepsOrder LifeCall.required InertSession.state (fun _ e => .error e)
        (fun c : LifeCall κ => (InertSession.steps c).take)
      ∧ KeepsOrder (σ := Watched κ) SessionCall.required (·.session.state) SessionCall.refused
        PollingSession.answer)
    ∧ ((∀ (c : LifeCall κ) (s : InertSession κ),
        (∀ expected, c.required = some expected → s.state = expected) →
        ∃ s', (InertSession.steps c).take s = (.ok (), s') ∧ s'.state = c.reached)
      ∧ (∀ (c : LifeCall κ) (w : Watched κ),
        (∀ expected, c.required = some expected → w.session.state = expected) →
        ∃ s', PollingSession.answer (.life c) w = (.life (.ok ()), { w with session := s' })
          ∧ s'.state = c.reached)
      ∧ ∀ w : Watched κ, w.session.state = .running →
        (∀ e, PollingSession.answer (.poll (.error e)) w = (.poll (.error e), w))
        ∧ ∀ ps, ∃ n w', PollingSession.answer (.poll (.ok ps)) w = (.poll (.ok n), w')
          ∧ w'.session.silent = w.session.silent)
    ∧ (((lifeCalls calls).zip (lifeAnswers (PollingSession.run calls).1)).countP isRegistered ≤ 1
      ∧ ((lifeCalls calls).zip (lifeAnswers (PollingSession.run calls).1)).countP isStarted ≤ 1)
    ∧ ((∀ s : InertSession κ, s.stop.stop = s.stop
          ∧ (InertSession.steps .stop).take ((InertSession.steps .stop).take s).2
            = (InertSession.steps .stop).take s)
      ∧ (∀ s : PollingSession κ, s.stop.stop = s.stop)
      ∧ (∀ w : Watched κ, PollingSession.answer (.life .stop)
        (PollingSession.answer (.life .stop) w).2
          = PollingSession.answer (.life .stop) w)
      ∧ (∀ s : InertSession κ, s.state = .stopped →
        (inTurn (fun c => (InertSession.steps c).take) (lifeCalls calls) s).2.state = .stopped)
      ∧ ∀ w : Watched κ, w.session.state = .stopped →
        (inTurn PollingSession.answer calls w).2.session.state = .stopped
        ∧ (inTurn PollingSession.answer calls w).2.calls = w.calls
        ∧ ∀ scan, (PollingSession.answer (.poll scan) (inTurn PollingSession.answer calls w).2).1
          = .poll (.error (.traceSessionState "running" "stopped")))
    ∧ (∀ (call : SessionCall κ) (w : Watched κ), ∃ new,
        (PollingSession.answer call w).2.calls = w.calls ++ new
        ∧ ∀ e ∈ new, (∃ ps, call = .poll (.ok ps)) ∧ w.session.state = .running
          ∧ w.session.receiver = some e.1)
    ∧ (∀ e ∈ (PollingSession.run calls).2.calls, ∃ filter,
        granted (lifeCalls calls) (lifeAnswers (PollingSession.run calls).1) = [(filter, e.1)]
        ∧ filter.contains .process = true)
    ∧ (∀ (c : LifeCall κ) (s : InertSession κ),
        (InertSession.steps c).take s = settled s (s.call c))
    ∧ (∀ (c : LifeCall κ) (s : PollingSession κ),
        (PollingSession.steps c).take s = settled s (s.call c))
    ∧ ∀ (scan : Except Error Processes) (w : Watched κ),
        PollingSession.watch scan w = match w.session.poll scan with
          | .error e => (.error e, w)
          | .ok (delivered, after) => (.ok delivered.length, ⟨after, w.calls ++ delivered⟩) := by
  refine ⟨run_lifeCalls calls, ⟨InertSession.keepsOrder, PollingSession.keepsOrder⟩, ?inOrder,
    ?once, ?stop, PollingSession.calls_answer, fun _ => PollingSession.granted_of_mem_calls,
    InertSession.take_steps, PollingSession.take_steps, PollingSession.watch_eq⟩
  case inOrder =>
    exact ⟨fun _ _ => InertSession.take_of_eq, fun _ _ => PollingSession.answer_life_of_eq,
      fun _ => PollingSession.answer_poll_of_running⟩
  case once =>
    exact ⟨PollingSession.countP_isRegistered_le calls, PollingSession.countP_isStarted_le calls⟩
  case stop =>
    refine ⟨fun _ => ⟨rfl, rfl⟩, fun _ => rfl, fun _ => rfl,
      fun _ => InertSession.inTurn_of_stopped _, fun w hstopped => ?_⟩
    obtain ⟨hafter, hcalls⟩ := PollingSession.inTurn_of_stopped calls hstopped
    exact ⟨hafter, hcalls, PollingSession.answer_poll_of_stopped calls hstopped⟩

/-- A session that is polled too early, registered twice, polled while it runs and after it was
stopped. -/
def registeredTwice : List (SessionCall Nat) :=
  let seventh : ProcessEntry := { pid := 7, parent := 1, image := .empty, commandLine := [] }
  [.poll (.ok []), .life (.register { process := true } 1), .life (.register { process := true } 2),
    .life .start, .poll (.ok []), .poll (.ok [seventh]), .life .stop, .poll (.ok []), .life .start]

/-- Only the receiver that was registered first is called, and once for the process that appears. -/
theorem sessions_in_order_registeredTwice : (PollingSession.run registeredTwice).2.calls.length = 1
    ∧ ∀ e ∈ (PollingSession.run registeredTwice).2.calls, e.1 = 1 := by
  refine ⟨by decide, fun e he => ?_⟩
  obtain ⟨filter, hgranted, -⟩ := (sessions_in_order registeredTwice).2.2.2.2.2.2.1 e he
  have hfirst : granted (lifeCalls registeredTwice)
      (lifeAnswers (PollingSession.run registeredTwice).1)
      = [({ process := true }, 1)] := rfl
  exact (congrArg Prod.snd (List.singleton_inj.mp (hfirst.symm.trans hgranted))).symm

end FileActivity
