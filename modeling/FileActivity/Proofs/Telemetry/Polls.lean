/-
# What polls report

A session that is polled remembers the processes of the last scan that came through.  Over any
number of polls, failed scans among them, each appearance of a process between two scans that
came through is reported exactly once.

Main statement: `PollingSession.reported`.
-/
import FileActivity.Proofs.InTurn
import FileActivity.Proofs.Text.Utf8
import FileActivity.Telemetry.Session
import Mathlib.Data.List.Count
import Mathlib.Data.List.Nodup

namespace FileActivity

variable {κ : Type}

/-! ## Command lines -/

/-- The bytes that a process shows for its arguments: those of each argument, and a zero byte
behind it. -/
def argumentBytes (args : List String) : List UInt8 :=
  args.flatMap fun arg => Utf8.encode arg.toList ++ [0]

/-- Without a zero byte, all belongs to the part that was begun. -/
theorem cutAtZeros_of_not_mem {cs : List Char} (hcs : '\x00' ∉ cs) (part : List Char) :
    cutAtZeros part cs = [part.reverse ++ cs] := by
  induction cs generalizing part with
  | nil => rw [cutAtZeros, List.append_nil]
  | cons c cs ih =>
    obtain ⟨hc, hcs⟩ := not_or.mp (List.mem_cons.not.mp hcs)
    rw [cutAtZeros, if_neg (Ne.symm hc), ih hcs, List.reverse_cons, List.append_assoc,
      List.singleton_append]

/-- Up to the next zero byte, all belongs to the part that was begun. -/
theorem cutAtZeros_append_zero {cs : List Char} (hcs : '\x00' ∉ cs) (part rest : List Char) :
    cutAtZeros part (cs ++ '\x00' :: rest) = (part.reverse ++ cs) :: cutAtZeros [] rest := by
  induction cs generalizing part with
  | nil => rw [List.nil_append, cutAtZeros, if_pos rfl, List.append_nil]
  | cons c cs ih =>
    obtain ⟨hc, hcs⟩ := not_or.mp (List.mem_cons.not.mp hcs)
    rw [List.cons_append, cutAtZeros, if_neg (Ne.symm hc), ih hcs, List.reverse_cons,
      List.append_assoc, List.singleton_append]

/-- Arguments that each end in a zero byte are cut apart again, and what is behind them is the
last part. -/
theorem cutAtZeros_flatMap_append {args : List String} {last : List Char}
    (hargs : ∀ arg ∈ args, '\x00' ∉ arg.toList) (hlast : '\x00' ∉ last) :
    cutAtZeros [] ((args.flatMap fun arg => arg.toList ++ ['\x00']) ++ last)
      = args.map String.toList ++ [last] := by
  induction args with
  | nil => exact cutAtZeros_of_not_mem hlast []
  | cons arg args ih =>
    obtain ⟨harg, hargs⟩ := List.forall_mem_cons.mp hargs
    rw [List.flatMap_cons, List.append_assoc, List.append_assoc, List.singleton_append,
      cutAtZeros_append_zero harg, ih hargs]
    rfl

/-- The bytes of arguments are those of a text. -/
theorem encode_flatMap_zero (args : List String) :
    Utf8.encode (args.flatMap fun arg => arg.toList ++ ['\x00']) = argumentBytes args := by
  rw [Utf8.encode, List.flatMap_assoc]
  congr 1
  funext arg
  rw [List.flatMap_append]
  rfl

/-- Parts that are not empty are texts that are not empty. -/
theorem filter_map_toList (args : List String) :
    ((args.map String.toList).filter fun cs => !cs.isEmpty).map String.ofList
      = args.filter (· ≠ "") := by
  have hempty : (fun cs : List Char => !cs.isEmpty) ∘ String.toList
      = fun arg : String => decide (arg ≠ "") := by
    funext arg
    rw [Function.comp_apply, Bool.eq_iff_iff, Bool.not_eq_true', List.isEmpty_eq_false_iff,
      decide_eq_true_eq, Ne, String.toList_eq_nil_iff]
  have hsame : String.ofList ∘ String.toList = id := funext fun arg => String.ofList_toList
  rw [List.filter_map, hempty, List.map_map, hsame, List.map_id]

namespace ProcessEntry

variable {p : ProcessEntry}

/-- **The command line of a process** is shown as its arguments with a space between two; an
empty argument does not show.  What is behind the last zero byte counts as one more argument. -/
theorem commandText_eq_join {args : List String} {last : String}
    (hargs : ∀ arg ∈ args, '\x00' ∉ arg.toList) (hlast : '\x00' ∉ last.toList)
    (hline : p.commandLine = argumentBytes args ++ Utf8.encode last.toList) :
    p.commandText = " ".intercalate ((args ++ [last]).filter (· ≠ "")) := by
  rw [commandText, hline, ← encode_flatMap_zero, ← Utf8.encode_append, Utf8.decode?_encode]
  dsimp only
  rw [cutAtZeros_flatMap_append hargs hlast, ← filter_map_toList, List.map_append]
  rfl

/-- Nothing is known of a command line that is no text. -/
theorem commandText_eq_empty (hline : ∀ cs, p.commandLine ≠ Utf8.encode cs) :
    p.commandText = "" := by
  have hnone : Utf8.decode? p.commandLine = none := by
    rw [Option.eq_none_iff_forall_ne_some]
    intro cs hcs
    exact hline cs (Utf8.decode?_eq_some_iff.mp hcs)
  rw [commandText, hnone]

end ProcessEntry

/-! ## One process after another -/

/-- A session that is watched: the session, and the calls of receivers so far. -/
structure Watched (κ : Type) where
  session : PollingSession κ
  calls : List (κ × TelemetryEvent) := []

/-- What a scan has brought so far: the processes that were found, and the events about them. -/
structure Gathered where
  found : List ProcessId := []
  events : List TelemetryEvent := []

namespace PollingSession

/-- Takes note of one more process of a scan. -/
def gather (s : PollingSession κ) (g : Gathered) (p : ProcessEntry) : Gathered where
  found := g.found ++ [p.pid]
  events := if s.seeded && !s.known.contains p.pid then g.events ++ p.events else g.events

/-- Calls a receiver with one event after another. -/
def callEach (receiver : κ) (calls : List (κ × TelemetryEvent)) (events : List TelemetryEvent) :
    List (κ × TelemetryEvent) :=
  events.foldl (fun calls event => calls ++ [(receiver, event)]) calls

/-- Polls a watched session, one process and one call after another.  The answer counts the
events that were delivered. -/
def watch (scan : Except Error Processes) (w : Watched κ) : Except Error Nat × Watched κ :=
  match w.session.state.require .running, scan with
  | .error e, _ => (.error e, w)
  | .ok (), .error e => (.error e, w)
  | .ok (), .ok scan =>
    let gathered := scan.foldl w.session.gather {}
    let after := { w.session with known := gathered.found, seeded := true }
    match after.receiver with
    | none => (.ok 0, ⟨after, w.calls⟩)
    | some receiver =>
      if after.filter.contains .process then
        (.ok gathered.events.length, ⟨after, callEach receiver w.calls gathered.events⟩)
      else (.ok 0, ⟨after, w.calls⟩)

theorem callEach_eq (receiver : κ) (calls : List (κ × TelemetryEvent))
    (events : List TelemetryEvent) :
    callEach receiver calls events = calls ++ events.map (receiver, ·) := by
  induction events generalizing calls with
  | nil => exact (List.append_nil _).symm
  | cons event events ih =>
    rw [callEach, List.foldl_cons, ← callEach, ih, List.append_assoc, List.map_cons,
      List.singleton_append]

theorem appeared_cons (s : PollingSession κ) (p : ProcessEntry) (scan : Processes) :
    s.appeared (p :: scan)
      = if s.seeded && !s.known.contains p.pid then p :: s.appeared scan else s.appeared scan := by
  unfold appeared
  cases s.seeded with
  | false => rfl
  | true =>
    simp only [if_true, Bool.true_and]
    exact List.filter_cons

theorem foldl_gather (s : PollingSession κ) (scan : Processes) (g : Gathered) :
    scan.foldl s.gather g
      = ⟨g.found ++ scan.map (·.pid),
        g.events ++ (s.appeared scan).flatMap ProcessEntry.events⟩ := by
  induction scan generalizing g with
  | nil => cases s.seeded <;> simp [appeared]
  | cons p scan ih =>
    rw [List.foldl_cons, ih, appeared_cons, gather, List.append_assoc, List.map_cons,
      List.singleton_append]
    split
    · rw [List.flatMap_cons, List.append_assoc]
    · rfl

/-- **Watching a poll** adds the calls that the poll makes, and answers with their number. -/
theorem watch_eq (scan : Except Error Processes) (w : Watched κ) :
    watch scan w = match w.session.poll scan with
      | .error e => (.error e, w)
      | .ok (delivered, after) => (.ok delivered.length, ⟨after, w.calls ++ delivered⟩) := by
  unfold watch poll
  cases w.session.state.require .running with
  | error e => rfl
  | ok =>
    cases scan with
    | error e => rfl
    | ok scan =>
      simp only [foldl_gather, callEach_eq, List.nil_append]
      cases w.session.receiver with
      | none => simp [bind, Except.bind, pure, Except.pure]
      | some receiver =>
        cases w.session.filter.contains .process <;> simp [bind, Except.bind, pure, Except.pure]

/-! ## What is to be reported -/

end PollingSession

/-- The events by which a process is announced. -/
def announcement (p : ProcessEntry) : List TelemetryEvent :=
  (if ShadowCopy.isDeletion p.commandText then [.shadowCopyDelete p.pid p.image p.commandText]
    else [])
    ++ [.processCreate p.pid p.parent p.image p.commandText]

theorem announcement_eq (p : ProcessEntry) : p.events = announcement p := by
  rw [ProcessEntry.events, announcement]
  split <;> rfl

/-- What is to be reported about a scan, given the one before it that came through: each process
that was not there before, in the order of the scan.  The first scan is not reported on. -/
def reports (latest : Option Processes) (scan : Processes) : List TelemetryEvent :=
  match latest with
  | none => []
  | some old => (scan.filter fun p => p.pid ∉ old.map (·.pid)).flatMap announcement

/-- The scans that came through. -/
def throughOf (scans : List (Except Error Processes)) : List Processes :=
  scans.filterMap Except.toOption

/-- Whether an event is the creation of a process. -/
def TelemetryEvent.creates (pid : ProcessId) : TelemetryEvent → Bool
  | processCreate p .. => p == pid
  | _ => false

/-- Whether a process is in one scan and not in the one before it. -/
def appears (pid : ProcessId) (scans : Processes × Processes) : Bool :=
  pid ∉ scans.1.map (·.pid) ∧ pid ∈ scans.2.map (·.pid)

/-- Each list element with the next one. -/
def pairsOf (scans : List Processes) : List (Processes × Processes) := scans.zip scans.tail

/-- All that is to be reported about scans, one after another, the latest before them given. -/
def allReports (latest : Option Processes) (scans : List Processes) : List TelemetryEvent :=
  (pairsOf (latest.toList ++ scans)).flatMap fun (old, new) => reports (some old) new

theorem allReports_cons (latest : Option Processes) (scan : Processes) (scans : List Processes) :
    allReports latest (scan :: scans) = reports latest scan ++ allReports (some scan) scans := by
  cases latest <;> rfl

namespace PollingSession

variable {filter : TraceFilter} {receiver : κ}

/-! ## Sessions under way -/

/-- A running session, given the latest scan that came through. -/
def underway (filter : TraceFilter) (receiver : κ) (latest : Option Processes) :
    PollingSession κ where
  state := .running
  filter := filter
  receiver := some receiver
  known := (latest.getD []).map (·.pid)
  seeded := latest.isSome

/-- A session that has been registered and started has seen no scan yet. -/
theorem start_register (filter : TraceFilter) (receiver : κ) :
    (register {} filter receiver).bind start = .ok (underway filter receiver none) := rfl

theorem appeared_underway (latest : Option Processes) (scan : Processes) :
    ((underway filter receiver latest).appeared scan).flatMap ProcessEntry.events
      = reports latest scan := by
  cases latest with
  | none => rfl
  | some old =>
    have hnew : (fun p : ProcessEntry => !(old.map (·.pid)).contains p.pid)
        = fun p : ProcessEntry => decide (p.pid ∉ old.map (·.pid)) := by
      funext p
      rw [List.contains_eq_mem, decide_not]
    rw [appeared, reports, ← hnew, funext announcement_eq]
    rfl

/-- The calls for events, if the filter asks for processes. -/
def callsFor (filter : TraceFilter) (receiver : κ) (events : List TelemetryEvent) :
    List (κ × TelemetryEvent) :=
  if filter.contains .process then events.map (receiver, ·) else []

theorem callsFor_append (events events' : List TelemetryEvent) :
    callsFor filter receiver (events ++ events')
      = callsFor filter receiver events ++ callsFor filter receiver events' := by
  unfold callsFor
  split
  · exact List.map_append
  · rfl

/-- **What a poll does** in a session under way: it delivers what is to be reported, answers
with the number of calls, and remembers the scan. -/
theorem watch_underway (scan : Processes) (latest : Option Processes)
    (calls : List (κ × TelemetryEvent)) :
    watch (.ok scan) ⟨underway filter receiver latest, calls⟩
      = (.ok (callsFor filter receiver (reports latest scan)).length,
          ⟨underway filter receiver (some scan),
            calls ++ callsFor filter receiver (reports latest scan)⟩) := by
  have hreports : ((underway filter receiver latest).appeared scan).flatMap ProcessEntry.events
      = reports latest scan := appeared_underway latest scan
  rw [watch_eq, ← hreports]
  cases hfilter : filter.contains .process with
  | true => simp [callsFor, poll, underway, hfilter, bind, Except.bind, pure, Except.pure]
  | false => simp [callsFor, poll, underway, hfilter, bind, Except.bind, pure, Except.pure]

theorem watch_error (e : Error) (latest : Option Processes) (calls : List (κ × TelemetryEvent)) :
    watch (.error e) ⟨underway filter receiver latest, calls⟩
      = (.error e, ⟨underway filter receiver latest, calls⟩) := rfl

/-! ## Any number of polls -/

/-- A new session that is registered, started and then polled. -/
def watchAll (filter : TraceFilter) (receiver : κ) (scans : List (Except Error Processes)) :
    List (Except Error Nat) × Watched κ :=
  inTurn watch scans ⟨underway filter receiver none, []⟩

/-- After any polls, the session remembers the latest scan that came through, and the calls are
those for what is to be reported about all that came through. -/
theorem inTurn_watch (scans : List (Except Error Processes)) (latest : Option Processes)
    (calls : List (κ × TelemetryEvent)) :
    (inTurn watch scans ⟨underway filter receiver latest, calls⟩).2
      = ⟨underway filter receiver ((throughOf scans).getLast?.or latest),
          calls ++ callsFor filter receiver (allReports latest (throughOf scans))⟩ := by
  -- for every latest scan, since each scan that comes through is the latest one for the next
  induction scans generalizing latest calls with
  | nil =>
    have hnone : allReports latest [] = [] := by cases latest <;> rfl
    rw [throughOf, List.filterMap_nil, hnone, List.getLast?_nil, Option.none_or]
    unfold callsFor
    split <;> simp [inTurn]
  | cons scan scans ih =>
    cases scan with
    | error e =>
      have hthrough : throughOf (.error e :: scans) = throughOf scans := rfl
      rw [inTurn, watch_error, ih, hthrough]
    | ok scan =>
      have hthrough : throughOf (.ok scan :: scans) = scan :: throughOf scans := rfl
      rw [inTurn, watch_underway, ih, hthrough, allReports_cons, callsFor_append, List.append_assoc,
        List.getLast?_cons, Option.some_or]
      cases (throughOf scans).getLast? <;> rfl

/-! ## Counting creations -/

theorem countP_creates (pid : ProcessId) (ps : Processes) :
    (ps.flatMap announcement).countP (·.creates pid) = (ps.map (·.pid)).count pid := by
  induction ps with
  | nil => rfl
  | cons p ps ih =>
    have hone : (announcement p).countP (·.creates pid) = if p.pid == pid then 1 else 0 := by
      unfold announcement
      split <;> simp [TelemetryEvent.creates, List.countP_cons]
    rw [List.flatMap_cons, List.countP_append, ih, hone, List.map_cons, List.count_cons,
      Nat.add_comm]

/-- One pair of scans reports the creation of a process once if it appears there, and not
otherwise. -/
theorem countP_creates_reports (pid : ProcessId) {old new : Processes}
    (hdistinct : (new.map (·.pid)).Nodup) :
    (reports (some old) new).countP (·.creates pid) = if appears pid (old, new) then 1 else 0 := by
  have hnodup : ((new.filter fun p => p.pid ∉ old.map (·.pid)).map (·.pid)).Nodup :=
    hdistinct.sublist (List.filter_sublist.map _)
  have hmem : pid ∈ (new.filter fun p => p.pid ∉ old.map (·.pid)).map (·.pid)
      ↔ appears pid (old, new) := by
    simp only [List.mem_map, List.mem_filter, decide_eq_true_eq, appears]
    constructor
    · rintro ⟨p, ⟨hp, hnew⟩, rfl⟩
      exact ⟨hnew, p, hp, rfl⟩
    · rintro ⟨hnew, p, hp, rfl⟩
      exact ⟨p, ⟨hp, hnew⟩, rfl⟩
  rw [reports, countP_creates]
  split
  · next happears => exact List.count_eq_one_of_mem hnodup (hmem.mpr happears)
  · next happears => exact List.count_eq_zero.mpr (mt hmem.mp happears)

theorem countP_creates_allReports (pid : ProcessId) {scans : List Processes}
    (hdistinct : ∀ scan ∈ scans, (scan.map (·.pid)).Nodup) :
    (allReports none scans).countP (·.creates pid) = (pairsOf scans).countP (appears pid) := by
  -- of each pair only the later scan must not have a process twice
  have hpairs : ∀ pair ∈ pairsOf scans, (pair.2.map (·.pid)).Nodup := by
    rintro ⟨old, new⟩ hpair
    exact hdistinct new (List.mem_of_mem_tail (List.of_mem_zip hpair).2)
  rw [allReports, Option.toList_none, List.nil_append]
  generalize pairsOf scans = pairs at hpairs
  induction pairs with
  | nil => rfl
  | cons pair pairs ih =>
    rw [List.flatMap_cons, List.countP_append, List.countP_cons,
      countP_creates_reports pid (hpairs pair List.mem_cons_self),
      ih fun pair hpair => hpairs pair (List.mem_cons_of_mem _ hpair), Nat.add_comm]

/-- **Each appearance is reported exactly once.**  A new session is registered, started and
polled; each poll is given a scan of the processes or learns that the scan failed.

* A failed scan is answered by its error, and changes nothing.
* A scan that came through is remembered.  If the filter asks for processes, the receiver is
  called with the events that announce the processes that the scan before it did not have, in
  the order of the scan, and with none for the first scan.  The answer is the number of calls.
* If no scan has a process twice, the creation of a process is delivered as often as it is in a
  scan and not in the scan before.
* Without the kind `process` in the filter, the receiver is never called.
* The text in the events, by which deletions of shadow copies are told too, is the arguments of
  the process that are not empty, with a space between two.  It is empty if the bytes of the
  command line are no text. -/
theorem reported (filter : TraceFilter) (receiver : κ) (scans : List (Except Error Processes))
    (hdistinct : ∀ scan, .ok scan ∈ scans → (scan.map (·.pid)).Nodup) :
    (register {} filter receiver).bind start = .ok (watchAll filter receiver []).2.session
    ∧ (∀ before scan after, scans = before ++ scan :: after →
        (∀ e, scan = .error e →
          watch scan (watchAll filter receiver before).2
            = (.error e, (watchAll filter receiver before).2))
        ∧ ∀ ps, scan = .ok ps →
          watch scan (watchAll filter receiver before).2
            = (.ok (callsFor filter receiver (reports (throughOf before).getLast? ps)).length,
                ⟨underway filter receiver (some ps), (watchAll filter receiver before).2.calls
                  ++ callsFor filter receiver (reports (throughOf before).getLast? ps)⟩))
    ∧ (filter.contains .process → ∀ pid,
        (watchAll filter receiver scans).2.calls.countP (·.2.creates pid)
          = (pairsOf (throughOf scans)).countP (appears pid))
    ∧ (filter.contains .process = false → (watchAll filter receiver scans).2.calls = [])
    ∧ ∀ p : ProcessEntry,
        (∀ args last, (∀ arg ∈ args, '\x00' ∉ arg.toList) → '\x00' ∉ last.toList →
          p.commandLine = argumentBytes args ++ Utf8.encode last.toList →
          p.commandText = " ".intercalate ((args ++ [last]).filter (· ≠ "")))
        ∧ ((∀ cs, p.commandLine ≠ Utf8.encode cs) → p.commandText = "") := by
  have hstate : ∀ scans, (watchAll filter receiver scans).2
      = ⟨underway filter receiver (throughOf scans).getLast?,
          callsFor filter receiver (allReports none (throughOf scans))⟩ := by
    intro scans
    rw [watchAll, inTurn_watch, Option.or_none, List.nil_append]
  refine ⟨start_register filter receiver, fun before scan after _ => ⟨?failed, ?through⟩, ?count,
    ?without, fun p => ⟨fun _ _ => ProcessEntry.commandText_eq_join,
      ProcessEntry.commandText_eq_empty⟩⟩
  case failed =>
    rintro e rfl
    rw [hstate before, watch_error]
  case through =>
    rintro ps rfl
    rw [hstate before, watch_underway]
  case count =>
    intro hprocess pid
    rw [hstate scans, callsFor, if_pos hprocess, List.countP_map]
    refine countP_creates_allReports pid fun scan hscan => hdistinct scan ?_
    obtain ⟨answer, hanswer, hok⟩ := List.mem_filterMap.mp hscan
    cases answer with
    | error e => cases hok
    | ok ps => exact Option.some.inj hok ▸ hanswer
  case without =>
    intro hprocess
    rw [hstate scans, callsFor, hprocess]
    rfl

/-- A process that deletes shadow copies. -/
def deleting : ProcessEntry where
  pid := 7
  parent := 1
  image := .empty
  commandLine := argumentBytes ["vssadmin", "", "Delete", "Shadows"]

/-- Scans in which process 7 comes, is still there after a scan that failed, goes, and comes
again. -/
def comingAgain : List (Except Error Processes) :=
  let first : ProcessEntry := { pid := 1, parent := 0, image := .empty, commandLine := [0xff] }
  [.ok [first], .ok [first, deleting], .error (.processInfoUnreadable "busy"),
    .ok [deleting, first], .ok [first], .ok [first, deleting]]

/-- Each time that process 7 comes it is announced, and as one that deletes shadow copies. -/
theorem reported_comingAgain :
    (∀ scan, .ok scan ∈ comingAgain → (scan.map (·.pid)).Nodup)
    ∧ deleting.commandText = "vssadmin Delete Shadows"
    ∧ (watchAll { process := true } () comingAgain).2.calls.map Prod.snd
      = [.shadowCopyDelete 7 .empty "vssadmin Delete Shadows",
          .processCreate 7 1 .empty "vssadmin Delete Shadows",
          .shadowCopyDelete 7 .empty "vssadmin Delete Shadows",
          .processCreate 7 1 .empty "vssadmin Delete Shadows"]
    ∧ (watchAll { process := true } () comingAgain).2.calls.countP (·.2.creates 7) = 2 := by
  have hdistinct : ∀ scan, .ok scan ∈ comingAgain → (scan.map (·.pid)).Nodup := by
    intro scan hscan
    simp only [comingAgain, List.mem_cons, Except.ok.injEq, reduceCtorEq, List.not_mem_nil,
      or_false, false_or] at hscan
    rcases hscan with rfl | rfl | rfl | rfl | rfl <;> decide
  obtain ⟨-, -, hcount, -, htext⟩ := reported { process := true } () comingAgain hdistinct
  refine ⟨hdistinct, ?_, ?_, ?_⟩
  · exact (htext deleting).1 ["vssadmin", "", "Delete", "Shadows"] "" (by decide) (by decide) rfl
  · decide +kernel
  · rw [hcount rfl 7]
    decide

end PollingSession

end FileActivity
