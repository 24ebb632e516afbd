/-
# Printed settings

What is printed for settings that were read is a snapshot of them: read again, on its own or
from a file, it gives the same settings, down to the last field, and so the same text when they
are printed once more.

Main statement: `printed_settings`.
-/
import FileActivity.Program.Commands
import FileActivity.Proofs.Settings.ByKey
import Mathlib

namespace FileActivity

open Toml (Value Entries Sheet)

/-! ## Writing -/

/-- A number is written exactly if it can be counted in a text. -/
theorem writeNat_eq_ok_iff {n : Nat} {p : Toml.Plain} :
    writeNat n = .ok p ↔ Countable n ∧ p = .integer n := by
  rw [writeNat, Countable]
  split
  · next h =>
    rw [Except.ok.injEq, and_iff_right h]
    exact eq_comm
  · next h => exact iff_of_false (fun hok => by cases hok) fun hok => h hok.1

/-- A path is written exactly if it is a text. -/
theorem writePath_eq_ok_iff {path : Path} {p : Toml.Plain} :
    writePath path = .ok p ↔ ∃ t, path = .ofString t ∧ p = .string t := by
  simp only [← Path.toString?_eq_some_iff]
  rw [writePath]
  cases path.toString? with
  | none => simp
  | some t => simp [eq_comm]

/-- A number that a document can hold is a 64-bit word. -/
theorem Countable.lt_wordCount {n : Nat} (h : Countable n) : n < wordCount := by
  rw [Countable, Value.maxInteger] at h
  rw [wordCount, UInt64.size]
  omega

/-- Whole milliseconds are rounded to themselves. -/
theorem roundTo_ofMillis {n : Nat} (h : n < wordCount) :
    (Duration.ofMillis n).roundTo 1000000 = n := by
  have hwhole : (n * 1000000 + 1000000 / 2) / 1000000 = n := by omega
  rw [Duration.roundTo, Duration.ofMillis]
  dsimp only
  rw [hwhole, Nat.mod_eq_of_lt h]

theorem roundTo_ofSeconds {n : Nat} (h : n < wordCount) :
    (Duration.ofSeconds n).roundTo 1000000000 = n := by
  have hwhole : (n * 1000000000 + 1000000000 / 2) / 1000000000 = n := by omega
  rw [Duration.roundTo, Duration.ofSeconds]
  dsimp only
  rw [hwhole, Nat.mod_eq_of_lt h]

/-! ## Reading what was written -/

/-- A number that can be counted is read back. -/
theorem readNat_of_countable {n : Nat} (h : Countable n) (expected : Expected) :
    readNat expected maxCount (.integer n) = .ok n := by
  have hbound : (n : Int) ≤ maxCount := by
    have hlt := h.lt_wordCount
    rw [wordCount, UInt64.size] at hlt
    rw [maxCount, UInt64.size]
    omega
  rw [readNat, if_pos ⟨Int.natCast_nonneg n, hbound⟩, Int.toNat_natCast]

/-- A time in units that can be counted is read back. -/
theorem readTime_of_countable {n : Nat} (h : Countable n) (unit : Nat → Duration) :
    readTime unit (.integer n) = .ok (unit n) := by
  rw [readTime, readNat_of_countable h]
  rfl

/-- A user's number is read back. -/
theorem readUid_toNat (uid : UserId) : readUid (.integer uid.toNat) = .ok uid := by
  have hbound : (uid.toNat : Int) ≤ (UInt32.size - 1 : Nat) := by
    have hlt : uid.toNat < 4294967296 := uid.toNat_lt
    rw [UInt32.size]
    omega
  rw [readUid, readNat, if_pos ⟨Int.natCast_nonneg _, hbound⟩, Int.toNat_natCast]
  exact congrArg Except.ok (UInt32.ofNat_toNat)

/-- A list whose items are read back is read back. -/
theorem readItems_map {α : Type} {read : Value → Except Misfit α} {write : α → Value}
    (h : ∀ a, read (write a) = .ok a) (i : Nat) (as : List α) :
    readItems read i (as.map write) = .ok as := by
  induction as generalizing i with
  | nil => rfl
  | cons a as ih =>
    rw [List.map_cons, readItems, h, ih]
    rfl

/-! ## Sheets and reserved keys -/

/-- No plain value has a reserved key. -/
theorem Toml.Plain.unreserved_toValue (p : Toml.Plain) : p.toValue.Unreserved := by
  cases p with
  | string text => exact .string text
  | integer n => exact .integer n
  | boolean b => exact .boolean b

theorem Toml.Item.unreserved_toValue (item : Toml.Item) : item.toValue.Unreserved := by
  cases item with
  | plain p => exact p.unreserved_toValue
  | list ps =>
    refine .array .bracketed fun v hv => ?_
    obtain ⟨p, -, rfl⟩ := List.mem_map.mp hv
    exact p.unreserved_toValue

/-- A sheet says nothing with a reserved key, if none of its keys is one. -/
theorem Toml.Sheet.unreserved_toEntries {sheet : Sheet}
    (h : ∀ e ∈ sheet, ∀ key ∈ e.2.map Prod.fst, key ≠ wrappedKey ∧ key ≠ labelKey) :
    Toml.Entries.Unreserved sheet.toEntries := by
  intro e he
  obtain ⟨⟨name, items⟩, hmem, rfl⟩ := List.mem_map.mp he
  refine .table (fun e he => ?_) fun e he => ?_
  · obtain ⟨⟨key, item⟩, hitem, rfl⟩ := List.mem_map.mp he
    exact h _ hmem key (List.mem_map_of_mem hitem)
  · obtain ⟨⟨key, item⟩, -, rfl⟩ := List.mem_map.mp he
    exact item.unreserved_toValue

/-! ## The sheet of regular settings -/

/-- The sheet of settings whose path is a text and whose times are whole numbers of their units. -/
def Settings.sheetOf (s : Settings) (path : String) (millis seconds : Nat) : Sheet :=
  [("channel",
    [("socket_path", .plain (.string path)), ("send_timeout", .plain (.integer millis)),
     ("queue_capacity", .plain (.integer s.channel.queueCapacity)),
     ("allowed_uids", .list (s.channel.allowedUids.map fun uid => .integer uid.toNat))]),
   ("entropy", [("preview_budget", .plain (.integer s.preview.budget))]),
   ("quarantine", [("enabled", .plain (.boolean s.quarantine.enabled))]),
   ("telemetry",
    [("enabled", .plain (.boolean s.telemetry.enabled)),
      ("poll_interval", .plain (.integer seconds)),
     ("filter", .list (s.telemetry.filter.map fun kind => .string kind.name))])]

/-- **Settings are written exactly if their path is a text and a document can hold their
numbers.** -/
theorem Settings.toSheet_eq_ok_iff {s : Settings}
    (htimeout : s.channel.sendTimeout.nanos / 1000000 < wordCount) {sheet : Sheet} :
    s.toSheet = .ok sheet ↔ ∃ path, s.channel.socketPath = .ofString path
      ∧ Countable (s.channel.sendTimeout.roundTo 1000000) ∧ Countable s.channel.queueCapacity
      ∧ Countable s.preview.budget ∧ Countable (s.telemetry.pollInterval.roundTo 1000000000)
      ∧ sheet = s.sheetOf path (s.channel.sendTimeout.roundTo 1000000)
          (s.telemetry.pollInterval.roundTo 1000000000) := by
  have hmillis : writeMillis s.channel.sendTimeout
      = writeNat (s.channel.sendTimeout.roundTo 1000000) :=
    if_pos htimeout
  rw [Settings.toSheet, hmillis, writeSeconds]
  simp only [bind_eq_ok_iff, writePath_eq_ok_iff, writeNat_eq_ok_iff, pure, Except.pure,
    Except.ok.injEq]
  constructor
  · rintro ⟨_, ⟨path, hpath, rfl⟩, _, ⟨hmillis, rfl⟩, _, ⟨hcapacity, rfl⟩, _, ⟨hbudget, rfl⟩, _,
      ⟨hseconds, rfl⟩, rfl⟩
    exact ⟨path, hpath, hmillis, hcapacity, hbudget, hseconds, rfl⟩
  · rintro ⟨path, hpath, hmillis, hcapacity, hbudget, hseconds, rfl⟩
    exact ⟨_, ⟨path, hpath, rfl⟩, _, ⟨hmillis, rfl⟩, _, ⟨hcapacity, rfl⟩, _, ⟨hbudget, rfl⟩, _,
      ⟨hseconds, rfl⟩, rfl⟩

section Sheet

variable {s : Settings} {path : String} {millis seconds : Nat}

/-- Settings that `sheetOf` describes: the parts of which a sheet holds a reading. -/
structure Settings.Described (s : Settings) (path : String) (millis seconds : Nat) : Prop where
  path : s.channel.socketPath = .ofString path
  timeout : s.channel.sendTimeout = .ofMillis millis
  interval : s.telemetry.pollInterval = .ofSeconds seconds
  millis : Countable millis
  seconds : Countable seconds
  capacity : Countable s.channel.queueCapacity
  budget : Countable s.preview.budget

/-- Regular settings are described by a path, a timeout and an interval. -/
theorem Settings.Regular.described (h : s.Regular) :
    ∃ path millis seconds, s.Described path millis seconds := by
  obtain ⟨path, hpath⟩ := h.channel.path
  obtain ⟨millis, hmillis, htimeout⟩ := h.channel.timeout
  obtain ⟨seconds, hseconds, hinterval⟩ := h.telemetry
  have hbudget := (Settings.normalized_eq_self_iff.mp h.normal).budget.2
  have hcount : Countable s.preview.budget := by
    rw [Countable, Value.maxInteger]
    omega
  exact ⟨path, millis, seconds, hpath, htimeout, hinterval, hmillis, hseconds, h.channel.capacity,
    hcount⟩

namespace Settings.Described

/-- Settings that can be described are written as the sheet that describes them. -/
theorem toSheet_eq (h : s.Described path millis seconds) :
    s.toSheet = .ok (s.sheetOf path millis seconds) := by
  have htimeout : s.channel.sendTimeout.nanos / 1000000 < wordCount := by
    have hwhole : millis * 1000000 / 1000000 = millis := by omega
    rw [h.timeout, Duration.ofMillis]
    dsimp only
    rw [hwhole]
    exact h.millis.lt_wordCount
  have hmillis : s.channel.sendTimeout.roundTo 1000000 = millis := by
    rw [h.timeout, roundTo_ofMillis h.millis.lt_wordCount]
  have hseconds : s.telemetry.pollInterval.roundTo 1000000000 = seconds := by
    rw [h.interval, roundTo_ofSeconds h.seconds.lt_wordCount]
  refine (Settings.toSheet_eq_ok_iff htimeout).mpr ?_
  rw [hmillis, hseconds]
  exact ⟨path, h.path, h.millis, h.capacity, h.budget, h.seconds, rfl⟩

/-- The keys of the sheet need no quotes, none stands twice, and its numbers fit. -/
theorem fits (h : s.Described path millis seconds) : (s.sheetOf path millis seconds).Fits := by
  have hfits : ∀ {n : Nat}, Countable n → (Toml.Item.plain (.integer n)).Fits := fun hn =>
    ⟨Int.natCast_nonneg _, hn⟩
  have huids : (Toml.Item.list (s.channel.allowedUids.map fun uid => .integer uid.toNat)).Fits := by
    intro p hp
    obtain ⟨uid, -, rfl⟩ := List.mem_map.mp hp
    have hlt : uid.toNat < 4294967296 := uid.toNat_lt
    refine ⟨Int.natCast_nonneg _, ?_⟩
    rw [Value.maxInteger]
    omega
  have hkinds : (Toml.Item.list (s.telemetry.filter.map fun kind => .string kind.name)).Fits := by
    intro p hp
    obtain ⟨kind, -, rfl⟩ := List.mem_map.mp hp
    exact trivial
  refine .of_names ["channel", "entropy", "quarantine", "telemetry"] rfl (by decide) ?_
  simp only [Settings.sheetOf, List.forall_mem_cons, List.not_mem_nil, IsEmpty.forall_iff,
    implies_true, and_true]
  refine ⟨?_, ?_, ?_, ?_⟩
  · refine .of_keys ["socket_path", "send_timeout", "queue_capacity", "allowed_uids"] rfl
      (by decide) ?_
    simp only [List.forall_mem_cons, List.not_mem_nil, IsEmpty.forall_iff, implies_true, and_true]
    exact ⟨trivial, hfits h.millis, hfits h.capacity, huids⟩
  · exact .of_keys ["preview_budget"] rfl (by decide)
      (List.forall_mem_singleton.mpr (hfits h.budget))
  · exact .of_keys ["enabled"] rfl (by decide) (List.forall_mem_singleton.mpr trivial)
  · refine .of_keys ["enabled", "poll_interval", "filter"] rfl (by decide) ?_
    simp only [List.forall_mem_cons, List.not_mem_nil, IsEmpty.forall_iff, implies_true, and_true]
    exact ⟨trivial, hfits h.seconds, hkinds⟩

/-- What the sheet says key by key is what the settings hold, in normal form. -/
theorem byKey_sheetOf (h : s.Described path millis seconds) :
    ByKey (s.sheetOf path millis seconds).toEntries s.normalized := by
  have huids : readList readUid (.array .bracketed ((s.channel.allowedUids.map fun uid =>
      Toml.Plain.integer uid.toNat).map Toml.Plain.toValue)) = .ok s.channel.allowedUids := by
    rw [readList, List.map_map]
    exact readItems_map readUid_toNat 0 _
  have hkinds : readList kindInText (.array .bracketed ((s.telemetry.filter.map fun kind =>
      Toml.Plain.string kind.name).map Toml.Plain.toValue)) = .ok s.telemetry.filter := by
    rw [readList, List.map_map]
    exact readItems_map namedKind_name 0 _
  exact {
    socketPath := .of_some rfl rfl h.path
    sendTimeout := .of_some rfl (readTime_of_countable h.millis _) h.timeout
    queueCapacity := .of_some rfl (readNat_of_countable h.capacity _) rfl
    allowedUids := .of_some rfl huids rfl
    previewBudget := .of_some rfl (readNat_of_countable h.budget _) rfl
    quarantineEnabled := .of_some rfl rfl rfl
    telemetryEnabled := .of_some rfl rfl rfl
    pollInterval := .of_some rfl (readTime_of_countable h.seconds _) h.interval
    filter := .of_some rfl hkinds rfl }

/-- **The sheet gives the settings back**, in normal form. -/
theorem readSettings_toEntries (h : s.Described path millis seconds) :
    readSettings .text (s.sheetOf path millis seconds).toEntries = .ok s.normalized := by
  have hsound : Entries.Sound (s.sheetOf path millis seconds).toEntries :=
    Toml.sound_of_parse (Toml.parse_render h.fits)
  refine (readSettings_iff_byKey hsound fun e he _ => ?_).mpr h.byKey_sheetOf
  obtain ⟨⟨name, items⟩, -, rfl⟩ := List.mem_map.mp he
  exact ⟨_, rfl⟩

/-- So does its text. -/
theorem ofText_render (h : s.Described path millis seconds) :
    Settings.ofText (s.sheetOf path millis seconds).render = .ok s.normalized :=
  ofText_eq_ok_iff.mpr ⟨_, Toml.parse_render h.fits, h.readSettings_toEntries⟩

/-- No section of the sheet has a reserved key. -/
theorem unreserved (s : Settings) (path : String) (millis seconds : Nat) :
    Toml.Entries.Unreserved (s.sheetOf path millis seconds).toEntries := by
  refine Toml.Sheet.unreserved_toEntries ?_
  simp only [Settings.sheetOf, List.forall_mem_cons, List.map_cons, List.map_nil, List.not_mem_nil,
    IsEmpty.forall_iff, implies_true, and_true]
  decide

/-- A sheet names its kinds. -/
theorem namesKinds (s : Settings) (path : String) (millis seconds : Nat) :
    NamesKinds (s.sheetOf path millis seconds).toEntries := by
  intro form items hfilter inner hinner
  cases hfilter
  rw [List.map_map] at hinner
  obtain ⟨kind, -, hkind⟩ := List.mem_map.mp hinner
  cases hkind

end Settings.Described

end Sheet

/-! ## Printing and reading again -/

/-- What is printed for regular settings gives them back, on its own and from a file. -/
theorem Settings.Regular.printed {s : Settings} (h : s.Regular) :
    ∃ text, Program.printSettings s = .ok text
    ∧ Settings.ofText text = .ok s
    ∧ ∀ f p place mode, f.find p = .ok (place, ⟨.regular (Utf8.encode text.toList), mode⟩) →
      Settings.load f p = .ok s := by
  obtain ⟨path, millis, seconds, hdescribed⟩ := h.described
  have hparse := Toml.parse_render hdescribed.fits
  have htext : Settings.ofText (s.sheetOf path millis seconds).render = .ok s :=
    hdescribed.ofText_render.trans (congrArg _ h.normal)
  refine ⟨(s.sheetOf path millis seconds).render, ?_, htext, fun f p place mode hfile => ?_⟩
  · rw [Program.printSettings, Settings.render, hdescribed.toSheet_eq]
    rfl
  · have hfree := Settings.Described.unreserved s path millis seconds
    exact (load_iff_of_unreserved hfile hparse hfree s).mpr
      ⟨htext, Settings.Described.namesKinds s path millis seconds⟩

/-- **What is printed is a snapshot.**  For settings that a file or a text gave, printing
succeeds, and what is printed gives the same settings again, on its own and from any file that
holds it.  Settings that were read from it, either way, are printed as the same text. -/
theorem printed_settings {s : Settings}
    (h : (∃ f p, Settings.load f p = .ok s) ∨ ∃ text, Settings.ofText text = .ok s) :
    ∃ text, Program.printSettings s = .ok text
      ∧ Settings.ofText text = .ok s
      ∧ (∀ f p place mode, f.find p = .ok (place, ⟨.regular (Utf8.encode text.toList), mode⟩) →
        Settings.load f p = .ok s)
      ∧ (∀ s', Settings.ofText text = .ok s' → Program.printSettings s' = .ok text)
      ∧ ∀ f p place mode, f.find p = .ok (place, ⟨.regular (Utf8.encode text.toList), mode⟩) →
        ∀ s', Settings.load f p = .ok s' → Program.printSettings s' = .ok text := by
  have hregular : s.Regular := by
    rcases h with ⟨f, p, hload⟩ | ⟨text, htext⟩
    · exact regular_of_load hload
    · exact regular_of_ofText htext
  obtain ⟨text, hprint, htext, hload⟩ := hregular.printed
  refine ⟨text, hprint, htext, hload, fun s' hs' => ?_, fun f p place mode hfile s' hs' => ?_⟩
  · cases htext.symm.trans hs'
    exact hprint
  · cases (hload f p place mode hfile).symm.trans hs'
    exact hprint

theorem printed_settings_quotes :
    Settings.ofText "channel.socket_path = \"it's \\\"here\\\"\"\n"
      = .ok (Settings.normalized { channel := { socketPath := .ofString "it's \"here\"" } })
    ∧ ∃ text, Program.printSettings
        (Settings.normalized { channel := { socketPath := .ofString "it's \"here\"" } }) = .ok text
      ∧ Settings.ofText text
        = .ok (Settings.normalized { channel := { socketPath := .ofString "it's \"here\"" } }) := by
  have hparse : Toml.parse "channel.socket_path = \"it's \\\"here\\\"\"\n"
      = some [("channel", .table [("socket_path", .string "it's \"here\"")])] := by cbv
  have hread : Settings.ofText "channel.socket_path = \"it's \\\"here\\\"\"\n"
      = .ok (Settings.normalized { channel := { socketPath := .ofString "it's \"here\"" } }) :=
    ofText_eq_ok_iff.mpr ⟨_, hparse, rfl⟩
  obtain ⟨text, hprint, htext, -⟩ := printed_settings (.inr ⟨_, hread⟩)
  exact ⟨hread, text, hprint, htext⟩

end FileActivity
