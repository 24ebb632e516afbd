/-
# Settings by their keys

Each part of the settings is what stands under its own key, put into normal form, or the default
where nothing stands there.  The other keys, known or not, the other sections and their order
change nothing.

Main statement: `settings_by_key`.
-/
import FileActivity.Proofs.Settings.Regular
import FileActivity.Proofs.Toml.Written
import Mathlib

namespace FileActivity

open Toml (Value Entries)

/-! ## What a document says under a key -/

/-- The value under a key of a section, if the section is a table that has it. -/
def Toml.Entries.under (entries : Entries) (name key : String) : Option Value :=
  match entries.get? name with
  | some (.table inner) => Entries.get? inner key
  | _ => none

/-- The sections that a document has are tables. -/
def Toml.Entries.Sectioned (entries : Entries) : Prop :=
  ∀ e ∈ entries, e.1 ∈ ["channel", "entropy", "quarantine", "telemetry"] →
    ∃ inner, e.2 = .table inner

/-- What is found under a key is an entry. -/
theorem Toml.Entries.mem_of_get? {entries : Entries} {key : String} {v : Value}
    (h : entries.get? key = some v) : (key, v) ∈ entries := by
  obtain ⟨front, back, rfl, -⟩ := List.lookup_eq_some_iff.mp h
  exact List.mem_append_right _ List.mem_cons_self

/-- What a value under a key comes to: what it is read as, in normal form, or the default where
there is none. -/
def ComesTo {τ : Type} (v : Option Value) (read : Value → Except Misfit τ) (normal : τ → τ)
    (default got : τ) : Prop :=
  match v with
  | some v => ∃ a, read v = .ok a ∧ got = normal a
  | none => got = default

/-- **Settings that a document gives key by key.** -/
structure ByKey (entries : Entries) (c : Settings) : Prop where
  socketPath : ComesTo (entries.under "channel" "socket_path") readPath id
    (.ofString "/run/sentinelguard/events.sock") c.channel.socketPath
  sendTimeout : ComesTo (entries.under "channel" "send_timeout") (readTime .ofMillis) id
    (.ofMillis 50) c.channel.sendTimeout
  queueCapacity : ComesTo (entries.under "channel" "queue_capacity") readCount (max · 1) 1024
    c.channel.queueCapacity
  allowedUids : ComesTo (entries.under "channel" "allowed_uids") (readList readUid) sortedSet []
    c.channel.allowedUids
  previewBudget : ComesTo (entries.under "entropy" "preview_budget") readCount clampBudget 4096
    c.preview.budget
  quarantineEnabled : ComesTo (entries.under "quarantine" "enabled") readFlag id true
    c.quarantine.enabled
  telemetryEnabled : ComesTo (entries.under "telemetry" "enabled") readFlag id false
    c.telemetry.enabled
  pollInterval : ComesTo (entries.under "telemetry" "poll_interval") (readTime .ofSeconds) id
    (.ofSeconds 1) c.telemetry.pollInterval
  filter : ComesTo (entries.under "telemetry" "filter") (readList kindInText) id
    [.process, .registry, .network] c.telemetry.filter

section ComesTo

variable {τ : Type} {v : Option Value} {read : Value → Except Misfit τ} {normal : τ → τ}
  {default got : τ}

/-- A part that is read or kept, and then put into normal form, comes to that. -/
theorem comesTo_iff (hdefault : normal default = default) :
    ComesTo v read normal default got ↔ ∃ a, ReadOrKept v read default a ∧ got = normal a := by
  cases v with
  | some v => exact Iff.rfl
  | none =>
    constructor
    · exact fun h => ⟨default, rfl, h.trans hdefault.symm⟩
    · rintro ⟨a, rfl, h⟩
      exact h.trans hdefault

/-- A value that can be read comes to what it is read as, in normal form. -/
theorem ComesTo.of_some {w : Value} {a : τ} (hv : v = some w) (hread : read w = .ok a)
    (hgot : got = normal a) : ComesTo v read normal default got := by
  subst hv
  exact ⟨a, hread, hgot⟩

end ComesTo

/-! ## Reading by key -/

section Read

variable {σ : Type} {m : Manner} {fields : List (Field σ)} {entries : Entries} {name : String}

/-- A section that is a table, or is not there, is read by asking the fields for what is under
their keys. -/
theorem readOrKept_section_iff (hm : m.Lawful) (hfields : Independent fields)
    (hentries : entries.Sound)
    (hsection : ∀ v, entries.get? name = some v → ∃ inner, v = .table inner) (label : String)
    {start got : σ} :
    ReadOrKept (entries.get? name) (readGroup m label fields start) start got
      ↔ consult fields (entries.under name) start = some got := by
  cases hget : entries.get? name with
  | none =>
    have hunder : entries.under name = fun _ => none := by
      funext key
      rw [Toml.Entries.under, hget]
    rw [hunder, consult_nothing, Option.some.injEq]
    exact eq_comm
  | some v =>
    obtain ⟨inner, rfl⟩ := hsection v hget
    have hunder : entries.under name = Toml.Entries.get? inner := by
      funext key
      rw [Toml.Entries.under, hget]
    have hread : readGroup m label fields start (.table inner) = .ok got
        ↔ consult fields (Toml.Entries.get? inner) start = some got := by
      have hkeys := (Toml.Value.sound_table_iff.mp (hentries.of_lookup hget)).keys
      rw [← toOption_eq_some_iff, ← hm.toOption_readEntries hfields hkeys]
      rfl
    rw [hunder]
    exact hread

/-- **A document whose sections are tables gives what its keys come to, and nothing else.** -/
theorem readSettings_iff_byKey (hentries : entries.Sound) (hsections : entries.Sectioned)
    {c : Settings} : readSettings .text entries = .ok c ↔ ByKey entries c := by
  have hsection : ∀ name ∈ ["channel", "entropy", "quarantine", "telemetry"], ∀ v,
      entries.get? name = some v → ∃ inner, v = .table inner :=
    fun name hname v hget => hsections _ (Toml.Entries.mem_of_get? hget) hname
  simp only [List.forall_mem_cons, List.not_mem_nil, IsEmpty.forall_iff, implies_true,
    and_true] at hsection
  obtain ⟨hchannel, hpreview, hquarantine, htelemetry⟩ := hsection
  have hroom : max 1024 1 = 1024 := rfl
  have hbudget : clampBudget 4096 = 4096 := rfl
  have hnobody : sortedSet [] = [] := sortedSet_eq_self_iff.mpr List.Pairwise.nil
  rw [← toOption_eq_some_iff, lawful_text.toOption_readSettings hentries.keys,
    Option.map_eq_some_iff]
  simp only [consult_sectionFields_iff,
    readOrKept_section_iff lawful_text independent_channelFields hentries hchannel,
    readOrKept_section_iff lawful_text independent_previewFields hentries hpreview,
    readOrKept_section_iff lawful_text independent_quarantineFields hentries hquarantine,
    readOrKept_section_iff lawful_text (independent_telemetryFields .text) hentries htelemetry,
    consult_channelFields_iff, consult_previewFields_iff, consult_quarantineFields_iff,
    consult_telemetryFields_iff]
  constructor
  · rintro ⟨s, ⟨⟨hpath, htimeout, hcapacity, huids⟩, hb, he, htelemetry, hinterval, hfilter⟩, rfl⟩
    exact ⟨(comesTo_iff rfl).mpr ⟨_, hpath, rfl⟩, (comesTo_iff rfl).mpr ⟨_, htimeout, rfl⟩,
      (comesTo_iff hroom).mpr ⟨_, hcapacity, rfl⟩, (comesTo_iff hnobody).mpr ⟨_, huids, rfl⟩,
      (comesTo_iff hbudget).mpr ⟨_, hb, rfl⟩, (comesTo_iff rfl).mpr ⟨_, he, rfl⟩,
      (comesTo_iff rfl).mpr ⟨_, htelemetry, rfl⟩, (comesTo_iff rfl).mpr ⟨_, hinterval, rfl⟩,
      (comesTo_iff rfl).mpr ⟨_, hfilter, rfl⟩⟩
  · rintro ⟨hpath, htimeout, hcapacity, huids, hb, he, htelemetry, hinterval, hfilter⟩
    obtain ⟨path, hpath, hpath'⟩ := (comesTo_iff rfl).mp hpath
    obtain ⟨timeout, htimeout, htimeout'⟩ := (comesTo_iff rfl).mp htimeout
    obtain ⟨capacity, hcapacity, hcapacity'⟩ := (comesTo_iff hroom).mp hcapacity
    obtain ⟨uids, huids, huids'⟩ := (comesTo_iff hnobody).mp huids
    obtain ⟨budget, hb, hb'⟩ := (comesTo_iff hbudget).mp hb
    obtain ⟨enabled, he, he'⟩ := (comesTo_iff rfl).mp he
    obtain ⟨collected, htelemetry, htelemetry'⟩ := (comesTo_iff rfl).mp htelemetry
    obtain ⟨interval, hinterval, hinterval'⟩ := (comesTo_iff rfl).mp hinterval
    obtain ⟨filter, hfilter, hfilter'⟩ := (comesTo_iff rfl).mp hfilter
    refine ⟨⟨⟨path, timeout, capacity, uids⟩, ⟨budget⟩, ⟨enabled⟩, ⟨collected, interval, filter⟩⟩,
      ⟨⟨hpath, htimeout, hcapacity, huids⟩, hb, he, htelemetry, hinterval, hfilter⟩, ?_⟩
    obtain ⟨⟨_, _, _, _⟩, ⟨_⟩, ⟨_⟩, ⟨_, _, _⟩⟩ := c
    cases hpath'
    cases htimeout'
    cases hcapacity'
    cases huids'
    cases hb'
    cases he'
    cases htelemetry'
    cases hinterval'
    cases hfilter'
    rfl

end Read

/-! ## Normal form -/

/-- What putting settings into normal form changes: the budget goes to the nearest value that is
allowed, there is room for at least one record, and the same users are listed in increasing
order.  All else stays. -/
structure Settings.NormalForm (s c : Settings) : Prop where
  bounds : c.InBounds
  budget : ∀ n, 16 ≤ n → n ≤ 65536 → n ≠ c.preview.budget →
    Nat.dist s.preview.budget c.preview.budget < Nat.dist s.preview.budget n
  capacity : c.channel.queueCapacity = max s.channel.queueCapacity 1
  uids : ∀ uid, uid ∈ c.channel.allowedUids ↔ uid ∈ s.channel.allowedUids
  socketPath : c.channel.socketPath = s.channel.socketPath
  sendTimeout : c.channel.sendTimeout = s.channel.sendTimeout
  quarantine : c.quarantine = s.quarantine
  telemetry : c.telemetry = s.telemetry

/-- No other budget that is allowed is as near. -/
theorem dist_clampBudget_lt {b n : Nat} (hlow : 16 ≤ n) (hhigh : n ≤ 65536)
    (hne : n ≠ clampBudget b) : Nat.dist b (clampBudget b) < Nat.dist b n := by
  rw [clampBudget, minPreviewBudget, maxPreviewBudget] at *
  rw [Nat.dist, Nat.dist]
  omega

/-- Normalized settings are in normal form. -/
theorem Settings.normalForm_normalized (s : Settings) : s.NormalForm s.normalized where
  bounds := s.inBounds_normalized
  budget _ hlow hhigh hne := dist_clampBudget_lt hlow hhigh hne
  capacity := rfl
  uids _ := mem_sortedSet
  socketPath := rfl
  sendTimeout := rfl
  quarantine := rfl
  telemetry := rfl

/-! ## Documents -/

/-- **Settings are given key by key, and put into normal form.**

* A text whose sections are tables is accepted exactly if each value that stands under a key of
  its own can be read, and gives what its keys come to.
* A file that is accepted holds a text, and gives what the keys of its document come to once the
  tables are unwrapped; where no key is reserved that is the document itself.
* Normal form changes the budget, the room and the list of users, and nothing else; all settings
  that are given keep its bounds, to put them into normal form again changes nothing, and the
  defaults are in it. -/
theorem settings_by_key :
    (∀ text entries, Toml.parse text = some entries → entries.Sectioned →
      ∀ c, Settings.ofText text = .ok c ↔ ByKey entries c)
    ∧ (∀ (f : Files) p c, Settings.load f p = .ok c → ∃ place mode text entries unwrapped,
        f.find p = .ok (place, ⟨.regular (Utf8.encode text.toList), mode⟩)
        ∧ Toml.parse text = some entries ∧ unwrapDocument entries = .ok unwrapped
        ∧ (unwrapped.Sectioned → ByKey unwrapped c)
        ∧ (entries.Unreserved → entries.Sectioned → ByKey entries c))
    ∧ (∀ s : Settings, s.NormalForm s.normalized ∧ s.normalized.normalized = s.normalized)
    ∧ Settings.normalized {} = {}
    ∧ (∀ text c, Settings.ofText text = .ok c → c.InBounds)
    ∧ ∀ (f : Files) p c, Settings.load f p = .ok c → c.InBounds := by
  refine ⟨?text, ?file, fun s => ⟨s.normalForm_normalized, s.normalized_normalized⟩, ?defaults,
    ?bounds, ?boundsOfFile⟩
  case text =>
    intro text entries hparse hsections c
    have hread : Settings.ofText text = .ok c ↔ readSettings .text entries = .ok c := by
      rw [ofText_eq_ok_iff]
      simp only [hparse, Option.some.injEq, exists_eq_left']
    exact hread.trans (readSettings_iff_byKey (Toml.sound_of_parse hparse) hsections)
  case file =>
    intro f p c hload
    obtain ⟨place, content, mode, hfind, hfile⟩ := load_eq_ok_iff_ofFile.mp hload
    obtain ⟨cs, entries, unwrapped, hdecode, hparse, hunwrap, hread, -⟩ := ofFile_eq_ok_iff.mp hfile
    have hsound : unwrapped.Sound := (unwrapDocument_sound (Toml.sound_of_parse hparse) hunwrap).1
    rw [Utf8.decode?_eq_some_iff.mp hdecode] at hfind
    refine ⟨place, mode, String.ofList cs, entries, unwrapped, ?_, hparse,
      hunwrap, fun hsections => ?_, fun hfree hsections => ?_⟩
    · rw [String.toList_ofList]
      exact hfind
    · exact (readSettings_iff_byKey hsound hsections).mp hread
    · cases (unwrapDocument_eq hfree).symm.trans hunwrap
      exact (readSettings_iff_byKey hsound hsections).mp hread
  case defaults =>
    refine Settings.normalized_eq_self_iff.mpr ⟨⟨?_, ?_⟩, ?_, List.Pairwise.nil⟩ <;> decide
  case bounds =>
    exact fun text c h => Settings.normalized_eq_self_iff.mp (regular_of_ofText h).normal
  case boundsOfFile =>
    exact fun f p c h => Settings.normalized_eq_self_iff.mp (regular_of_load h).normal

/-- A text with sections and keys in no order, two of which mean nothing, and values out of
bounds. -/
def mixedText : String :=
  "entropy = \x7bpreview_budget = 9, x = 1\x7d\nother = 2\n"
    ++ "channel = \x7ballowed_uids = [2, 1, 2], queue_capacity = 0\x7d\n"

/-- Its document. -/
def mixedEntries : Entries :=
  [("entropy", .table [("preview_budget", .integer 9), ("x", .integer 1)]), ("other", .integer 2),
   ("channel", .table [("allowed_uids", .array .bracketed [.integer 2, .integer 1, .integer 2]),
     ("queue_capacity", .integer 0)])]

/-- What it gives either way: the budget and the room in bounds, each user once, and the
defaults for all else. -/
theorem settings_by_key_mixed : ∃ c unwrapped,
    Settings.ofText mixedText = .ok c ∧ ByKey mixedEntries c
    ∧ Settings.load (oneFile mixedText) onePath = .ok c
      ∧ unwrapDocument mixedEntries = .ok unwrapped
    ∧ ByKey unwrapped c ∧ c.InBounds ∧ c.preview.budget = 16 ∧ c.channel.queueCapacity = 1
    ∧ (∀ uid, uid ∈ c.channel.allowedUids ↔ uid ∈ [2, 1, 2]) ∧ c.quarantine.enabled = true := by
  have hparse : Toml.parse mixedText = some mixedEntries := by cbv
  have hsections : mixedEntries.Sectioned := by simp [Toml.Entries.Sectioned, mixedEntries]
  have hfree : mixedEntries.Unreserved := by
    simp only [mixedEntries, Toml.Entries.Unreserved, List.forall_mem_cons, List.not_mem_nil,
      IsEmpty.forall_iff, implies_true, and_true]
    refine ⟨.table (by decide) ?_, .integer _, .table (by decide) ?_⟩
    · simp [Toml.Value.Unreserved.integer]
    · simp [Toml.Value.Unreserved.integer, Toml.Value.Unreserved.array]
  let raw : Settings :=
    { channel := { queueCapacity := 0, allowedUids := [2, 1, 2] }, preview := { budget := 9 } }
  have htext : Settings.ofText mixedText = .ok raw.normalized :=
    ofText_eq_ok_iff.mpr ⟨_, hparse, rfl⟩
  have hload : Settings.load (oneFile mixedText) onePath = .ok raw.normalized := by
    refine (load_eq_ok_iff (find_oneFile _)).mpr ⟨_, _, hparse, unwrapDocument_eq hfree, rfl, ?_⟩
    intro form items hfilter
    cases hfilter
  have hbykey := (settings_by_key.1 _ _ hparse hsections _).mp htext
  obtain ⟨place, mode, text, entries, unwrapped, hfind, hparse', hunwrap, hwrapped, -⟩ :=
    settings_by_key.2.1 _ _ _ hload
  have hcontent : Utf8.encode mixedText.toList = Utf8.encode text.toList := by
    have hfile := (find_oneFile mixedText).symm.trans hfind
    simp only [Except.ok.injEq, Prod.mk.injEq, FileObject.mk.injEq, FileKind.regular.injEq] at hfile
    exact hfile.2.1
  obtain rfl : mixedText = text := String.toList_inj.mp (Utf8.encode_inj.mp hcontent)
  cases hparse.symm.trans hparse'
  have hsame : unwrapped = mixedEntries :=
    Except.ok.inj (hunwrap.symm.trans (unwrapDocument_eq hfree))
  exact ⟨_, _, htext, hbykey, hload, hunwrap, hwrapped (hsame ▸ hsections),
    settings_by_key.2.2.2.2.1 _ _ htext, rfl, rfl, (settings_by_key.2.2.1 raw).1.uids, rfl⟩

/-! ## A section that is hidden -/

/-- A document that lets in one user by what is written in it; but its section wraps the table
that follows, which hides what stands beside it. -/
def hidingText : String := "[channel]\nallowed_uids = [1000]\n[channel.___figment_value_value]\n"

/-- What that document names in its section. -/
def hiddenNodes : Toml.Nodes := [("allowed_uids", .value (.array .bracketed [.integer 1000]))]

/-- The text is read as a table of channel settings in which a reserved key is hidden. -/
theorem parse_hidingText : Toml.parse hidingText
    = some [("channel", .table (Toml.Nodes.toEntries hiddenNodes
      ++ [("___figment_value_value", .table [])]))] := by
  -- line by line, for the parts of the last header are compared with the keys that are there
  have hheader : Toml.line .empty ("[channel]\n".toList
      ++ "allowed_uids = [1000]\n[channel.___figment_value_value]\n".toList)
      = some (⟨[], some ⟨[], "channel"⟩, false, []⟩,
        "allowed_uids = [1000]\n[channel.___figment_value_value]\n".toList) := by cbv
  have hlist : Toml.line ⟨[], some ⟨[], "channel"⟩, false, []⟩
      ("allowed_uids = [1000]\n".toList ++ "[channel.___figment_value_value]\n".toList)
      = some (⟨[], some ⟨[], "channel"⟩, false, hiddenNodes⟩,
        "[channel.___figment_value_value]\n".toList) := by
    cbv
  have hkey : Toml.key "channel.___figment_value_value]\n".toList
      = some (⟨["channel"], "___figment_value_value"⟩, "]\n".toList) := by cbv
  have hopen : Toml.Draft.openTable ⟨[], some ⟨[], "channel"⟩, false, hiddenNodes⟩
      ⟨["channel"], "___figment_value_value"⟩
      = some ⟨[("channel", .table .header hiddenNodes)],
        some ⟨["channel"], "___figment_value_value"⟩, false, []⟩ :=
    rfl
  have hwrap : Toml.line ⟨[], some ⟨[], "channel"⟩, false, hiddenNodes⟩
      ("[channel.___figment_value_value]\n".toList ++ [])
      = some (⟨[("channel", .table .header hiddenNodes)],
        some ⟨["channel"], "___figment_value_value"⟩, false, []⟩, []) := by
    have hchars : "[channel.___figment_value_value]\n".toList ++ []
        = '[' :: "channel.___figment_value_value]\n".toList := rfl
    rw [hchars, Toml.line]
    · rw [hkey]
      dsimp only [Option.bind_eq_bind, Option.bind_some]
      rw [hopen]
      rfl
    · intro cs hcs
      cases hcs
  have hlines := Toml.LeadsTo.append ⟨_, _, rfl, by decide⟩ hheader
    (Toml.LeadsTo.append ⟨_, _, rfl, by decide⟩ hlist
      (Toml.LeadsTo.append ⟨_, _, rfl, by decide⟩ hwrap Toml.LeadsTo.nil))
  have hmark : Toml.skipMark hidingText.toList = hidingText.toList := rfl
  rw [Toml.parse, hmark]
  have hall := hlines (hidingText.toList.length + 1) (Nat.lt_succ_self _)
  exact congrArg (Option.bind · Toml.Draft.finish) hall

/-- Loading the text gives the settings by default. -/
theorem load_hidingText :
    Settings.load (oneFile hidingText) onePath = .ok (Settings.normalized {}) := by
  refine (load_eq_ok_iff (find_oneFile _)).mpr ⟨_, _, parse_hidingText, rfl, rfl, ?_⟩
  intro form items hfilter
  cases hfilter

/-- A file whose section hides a list that is written in it: the list is lost. -/
theorem not_settings_by_key_of_hidden :
    ∃ entries c, Toml.parse hidingText = some entries ∧ entries.Sectioned
    ∧ entries.under "channel" "allowed_uids" = some (.array .bracketed [.integer 1000])
    ∧ Settings.load (oneFile hidingText) onePath = .ok c ∧ c.channel.allowedUids = []
      ∧ ¬ ByKey entries c := by
  have hnobody : sortedSet [] = [] := sortedSet_eq_self_iff.mpr List.Pairwise.nil
  refine ⟨_, _, parse_hidingText, ?_, rfl, load_hidingText, hnobody, fun hbykey => ?_⟩
  · exact List.forall_mem_singleton.mpr fun _ => ⟨_, rfl⟩
  · obtain ⟨uids, hread, hgot⟩ := hbykey.allowedUids
    have huids : uids = [1000] := (Except.ok.inj hread).symm
    have hempty : sortedSet uids = [] := hgot.symm.trans hnobody
    have hmem : (1000 : UserId) ∈ sortedSet uids := mem_sortedSet.mpr (huids ▸ List.mem_cons_self)
    rw [hempty] at hmem
    cases hmem

end FileActivity
