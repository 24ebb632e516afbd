/-
# A text on its own and a file over the defaults

Both ways of reading settings give the same for the same document, but for two points.  A text
on its own may give a kind of telemetry by a table, which a file may not; and in the tables of a
file two keys are reserved, one of which hides the table behind the value under it.  A document
without either is read alike, to the last field.

Main statement: `load_eq_ok_iff`.
-/
import FileActivity.Proofs.Settings.Layering
import FileActivity.Proofs.Text.Utf8
import FileActivity.Settings.File
import Mathlib

namespace FileActivity

open Toml (Value Entries)

/-! ## Kinds of telemetry -/

/-- A table never gives a kind of telemetry in layers. -/
theorem toOption_kindInLayers_table (entries : Entries) :
    (kindInLayers (.table entries)).toOption = none := by
  rw [kindInLayers]
  cases sortEntries entries with
  | nil => rfl
  | cons e rest =>
    obtain ⟨key, v⟩ := e
    dsimp only
    cases namedKind key <;> rfl

/-- But for tables, both loaders read kinds alike. -/
theorem toOption_kindInLayers_of_ne {v : Value} (h : ∀ entries, v ≠ .table entries) :
    (kindInLayers v).toOption = (kindInText v).toOption := by
  cases v with
  | table entries => exact absurd rfl (h entries)
  | _ => rfl

/-- The items of a list are read one by one. -/
theorem toOption_readItems {α : Type} (item : Value → Except Misfit α) (i : Nat)
    (items : List Value) :
    (readItems item i items).toOption = items.mapM fun v => (item v).toOption := by
  induction items generalizing i with
  | nil => rfl
  | cons v items ih =>
    rw [readItems, toOption_bind, toOption_mapError, List.mapM_cons]
    cases (item v).toOption with
    | none => rfl
    | some a =>
      have hrest := ih (i + 1)
      dsimp only [Option.bind_some, Option.bind_eq_bind]
      rw [toOption_bind, hrest]
      cases items.mapM fun v => (item v).toOption <;> rfl

/-- A list is read in layers if and only if it is read in a text and none of its items is a
table. -/
theorem toOption_readItems_kindInLayers (i : Nat) (items : List Value) (kinds : List TraceKind) :
    (readItems kindInLayers i items).toOption = some kinds
      ↔ (readItems kindInText i items).toOption = some kinds
        ∧ ∀ entries, .table entries ∉ items := by
  rw [toOption_readItems, toOption_readItems]
  induction items generalizing kinds with
  | nil => simp
  | cons v items ih =>
    rw [List.mapM_cons, List.mapM_cons]
    by_cases htable : ∃ entries, v = .table entries
    · obtain ⟨entries, rfl⟩ := htable
      rw [toOption_kindInLayers_table]
      constructor
      · intro h
        cases h
      · rintro ⟨-, hno⟩
        exact absurd List.mem_cons_self (hno entries)
    · have hne : ∀ entries, v ≠ .table entries := fun entries heq => htable ⟨entries, heq⟩
      have hno : (∀ entries, .table entries ∉ v :: items) ↔ ∀ entries, .table entries ∉ items := by
        refine forall_congr' fun entries => ?_
        rw [List.mem_cons, not_or]
        exact and_iff_right (hne entries).symm
      rw [toOption_kindInLayers_of_ne hne, hno]
      simp only [Option.bind_eq_bind, Option.bind_eq_some_iff, Option.pure_def, Option.some.injEq]
      constructor
      · rintro ⟨kind, hkind, rest, hrest, heq⟩
        obtain ⟨hrest, hno⟩ := (ih rest).mp hrest
        exact ⟨⟨kind, hkind, rest, hrest, heq⟩, hno⟩
      · rintro ⟨⟨kind, hkind, rest, hrest, heq⟩, hno⟩
        exact ⟨kind, hkind, rest, (ih rest).mpr ⟨hrest, hno⟩, heq⟩

/-! ## The filter of a document -/

/-- The keys of the telemetry section. -/
def telemetryKeys : List String := (telemetryFields .text).map Field.key

/-- The value that the filter of telemetry is read from, if the document gives one. -/
def filterOf (entries : Entries) : Option Value := do
  let telemetry ← entries.get? "telemetry"
  let entries ← telemetry.entriesFor telemetryKeys
  entries.get? "filter"

/-- No kind of telemetry is given by a table. -/
def NamesKinds (entries : Entries) : Prop :=
  ∀ form items, filterOf entries = some (.array form items) → ∀ inner, .table inner ∉ items

/-- The filter in layers and in a text. -/
theorem readOrKept_filter_layers {look : Option Value} {before after : List TraceKind} :
    ReadOrKept look (readList kindInLayers) before after
      ↔ ReadOrKept look (readList kindInText) before after
        ∧ ∀ form items, look = some (.array form items) → ∀ inner, .table inner ∉ items := by
  cases look with
  | none =>
    have hno : ∀ form items, (none : Option Value) = some (.array form items) →
        ∀ inner, .table inner ∉ items := fun _ _ h => by cases h
    exact (and_iff_left hno).symm
  | some v =>
    cases v with
    | array form items =>
      have hno : (∀ form' items', some (Value.array form items) = some (.array form' items') →
          ∀ inner, .table inner ∉ items') ↔ ∀ inner, .table inner ∉ items := by
        constructor
        · exact fun h => h form items rfl
        · rintro h form' items' heq
          cases heq
          exact h
      rw [hno]
      simp only [ReadOrKept, readList, ← toOption_eq_some_iff, toOption_readItems_kindInLayers]
    | _ =>
      refine iff_of_false (fun h => ?_) (fun h => ?_)
      · cases h
      · cases h.1

/-- The telemetry section in layers and in a text: the parts but for the filter are the same. -/
theorem consult_telemetryFields_layers {look : String → Option Value} {s t : TelemetrySettings} :
    consult (telemetryFields .layers) look s = some t
      ↔ consult (telemetryFields .text) look s = some t
        ∧ ∀ form items, look "filter" = some (.array form items) →
          ∀ inner, .table inner ∉ items := by
  rw [consult_telemetryFields_iff, consult_telemetryFields_iff]
  constructor
  · rintro ⟨henabled, hinterval, hfilter⟩
    obtain ⟨hfilter, hno⟩ := readOrKept_filter_layers.mp hfilter
    exact ⟨⟨henabled, hinterval, hfilter⟩, hno⟩
  · rintro ⟨⟨henabled, hinterval, hfilter⟩, hno⟩
    exact ⟨henabled, hinterval, readOrKept_filter_layers.mpr ⟨hfilter, hno⟩⟩

/-! ## Whole documents in the two manners -/

section Manners

variable {entries : Entries}

/-- A section whose fields are the same in two manners is read alike. -/
theorem readOrKept_section_congr {σ : Type} {fields : List (Field σ)} {m m' : Manner}
    (hm : m.Lawful) (hm' : m'.Lawful) (hfields : Independent fields) (hentries : entries.Sound)
    (key name : String) {start before after : σ} :
    ReadOrKept (entries.get? key) (readGroup m name fields start) before after
      ↔ ReadOrKept (entries.get? key) (readGroup m' name fields start) before after := by
  cases hv : entries.get? key with
  | none => exact Iff.rfl
  | some v =>
    have hsound : v.Sound := hentries.of_lookup hv
    have hsame := (hm.toOption_readGroup hfields name start hsound).trans
      (hm'.toOption_readGroup hfields name start hsound).symm
    rw [ReadOrKept, ReadOrKept, ← toOption_eq_some_iff, hsame, toOption_eq_some_iff]

/-- The telemetry section of a document in the two manners. -/
theorem readOrKept_telemetry_layers (hentries : entries.Sound) (name : String)
    {start before after : TelemetrySettings} :
    ReadOrKept (entries.get? "telemetry") (readGroup .layers name (telemetryFields .layers) start)
      before after
      ↔ ReadOrKept (entries.get? "telemetry") (readGroup .text name (telemetryFields .text) start)
        before after
        ∧ NamesKinds entries := by
  cases hv : entries.get? "telemetry" with
  | none =>
    have hfilter : filterOf entries = none := by rw [filterOf, hv]; rfl
    have hnames : NamesKinds entries := fun form items h => by rw [hfilter] at h; cases h
    exact (and_iff_left hnames).symm
  | some v =>
    have hsound : v.Sound := hentries.of_lookup hv
    have hlayers :=
      lawful_layers.toOption_readGroup (independent_telemetryFields .layers) name start hsound
    have htext :=
      lawful_text.toOption_readGroup (independent_telemetryFields .text) name start hsound
    have hkeys : ∀ m, (telemetryFields m).map Field.key = telemetryKeys := fun _ => rfl
    rw [ReadOrKept, ReadOrKept, ← toOption_eq_some_iff, ← toOption_eq_some_iff, hlayers, htext,
      hkeys, hkeys]
    cases hinner : v.entriesFor telemetryKeys with
    | none => exact iff_of_false (fun h => by cases h) fun h => by cases h.1
    | some inner =>
      have hfilter : filterOf entries = inner.get? "filter" := by
        rw [filterOf, hv, Option.bind_eq_bind, Option.bind_some, hinner, Option.bind_eq_bind,
          Option.bind_some]
      rw [NamesKinds, hfilter]
      exact consult_telemetryFields_layers

/-- **Layers take what a text takes, as long as kinds of telemetry are named.** -/
theorem readSettings_layers_iff (hentries : entries.Sound) (c : Settings) :
    readSettings .layers entries = .ok c
      ↔ readSettings .text entries = .ok c ∧ NamesKinds entries := by
  rw [← toOption_eq_some_iff, ← toOption_eq_some_iff,
    lawful_layers.toOption_readSettings hentries.keys,
    lawful_text.toOption_readSettings hentries.keys, Option.map_eq_some_iff, Option.map_eq_some_iff]
  simp only [consult_sectionFields_iff,
    readOrKept_section_congr lawful_layers lawful_text independent_channelFields hentries,
    readOrKept_section_congr lawful_layers lawful_text independent_previewFields hentries,
    readOrKept_section_congr lawful_layers lawful_text independent_quarantineFields hentries,
    readOrKept_telemetry_layers hentries]
  constructor
  · rintro ⟨s, ⟨hchannel, hpreview, hquarantine, htelemetry, hnames⟩, heq⟩
    exact ⟨⟨s, ⟨hchannel, hpreview, hquarantine, htelemetry⟩, heq⟩, hnames⟩
  · rintro ⟨⟨s, ⟨hchannel, hpreview, hquarantine, htelemetry⟩, heq⟩, hnames⟩
    exact ⟨s, ⟨hchannel, hpreview, hquarantine, htelemetry, hnames⟩, heq⟩

end Manners

/-! ## Reserved keys -/

/-- A value without a table that has a reserved key. -/
inductive Toml.Value.Unreserved : Value → Prop where
  | string (text : String) : Unreserved (.string text)
  | integer (n : Int) : Unreserved (.integer n)
  | float (x : Float) : Unreserved (.float x)
  | boolean (b : Bool) : Unreserved (.boolean b)
  | datetime (text : String) : Unreserved (.datetime text)
  | array (form : Toml.ArrayForm) {items : List Value} (items_free : ∀ v ∈ items, Unreserved v) :
    Unreserved (.array form items)
  | table {entries : List (String × Value)}
      (keys : ∀ e ∈ entries, e.1 ≠ wrappedKey ∧ e.1 ≠ labelKey)
    (values : ∀ e ∈ entries, Unreserved e.2) : Unreserved (.table entries)

/-- A document without a table that has a reserved key.  Its own keys may be any. -/
def Toml.Entries.Unreserved (entries : Entries) : Prop := ∀ e ∈ entries, e.2.Unreserved

mutual

/-- Nothing is unwrapped where no key is reserved. -/
theorem unwrapValue_eq : ∀ {v : Value}, v.Unreserved → unwrapValue v = .ok v
  | .table entries, h => by
    cases h with
    | table keys values =>
      rw [unwrapValue, unwrapEntries_eq keys values, Except.map,
        standsFor_of_forall_ne fun e he => (keys e he).1]
  | .array form items, h => by
    cases h with
    | array _ items_free => rw [unwrapValue, unwrapItems_eq 0 items_free]; rfl
  | .string _, _ | .integer _, _ | .float _, _ | .boolean _, _ | .datetime _, _ => by
    rw [unwrapValue.eq_def]

/-- Entries without a reserved key are unwrapped as they are. -/
theorem unwrapEntries_eq : ∀ {entries : List (String × Value)},
    (∀ e ∈ entries, e.1 ≠ wrappedKey ∧ e.1 ≠ labelKey) → (∀ e ∈ entries, e.2.Unreserved) →
    unwrapEntries entries = .ok entries
  | [], _, _ => by rw [unwrapEntries]
  | (key, v) :: rest, keys, values => by
    obtain ⟨hkey, keys⟩ := List.forall_mem_cons.mp keys
    obtain ⟨hv, values⟩ := List.forall_mem_cons.mp values
    rw [unwrapEntries, if_neg hkey.2, unwrapValue_eq hv, unwrapEntries_eq keys values]
    rfl

/-- Items without a reserved key are unwrapped as they are. -/
theorem unwrapItems_eq : ∀ (i : Nat) {items : List Value}, (∀ v ∈ items, v.Unreserved) →
    unwrapItems i items = .ok items
  | i, [], _ => by rw [unwrapItems]
  | i, v :: vs, h => by
    obtain ⟨hv, hvs⟩ := List.forall_mem_cons.mp h
    rw [unwrapItems, unwrapValue_eq hv, unwrapItems_eq (i + 1) hvs]
    rfl

end

mutual

/-- Unwrapping leaves a sound value sound. -/
theorem unwrapValue_sound : ∀ {v w : Value}, v.Sound → unwrapValue v = .ok w → w.Sound
  | .table entries, w, h, hw => by
    rw [unwrapValue, map_eq_ok_iff] at hw
    obtain ⟨entries', hentries, rfl⟩ := hw
    obtain ⟨hsound, -⟩ := unwrapEntries_sound (Toml.Value.sound_table_iff.mp h) hentries
    rw [standsFor]
    cases hget : entries'.get? wrappedKey with
    | none => exact Toml.Value.sound_table_iff.mpr hsound
    | some w => exact hsound.of_lookup hget
  | .array form items, w, h, hw => by
    rw [unwrapValue, map_eq_ok_iff] at hw
    obtain ⟨items', hitems, rfl⟩ := hw
    exact .array form (unwrapItems_sound (Toml.Value.sound_array_iff.mp h) hitems)
  | .string _, w, h, hw | .integer _, w, h, hw | .float _, w, h, hw | .boolean _, w, h, hw
  | .datetime _, w, h, hw => by
    rw [unwrapValue.eq_def] at hw
    exact Except.ok.inj hw ▸ h

/-- Unwrapping sound entries leaves them sound, under the same keys. -/
theorem unwrapEntries_sound : ∀ {entries : List (String × Value)} {entries' : Entries},
    Toml.Entries.Sound entries → unwrapEntries entries = .ok entries' →
    entries'.Sound ∧ entries'.map Prod.fst = entries.map Prod.fst
  | [], entries', h, he => by
    rw [unwrapEntries] at he
    exact Except.ok.inj he ▸ ⟨h, rfl⟩
  | (key, v) :: rest, entries', h, he => by
    obtain ⟨hkey, hv, hrest⟩ := Toml.Keyed.cons_iff.mp h
    rw [unwrapEntries] at he
    split at he
    · cases he
    · obtain ⟨w, hw, he⟩ := bind_eq_ok_iff.mp he
      obtain ⟨rest', hr, he⟩ := bind_eq_ok_iff.mp he
      cases he
      obtain ⟨hsound, hkeys⟩ := unwrapEntries_sound hrest hr
      have hwsound : w.Sound := unwrapValue_sound hv (mapError_eq_ok_iff.mp hw)
      refine ⟨Toml.Keyed.cons_iff.mpr ⟨hkeys ▸ hkey, hwsound, hsound⟩, ?_⟩
      rw [List.map_cons, List.map_cons, hkeys]

/-- Unwrapping sound items leaves them sound. -/
theorem unwrapItems_sound : ∀ {i : Nat} {items items' : List Value}, (∀ v ∈ items, v.Sound) →
    unwrapItems i items = .ok items' → ∀ v ∈ items', v.Sound
  | i, [], items', h, he => by
    rw [unwrapItems] at he
    exact Except.ok.inj he ▸ h
  | i, v :: vs, items', h, he => by
    obtain ⟨hv, hvs⟩ := List.forall_mem_cons.mp h
    rw [unwrapItems] at he
    obtain ⟨w, hw, he⟩ := bind_eq_ok_iff.mp he
    obtain ⟨rest, hr, he⟩ := bind_eq_ok_iff.mp he
    cases he
    have hwsound : w.Sound := unwrapValue_sound hv (mapError_eq_ok_iff.mp hw)
    exact List.forall_mem_cons.mpr ⟨hwsound, unwrapItems_sound hvs hr⟩

end

section Document

variable {entries unwrapped : Entries}

/-- A document is unwrapped entry by entry. -/
theorem unwrapDocument_cons (key : String) (v : Value) : unwrapDocument ((key, v) :: entries)
    = ((unwrapValue v).mapError (Misfit.within key)).bind fun v =>
        (unwrapDocument entries).map ((key, v) :: ·) := by
  rw [unwrapDocument, unwrapDocument, List.mapM_cons]
  dsimp only
  cases (unwrapValue v).mapError (Misfit.within key) <;> rfl

/-- A document without a reserved key is unwrapped as it is. -/
theorem unwrapDocument_eq (h : entries.Unreserved) : unwrapDocument entries = .ok entries := by
  induction entries with
  | nil => rfl
  | cons e entries ih =>
    obtain ⟨key, v⟩ := e
    obtain ⟨hv, hrest⟩ := List.forall_mem_cons.mp h
    rw [unwrapDocument_cons, unwrapValue_eq hv, ih hrest]
    rfl

/-- Unwrapping a sound document leaves it sound, under the same keys. -/
theorem unwrapDocument_sound (h : entries.Sound) (hw : unwrapDocument entries = .ok unwrapped) :
    unwrapped.Sound ∧ unwrapped.map Prod.fst = entries.map Prod.fst := by
  induction entries generalizing unwrapped with
  | nil => exact Except.ok.inj hw ▸ ⟨h, rfl⟩
  | cons e entries ih =>
    obtain ⟨key, v⟩ := e
    obtain ⟨hkey, hv, hrest⟩ := Toml.Keyed.cons_iff.mp h
    rw [unwrapDocument_cons] at hw
    obtain ⟨w, hvalue, hw⟩ := bind_eq_ok_iff.mp hw
    obtain ⟨rest, hr, rfl⟩ := map_eq_ok_iff.mp hw
    obtain ⟨hsound, hkeys⟩ := ih hrest hr
    have hwsound : w.Sound := unwrapValue_sound hv (mapError_eq_ok_iff.mp hvalue)
    refine ⟨Toml.Keyed.cons_iff.mpr ⟨hkeys ▸ hkey, hwsound, hsound⟩, ?_⟩
    rw [List.map_cons, List.map_cons, hkeys]

end Document

/-! ## Files -/

/-- What a text gives on its own. -/
theorem ofText_eq_ok_iff {text : String} {c : Settings} : Settings.ofText text = .ok c
    ↔ ∃ entries, Toml.parse text = some entries ∧ readSettings .text entries = .ok c := by
  rw [Settings.ofText]
  cases Toml.parse text with
  | none => simp
  | some entries => simp [mapError_eq_ok_iff]

/-- What the bytes of a file give: they are a text, its document is unwrapped, and no kind is
given by a table. -/
theorem ofFile_eq_ok_iff {bytes : List UInt8} {c : Settings} : Settings.ofFile bytes = .ok c
    ↔ ∃ cs entries unwrapped, Utf8.decode? bytes = some cs
      ∧ Toml.parse (String.ofList cs) = some entries
      ∧ unwrapDocument entries = .ok unwrapped ∧ readSettings .text unwrapped = .ok c
      ∧ NamesKinds unwrapped := by
  rw [Settings.ofFile]
  cases hdecode : Utf8.decode? bytes with
  | none => simp
  | some cs =>
    cases hparse : Toml.parse (String.ofList cs) with
    | none => simp [hparse]
    | some entries =>
      have hentries : entries.Sound := Toml.sound_of_parse hparse
      cases hunwrap : unwrapDocument entries with
      | error m => simp [hparse, hunwrap]
      | ok unwrapped =>
        have hsound : unwrapped.Sound := (unwrapDocument_sound hentries hunwrap).1
        have hlaid : readSettings .layers (layEntries defaultLayer unwrapped) = .ok c
            ↔ readSettings .layers unwrapped = .ok c := by
          rw [← toOption_eq_some_iff, ← toOption_eq_some_iff,
            toOption_readSettings_layEntries lawful_layers hsound]
        dsimp only
        rw [hparse]
        dsimp only
        rw [hunwrap]
        dsimp only
        rw [mapError_eq_ok_iff, hlaid, readSettings_layers_iff hsound]
        constructor
        · rintro ⟨hread, hnames⟩
          exact ⟨cs, entries, unwrapped, rfl, hparse, hunwrap, hread, hnames⟩
        · rintro ⟨cs', entries', unwrapped', hdecode', hparse', hunwrap', hread, hnames⟩
          cases hdecode'
          cases hparse.symm.trans hparse'
          cases hunwrap.symm.trans hunwrap'
          exact ⟨hread, hnames⟩

section Load

variable {f : Files} {p : Path} {place : Location} {mode : Nat} {text : String}

/-- A file that gives settings is a regular one, and its bytes give them. -/
theorem load_eq_ok_iff_ofFile {c : Settings} : Settings.load f p = .ok c
    ↔ ∃ place content mode, f.find p = .ok (place, ⟨.regular content, mode⟩)
      ∧ Settings.ofFile content = .ok c := by
  rw [Settings.load]
  split
  · next place content mode hfind =>
    rw [mapError_eq_ok_iff]
    constructor
    · exact fun h => ⟨place, content, mode, hfind, h⟩
    · rintro ⟨place', content', mode', hfind', h⟩
      cases hfind.symm.trans hfind'
      exact h
  · next hnot =>
    constructor
    · intro h
      cases h
    · rintro ⟨place, content, mode, hfind, -⟩
      exact absurd hfind (hnot place content mode)

/-- What the file of a text gives. -/
theorem load_eq_ok_iff (hfile : f.find p = .ok (place, ⟨.regular (Utf8.encode text.toList), mode⟩))
    {c : Settings} : Settings.load f p = .ok c
      ↔ ∃ entries unwrapped, Toml.parse text = some entries ∧ unwrapDocument entries = .ok unwrapped
        ∧ readSettings .text unwrapped = .ok c ∧ NamesKinds unwrapped := by
  have hload : Settings.load f p = .ok c ↔ Settings.ofFile (Utf8.encode text.toList) = .ok c := by
    rw [Settings.load, hfile]
    exact mapError_eq_ok_iff
  rw [hload, ofFile_eq_ok_iff, Utf8.decode?_encode]
  simp only [Option.some.injEq, exists_and_left, exists_eq_left', String.ofList_toList]

/-- Without reserved keys, the file gives what the text gives, as long as kinds of telemetry are
named. -/
theorem load_iff_of_unreserved
    (hfile : f.find p = .ok (place, ⟨.regular (Utf8.encode text.toList), mode⟩)) {entries : Entries}
    (hparse : Toml.parse text = some entries) (hfree : entries.Unreserved) (c : Settings) :
    Settings.load f p = .ok c ↔ Settings.ofText text = .ok c ∧ NamesKinds entries := by
  rw [load_eq_ok_iff hfile, ofText_eq_ok_iff]
  constructor
  · rintro ⟨entries', unwrapped, hparse', hunwrap, hread, hnames⟩
    cases hparse.symm.trans hparse'
    cases (unwrapDocument_eq hfree).symm.trans hunwrap
    exact ⟨⟨entries, hparse, hread⟩, hnames⟩
  · rintro ⟨⟨entries', hparse', hread⟩, hnames⟩
    cases hparse.symm.trans hparse'
    exact ⟨entries, entries, hparse, unwrapDocument_eq hfree, hread, hnames⟩

/-- **The file of a text and the text on its own.**

* Where no table below the top has a reserved key and kinds of telemetry are named, both are
  accepted or neither is, and they give the same settings.  So it is where the text is no
  document.
* Where no table has a reserved key but a kind is given by a table, the file is refused,
  whatever the text gives.
* In any case the file gives what the text's document gives once its tables are unwrapped, if
  then kinds are named. -/
theorem load_iff_ofText
    (hfile : f.find p = .ok (place, ⟨.regular (Utf8.encode text.toList), mode⟩)) :
    ((∀ entries, Toml.parse text = some entries → entries.Unreserved ∧ NamesKinds entries) →
      ∀ c, Settings.load f p = .ok c ↔ Settings.ofText text = .ok c)
    ∧ (∀ entries, Toml.parse text = some entries → entries.Unreserved → ¬ NamesKinds entries →
      ∀ c, Settings.load f p ≠ .ok c)
    ∧ ∀ c, Settings.load f p = .ok c
      ↔ ∃ entries unwrapped, Toml.parse text = some entries ∧ unwrapDocument entries = .ok unwrapped
        ∧ readSettings .text unwrapped = .ok c ∧ NamesKinds unwrapped := by
  refine ⟨fun hplain c => ?_, fun entries hparse hfree hnames c hload => ?_,
    fun c => load_eq_ok_iff hfile⟩
  · cases hparse : Toml.parse text with
    | none =>
      -- no document: neither gives anything
      rw [load_eq_ok_iff hfile, ofText_eq_ok_iff, hparse]
      simp
    | some entries =>
      obtain ⟨hfree, hnames⟩ := hplain entries hparse
      rw [load_iff_of_unreserved hfile hparse hfree]
      exact and_iff_left hnames
  · exact hnames ((load_iff_of_unreserved hfile hparse hfree c).mp hload).2

end Load

/-! ## A file of its own -/

/-- A file system with one file, which holds a text. -/
def oneFile (text : String) : Files :=
  { objects := [([[0x73]], ⟨.regular (Utf8.encode text.toList), fileMode⟩)] }

/-- The path of the one file. -/
def onePath : Path := ⟨[slash, 0x73]⟩

theorem find_oneFile (text : String) : (oneFile text).find onePath
    = .ok ([[0x73]], ⟨.regular (Utf8.encode text.toList), fileMode⟩) := rfl

theorem load_iff_ofText_named :
    (oneFile "telemetry.filter = ['network']\n").find onePath = .ok ([[0x73]],
      ⟨.regular (Utf8.encode "telemetry.filter = ['network']\n".toList), fileMode⟩)
    ∧ Settings.load (oneFile "telemetry.filter = ['network']\n") onePath
      = .ok (Settings.normalized { telemetry := { filter := [.network] } }) := by
  have hparse : Toml.parse "telemetry.filter = ['network']\n"
      = some [("telemetry", .table [("filter", .array .bracketed [.string "network"])])] := by cbv
  have htext : Settings.ofText "telemetry.filter = ['network']\n"
      = .ok (Settings.normalized { telemetry := { filter := [.network] } }) :=
    ofText_eq_ok_iff.mpr ⟨_, hparse, rfl⟩
  have hplain : ∀ entries, Toml.parse "telemetry.filter = ['network']\n" = some entries →
      entries.Unreserved ∧ NamesKinds entries := by
    intro entries h
    cases hparse.symm.trans h
    constructor
    · refine List.forall_mem_singleton.mpr (.table (by decide) ?_)
      exact List.forall_mem_singleton.mpr (.array _ (List.forall_mem_singleton.mpr (.string _)))
    · intro form items hfilter inner hinner
      cases hfilter
      cases List.mem_singleton.mp hinner
  exact ⟨find_oneFile _, ((load_iff_ofText (find_oneFile _)).1 hplain _).mpr htext⟩

/-- The two ways do not accept the same documents: a kind of telemetry that is given by a table
is only taken from a text, and a wrapped value only from a file. -/
theorem not_load_iff_ofText :
    ((∃ c, Settings.ofText "[telemetry]\nfilter = [\x7bprocess = \x7b\x7d\x7d]\n" = .ok c)
      ∧ ∀ c, Settings.load (oneFile "[telemetry]\nfilter = [\x7bprocess = \x7b\x7d\x7d]\n") onePath
        ≠ .ok c)
    ∧ (∃ c, Settings.load
        (oneFile "quarantine.enabled = \x7b___figment_value_value = false\x7d\n") onePath = .ok c)
      ∧ ∀ c, Settings.ofText "quarantine.enabled = \x7b___figment_value_value = false\x7d\n"
        ≠ .ok c := by
  have htable : Toml.parse "[telemetry]\nfilter = [\x7bprocess = \x7b\x7d\x7d]\n"
      = some [("telemetry", .table [("filter",
        .array .bracketed [.table [("process", .table [])]])])] := by
    cbv
  have hwrapped : Toml.parse "quarantine.enabled = \x7b___figment_value_value = false\x7d\n"
      = some [("quarantine", .table [("enabled",
        .table [("___figment_value_value", .boolean false)])])] := by
    cbv
  refine ⟨⟨⟨_, ofText_eq_ok_iff.mpr ⟨_, htable, rfl⟩⟩, fun c hload => ?_⟩,
    ⟨_, (load_eq_ok_iff (find_oneFile _)).mpr ⟨_, _, hwrapped, rfl, rfl, ?_⟩⟩, fun c htext => ?_⟩
  · -- the table among the items of the filter
    obtain ⟨entries, unwrapped, hparse, hunwrap, -, hnames⟩ :=
      (load_eq_ok_iff (find_oneFile _)).mp hload
    cases htable.symm.trans hparse
    cases hunwrap
    exact hnames _ _ rfl _ List.mem_cons_self
  · intro form items hfilter
    cases hfilter
  · -- the table where a flag is asked for
    obtain ⟨entries, hparse, hread⟩ := ofText_eq_ok_iff.mp htext
    cases hwrapped.symm.trans hparse
    cases hread

end FileActivity
