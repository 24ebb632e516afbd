/-
# Laying a document over the defaults

A document that is laid over the defaults gives what it gives on its own: a field that it leaves
out finds the value that it starts with anyway, and no field takes a table, so a table of the
document never meets a value of the defaults that it could be merged with.

Main statement: `toOption_readSettings_layEntries`.
-/
import FileActivity.Proofs.Settings.Fields

namespace FileActivity

open Toml (Value Entries)

/-! ## The entries that are seen -/

namespace Toml.Entries

variable {entries : Entries} {key k : String} {v : Value}

/-- What is put under a key is found there, and nothing else changes. -/
theorem get?_put : (entries.put key v).get? k = if k = key then some v else entries.get? k := by
  induction entries with
  | nil => rw [put, get?_cons]
  | cons e entries ih =>
    obtain ⟨key', w⟩ := e
    rw [put]
    by_cases hkey : key' = key
    · subst hkey
      rw [if_pos rfl, get?_cons, get?_cons]
      split <;> rfl
    · rw [if_neg hkey, get?_cons, ih, get?_cons]
      by_cases hk : k = key'
      · subst hk
        rw [if_pos rfl, if_pos rfl, if_neg hkey]
      · rw [if_neg hk, if_neg hk]

/-- Putting a value under a key brings in no other key. -/
theorem mem_keys_put (h : k ∈ (entries.put key v).map Prod.fst) :
    k = key ∨ k ∈ entries.map Prod.fst := by
  induction entries with
  | nil => exact Or.inl (List.mem_singleton.mp h)
  | cons e entries ih =>
    obtain ⟨key', w⟩ := e
    rw [put] at h
    split at h
    · exact Or.inr h
    · rw [List.map_cons, List.mem_cons] at h ⊢
      rcases h with rfl | h
      · exact Or.inr (Or.inl rfl)
      · exact (ih h).imp_right Or.inr

/-- Putting a value under a key keeps the keys distinct. -/
theorem nodup_put (h : (entries.map Prod.fst).Nodup) :
    ((entries.put key v).map Prod.fst).Nodup := by
  induction entries with
  | nil => exact List.nodup_singleton _
  | cons e entries ih =>
    obtain ⟨key', w⟩ := e
    obtain ⟨hnot, hrest⟩ := List.nodup_cons.mp h
    rw [put]
    split
    · exact h
    · next hne =>
      refine List.nodup_cons.mpr ⟨fun hmem => ?_, ih hrest⟩
      rcases mem_keys_put hmem with heq | hmem
      · exact hne heq
      · exact hnot hmem

end Toml.Entries

section Lay

variable {under upper : Entries} {key : String}

/-- A key of the upper entries shows their value, laid over what was there, and any other what
was there. -/
theorem get?_layEntries (h : (upper.map Prod.fst).Nodup) : (layEntries under upper).get? key
    = match upper.get? key with
      | some v => some (layValue ((under.get? key).getD (.table [])) v)
      | none => under.get? key := by
  induction upper generalizing under with
  | nil => rw [layEntries]; rfl
  | cons e upper ih =>
    obtain ⟨k, v⟩ := e
    obtain ⟨hk, hrest⟩ := List.nodup_cons.mp h
    rw [layEntries, ih hrest, Toml.Entries.get?_put, Toml.Entries.get?_cons]
    by_cases hkey : key = k
    · subst hkey
      rw [Toml.Entries.get?_eq_none_of_not_mem hk, if_pos rfl, if_pos rfl]
    · rw [if_neg hkey, if_neg hkey]

/-- Laying entries over others keeps the keys distinct. -/
theorem nodup_layEntries (h : (under.map Prod.fst).Nodup) :
    ((layEntries under upper).map Prod.fst).Nodup := by
  induction upper generalizing under with
  | nil => rw [layEntries]; exact h
  | cons e upper ih => rw [layEntries]; exact ih (Toml.Entries.nodup_put h)

/-- Only a table is merged with what is below it. -/
theorem layValue_cases (under v : Value) :
    layValue under v = v
      ∨ (∃ entries, v = .table entries) ∧ ∃ entries, layValue under v = .table entries := by
  cases v with
  | table entries =>
    refine Or.inr ⟨⟨entries, rfl⟩, ?_⟩
    cases under <;> exact ⟨_, layValue.eq_def _ _⟩
  | _ => exact Or.inl (layValue.eq_def _ _)

end Lay

/-! ## Sections over their defaults -/

section Underlay

variable {σ : Type} {fields : List (Field σ)} {start : σ} {under : Entries}

/-- Entries that may lie below those of a section: they say of each field what it starts with,
and a field takes no table, which could show through. -/
structure Underlay (fields : List (Field σ)) (start : σ) (under : Entries) : Prop where
  independent : Independent fields
  keys : (under.map Prod.fst).Nodup
  neutral : ∀ f ∈ fields, f.take (under.get? f.key) start = some start
  refuses : ∀ f ∈ fields, ∀ entries s, f.take (some (.table entries)) s = none

namespace Underlay

/-- What lies below leaves a section as it starts. -/
theorem consult_eq (h : Underlay fields start under) :
    consult fields under.get? start = some start := by
  have hnothing : consult fields (fun _ => none) start = some start := consult_nothing start
  exact (consult_of_neutral h.independent.commutes fun f hf => Or.inr ⟨rfl, h.neutral f hf⟩).trans
    hnothing

/-- What lies below does not show: the fields read what the upper entries say. -/
theorem consult_layEntries (h : Underlay fields start under) {upper : Entries}
    (hupper : (upper.map Prod.fst).Nodup) :
    consult fields (layEntries under upper).get? start = consult fields upper.get? start := by
  -- what the upper entries leave out is neutral below, and what they have stands, unless it is
  -- a table: then
  -- it is one before and after, and no field takes it
  refine consult_of_neutral h.independent.commutes fun f hf => ?_
  rw [get?_layEntries hupper]
  cases hv : upper.get? f.key with
  | none => exact Or.inr ⟨rfl, h.neutral f hf⟩
  | some v =>
    refine Or.inl fun s => ?_
    rcases layValue_cases ((under.get? f.key).getD (.table [])) v with hsame | ⟨⟨_, rfl⟩, _, htable⟩
    · exact congrArg (fun v => f.take (some v) s) hsame
    · exact (congrArg (fun v => f.take (some v) s) htable).trans
        ((h.refuses f hf _ s).trans (h.refuses f hf _ s).symm)

/-- A section over the entries below it is read as it is read alone. -/
theorem toOption_readGroup_layValue (h : Underlay fields start under) {m : Manner} (hm : m.Lawful)
    (name : String) {v : Value} (hv : v.Sound) :
    (readGroup m name fields start (layValue (.table under) v)).toOption
      = (readGroup m name fields start v).toOption := by
  cases hv with
  | table keys _ =>
    rw [layValue]
    exact (hm.toOption_readEntries h.independent (nodup_layEntries h.keys) start).trans
      ((h.consult_layEntries keys).trans (hm.toOption_readEntries h.independent keys start).symm)
  | _ => rw [layValue.eq_def]

end Underlay

end Underlay

/-! ## The defaults -/

/-- The entries of the layer below the channel section. -/
def channelLayer : Entries :=
  [("socket_path", .string "/run/sentinelguard/events.sock"), ("send_timeout", .integer 50),
   ("queue_capacity", .integer 1024), ("allowed_uids", .array .bracketed [])]

/-- The entries of the layer below the telemetry section. -/
def telemetryLayer : Entries :=
  [("enabled", .boolean false), ("poll_interval", .integer 1),
   ("filter", .array .bracketed [.string "process", .string "registry", .string "network"])]

theorem defaultLayer_eq : defaultLayer =
    [("channel", .table channelLayer), ("entropy", .table [("preview_budget", .integer 4096)]),
     ("quarantine", .table [("enabled", .boolean true)]),
       ("telemetry", .table telemetryLayer)] := rfl

/-- The defaults of the channel may lie below its section. -/
theorem underlay_channel : Underlay channelFields {} channelLayer where
  independent := independent_channelFields
  keys := by decide
  neutral := by
    simp only [channelFields, List.forall_mem_cons, List.not_mem_nil, IsEmpty.forall_iff,
      implies_true, and_true]; exact ⟨rfl, rfl, rfl, rfl⟩
  refuses := by
    simp only [channelFields, List.forall_mem_cons, List.not_mem_nil, IsEmpty.forall_iff,
      implies_true,
      and_true]; exact ⟨fun _ _ => rfl, fun _ _ => rfl, fun _ _ => rfl, fun _ _ => rfl⟩

theorem underlay_preview : Underlay previewFields {} [("preview_budget", .integer 4096)] where
  independent := independent_previewFields
  keys := by decide
  neutral := List.forall_mem_singleton.mpr rfl
  refuses := List.forall_mem_singleton.mpr fun _ _ => rfl

theorem underlay_quarantine : Underlay quarantineFields {} [("enabled", .boolean true)] where
  independent := independent_quarantineFields
  keys := by decide
  neutral := List.forall_mem_singleton.mpr rfl
  refuses := List.forall_mem_singleton.mpr fun _ _ => rfl

theorem underlay_telemetry {m : Manner} (hm : m.Lawful) :
    Underlay (telemetryFields m) {} telemetryLayer where
  independent := independent_telemetryFields m
  keys := by decide
  neutral := by
    have hfilter : readList m.kind
        (.array .bracketed [.string "process", .string "registry", .string "network"])
        = .ok TraceKind.all := by
      have hprocess := hm.kind .process
      have hregistry := hm.kind .registry
      have hnetwork := hm.kind .network
      simp only [TraceKind.name] at hprocess hregistry hnetwork
      simp only [readList, readItems, hprocess, hregistry, hnetwork]
      rfl
    simp only [telemetryFields_eq, List.forall_mem_cons, List.not_mem_nil, IsEmpty.forall_iff,
      implies_true, and_true]
    refine ⟨rfl, rfl, ?_⟩
    exact (Field.take_setter _ _ _ _ _).trans (by rw [hfilter]; rfl)
  refuses := by
    simp only [telemetryFields, List.forall_mem_cons, List.not_mem_nil, IsEmpty.forall_iff,
      implies_true, and_true]
    exact ⟨fun _ _ => rfl, fun _ _ => rfl, fun _ _ => rfl⟩

/-! ## The document over the defaults -/

section Document

variable {m : Manner} {entries : Entries}

/-- A section either stands in the document, and is read as it is read alone, or it is the
defaults' and changes nothing. -/
theorem section_over_default {σ : Type} {fields : List (Field σ)} {start : σ} {under : Entries}
    {key : String} {set : Settings → σ → Settings} (h : Underlay fields start under) (hm : m.Lawful)
    (hentries : entries.Sound) (hdefault : defaultLayer.get? key = some (.table under))
    (hset : set {} start = {}) (name : String) {f : Field Settings}
    (hf : f = .setter key (readGroup m name fields start) set) :
    (∀ s, f.take ((layEntries defaultLayer entries).get? f.key) s = f.take (entries.get? f.key) s)
      ∨ entries.get? f.key = none ∧ f.take ((layEntries defaultLayer entries).get? f.key) {}
        = some {} := by
  subst hf
  have hkey : (Field.setter key (readGroup m name fields start) set).key = key := rfl
  rw [hkey, get?_layEntries hentries.keys, hdefault]
  cases hv : entries.get? key with
  | none =>
    have hgroup : (readGroup m name fields start (.table under)).toOption = some start :=
      (hm.toOption_readEntries h.independent h.keys start).trans h.consult_eq
    exact Or.inr ⟨rfl, by rw [Field.take_setter, hgroup, Option.map_some, hset]⟩
  | some v =>
    have hsound : v.Sound := hentries.of_lookup hv
    refine Or.inl fun s => ?_
    rw [Field.take_setter, Field.take_setter, Option.getD_some,
      h.toOption_readGroup_layValue hm name hsound]

/-- **Laid over the defaults, a document gives what it gives on its own.** -/
theorem toOption_readSettings_layEntries (hm : m.Lawful) (hentries : entries.Sound) :
    (readSettings m (layEntries defaultLayer entries)).toOption
      = (readSettings m entries).toOption := by
  have hdefault : (defaultLayer.map Prod.fst).Nodup := by rw [defaultLayer_eq]; decide
  rw [hm.toOption_readSettings (nodup_layEntries hdefault), hm.toOption_readSettings hentries.keys]
  congr 1
  refine consult_of_neutral (independent_sectionFields m).commutes ?_
  simp only [sectionFields_eq, List.forall_mem_cons, List.not_mem_nil, IsEmpty.forall_iff,
    implies_true, and_true]
  exact ⟨section_over_default underlay_channel hm hentries rfl rfl _ rfl,
    section_over_default underlay_preview hm hentries rfl rfl _ rfl,
    section_over_default underlay_quarantine hm hentries rfl rfl _ rfl,
    section_over_default (underlay_telemetry hm) hm hentries rfl rfl _ rfl⟩

end Document

end FileActivity
