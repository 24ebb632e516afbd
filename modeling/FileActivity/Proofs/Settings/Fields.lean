/-
# Settings field by field

Entries are read one after another, in whatever order they stand, but every field has a key of
its own and sets a part of its own.  So the order does not matter, and a section is what its
fields make of the values under their keys (`toOption_readEntries`).  What does not fit is left
out of sight here: an error only counts as no result.
-/
import FileActivity.Proofs.Outcome
import FileActivity.Proofs.Toml.Sound
import FileActivity.Settings.Layers
import Mathlib.Data.List.Basic

namespace FileActivity

open Toml (Value Entries)

/-! ## Fields that keep to themselves -/

namespace Field

variable {σ τ τ' : Type}

/-- A field that takes the value under its key, if there is one. -/
def take (f : Field σ) (v : Option Value) (s : σ) : Option σ :=
  match v with
  | some v => (f.read s v).toOption
  | none => some s

@[simp] theorem take_none (f : Field σ) (s : σ) : f.take none s = some s := rfl

/-- Two fields whose values may be taken in either order. -/
def Commutes (f g : Field σ) : Prop :=
  ∀ s v w, (f.take v s).bind (g.take w) = (g.take w s).bind (f.take v)

/-- A field that reads its value on its own and sets one part of the structure. -/
def setter (key : String) (read : Value → Except Misfit τ) (set : σ → τ → σ) : Field σ :=
  ⟨key, fun s v => do return set s (← read v)⟩

/-- A field that a value sets takes what the value is read as. -/
theorem take_setter (key : String) (read : Value → Except Misfit τ) (set : σ → τ → σ) (v : Value)
    (s : σ) : (setter key read set).take (some v) s = (read v).toOption.map (set s) := by
  simp only [take, setter]
  cases read v <;> rfl

/-- Fields that set different parts commute. -/
theorem commutes_setter {key key' : String} {read : Value → Except Misfit τ}
    {read' : Value → Except Misfit τ'} {set : σ → τ → σ} {set' : σ → τ' → σ}
    (h : ∀ s a b, set' (set s a) b = set (set' s b) a) :
    Commutes (setter key read set) (setter key' read' set') := by
  intro s v w
  cases v with
  | none => exact (Option.bind_fun_some _).symm
  | some v =>
    cases w with
    | none => exact Option.bind_fun_some _
    | some w =>
      rw [take_setter, take_setter]
      cases hv : (read v).toOption <;> cases hw : (read' w).toOption
        <;> simp [take_setter, hv, hw, h]

end Field

/-! ## Fields and the values under their keys -/

section Consult

variable {σ : Type} {fields : List (Field σ)} {look look' : String → Option Value}

/-- Lets each field take what is found under its key, in the order of the fields. -/
def consult : List (Field σ) → (String → Option Value) → σ → Option σ
  | [], _, s => some s
  | f :: fields, look, s => (f.take (look f.key) s).bind (consult fields look)

@[simp] theorem consult_nil (look : String → Option Value) (s : σ) : consult [] look s = some s :=
  rfl

/-- Fields that take the same from what they find, one by one, do so together. -/
theorem consult_congr (h : ∀ f ∈ fields, ∀ s, f.take (look' f.key) s = f.take (look f.key) s)
    (s : σ) : consult fields look' s = consult fields look s := by
  induction fields generalizing s with
  | nil => rfl
  | cons f fields ih =>
    obtain ⟨hf, hfields⟩ := List.forall_mem_cons.mp h
    rw [consult, consult, hf, funext (ih hfields)]

/-- Where nothing is found nothing changes. -/
theorem consult_nothing (s : σ) : consult fields (fun _ => none) s = some s := by
  induction fields with
  | nil => rfl
  | cons f fields ih => rw [consult, Field.take_none, Option.bind_some, ih]

/-- One more value, under the key of one of the fields, may as well be taken first. -/
theorem consult_update (hcommutes : fields.Pairwise Field.Commutes)
    (hkeys : (fields.map Field.key).Nodup) {f : Field σ} (hf : f ∈ fields) {v : Value}
    (hnew : look' f.key = some v) (hnone : look f.key = none)
    (hrest : ∀ key, key ≠ f.key → look' key = look key) (s : σ) :
    consult fields look' s = (f.take (some v) s).bind (consult fields look) := by
  induction fields generalizing s with
  | nil => cases hf
  | cons g fields ih =>
    obtain ⟨hg, hcommutes⟩ := List.pairwise_cons.mp hcommutes
    obtain ⟨hgkey, hkeys⟩ := List.nodup_cons.mp hkeys
    rcases List.mem_cons.mp hf with rfl | hf
    · -- the field comes first, and no other has its key
      have hothers : ∀ g ∈ fields, g.key ≠ f.key := fun g hg heq =>
        hgkey (heq ▸ List.mem_map_of_mem hg)
      have hsame : consult fields look' = consult fields look :=
        funext (consult_congr fun g hg s => by rw [hrest g.key (hothers g hg)])
      have hnothing : consult (f :: fields) look = consult fields look := by
        funext s
        rw [consult, hnone, Field.take_none, Option.bind_some]
      rw [consult, hnew, hsame, hnothing]
    · have hne : g.key ≠ f.key := fun heq => hgkey (heq ▸ List.mem_map_of_mem hf)
      have htail : consult fields look' = fun s => (f.take (some v) s).bind (consult fields look) :=
        funext (ih hcommutes hkeys hf)
      rw [consult, hrest g.key hne, htail, ← Option.bind_assoc, hg f hf, Option.bind_assoc]
      rfl

/-- Where a value is missing, one that changes nothing may as well be there. -/
theorem consult_of_neutral (hcommutes : fields.Pairwise Field.Commutes) {s : σ}
    (h : ∀ f ∈ fields, (∀ s, f.take (look' f.key) s = f.take (look f.key) s)
      ∨ look f.key = none ∧ f.take (look' f.key) s = some s) :
    consult fields look' s = consult fields look s := by
  induction fields generalizing s with
  | nil => rfl
  | cons f fields ih =>
    obtain ⟨hf, hcommutes⟩ := List.pairwise_cons.mp hcommutes
    -- what the first field takes leaves the values of the others as neutral as they were
    have hafter : ∀ s', f.take (look f.key) s = some s' →
        consult fields look' s' = consult fields look s' := by
      intro s' htake
      refine ih hcommutes fun g hg => ?_
      rcases h g (List.mem_cons_of_mem _ hg) with hsame | ⟨hnone, hneutral⟩
      · exact Or.inl hsame
      · have hswap := hf g hg s (look f.key) (look' g.key)
        rw [htake, hneutral, Option.bind_some, Option.bind_some, htake] at hswap
        exact Or.inr ⟨hnone, hswap⟩
    have hfirst : f.take (look' f.key) s = f.take (look f.key) s := by
      rcases h f List.mem_cons_self with hsame | ⟨hnone, hneutral⟩
      · exact hsame s
      · rw [hnone, hneutral, Field.take_none]
    rw [consult, consult, hfirst]
    cases htake : f.take (look f.key) s with
    | none => rfl
    | some s' => exact hafter s' htake

end Consult

/-! ## Entries and the values under their keys -/

namespace Toml.Entries

variable {entries entries' : Entries} {key : String} {v : Value}

/-- The first entry with a key is the one that counts. -/
theorem get?_cons (e : String × Value) : get? (e :: entries) key
    = if key = e.1 then some e.2 else get? entries key := by
  obtain ⟨k, w⟩ := e
  rw [get?, List.lookup_cons]
  by_cases h : key = k
  · rw [if_pos h, h, beq_self_eq_true]
  · rw [if_neg h, beq_eq_false_iff_ne.mpr h]
    rfl

/-- A key without an entry has no value. -/
theorem get?_eq_none_of_not_mem (h : key ∉ entries.map Prod.fst) : entries.get? key = none := by
  rw [get?, List.lookup_eq_none_iff]
  intro e he
  exact bne_iff_ne.mpr fun heq => h (heq ▸ List.mem_map_of_mem he)

/-- Among entries of which no key stands twice, the order does not matter. -/
theorem get?_of_perm (h : entries.Perm entries') (hkeys : (entries.map Prod.fst).Nodup) :
    entries.get? key = entries'.get? key := by
  induction h with
  | nil => rfl
  | cons e _ ih => rw [get?_cons, get?_cons, ih (List.nodup_cons.mp hkeys).2]
  | swap e e' entries =>
    rw [List.map_cons, List.map_cons, List.nodup_cons, List.mem_cons, not_or] at hkeys
    rw [get?_cons, get?_cons, get?_cons, get?_cons]
    split
    · next h => rw [if_neg fun h' => hkeys.1.1 (h.symm.trans h')]
    · rfl
  | trans h _ ih ih' =>
    rw [ih hkeys, ih' ((h.map Prod.fst).nodup_iff.mp hkeys)]

end Toml.Entries

section ReadEntries

variable {σ : Type} {fields : List (Field σ)} {entries : Entries}

/-- A field is found by its key. -/
theorem find?_key (hkeys : (fields.map Field.key).Nodup) {f : Field σ} (hf : f ∈ fields) :
    fields.find? (fun g => g.key == f.key) = some f := by
  induction fields with
  | nil => cases hf
  | cons g fields ih =>
    obtain ⟨hg, hkeys⟩ := List.nodup_cons.mp hkeys
    rw [List.find?_cons]
    rcases List.mem_cons.mp hf with rfl | hf
    · rw [beq_self_eq_true]
    · have hne : g.key ≠ f.key := fun heq => hg (heq ▸ List.mem_map_of_mem hf)
      rw [beq_eq_false_iff_ne.mpr hne]
      exact ih hkeys hf

/-- An entry under the key of a field is taken by that field. -/
theorem toOption_readEntry_of_mem (hkeys : (fields.map Field.key).Nodup) {f : Field σ}
    (hf : f ∈ fields) (v : Value) (s : σ) :
    (readEntry fields s (f.key, v)).toOption = f.take (some v) s := by
  rw [readEntry, find?_key hkeys hf, toOption_mapError]
  rfl

/-- An entry under no field's key is passed over. -/
theorem readEntry_of_forall_ne {key : String} (h : ∀ f ∈ fields, f.key ≠ key) (v : Value) (s : σ) :
    readEntry fields s (key, v) = .ok s := by
  have hfind : fields.find? (fun g => g.key == key) = none :=
    List.find?_eq_none.mpr fun f hf => by rw [beq_iff_eq]; exact h f hf
  rw [readEntry, hfind]

/-- **Reading entries is asking the fields**: each takes the value under its key, in whatever
order the entries stand. -/
theorem toOption_readEntries (hcommutes : fields.Pairwise Field.Commutes)
    (hkeys : (fields.map Field.key).Nodup) (hdistinct : (entries.map Prod.fst).Nodup) (s : σ) :
    (readEntries fields s entries).toOption = consult fields entries.get? s := by
  induction entries generalizing s with
  | nil => exact (consult_nothing s).symm
  | cons e entries ih =>
    obtain ⟨key, v⟩ := e
    obtain ⟨hkey, hdistinct⟩ := List.nodup_cons.mp hdistinct
    have hread : readEntries fields s ((key, v) :: entries)
      = readEntry fields s (key, v) >>= fun s => readEntries fields s entries := List.foldlM_cons
    rw [hread, toOption_bind, funext (ih hdistinct)]
    by_cases hfield : ∃ f ∈ fields, f.key = key
    · obtain ⟨f, hf, rfl⟩ := hfield
      rw [toOption_readEntry_of_mem hkeys hf]
      refine (consult_update hcommutes hkeys hf ?_ ?_ (fun key hne => ?_) s).symm
      · rw [Toml.Entries.get?_cons, if_pos rfl]
      · exact Toml.Entries.get?_eq_none_of_not_mem hkey
      · rw [Toml.Entries.get?_cons, if_neg hne]
    · have hne : ∀ f ∈ fields, f.key ≠ key := fun f hf heq => hfield ⟨f, hf, heq⟩
      rw [readEntry_of_forall_ne hne]
      refine consult_congr (fun f hf s => ?_) s
      rw [Toml.Entries.get?_cons, if_neg (hne f hf)]

end ReadEntries

/-! ## Sections -/

/-- The entries that a section stands for: a table's own, and those of an array that lists the
values of the fields in order.  A date or time has none of the keys. -/
def Toml.Value.entriesFor (keys : List String) : Value → Option Entries
  | .table entries => some entries
  | .datetime _ => some []
  | .array _ items => some (keys.zip items)
  | _ => none

/-- A list is read as if each item stood under the key of the field in its place. -/
theorem toOption_readListed {σ : Type} {fields : List (Field σ)}
    (hkeys : (fields.map Field.key).Nodup) (i : Nat) (items : List Value) (s : σ) :
    (readListed i fields s items).toOption
      = consult fields (Toml.Entries.get? ((fields.map Field.key).zip items)) s := by
  induction fields generalizing i items s with
  | nil => rfl
  | cons f fields ih =>
    cases items with
    | nil => exact (consult_nothing s).symm
    | cons v items =>
      obtain ⟨hf, hkeys⟩ := List.nodup_cons.mp hkeys
      have hothers : ∀ s,
          consult fields (Toml.Entries.get? (((f :: fields).map Field.key).zip (v :: items))) s
          = consult fields (Toml.Entries.get? ((fields.map Field.key).zip items)) s :=
        consult_congr fun g hg s => by
          have hne : g.key ≠ f.key := fun heq => hf (heq ▸ List.mem_map_of_mem hg)
          rw [List.map_cons, List.zip_cons_cons, Toml.Entries.get?_cons, if_neg hne]
      rw [readListed, toOption_bind, toOption_mapError, funext (ih hkeys (i + 1) items), consult,
        funext hothers, List.map_cons, List.zip_cons_cons, Toml.Entries.get?_cons, if_pos rfl]
      rfl

/-! ## The fields of the sections -/

theorem channelFields_eq : channelFields =
    [.setter "socket_path" readPath fun s a => { s with socketPath := a },
     .setter "send_timeout" (readTime .ofMillis) fun s a => { s with sendTimeout := a },
     .setter "queue_capacity" readCount fun s a => { s with queueCapacity := a },
     .setter "allowed_uids" (readList readUid) fun s a => { s with allowedUids := a }] := rfl

theorem previewFields_eq : previewFields =
    [.setter "preview_budget" readCount fun s a => { s with budget := a }] := rfl

theorem quarantineFields_eq : quarantineFields =
    [.setter "enabled" readFlag fun s a => { s with enabled := a }] := rfl

theorem telemetryFields_eq (m : Manner) : telemetryFields m =
    [.setter "enabled" readFlag fun s a => { s with enabled := a },
     .setter "poll_interval" (readTime .ofSeconds) fun s a => { s with pollInterval := a },
     .setter "filter" (readList m.kind) fun s a => { s with filter := a }] := rfl

theorem sectionFields_eq (m : Manner) : sectionFields m =
    [.setter "channel" (readGroup m "Channel" channelFields {}) fun s a => { s with channel := a },
     .setter "entropy" (readGroup m "Entropy" previewFields {}) fun s a => { s with preview := a },
     .setter "quarantine" (readGroup m "Quarantine" quarantineFields {}) fun s a =>
       { s with quarantine := a },
     .setter "telemetry" (readGroup m "Telemetry" (telemetryFields m) {}) fun s a =>
       { s with telemetry := a }] := rfl

/-- Fields that may be read in any order: their keys differ, and they set different parts. -/
structure Independent {σ : Type} (fields : List (Field σ)) : Prop where
  keys : (fields.map Field.key).Nodup
  commutes : fields.Pairwise Field.Commutes

/-- The fields of the channel may be read in any order. -/
theorem independent_channelFields : Independent channelFields := by
  refine ⟨by decide, ?_⟩
  rw [channelFields_eq]
  simp only [List.pairwise_cons, List.mem_cons, List.not_mem_nil, or_false, forall_eq_or_imp,
    forall_eq, IsEmpty.forall_iff, implies_true, List.Pairwise.nil, and_true]
  refine ⟨⟨?_, ?_, ?_⟩, ⟨?_, ?_⟩, ?_⟩ <;> exact Field.commutes_setter fun _ _ _ => rfl

theorem independent_previewFields : Independent previewFields :=
  ⟨by decide, List.pairwise_singleton _ _⟩

theorem independent_quarantineFields : Independent quarantineFields :=
  ⟨by decide, List.pairwise_singleton _ _⟩

theorem independent_telemetryFields (m : Manner) : Independent (telemetryFields m) := by
  have hkeys : (telemetryFields m).map Field.key = ["enabled", "poll_interval", "filter"] := rfl
  refine ⟨by rw [hkeys]; decide, ?_⟩
  rw [telemetryFields_eq]
  simp only [List.pairwise_cons, List.mem_cons, List.not_mem_nil, or_false, forall_eq_or_imp,
    forall_eq, IsEmpty.forall_iff, implies_true, List.Pairwise.nil, and_true]
  refine ⟨⟨?_, ?_⟩, ?_⟩ <;> exact Field.commutes_setter fun _ _ _ => rfl

theorem independent_sectionFields (m : Manner) : Independent (sectionFields m) := by
  have hkeys : (sectionFields m).map Field.key
      = ["channel", "entropy", "quarantine", "telemetry"] := rfl
  refine ⟨by rw [hkeys]; decide, ?_⟩
  rw [sectionFields_eq]
  simp only [List.pairwise_cons, List.mem_cons, List.not_mem_nil, or_false, forall_eq_or_imp,
    forall_eq, IsEmpty.forall_iff, implies_true, List.Pairwise.nil, and_true]
  refine ⟨⟨?_, ?_, ?_⟩, ⟨?_, ?_⟩, ?_⟩ <;> exact Field.commutes_setter fun _ _ _ => rfl

/-! ## What each field comes to -/

/-- A part that was read from a value, or stayed as it was where there is none. -/
def ReadOrKept {τ : Type} (v : Option Value) (read : Value → Except Misfit τ) (before after : τ) :
    Prop :=
  match v with
  | some v => read v = .ok after
  | none => after = before

section ReadOrKept

variable {σ τ : Type} {fields : List (Field σ)} {look : String → Option Value} {key : String}
  {read : Value → Except Misfit τ} {set : σ → τ → σ} {s s' : σ}

/-- A field that sets one part reads it or leaves it as it was. -/
theorem take_setter_iff (part : σ → τ) (hpart : ∀ s, set s (part s) = s) (v : Option Value) :
    (Field.setter key read set).take v s = some s'
      ↔ ∃ a, ReadOrKept v read (part s) a ∧ set s a = s' := by
  cases v with
  | none =>
    rw [Field.take_none, Option.some.injEq]
    constructor
    · exact fun h => ⟨part s, rfl, (hpart s).trans h⟩
    · rintro ⟨a, rfl, h⟩
      exact (hpart s).symm.trans h
  | some v =>
    rw [Field.take_setter, Option.map_eq_some_iff]
    exact exists_congr fun a => and_congr_left' toOption_eq_some_iff

/-- So the fields after it find the part set. -/
theorem consult_cons_iff (part : σ → τ) (hpart : ∀ s, set s (part s) = s) :
    consult (.setter key read set :: fields) look s = some s'
      ↔ ∃ a, ReadOrKept (look key) read (part s) a ∧ consult fields look (set s a) = some s' := by
  have hfirst : ∀ s₁, (Field.setter key read set).take (look key) s = some s₁
      ↔ ∃ a, ReadOrKept (look key) read (part s) a ∧ set s a = s₁ :=
    fun _ => take_setter_iff part hpart _
  rw [consult, Option.bind_eq_some_iff]
  constructor
  · rintro ⟨s₁, htake, hrest⟩
    obtain ⟨a, ha, rfl⟩ := (hfirst s₁).mp htake
    exact ⟨a, ha, hrest⟩
  · rintro ⟨a, ha, hrest⟩
    exact ⟨_, (hfirst _).mpr ⟨a, ha, rfl⟩, hrest⟩

end ReadOrKept

section Parts

variable {look : String → Option Value}

/-- **The parts of a channel section** are read one by one. -/
theorem consult_channelFields_iff {s c : ChannelSettings} : consult channelFields look s = some c
    ↔ ReadOrKept (look "socket_path") readPath s.socketPath c.socketPath
      ∧ ReadOrKept (look "send_timeout") (readTime .ofMillis) s.sendTimeout c.sendTimeout
      ∧ ReadOrKept (look "queue_capacity") readCount s.queueCapacity c.queueCapacity
      ∧ ReadOrKept (look "allowed_uids") (readList readUid) s.allowedUids c.allowedUids := by
  rw [channelFields_eq]
  simp only [consult_cons_iff ChannelSettings.socketPath,
    consult_cons_iff ChannelSettings.sendTimeout, consult_cons_iff ChannelSettings.queueCapacity,
    consult_cons_iff ChannelSettings.allowedUids, implies_true, consult_nil, Option.some.injEq]
  constructor
  · rintro ⟨path, hpath, timeout, htimeout, capacity, hcapacity, uids, huids, rfl⟩
    exact ⟨hpath, htimeout, hcapacity, huids⟩
  · rintro ⟨hpath, htimeout, hcapacity, huids⟩
    exact ⟨_, hpath, _, htimeout, _, hcapacity, _, huids, rfl⟩

/-- The preview's only field is its budget. -/
theorem consult_previewFields_iff {s c : PreviewSettings} : consult previewFields look s = some c
    ↔ ReadOrKept (look "preview_budget") readCount s.budget c.budget := by
  rw [previewFields_eq]
  simp only [consult_cons_iff PreviewSettings.budget, implies_true, consult_nil, Option.some.injEq]
  constructor
  · rintro ⟨budget, hbudget, rfl⟩
    exact hbudget
  · exact fun hbudget => ⟨_, hbudget, rfl⟩

/-- The quarantine's only field is whether it is enabled. -/
theorem consult_quarantineFields_iff {s c : QuarantineSettings} :
    consult quarantineFields look s = some c
    ↔ ReadOrKept (look "enabled") readFlag s.enabled c.enabled := by
  rw [quarantineFields_eq]
  simp only [consult_cons_iff QuarantineSettings.enabled, implies_true, consult_nil,
    Option.some.injEq]
  constructor
  · rintro ⟨enabled, henabled, rfl⟩
    exact henabled
  · exact fun henabled => ⟨_, henabled, rfl⟩

/-- What is consulted for telemetry, field by field. -/
theorem consult_telemetryFields_iff {m : Manner} {s c : TelemetrySettings} :
    consult (telemetryFields m) look s = some c
      ↔ ReadOrKept (look "enabled") readFlag s.enabled c.enabled
        ∧ ReadOrKept (look "poll_interval") (readTime .ofSeconds) s.pollInterval c.pollInterval
        ∧ ReadOrKept (look "filter") (readList m.kind) s.filter c.filter := by
  rw [telemetryFields_eq]
  simp only [consult_cons_iff TelemetrySettings.enabled,
    consult_cons_iff TelemetrySettings.pollInterval, consult_cons_iff TelemetrySettings.filter,
    implies_true, consult_nil, Option.some.injEq]
  constructor
  · rintro ⟨enabled, henabled, interval, hinterval, filter, hfilter, rfl⟩
    exact ⟨henabled, hinterval, hfilter⟩
  · rintro ⟨henabled, hinterval, hfilter⟩
    exact ⟨_, henabled, _, hinterval, _, hfilter, rfl⟩

/-- **The sections of a document** are read one by one. -/
theorem consult_sectionFields_iff {m : Manner} {s c : Settings} :
    consult (sectionFields m) look s = some c
      ↔ ReadOrKept (look "channel") (readGroup m "Channel" channelFields {}) s.channel c.channel
        ∧ ReadOrKept (look "entropy") (readGroup m "Entropy" previewFields {}) s.preview c.preview
        ∧ ReadOrKept (look "quarantine") (readGroup m "Quarantine" quarantineFields {}) s.quarantine
          c.quarantine
        ∧ ReadOrKept (look "telemetry") (readGroup m "Telemetry" (telemetryFields m) {}) s.telemetry
          c.telemetry := by
  rw [sectionFields_eq]
  simp only [consult_cons_iff Settings.channel, consult_cons_iff Settings.preview,
    consult_cons_iff Settings.quarantine, consult_cons_iff Settings.telemetry, implies_true,
    consult_nil, Option.some.injEq]
  constructor
  · rintro ⟨channel, hchannel, preview, hpreview, quarantine, hquarantine, telemetry, htelemetry,
      rfl⟩
    exact ⟨hchannel, hpreview, hquarantine, htelemetry⟩
  · rintro ⟨hchannel, hpreview, hquarantine, htelemetry⟩
    exact ⟨_, hchannel, _, hpreview, _, hquarantine, _, htelemetry, rfl⟩

end Parts

/-! ## Lawful manners -/

/-- A manner that reads all entries of a table, in an order of its own, and a kind of telemetry
by its name. -/
structure Manner.Lawful (m : Manner) : Prop where
  order : ∀ entries, (m.order entries).Perm entries
  kind : ∀ kind : TraceKind, m.kind (.string kind.name) = .ok kind

/-- A kind is found by its own name. -/
theorem namedKind_name (kind : TraceKind) : namedKind kind.name = .ok kind := by
  rw [namedKind, TraceKind.ofName?_name]

theorem lawful_text : Manner.text.Lawful := ⟨fun _ => List.Perm.refl _, namedKind_name⟩

theorem lawful_layers : Manner.layers.Lawful :=
  ⟨fun entries => List.mergeSort_perm entries _, namedKind_name⟩

namespace Manner.Lawful

variable {σ : Type} {m : Manner} {fields : List (Field σ)} {entries : Entries}

/-- Entries in whatever order are read as what each field finds under its key. -/
theorem toOption_readEntries (hm : m.Lawful) (hfields : Independent fields)
    (hdistinct : (entries.map Prod.fst).Nodup) (s : σ) :
    (readEntries fields s (m.order entries)).toOption = consult fields entries.get? s := by
  have hperm := (hm.order entries).symm
  rw [FileActivity.toOption_readEntries hfields.commutes hfields.keys
    ((hperm.map Prod.fst).nodup_iff.mp hdistinct)]
  congr 1
  funext key
  exact (Toml.Entries.get?_of_perm hperm hdistinct).symm

/-- A section is what its fields make of the entries that it stands for. -/
theorem toOption_readGroup (hm : m.Lawful) (hfields : Independent fields) (name : String) (s : σ)
    {v : Value} (hv : v.Sound) : (readGroup m name fields s v).toOption
      = (v.entriesFor (fields.map Field.key)).bind fun entries =>
        consult fields entries.get? s := by
  cases hv with
  | table keys _ => exact hm.toOption_readEntries hfields keys s
  | array form _ => exact toOption_readListed hfields.keys 0 _ s
  | datetime _ => exact (consult_nothing s).symm
  | _ => rfl

/-- The settings of a document are what the sections make of it, put into normal form. -/
theorem toOption_readSettings (hm : m.Lawful) (hdistinct : (entries.map Prod.fst).Nodup) :
    (readSettings m entries).toOption
      = (consult (sectionFields m) entries.get? {}).map Settings.normalized := by
  rw [readSettings, toOption_bind, hm.toOption_readEntries (independent_sectionFields m) hdistinct]
  cases consult (sectionFields m) entries.get? {} <;> rfl

end Manner.Lawful

end FileActivity
