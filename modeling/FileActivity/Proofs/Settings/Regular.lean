/-
# Settings that were read

Settings that were read from a document are in normal form, their path is a text, and their
times and numbers are whole ones that a document can hold.  So nothing about them is lost when
they are written again.

Main statement: `regular_of_readSettings`.
-/
import FileActivity.Proofs.Settings.Loaders

namespace FileActivity

open Toml (Value Entries)

/-! ## Sets of users -/

/-- An increasing list has no repeats to drop. -/
theorem dropRepeats_of_pairwise {uids : List UserId} (h : uids.Pairwise (· < ·)) :
    dropRepeats uids = uids := by
  fun_induction dropRepeats uids with
  | case1 => rfl
  | case2 u => rfl
  | case3 v rest ih =>
    exact absurd ((List.pairwise_cons.mp h).1 v List.mem_cons_self) (UInt32.lt_irrefl v)
  | case4 u v rest hne ih => rw [ih (List.pairwise_cons.mp h).2]

/-- A list is its own sorted set exactly if it increases. -/
theorem sortedSet_eq_self_iff {uids : List UserId} :
    sortedSet uids = uids ↔ uids.Pairwise (· < ·) := by
  constructor
  · intro h
    exact h ▸ pairwise_sortedSet uids
  · intro h
    have hsort : uids.mergeSort (fun u v => decide (u ≤ v)) = uids :=
      List.mergeSort_of_pairwise (h.imp fun h => decide_eq_true (UInt32.le_of_lt h))
    exact (congrArg dropRepeats hsort).trans (dropRepeats_of_pairwise h)

/-- Sorting twice is sorting once. -/
theorem sortedSet_sortedSet (uids : List UserId) : sortedSet (sortedSet uids) = sortedSet uids :=
  sortedSet_eq_self_iff.mpr (pairwise_sortedSet uids)

/-! ## Normal form -/

/-- A budget is kept exactly if it lies between the bounds. -/
theorem clampBudget_eq_self_iff {n : Nat} : clampBudget n = n ↔ 16 ≤ n ∧ n ≤ 65536 := by
  rw [clampBudget, minPreviewBudget, maxPreviewBudget]
  omega

namespace Settings

/-- **Settings in normal form stay as they are.** -/
theorem normalized_normalized (s : Settings) : s.normalized.normalized = s.normalized := by
  have hroom : max (max s.channel.queueCapacity 1) 1 = max s.channel.queueCapacity 1 := by omega
  simp only [normalized, sortedSet_sortedSet, clampBudget_clampBudget, hroom]

/-- Settings that keep the bounds: a budget from 16 to 65536, room for a record, and users in
increasing order. -/
structure InBounds (s : Settings) : Prop where
  budget : 16 ≤ s.preview.budget ∧ s.preview.budget ≤ 65536
  capacity : 1 ≤ s.channel.queueCapacity
  uids : s.channel.allowedUids.Pairwise (· < ·)

/-- The settings in normal form are those that keep the bounds. -/
theorem normalized_eq_self_iff {s : Settings} : s.normalized = s ↔ s.InBounds := by
  constructor
  · intro h
    refine ⟨?budget, ?capacity, ?uids⟩
    case budget =>
      exact clampBudget_eq_self_iff.mp (congrArg (fun s : Settings => s.preview.budget) h)
    case capacity =>
      have hroom : max s.channel.queueCapacity 1 = s.channel.queueCapacity :=
        congrArg (fun s : Settings => s.channel.queueCapacity) h
      omega
    case uids =>
      exact sortedSet_eq_self_iff.mp (congrArg (fun s : Settings => s.channel.allowedUids) h)
  · intro h
    rw [normalized, clampBudget_eq_self_iff.mpr h.budget, sortedSet_eq_self_iff.mpr h.uids,
      max_eq_left h.capacity]

/-- Normalized settings lie within the bounds. -/
theorem inBounds_normalized (s : Settings) : s.normalized.InBounds :=
  normalized_eq_self_iff.mp s.normalized_normalized

end Settings

/-! ## What can be read -/

/-- A number that a document can hold. -/
def Countable (n : Nat) : Prop := (n : Int) ≤ Value.maxInteger

/-- A number that was read can be counted in a text. -/
theorem countable_of_readNat {expected : Expected} {bound n : Nat} {v : Value} (hv : v.Sound)
    (h : readNat expected bound v = .ok n) : Countable n := by
  cases hv with
  | integer _ high =>
    rw [readNat] at h
    split at h
    · next hrange =>
      cases h
      rw [Countable, Int.toNat_of_nonneg hrange.1]
      exact high
    · cases h
  | _ => cases h

/-- A time that was read is a whole number of units. -/
theorem exists_of_readTime {unit : Nat → Duration} {v : Value} {d : Duration} (hv : v.Sound)
    (h : readTime unit v = .ok d) : ∃ n, Countable n ∧ d = unit n := by
  obtain ⟨n, hn, rfl⟩ := map_eq_ok_iff.mp h
  exact ⟨n, countable_of_readNat hv hn, rfl⟩

/-- A path that was read is a text. -/
theorem exists_of_readPath {v : Value} {p : Path} (h : readPath v = .ok p) :
    ∃ t, p = .ofString t := by
  cases v with
  | string t => exact ⟨t, (Except.ok.inj h).symm⟩
  | _ => cases h

/-! ## What reading keeps -/

section Keeps

variable {σ : Type} {P : σ → Prop} {fields : List (Field σ)} {s s' : σ}

/-- Reading a sound value into a field keeps a property of the structure. -/
def Field.Keeps (P : σ → Prop) (f : Field σ) : Prop :=
  ∀ s v s', P s → v.Sound → f.read s v = .ok s' → P s'

/-- A field keeps a property if all that it can set does. -/
theorem keeps_setter {τ : Type} {key : String} {read : Value → Except Misfit τ} {set : σ → τ → σ}
    (h : ∀ v a, v.Sound → read v = .ok a → ∀ s, P s → P (set s a)) :
    (Field.setter key read set).Keeps P := by
  intro s v s' hs hv hread
  obtain ⟨a, ha, hset⟩ := bind_eq_ok_iff.mp hread
  cases hset
  exact h v a hv ha s hs

/-- Reading entries keeps what every field keeps. -/
theorem keeps_readEntries (hfields : ∀ f ∈ fields, f.Keeps P) {entries : Entries}
    (hentries : ∀ e ∈ entries, e.2.Sound) (hs : P s) (h : readEntries fields s entries = .ok s') :
    P s' := by
  induction entries generalizing s with
  | nil =>
    cases h
    exact hs
  | cons e entries ih =>
    obtain ⟨he, hentries⟩ := List.forall_mem_cons.mp hentries
    have hcons : readEntries fields s (e :: entries)
      = readEntry fields s e >>= fun s => readEntries fields s entries := List.foldlM_cons
    rw [hcons] at h
    obtain ⟨s₁, hfirst, hrest⟩ := bind_eq_ok_iff.mp h
    refine ih hentries ?_ hrest
    rw [readEntry] at hfirst
    split at hfirst
    · next f hfind =>
      have hf : f ∈ fields := List.mem_of_find?_eq_some hfind
      exact hfields f hf s e.2 s₁ hs he (mapError_eq_ok_iff.mp hfirst)
    · cases hfirst
      exact hs

/-- Reading a list keeps what every field keeps. -/
theorem keeps_readListed (hfields : ∀ f ∈ fields, f.Keeps P) {items : List Value} {i : Nat}
    (hitems : ∀ v ∈ items, v.Sound) (hs : P s) (h : readListed i fields s items = .ok s') :
    P s' := by
  induction fields generalizing i s items with
  | nil =>
    cases h
    exact hs
  | cons f fields ih =>
    cases items with
    | nil =>
      cases h
      exact hs
    | cons v items =>
      obtain ⟨hf, hfields⟩ := List.forall_mem_cons.mp hfields
      obtain ⟨hv, hitems⟩ := List.forall_mem_cons.mp hitems
      obtain ⟨s₁, hfirst, hrest⟩ := bind_eq_ok_iff.mp h
      exact ih hfields hitems (hf s v s₁ hs hv (mapError_eq_ok_iff.mp hfirst)) hrest

/-- Reading a section keeps what every field keeps. -/
theorem keeps_readGroup {m : Manner} (hm : m.Lawful) (hfields : ∀ f ∈ fields, f.Keeps P)
    {name : String} {v : Value} (hv : v.Sound) (hs : P s)
    (h : readGroup m name fields s v = .ok s') : P s' := by
  cases hv with
  | table _ values =>
    exact keeps_readEntries hfields (fun e he => values e ((hm.order _).mem_iff.mp he)) hs h
  | array _ items_sound => exact keeps_readListed hfields items_sound hs h
  | datetime _ =>
    cases h
    exact hs
  | _ => cases h

end Keeps

/-! ## Settings -/

/-- A channel whose path is a text and whose numbers a document can hold. -/
structure ChannelSettings.Readable (s : ChannelSettings) : Prop where
  path : ∃ t, s.socketPath = .ofString t
  timeout : ∃ n, Countable n ∧ s.sendTimeout = .ofMillis n
  capacity : Countable s.queueCapacity

/-- Telemetry that is polled after a number of seconds that a document can hold. -/
def TelemetrySettings.Readable (s : TelemetrySettings) : Prop :=
  ∃ n, Countable n ∧ s.pollInterval = .ofSeconds n

theorem countable_default {n : Nat} (h : n ≤ 4096) : Countable n := by
  rw [Countable, Value.maxInteger]
  omega

theorem ChannelSettings.readable_default : ChannelSettings.Readable {} :=
  ⟨⟨_, rfl⟩, ⟨50, countable_default (by decide), rfl⟩, countable_default (by decide)⟩

theorem TelemetrySettings.readable_default : TelemetrySettings.Readable {} :=
  ⟨1, countable_default (by decide), rfl⟩

/-- The fields of the channel keep its settings readable. -/
theorem keeps_channelFields : ∀ f ∈ channelFields, f.Keeps ChannelSettings.Readable := by
  simp only [channelFields_eq, List.forall_mem_cons, List.not_mem_nil, IsEmpty.forall_iff,
    implies_true, and_true]
  refine ⟨keeps_setter fun v a hv ha s hs => ?_, keeps_setter fun v a hv ha s hs => ?_,
    keeps_setter fun v a hv ha s hs => ?_, keeps_setter fun v a hv ha s hs => ?_⟩
  · exact ⟨exists_of_readPath ha, hs.timeout, hs.capacity⟩
  · exact ⟨hs.path, exists_of_readTime hv ha, hs.capacity⟩
  · exact ⟨hs.path, hs.timeout, countable_of_readNat hv ha⟩
  · exact ⟨hs.path, hs.timeout, hs.capacity⟩

theorem keeps_telemetryFields (m : Manner) :
    ∀ f ∈ telemetryFields m, f.Keeps TelemetrySettings.Readable := by
  simp only [telemetryFields_eq, List.forall_mem_cons, List.not_mem_nil, IsEmpty.forall_iff,
    implies_true, and_true]
  refine ⟨keeps_setter fun v a hv ha s hs => ?_, keeps_setter fun v a hv ha s hs => ?_,
    keeps_setter fun v a hv ha s hs => ?_⟩
  · exact hs
  · exact exists_of_readTime hv ha
  · exact hs

/-- Settings that a document can hold, in normal form. -/
structure Settings.Regular (s : Settings) : Prop where
  channel : s.channel.Readable
  telemetry : s.telemetry.Readable
  normal : s.normalized = s

theorem keeps_sectionFields {m : Manner} (hm : m.Lawful) :
    ∀ f ∈ sectionFields m, f.Keeps fun s => s.channel.Readable ∧ s.telemetry.Readable := by
  simp only [sectionFields_eq, List.forall_mem_cons, List.not_mem_nil, IsEmpty.forall_iff,
    implies_true, and_true]
  refine ⟨keeps_setter fun v a hv ha s hs => ?_, keeps_setter fun v a hv ha s hs => ?_,
    keeps_setter fun v a hv ha s hs => ?_, keeps_setter fun v a hv ha s hs => ?_⟩
  · exact ⟨keeps_readGroup hm keeps_channelFields hv ChannelSettings.readable_default ha, hs.2⟩
  · exact hs
  · exact hs
  · exact ⟨hs.1, keeps_readGroup hm (keeps_telemetryFields m) hv TelemetrySettings.readable_default
      ha⟩

/-- **What was read from a document is regular.** -/
theorem regular_of_readSettings {m : Manner} (hm : m.Lawful) {entries : Entries}
    (hentries : entries.Sound) {c : Settings} (h : readSettings m entries = .ok c) : c.Regular := by
  obtain ⟨s, hs, hnormal⟩ := bind_eq_ok_iff.mp h
  cases hnormal
  obtain ⟨hchannel, htelemetry⟩ := keeps_readEntries (keeps_sectionFields hm)
    (fun e he => hentries.values e ((hm.order entries).mem_iff.mp he))
    ⟨ChannelSettings.readable_default, TelemetrySettings.readable_default⟩ hs
  have hroom : Countable (max s.channel.queueCapacity 1) := by
    have hcapacity : Countable s.channel.queueCapacity := hchannel.capacity
    rw [Countable, Value.maxInteger] at hcapacity ⊢
    omega
  exact ⟨⟨hchannel.path, hchannel.timeout, hroom⟩, htelemetry, s.normalized_normalized⟩

/-- What a text gives is regular. -/
theorem regular_of_ofText {text : String} {c : Settings} (h : Settings.ofText text = .ok c) :
    c.Regular := by
  obtain ⟨entries, hparse, hread⟩ := ofText_eq_ok_iff.mp h
  exact regular_of_readSettings lawful_text (Toml.sound_of_parse hparse) hread

/-- What a file gives is regular. -/
theorem regular_of_load {f : Files} {p : Path} {c : Settings} (h : Settings.load f p = .ok c) :
    c.Regular := by
  obtain ⟨place, content, mode, -, hfile⟩ := load_eq_ok_iff_ofFile.mp h
  obtain ⟨cs, entries, unwrapped, -, hparse, hunwrap, hread, -⟩ := ofFile_eq_ok_iff.mp hfile
  have hsound : unwrapped.Sound := (unwrapDocument_sound (Toml.sound_of_parse hparse) hunwrap).1
  exact regular_of_readSettings lawful_text hsound hread

end FileActivity
