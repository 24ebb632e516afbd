/-
# Settings written with rounded times

Any settings can be handed to the writer, in normal form or not.  It refuses what a document
cannot hold, rounds the times to whole units and leaves the rest as it is; the reader puts what
was written into normal form.  The count of a time is a 64-bit word: where rounding up takes it
one beyond the greatest word, zero is written.

Main statement: `written_with_rounded_times`.
-/
import FileActivity.Proofs.Settings.Snapshot

namespace FileActivity

open Toml (Value)

/-! ## Rounding -/

namespace Duration

/-- A whole number of units that is nearest to a duration: none is nearer, and none above it as
near. -/
def RoundsTo (d : Duration) (unit k : Nat) : Prop :=
  ∀ n, Nat.dist d.nanos (k * unit) ≤ Nat.dist d.nanos (n * unit)
    ∧ (k < n → Nat.dist d.nanos (k * unit) < Nat.dist d.nanos (n * unit))

/-- The nearest whole number of units, a half counting as one. -/
def nearest (d : Duration) (unit : Nat) : Nat := (d.nanos + unit / 2) / unit

/-- The nearest number of units is one that a time rounds to. -/
theorem roundsTo_nearest (d : Duration) {unit : Nat} (hunit : 0 < unit) :
    d.RoundsTo unit (d.nearest unit) := by
  intro n
  have hlow : d.nearest unit * unit ≤ d.nanos + unit / 2 := Nat.div_mul_le_self _ _
  have hhigh : d.nanos + unit / 2 < d.nearest unit * unit + unit := by
    have hnext := Nat.lt_mul_of_div_lt (Nat.lt_succ_self (d.nearest unit)) hunit
    rwa [Nat.succ_mul] at hnext
  rw [Nat.dist, Nat.dist]
  rcases Nat.lt_trichotomy n (d.nearest unit) with hlt | rfl | hgt
  · have hbelow : n * unit + unit ≤ d.nearest unit * unit := by
      rw [← Nat.succ_mul]
      exact Nat.mul_le_mul_right unit hlt
    exact ⟨by omega, fun h => by omega⟩
  · exact ⟨Nat.le_refl _, fun h => absurd h (Nat.lt_irrefl _)⟩
  · have habove : d.nearest unit * unit + unit ≤ n * unit := by
      rw [← Nat.succ_mul]
      exact Nat.mul_le_mul_right unit hgt
    exact ⟨by omega, fun _ => by omega⟩

/-- A duration whose units are counted by a word is nearest to a word, or to the number after
the greatest. -/
theorem nearest_le_wordCount {d : Duration} {unit : Nat} (hunit : 0 < unit)
    (h : d.nanos / unit < wordCount) : d.nearest unit ≤ wordCount := by
  have hlt : d.nanos + unit / 2 < (wordCount + 1) * unit := by
    have hnanos : d.nanos < wordCount * unit := (Nat.div_lt_iff_lt_mul hunit).mp h
    have hhalf : unit / 2 ≤ unit := Nat.div_le_self unit 2
    rw [Nat.add_mul, Nat.one_mul]
    omega
  rw [nearest]
  exact Nat.le_of_lt_succ ((Nat.div_lt_iff_lt_mul hunit).mpr hlt)

/-- **The count that is written is the nearest one, unless that is no word**: then it is zero. -/
theorem roundTo_eq {d : Duration} {unit : Nat} (hunit : 0 < unit) (h : d.nanos / unit < wordCount) :
    d.roundTo unit = if d.nearest unit = wordCount then 0 else d.nearest unit := by
  have hroundTo : d.roundTo unit = d.nearest unit % wordCount := rfl
  have hle := nearest_le_wordCount hunit h
  rw [hroundTo]
  split
  · next heq => rw [heq, Nat.mod_self]
  · next hne => exact Nat.mod_eq_of_lt (Nat.lt_of_le_of_ne hle hne)

end Duration

/-! ## Settings with other times -/

namespace Settings

/-- Settings with a timeout in milliseconds and an interval in seconds, and nothing else changed. -/
def withTimes (s : Settings) (millis seconds : Nat) : Settings :=
  { s with
    channel := { s.channel with sendTimeout := .ofMillis millis }
    telemetry := { s.telemetry with pollInterval := .ofSeconds seconds } }

/-- The settings have whole times: a number of milliseconds and a number of seconds. -/
def WholeTimes (s : Settings) : Prop :=
  (∃ n, s.channel.sendTimeout = .ofMillis n) ∧ ∃ n, s.telemetry.pollInterval = .ofSeconds n

/-- The times that the settings can hold: words of seconds, and a timeout whose milliseconds are
counted by a word. -/
structure Timed (s : Settings) : Prop where
  timeout : s.channel.sendTimeout.nanos / 1000000 < wordCount
  interval : s.telemetry.pollInterval.nanos / 1000000000 < wordCount

/-- The nearest numbers of units are words.  One may be the number after the greatest word. -/
def RoundsToWords (s : Settings) : Prop :=
  s.channel.sendTimeout.nearest 1000000 ≠ wordCount
    ∧ s.telemetry.pollInterval.nearest 1000000000 ≠ wordCount

/-- **What becomes of settings whose times are written as these numbers.**  Writing fails
exactly if the path is no text or a number is too large; otherwise what is written gives the
settings with these times, in normal form, and so the settings themselves exactly if they are in
bounds and their times are whole. -/
structure WrittenWith (s : Settings) (millis seconds : Nat) : Prop where
  fails_iff : (∃ fault, s.render = .error fault) ↔ (¬ ∃ path, s.channel.socketPath = .ofString path)
    ∨ Value.maxInteger < s.channel.queueCapacity ∨ Value.maxInteger < s.preview.budget
    ∨ Value.maxInteger < millis ∨ Value.maxInteger < seconds
  reread : ∀ text, s.render = .ok text →
    Settings.ofText text = .ok (s.withTimes millis seconds).normalized
  unchanged_iff : ∀ text, s.render = .ok text →
    (Settings.ofText text = .ok s ↔ s.InBounds ∧ s.WholeTimes)

variable {s : Settings}

/-- The sheet gives the times apart. -/
theorem sheetOf_withTimes (path : String) (millis seconds millis' seconds' : Nat) :
    (s.withTimes millis seconds).sheetOf path millis' seconds' = s.sheetOf path millis' seconds' :=
      rfl

/-- A sheet describes settings with other times exactly if a document can hold what it says. -/
theorem described_withTimes_iff {path : String} {millis seconds : Nat} :
    (s.withTimes millis seconds).Described path millis seconds
      ↔ s.channel.socketPath = .ofString path
      ∧ Countable millis ∧ Countable s.channel.queueCapacity ∧ Countable s.preview.budget
      ∧ Countable seconds := by
  constructor
  · exact fun h => ⟨h.path, h.millis, h.capacity, h.budget, h.seconds⟩
  · rintro ⟨hpath, hmillis, hcapacity, hbudget, hseconds⟩
    exact ⟨hpath, rfl, rfl, hmillis, hseconds, hcapacity, hbudget⟩

/-- Settings are written exactly if they can be described, and then as their sheet. -/
theorem render_eq_ok_iff (h : s.Timed) {text : String} : s.render = .ok text ↔
    ∃ path, (s.withTimes (s.channel.sendTimeout.roundTo 1000000)
      (s.telemetry.pollInterval.roundTo 1000000000)).Described path
        (s.channel.sendTimeout.roundTo 1000000) (s.telemetry.pollInterval.roundTo 1000000000)
      ∧ text = (s.sheetOf path (s.channel.sendTimeout.roundTo 1000000)
        (s.telemetry.pollInterval.roundTo 1000000000)).render := by
  rw [render, map_eq_ok_iff]
  simp only [toSheet_eq_ok_iff h.timeout, described_withTimes_iff]
  generalize s.channel.sendTimeout.roundTo 1000000 = millis
  generalize s.telemetry.pollInterval.roundTo 1000000000 = seconds
  constructor
  · rintro ⟨_, ⟨path, hpath, hmillis, hcapacity, hbudget, hseconds, rfl⟩, rfl⟩
    exact ⟨path, ⟨hpath, hmillis, hcapacity, hbudget, hseconds⟩, rfl⟩
  · rintro ⟨path, ⟨hpath, hmillis, hcapacity, hbudget, hseconds⟩, rfl⟩
    exact ⟨_, ⟨path, hpath, hmillis, hcapacity, hbudget, hseconds, rfl⟩, rfl⟩

/-- Whole times are written as they are. -/
theorem withTimes_of_wholeTimes (h : s.Timed) (hwhole : s.WholeTimes) :
    s.withTimes (s.channel.sendTimeout.roundTo 1000000)
      (s.telemetry.pollInterval.roundTo 1000000000) = s := by
  obtain ⟨⟨millis, hmillis⟩, seconds, hseconds⟩ := hwhole
  have htimeout := h.timeout
  have hinterval := h.interval
  rw [hmillis, Duration.ofMillis] at htimeout
  rw [hseconds, Duration.ofSeconds] at hinterval
  dsimp only at htimeout hinterval
  rw [Nat.mul_div_cancel _ (by decide)] at htimeout hinterval
  rw [withTimes, hmillis, hseconds, roundTo_ofMillis htimeout, roundTo_ofSeconds hinterval,
    ← hmillis, ← hseconds]

/-- Settings that come out of other times have these times. -/
theorem inBounds_and_wholeTimes_of_eq {millis seconds : Nat}
    (h : (s.withTimes millis seconds).normalized = s) : s.InBounds ∧ s.WholeTimes := by
  rw [← h]
  exact ⟨inBounds_normalized _, ⟨millis, rfl⟩, seconds, rfl⟩

/-- Settings can be written exactly if a document can hold what they say. -/
theorem exists_render_iff (h : s.Timed) : (∃ text, s.render = .ok text) ↔
    (∃ path, s.channel.socketPath = .ofString path) ∧ Countable s.channel.queueCapacity
      ∧ Countable s.preview.budget ∧ Countable (s.channel.sendTimeout.roundTo 1000000)
      ∧ Countable (s.telemetry.pollInterval.roundTo 1000000000) := by
  simp only [render_eq_ok_iff h, described_withTimes_iff]
  constructor
  · rintro ⟨_, path, ⟨hpath, hmillis, hcapacity, hbudget, hseconds⟩, -⟩
    exact ⟨⟨path, hpath⟩, hcapacity, hbudget, hmillis, hseconds⟩
  · rintro ⟨⟨path, hpath⟩, hcapacity, hbudget, hmillis, hseconds⟩
    exact ⟨_, path, ⟨hpath, hmillis, hcapacity, hbudget, hseconds⟩, rfl⟩

/-- **Settings are written with the counts of their rounded times.** -/
theorem writtenWith_roundTo (h : s.Timed) : s.WrittenWith (s.channel.sendTimeout.roundTo 1000000)
    (s.telemetry.pollInterval.roundTo 1000000000) := by
  have hreread : ∀ text, s.render = .ok text → Settings.ofText text = .ok (s.withTimes
      (s.channel.sendTimeout.roundTo 1000000)
        (s.telemetry.pollInterval.roundTo 1000000000)).normalized := by
    intro text htext
    obtain ⟨path, hdescribed, rfl⟩ := (render_eq_ok_iff h).mp htext
    rw [← sheetOf_withTimes]
    exact hdescribed.ofText_render
  refine ⟨?fails, hreread, fun text htext => ?unchanged⟩
  case fails =>
    have hnot : ∀ n, ¬ Countable n ↔ Value.maxInteger < n := fun n => Int.not_le
    rw [exists_error_iff, exists_render_iff h]
    simp only [not_and_or, hnot]
  case unchanged =>
    rw [hreread text htext, Except.ok.injEq]
    refine ⟨inBounds_and_wholeTimes_of_eq, ?_⟩
    rintro ⟨hbounds, hwhole⟩
    rw [withTimes_of_wholeTimes h hwhole]
    exact normalized_eq_self_iff.mpr hbounds

/-! ## The count that is no word -/

theorem maxInteger_lt_wordCount : Value.maxInteger < wordCount := by decide

/-- The counts are the nearest ones exactly if those are words, unless nothing is written anyway. -/
theorem writtenWith_nearest_iff (h : s.Timed) :
    s.WrittenWith (s.channel.sendTimeout.nearest 1000000)
      (s.telemetry.pollInterval.nearest 1000000000)
      ↔ s.RoundsToWords ∨ ∃ fault, s.render = .error fault := by
  have hwritten := s.writtenWith_roundTo h
  rw [RoundsToWords]
  rw [Duration.roundTo_eq (by decide) h.timeout, Duration.roundTo_eq (by decide) h.interval]
    at hwritten
  generalize s.channel.sendTimeout.nearest 1000000 = millis at hwritten ⊢
  generalize s.telemetry.pollInterval.nearest 1000000000 = seconds at hwritten ⊢
  constructor
  · intro hnearest
    by_cases hwords : millis ≠ wordCount ∧ seconds ≠ wordCount
    · exact Or.inl hwords
    · -- a count that is no word is too large as well
      refine Or.inr (hnearest.fails_iff.mpr ?_)
      rcases not_and_or.mp hwords with hmillis | hseconds
      · exact Or.inr (Or.inr (Or.inr (Or.inl (not_not.mp hmillis ▸ maxInteger_lt_wordCount))))
      · exact Or.inr (Or.inr (Or.inr (Or.inr (not_not.mp hseconds ▸ maxInteger_lt_wordCount))))
  · rintro (⟨hmillis, hseconds⟩ | ⟨fault, hfault⟩)
    · rwa [if_neg hmillis, if_neg hseconds] at hwritten
    · have hnot : ∀ text, s.render ≠ .ok text := fun text htext => by
        cases hfault.symm.trans htext
      -- what is too large when it is written is too large before
      have hlarge : ∀ n : Nat, Value.maxInteger < ((if n = wordCount then 0 else n : Nat) : Int) →
          Value.maxInteger < n := by
        intro n hn
        split at hn
        · exact absurd hn (by decide)
        · exact hn
      refine ⟨iff_of_true ⟨fault, hfault⟩ ?_, fun text htext => absurd htext (hnot text),
        fun text htext => absurd htext (hnot text)⟩
      exact (hwritten.fails_iff.mp ⟨fault, hfault⟩).imp_right (Or.imp_right (Or.imp_right
        (Or.imp (hlarge _) (hlarge _))))

/-- **Settings are written with rounded times, and read again in normal form.**  Whatever the
settings:

* writing fails exactly if the path is no text or a number is beyond those of a document, and
  otherwise what is written is read as the settings with their times in whole units, in normal
  form; it is the settings themselves exactly if they were in bounds with whole times;
* the units are the nearest ones, the upper of two, exactly if their numbers are words: the
  number after the greatest word is written as zero.  Where nothing is written it does not
  matter. -/
theorem written_with_rounded_times (s : Settings) (h : s.Timed) :
    s.WrittenWith (s.channel.sendTimeout.roundTo 1000000)
      (s.telemetry.pollInterval.roundTo 1000000000)
    ∧ s.channel.sendTimeout.RoundsTo 1000000 (s.channel.sendTimeout.nearest 1000000)
    ∧ s.telemetry.pollInterval.RoundsTo 1000000000 (s.telemetry.pollInterval.nearest 1000000000)
    ∧ (s.WrittenWith (s.channel.sendTimeout.nearest 1000000)
      (s.telemetry.pollInterval.nearest 1000000000)
      ↔ s.RoundsToWords ∨ ∃ fault, s.render = .error fault) :=
  ⟨s.writtenWith_roundTo h, Duration.roundsTo_nearest _ (by decide),
    Duration.roundsTo_nearest _ (by decide), writtenWith_nearest_iff h⟩

/-- A half millisecond is rounded up, and a little less than half a second down. -/
theorem written_with_rounded_times_halves : ∃ (s : Settings) (text : String), s.Timed
    ∧ s.channel.sendTimeout = ⟨1500000⟩ ∧ s.telemetry.pollInterval = ⟨2499999999⟩
    ∧ s.render = .ok text ∧ Settings.ofText text = .ok (s.withTimes 2 2).normalized
    ∧ Settings.ofText text ≠ .ok s := by
  let s : Settings :=
    { channel := { sendTimeout := ⟨1500000⟩ }, telemetry := { pollInterval := ⟨2499999999⟩ } }
  have htimed : s.Timed := ⟨by decide, by decide⟩
  have hmillis : s.channel.sendTimeout.nearest 1000000 = 2 := by decide
  have hseconds : s.telemetry.pollInterval.nearest 1000000000 = 2 := by decide
  have hnearest := (written_with_rounded_times s htimed).2.2.2.mpr
    (Or.inl ⟨by rw [hmillis]; decide, by rw [hseconds]; decide⟩)
  rw [hmillis, hseconds] at hnearest
  have hsmall : ∀ n : Nat, n ≤ 4096 → ¬ Value.maxInteger < n :=
    fun n hn => Int.not_lt.mpr (countable_default hn)
  obtain ⟨text, htext⟩ : ∃ text, s.render = .ok text := by
    refine not_not.mp fun hnot => ?_
    rcases hnearest.fails_iff.mp (exists_error_iff.mpr hnot) with hpath | hlarge
    · exact hpath ⟨_, rfl⟩
    · exact not_or.mpr ⟨hsmall 1024 (by decide), not_or.mpr ⟨hsmall 4096 (by decide),
        not_or.mpr ⟨hsmall 2 (by decide), hsmall 2 (by decide)⟩⟩⟩ hlarge
  refine ⟨s, text, htimed, rfl, rfl, htext, hnearest.reread text htext, fun hsame => ?_⟩
  obtain ⟨-, ⟨n, hwhole⟩, -⟩ := (hnearest.unchanged_iff text htext).mp hsame
  have hnanos : 1500000 = n * 1000000 := congrArg Duration.nanos hwhole
  omega

/-- Half a second more than the greatest number of seconds is written as no time at all, and not
refused. -/
theorem not_written_with_nearest_times : ¬ ∀ s : Settings, s.Timed →
    s.WrittenWith (s.channel.sendTimeout.nearest 1000000)
      (s.telemetry.pollInterval.nearest 1000000000) := by
  intro hall
  let s : Settings := { telemetry := { pollInterval := ⟨18446744073709551615500000000⟩ } }
  have htimed : s.Timed := ⟨by decide, by decide⟩
  have hnearest : s.telemetry.pollInterval.nearest 1000000000 = wordCount := by decide
  have hseconds : s.telemetry.pollInterval.roundTo 1000000000 = 0 := by decide
  have hmillis : s.channel.sendTimeout.roundTo 1000000 = 50 := by decide
  have hwritten : ∃ text, s.render = .ok text := by
    rw [exists_render_iff htimed, hseconds, hmillis]
    exact ⟨⟨_, rfl⟩, countable_default (by decide), countable_default (by decide),
      countable_default (by decide), countable_default (by decide)⟩
  rcases (writtenWith_nearest_iff htimed).mp (hall s htimed) with ⟨-, hword⟩ | hfails
  · exact hword hnearest
  · exact exists_error_iff.mp hfails hwritten

end Settings

end FileActivity
