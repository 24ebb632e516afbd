/-
# What a preview covers

A preview holds the score of the bytes that were looked at, and then the scores of their
windows.  A window is as short as it may be for fifteen of them to hold all these bytes, so
every byte is in one of the windows and every window has a place in the preview; the places that
are left are zero.  None of this depends on what a score is.

Main statement: `preview_covers_sample`.
-/
import FileActivity.Proofs.Windows

namespace FileActivity.Preview

variable {n : Nat} {seen : List UInt8}

/-! ## The windows of a sample -/

/-- The size of a window is the number of bytes over the number of windows, rounded up. -/
theorem windowSize_eq_ceilDiv (n : Nat) : windowSize n = n ⌈/⌉ profileWindows := rfl

theorem profileWindows_pos : 0 < profileWindows := by decide

/-- Fifteen windows hold the whole sample. -/
theorem le_profileWindows_mul_windowSize (n : Nat) : n ≤ profileWindows * windowSize n :=
  (ceilDiv_le_iff_le_mul profileWindows_pos).mp (Nat.le_refl _)

/-- Windows of something are not empty. -/
theorem windowSize_pos (h : 0 < n) : 0 < windowSize n := by
  have hle := le_profileWindows_mul_windowSize n
  apply Nat.pos_of_ne_zero
  intro hzero
  rw [hzero] at hle
  omega

/-- No more than fifteen windows are cut. -/
theorem ceilDiv_windowSize_le (h : 0 < n) : n ⌈/⌉ windowSize n ≤ profileWindows := by
  rw [ceilDiv_le_iff_le_mul (windowSize_pos h), Nat.mul_comm]
  exact le_profileWindows_mul_windowSize n

/-- The windows that a sample is cut into. -/
structure WellCut (seen : List UInt8) : Prop where
  size_eq : windowSize seen.length = seen.length ⌈/⌉ profileWindows
  one_le_size : 1 ≤ windowSize seen.length
  count : (chunks (windowSize seen.length) seen).length = seen.length ⌈/⌉ windowSize seen.length
  count_le : (chunks (windowSize seen.length) seen).length ≤ profileWindows
  /-- Each window has a place. -/
  placed : ((List.range profileWindows).zip (chunks (windowSize seen.length) seen)).map Prod.snd
    = chunks (windowSize seen.length) seen
  whole : (chunks (windowSize seen.length) seen).flatten = seen

/-- Whatever was seen is well cut, if it is not empty. -/
theorem wellCut (h : 0 < seen.length) : WellCut seen := by
  have hsize := windowSize_pos h
  have hcount := length_chunks hsize seen
  have hfew : (chunks (windowSize seen.length) seen).length ≤ profileWindows :=
    hcount ▸ ceilDiv_windowSize_le h
  have hplaces : (chunks (windowSize seen.length) seen).length
      ≤ (List.range profileWindows).length := by
    rw [List.length_range]
    exact hfew
  exact ⟨windowSize_eq_ceilDiv _, hsize, hcount, hfew, List.map_snd_zip hplaces,
    flatten_chunks hsize seen⟩

/-! ## Writing the scores -/

/-- The preview of the first `budget` bytes of a buffer, whatever gives the scores. -/
def computeBy (score : List UInt8 → UInt8) (buffer : List UInt8) (budget : Nat) : Preview :=
  let seen := sample buffer budget
  if seen.isEmpty then zeroed
  else ofBytes (score seen :: (chunks (windowSize seen.length) seen).map score)

/-- A preview is computed with the score that the program uses. -/
theorem compute_eq_computeBy (buffer : List UInt8) (budget : Nat) :
    compute buffer budget = computeBy Entropy.score buffer budget := rfl

/-- Bytes that all find a place are written one after another, with zeros behind them. -/
theorem getElem?_ofBytes {bs : List UInt8} (h : bs.length ≤ previewLength) {i : Nat}
    (hi : i < previewLength) : (ofBytes bs).bytes[i]? = some (bs[i]?.getD 0) := by
  show (bs.take previewLength ++ List.replicate (previewLength - bs.length) 0)[i]? = _
  rw [List.take_of_length_le h, List.getElem?_append]
  split
  · next hin => rw [List.getElem?_eq_getElem hin, Option.getD_some]
  · next hout =>
    rw [List.getElem?_replicate, if_pos (by omega), List.getElem?_eq_none (Nat.not_lt.mp hout),
      Option.getD_none]

/-- What the bytes of a preview are, given what was looked at. -/
structure Covers (score : List UInt8 → UInt8) (seen : List UInt8) (p : Preview) : Prop where
  whole : p.bytes[0]? = some (score seen)
  window : ∀ i < seen.length ⌈/⌉ windowSize seen.length, p.bytes[1 + i]?
    = some (score (seen.extract (i * windowSize seen.length)
        (min ((i + 1) * windowSize seen.length) seen.length)))
  rest : ∀ i, seen.length ⌈/⌉ windowSize seen.length ≤ i → i < profileWindows →
    p.bytes[1 + i]? = some 0

/-- The preview of what was seen covers it, whatever the score. -/
theorem covers_ofBytes (score : List UInt8 → UInt8) (h : 0 < seen.length) :
    Covers score seen (ofBytes (score seen
      :: (chunks (windowSize seen.length) seen).map score)) := by
  have hcut := wellCut h
  have hfits : (score seen :: (chunks (windowSize seen.length) seen).map score).length
      ≤ previewLength := by
    rw [List.length_cons, List.length_map]
    exact Nat.succ_le_succ hcut.count_le
  -- behind the score of the whole, a place holds the score of its window
  have hplace : ∀ i < profileWindows,
      (ofBytes (score seen :: (chunks (windowSize seen.length) seen).map score)).bytes[1 + i]?
        = some (((chunks (windowSize seen.length) seen)[i]?.map score).getD 0) := by
    intro i hi
    rw [getElem?_ofBytes hfits (by rw [Nat.add_comm]; exact Nat.succ_lt_succ hi), Nat.add_comm,
      List.getElem?_cons_succ, List.getElem?_map]
  refine ⟨getElem?_ofBytes hfits (by decide), fun i hi => ?_, fun i hi hplaces => ?_⟩
  · have hstart := (lt_ceilDiv_iff hcut.one_le_size).mp hi
    rw [hplace i (Nat.lt_of_lt_of_le hi (hcut.count ▸ hcut.count_le)),
      getElem?_chunks hcut.one_le_size, if_pos hstart, take_drop_eq_extract]
    rfl
  · rw [hplace i hplaces, List.getElem?_eq_none (hcut.count ▸ hi)]
    rfl

/-- **A preview covers the sample exactly.**  The sample is the first bytes of the buffer, at
most `budget` of them.

* Without any, the preview is zero throughout.
* Otherwise it is cut into at most fifteen windows of at least one byte, so that each of them
  has one of the fifteen places; put together again they are the sample.  The first byte of the
  preview scores the sample, the byte behind it the first window and so on, and the bytes behind
  that of the last window are zero.

What a score is does not matter. -/
theorem preview_covers_sample (buffer : List UInt8) (budget : Nat) :
    sample buffer budget = buffer.take (min buffer.length budget)
    ∧ (sample buffer budget).length = min buffer.length budget
    ∧ compute buffer budget = computeBy Entropy.score buffer budget
    ∧ ((sample buffer budget).length = 0 →
        ∀ score, (computeBy score buffer budget).bytes = List.replicate previewLength 0)
    ∧ (0 < (sample buffer budget).length → WellCut (sample buffer budget)
        ∧ ∀ score, Covers score (sample buffer budget) (computeBy score buffer budget)) := by
  refine ⟨?taken, ?length, compute_eq_computeBy buffer budget, fun hnone score => ?nothing,
    fun hsome => ⟨wellCut hsome, fun score => ?windows⟩⟩
  case taken =>
    show buffer.take budget = _
    rw [List.take_eq_take_iff]
    omega
  case length =>
    show (buffer.take budget).length = _
    rw [List.length_take, Nat.min_comm]
  case nothing =>
    have hempty : (sample buffer budget).isEmpty = true := List.isEmpty_iff_length_eq_zero.mpr hnone
    rw [computeBy, if_pos hempty]
    rfl
  case windows =>
    have hfilled : ¬ (sample buffer budget).isEmpty = true :=
      fun hempty => Nat.ne_of_gt hsome (List.isEmpty_iff_length_eq_zero.mp hempty)
    rw [computeBy, if_neg hfilled]
    exact covers_ofBytes score hsome

/-- Sixteen of seventeen bytes are looked at, two in each window: eight windows, and seven
places left. -/
theorem preview_covers_sample_of_sixteen :
    let buffer := (List.range 17).map Nat.toUInt8
    let score (bytes : List UInt8) : UInt8 := bytes.foldl (· + ·) 0
    0 < (sample buffer 16).length
    ∧ Covers score (sample buffer 16) (computeBy score buffer 16)
    ∧ (computeBy score buffer 16).bytes
      = [120, 1, 5, 9, 13, 17, 21, 25, 29, 0, 0, 0, 0, 0, 0, 0] := by
  intro buffer score
  have hsome : 0 < (sample buffer 16).length := by decide
  obtain ⟨-, -, -, -, hcovers⟩ := preview_covers_sample buffer 16
  exact ⟨hsome, (hcovers hsome).2 score, by decide⟩

end FileActivity.Preview
