/-
# What a score depends on

A score is computed from a table of how often each byte value occurs.  The table is the same for
two pieces of data exactly if one of them is the other in another order (`frequencies_eq_iff`),
and the computation goes through the table in order of value; so it is the same computation,
step by step, whatever numbers are and however they are added.

Main statement: `score_ignores_order`.
-/
import FileActivity.Proofs.Preview.Coverage
import FileActivity.Proofs.Record.Isolation

namespace FileActivity

namespace Entropy

variable {data xs ys : List UInt8}

/-! ## The table -/

/-- Counting a byte moves its own entry by one, and no other. -/
theorem getElem?_tally (table : Array Nat) (b c : UInt8) :
    (tally table c)[b.toNat]? = table[b.toNat]?.map (· + if c = b then 1 else 0) := by
  rw [tally, Array.getElem?_modify]
  by_cases h : c = b
  · rw [if_pos (congrArg UInt8.toNat h), if_pos h]
  · rw [if_neg fun heq => h (UInt8.toNat_inj.mp heq), if_neg h]
    exact Option.map_id_apply.symm

/-- Counting data raises the entry of a value by the number of times that it occurs. -/
theorem getElem?_foldl_tally (data : List UInt8) (table : Array Nat) (b : UInt8) :
    (data.foldl tally table)[b.toNat]? = table[b.toNat]?.map (· + data.count b) := by
  induction data generalizing table with
  | nil => exact Option.map_id_apply.symm
  | cons c rest ih =>
    rw [List.foldl_cons, ih, getElem?_tally, Option.map_map]
    congr 1
    funext n
    show n + (if c = b then 1 else 0) + rest.count b = n + (c :: rest).count b
    rw [List.count_cons, Nat.add_assoc, Nat.add_comm (rest.count b)]
    simp only [beq_iff_eq]

/-- The entry of a value is the number of times that it occurs. -/
theorem getElem?_frequencies (data : List UInt8) (b : UInt8) :
    (frequencies data)[b.toNat]? = some (data.count b) := by
  have hentry : (Array.replicate 256 0)[b.toNat]? = some 0 := by
    rw [Array.getElem?_replicate, if_pos b.toNat_lt]
  rw [frequencies, Array.getElem?_toList, getElem?_foldl_tally, hentry, Option.map_some,
    Nat.zero_add]

/-- The table lists the values in their order. -/
theorem frequencies_eq_map_count (data : List UInt8) :
    frequencies data = (List.range 256).map fun n => data.count n.toUInt8 := by
  apply List.ext_getElem?
  intro i
  rcases Nat.lt_or_ge i 256 with hin | hout
  · have hvalue : i.toUInt8.toNat = i := Nat.mod_eq_of_lt hin
    have hentry := getElem?_frequencies data i.toUInt8
    rw [hvalue] at hentry
    rw [hentry, List.getElem?_map, List.getElem?_range hin, Option.map_some]
  · rw [List.getElem?_eq_none (length_frequencies data ▸ hout),
      List.getElem?_eq_none (by simpa using hout)]

/-- **The table tells data apart up to order**, and no further. -/
theorem frequencies_eq_iff : frequencies xs = frequencies ys ↔ xs.Perm ys := by
  constructor
  · intro h
    rw [List.perm_iff_count]
    intro b
    have hentry := getElem?_frequencies xs b
    rw [h, getElem?_frequencies] at hentry
    exact (Option.some.inj hentry).symm
  · intro h
    rw [frequencies_eq_map_count, frequencies_eq_map_count]
    simp only [h.count_eq]

/-! ## The computation -/

/-- The operations on numbers that a score takes, each of them an action. -/
structure Arithmetic (m : Type → Type) (ν : Type) where
  ofNat : Nat → ν
  add : ν → ν → m ν
  negate : ν → m ν
  multiply : ν → ν → m ν
  divide : ν → ν → m ν
  log2 : ν → m ν
  round : ν → m ν
  /-- A number as a byte, those outside the range of a byte moved to its ends. -/
  toByte : ν → m UInt8

namespace Arithmetic

variable {m : Type → Type} [Monad m] {ν : Type} (A : Arithmetic m ν)

/-- What a value that occurs `count` times out of `total` adds to the entropy. -/
def term (count total : Nat) : m ν := do
  let probability ← A.divide (A.ofNat count) (A.ofNat total)
  let opposite ← A.negate probability
  let exponent ← A.log2 probability
  A.multiply exponent opposite

/-- The entropy: one term after another is computed and added. -/
def shannon (counts : List Nat) (total : Nat) : m ν :=
  (counts.filter (· ≠ 0)).foldlM (fun bits count => A.term count total >>= A.add bits) (A.ofNat 0)

/-- Scales bits for each byte to a byte. -/
def normalize (bits : ν) : m UInt8 := do
  let share ← A.divide bits (A.ofNat 8)
  let scaled ← A.multiply share (A.ofNat 255)
  let rounded ← A.round scaled
  A.toByte rounded

/-- The score of a piece of data. -/
def score (data : List UInt8) : m UInt8 :=
  if data.isEmpty then pure 0 else A.shannon (frequencies data) data.length >>= A.normalize

/-- The operations on floating-point numbers. -/
def float : Arithmetic Id Float where
  ofNat := Float.ofNat
  add x y := x + y
  negate x := -x
  multiply x y := x * y
  divide x y := x / y
  log2 := Float.log2
  round := Float.round
  toByte x := if x ≤ 0 then 0 else if x ≥ 255 then 255 else x.toUInt8

/-- Written down and then computed, the score is the score. -/
theorem run_shannon (counts : List Nat) (total : Nat) :
    (float.shannon counts total).run = Entropy.shannon counts total := by
  rw [shannon, Entropy.shannon, List.idRun_foldlM, List.foldl_map]
  rfl

/-- With floating-point numbers, this is the score. -/
theorem run_score (data : List UInt8) : (float.score data).run = Entropy.score data := by
  rw [score, Entropy.score, ← run_shannon]
  split <;> rfl

/-- Data in another order is scored by the same operations, one after another. -/
theorem score_eq_of_perm (h : xs.Perm ys) : A.score xs = A.score ys := by
  have hempty : xs.isEmpty = ys.isEmpty := h.isEmpty_eq
  rw [score, score, hempty, frequencies_eq_iff.mpr h, h.length_eq]

end Arithmetic

/-- The score of a text does not depend on the order of its bytes. -/
theorem score_eq_of_perm (h : xs.Perm ys) : score xs = score ys := by
  rw [← Arithmetic.run_score, ← Arithmetic.run_score, Arithmetic.score_eq_of_perm _ h]

end Entropy

namespace Preview

/-- The first byte of a preview scores the sample. -/
theorem getElem?_compute_zero (buffer : List UInt8) (budget : Nat) :
    (compute buffer budget).bytes[0]? = some (Entropy.score (sample buffer budget)) := by
  rw [compute]
  split
  · next hnone =>
    rw [List.isEmpty_iff.mp hnone]
    rfl
  · next hsome => exact (covers_ofBytes Entropy.score
      (List.length_pos_iff.mpr (mt List.isEmpty_iff.mpr hsome))).whole

end Preview

namespace Entropy

open Preview

/-- **A score ignores the order of bytes.**  Two pieces of data have one table exactly if one of
them is the other in another order; the table lists how often each value occurs, from the
smallest value to the greatest.

* Data in another order is then scored by the same operations on the same numbers, one after
  another.  This is said for any numbers, and operations that may do anything: no law of
  arithmetic is used, and operations that write down what they are given write down the same.
  With floating-point numbers they compute the score.
* The first byte of a preview is the score of the sample, so it is the same for two samples that
  differ in order alone, and in the records of two writes whose previews look at such bytes. -/
theorem score_ignores_order :
    (∀ xs ys : List UInt8, frequencies xs = frequencies ys ↔ xs.Perm ys)
    ∧ (∀ data, frequencies data = (List.range 256).map fun n => data.count n.toUInt8)
    ∧ (∀ xs ys : List UInt8, xs.Perm ys → score xs = score ys
        ∧ ∀ (m : Type → Type) [Monad m] (ν : Type) (A : Arithmetic m ν), A.score xs = A.score ys)
    ∧ (∀ data, (Arithmetic.float.score data).run = score data)
    ∧ (∀ buffer budget, (compute buffer budget).bytes[0]? = some (score (sample buffer budget)))
    ∧ (∀ buffer buffer' budget budget', (sample buffer budget).Perm (sample buffer' budget') →
        (compute buffer budget).bytes[0]? = (compute buffer' budget').bytes[0]?)
    ∧ ∀ (r r' : Reporter) (op op' : Operation),
      (op.seen r.previewBudget).Perm (op'.seen r'.previewBudget) →
        (r.record .write op).preview.bytes[0]? = (r'.record .write op').preview.bytes[0]? := by
  have hfirst (buffer buffer' : List UInt8) (budget budget' : Nat)
      (h : (sample buffer budget).Perm (sample buffer' budget')) :
      (compute buffer budget).bytes[0]? = (compute buffer' budget').bytes[0]? := by
    rw [getElem?_compute_zero, getElem?_compute_zero, score_eq_of_perm h]
  refine ⟨fun xs ys => frequencies_eq_iff, frequencies_eq_map_count,
    fun xs ys h => ⟨score_eq_of_perm h, fun m _ ν A => A.score_eq_of_perm h⟩, Arithmetic.run_score,
    getElem?_compute_zero, hfirst, fun r r' op op' h => ?_⟩
  rw [Operation.seen_eq_sample, Operation.seen_eq_sample] at h
  exact hfirst _ _ _ _ h

/-- Four bytes in two orders: as they are, cut from longer buffers by the budget, and cut by the
length of a write. -/
theorem score_ignores_order_four_bytes :
    let xs : List UInt8 := [7, 0, 7, 255]
    let ys : List UInt8 := [255, 7, 7, 0]
    let op : Operation :=
      { category := .write, processId := 7, name := .unnamed, length := 4,
        buffer := some (xs ++ [1]) }
    let op' : Operation :=
      { category := .write, processId := 8, name := .unnamed, length := 9, buffer := some ys }
    xs.Perm ys ∧ frequencies xs = frequencies ys ∧ score xs = score ys
    ∧ (sample (xs ++ [1]) 4).Perm (sample ys 9)
    ∧ (compute (xs ++ [1]) 4).bytes[0]? = (compute ys 9).bytes[0]?
    ∧ (op.seen 16).Perm (op'.seen 4)
    ∧ (Reporter.record ⟨.empty, ⟨5⟩, 16⟩ .write op).preview.bytes[0]?
      = (Reporter.record ⟨.empty, ⟨6⟩, 4⟩ .write op').preview.bytes[0]? := by
  intro xs ys op op'
  have horder : xs.Perm ys := by decide
  have hsamples : (sample (xs ++ [1]) 4).Perm (sample ys 9) := by decide
  have hseen : (op.seen 16).Perm (op'.seen 4) := by decide
  obtain ⟨htables, -, hscores, -, -, hpreviews, hrecords⟩ := score_ignores_order
  exact ⟨horder, (htables xs ys).mpr horder, (hscores xs ys horder).1, hsamples,
    hpreviews _ _ _ _ hsamples, hseen, hrecords ⟨.empty, ⟨5⟩, 16⟩ ⟨.empty, ⟨6⟩, 4⟩ op op' hseen⟩

end Entropy

end FileActivity
