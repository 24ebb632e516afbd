/-
# Windows of a list

A list is cut into windows of one size, the last of which may be shorter.  Put together again
they are the list, and each window is found where its number says.
-/
import FileActivity.Preview
import Mathlib.Algebra.Order.Floor.Div

namespace FileActivity

variable {α : Type} {size : Nat} {xs : List α}

/-! ## The next window -/

/-- Fuel for the length of a list is enough, and more changes nothing. -/
theorem windows_congr (size : Nat) (xs : List α) :
    ∀ fuel fuel', xs.length ≤ fuel → xs.length ≤ fuel' → 0 < size →
      windows size fuel xs = windows size fuel' xs := by
  intro fuel
  induction fuel generalizing xs with
  | zero =>
    intro fuel' h _ _
    rw [List.length_eq_zero_iff.mp (Nat.le_zero.mp h)]
    cases fuel' <;> rfl
  | succ fuel ih =>
    intro fuel' h h' hsize
    cases xs with
    | nil => cases fuel' <;> rfl
    | cons x xs =>
      cases fuel' with
      | zero => simp at h'
      | succ fuel' =>
        rw [windows, windows]
        congr 1
        simp only [List.length_cons] at h h'
        apply ih
        · rw [List.length_drop, List.length_cons]
          omega
        · rw [List.length_drop, List.length_cons]
          omega
        · exact hsize

/-- A list that begins with a whole piece is cut there first. -/
theorem chunks_append (ys : List α) (hxs : xs.length = size) (hsize : 0 < size) :
    chunks size (xs ++ ys) = xs :: chunks size ys := by
  obtain ⟨x, xs', rfl⟩ := List.exists_cons_of_length_pos (hxs ▸ hsize)
  have htake : (x :: (xs' ++ ys)).take size = x :: xs' := by
    rw [← List.cons_append, ← hxs, List.take_left]
  have hdrop : (x :: (xs' ++ ys)).drop size = ys := by
    rw [← List.cons_append, ← hxs, List.drop_left]
  rw [chunks, List.cons_append, List.length_cons, windows, htake, hdrop, chunks]
  congr 1
  apply windows_congr
  · simp
  · exact Nat.le_refl _
  · exact hsize

/-- A list that is shorter than a piece is not cut. -/
theorem chunks_of_length_lt (hxs : xs.length < size) (hne : xs ≠ []) : chunks size xs = [xs] := by
  obtain ⟨x, xs', rfl⟩ := List.exists_cons_of_ne_nil hne
  rw [chunks, List.length_cons, windows, List.take_of_length_le (Nat.le_of_lt hxs),
    List.drop_of_length_le (Nat.le_of_lt hxs)]
  cases xs' <;> rfl

/-- The first window is cut off, and the rest is cut into windows. -/
theorem chunks_eq_cons (hsize : 0 < size) (hne : xs ≠ []) :
    chunks size xs = xs.take size :: chunks size (xs.drop size) := by
  rcases Nat.lt_or_ge xs.length size with hshort | hlong
  · rw [chunks_of_length_lt hshort hne, List.take_of_length_le (Nat.le_of_lt hshort),
      List.drop_of_length_le (Nat.le_of_lt hshort), chunks_nil]
  · have hfirst : (xs.take size).length = size := List.length_take_of_le hlong
    have hcut := chunks_append (xs.drop size) hfirst hsize
    rwa [List.take_append_drop] at hcut

/-- To prove something of all lists, put a window in front of a list, time and again. -/
theorem window_induction {p : List α → Prop} (hsize : 0 < size) (nil : p [])
    (more : ∀ xs, xs ≠ [] → p (xs.drop size) → p xs) (xs : List α) : p xs := by
  induction hlength : xs.length using Nat.strong_induction_on generalizing xs with
  | _ n ih =>
    subst hlength
    by_cases hne : xs = []
    · rw [hne]
      exact nil
    · apply more xs hne
      apply ih _ _ _ rfl
      rw [List.length_drop]
      exact Nat.sub_lt (List.length_pos_of_ne_nil hne) hsize

/-! ## All windows -/

/-- **The windows of a list are the list**, put together again. -/
theorem flatten_chunks (hsize : 0 < size) (xs : List α) : (chunks size xs).flatten = xs := by
  induction xs using window_induction hsize with
  | nil => rfl
  | more xs hne ih => rw [chunks_eq_cons hsize hne, List.flatten_cons, ih, List.take_append_drop]

/-- There are as many windows as it takes to hold the list. -/
theorem length_chunks (hsize : 0 < size) (xs : List α) :
    (chunks size xs).length = xs.length ⌈/⌉ size := by
  induction xs using window_induction hsize with
  | nil => rw [chunks_nil, List.length_nil, List.length_nil, zero_ceilDiv]
  | more xs hne ih =>
    have hpos : 0 < xs.length := List.length_pos_of_ne_nil hne
    rw [chunks_eq_cons hsize hne, List.length_cons, ih, List.length_drop,
      Nat.ceilDiv_eq_add_pred_div, Nat.ceilDiv_eq_add_pred_div]
    rcases Nat.lt_or_ge xs.length size with hshort | hlong
    · have hlast : (xs.length + size - 1) / size = 1 := by
        rw [Nat.div_eq_iff hsize]
        omega
      rw [hlast, Nat.sub_eq_zero_of_le (Nat.le_of_lt hshort), Nat.zero_add,
        Nat.div_eq_of_lt (Nat.sub_lt hsize Nat.one_pos)]
    · have hrest : xs.length - size + size - 1 = xs.length - 1 := by omega
      have hall : xs.length + size - 1 = xs.length - 1 + size := by omega
      rw [hrest, hall, Nat.add_div_right _ hsize]

/-- A window has a number below the number of windows exactly if it begins inside the list. -/
theorem lt_ceilDiv_iff (hsize : 0 < size) {i n : Nat} : i < n ⌈/⌉ size ↔ i * size < n := by
  rw [← Nat.not_le, ceilDiv_le_iff_le_mul hsize, Nat.not_le, Nat.mul_comm]

/-- **Each window is found where its number says.** -/
theorem getElem?_chunks (hsize : 0 < size) (xs : List α) (i : Nat) :
    (chunks size xs)[i]? = if i * size < xs.length then some ((xs.drop (i * size)).take size)
      else none := by
  induction xs using window_induction hsize generalizing i with
  | nil => rw [chunks_nil, List.getElem?_nil, List.length_nil, if_neg (Nat.not_lt_zero _)]
  | more xs hne ih =>
    have hpos : 0 < xs.length := List.length_pos_of_ne_nil hne
    rw [chunks_eq_cons hsize hne]
    cases i with
    | zero => rw [List.getElem?_cons_zero, Nat.zero_mul, if_pos hpos, List.drop_zero]
    | succ i =>
      have hstart : size + i * size = (i + 1) * size := by rw [Nat.succ_mul, Nat.add_comm]
      have hrange : i * size < xs.length - size ↔ (i + 1) * size < xs.length := by omega
      rw [List.getElem?_cons_succ, ih, List.length_drop, List.drop_drop, hstart]
      simp only [hrange]

/-- A window ends where the next one begins, or with the list. -/
theorem take_drop_eq_extract (size : Nat) (xs : List α) (i : Nat) :
    (xs.drop (i * size)).take size = xs.extract (i * size) (min ((i + 1) * size) xs.length) := by
  have hend : (i + 1) * size = i * size + size := Nat.succ_mul i size
  rw [List.extract_eq_take_drop, List.take_eq_take_iff, List.length_drop, hend]
  omega

end FileActivity
