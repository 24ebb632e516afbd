/-
# Sets of users

A set of user numbers is kept as the list of its members in increasing order, so that two lists
of the same users give the same set, and a member is found by halving the list.
-/
import FileActivity.Error

namespace FileActivity

/-- Drops each element that the next one repeats. -/
def dropRepeats : List UserId → List UserId
  | [] => []
  | [u] => [u]
  | u :: v :: rest => if u = v then dropRepeats (v :: rest) else u :: dropRepeats (v :: rest)

/-- The members of a list of users, each once and in increasing order. -/
def sortedSet (uids : List UserId) : List UserId := dropRepeats (uids.mergeSort (· ≤ ·))

@[simp] theorem mem_dropRepeats {u : UserId} {uids : List UserId} :
    u ∈ dropRepeats uids ↔ u ∈ uids := by
  fun_induction dropRepeats uids with
  | case1 => simp
  | case2 => simp
  | case3 v rest ih => simp [ih]
  | case4 v w rest _ ih => simp [ih]

@[simp] theorem mem_sortedSet {u : UserId} {uids : List UserId} :
    u ∈ sortedSet uids ↔ u ∈ uids := by
  simp [sortedSet]

theorem pairwise_dropRepeats {uids : List UserId} (h : uids.Pairwise (· ≤ ·)) :
    (dropRepeats uids).Pairwise (· < ·) := by
  fun_induction dropRepeats uids with
  | case1 => exact List.Pairwise.nil
  | case2 u => exact List.pairwise_singleton _ _
  | case3 v rest ih => exact ih (List.pairwise_cons.mp h).2
  | case4 u v rest hne ih =>
    obtain ⟨hu, hrest⟩ := List.pairwise_cons.mp h
    have huv : u < v := UInt32.lt_of_le_of_ne (hu v List.mem_cons_self) hne
    refine List.pairwise_cons.mpr ⟨fun w hw => ?_, ih hrest⟩
    rcases List.mem_cons.mp (mem_dropRepeats.mp hw) with rfl | hw
    · exact huv
    · exact UInt32.lt_of_lt_of_le huv ((List.pairwise_cons.mp hrest).1 w hw)

theorem pairwise_sortedSet (uids : List UserId) : (sortedSet uids).Pairwise (· < ·) := by
  refine pairwise_dropRepeats ?_
  have htrans : ∀ u v w : UserId, decide (u ≤ v) = true → decide (v ≤ w) = true →
      decide (u ≤ w) = true := by
    intro u v w huv hvw
    exact decide_eq_true (UInt32.le_trans (of_decide_eq_true huv) (of_decide_eq_true hvw))
  have htotal : ∀ u v : UserId, (decide (u ≤ v) || decide (v ≤ u)) = true := by
    intro u v
    simpa using UInt32.le_total u v
  have hsorted := List.pairwise_mergeSort htrans htotal uids
  exact hsorted.imp fun h => of_decide_eq_true h

/-! ## Searching -/

/-- Where a search for a user ends that looks at `size` places from `base` on.  As long as there
are several places, the half that cannot hold the user is dropped; each round drops at least one
place. -/
def narrow (uids : List UserId) (uid : UserId) :
    (rounds base size : Nat) → base + size ≤ uids.length → Nat
  | 0, base, _, _ => base
  | rounds + 1, base, size, h =>
    if hsize : 1 < size then
      have hmiddle : base + size / 2 < uids.length := by omega
      if uid < uids[base + size / 2] then narrow uids uid rounds base (size - size / 2) (by omega)
      else narrow uids uid rounds (base + size / 2) (size - size / 2) (by omega)
    else base

/-- The place of a user among users in increasing order, if it is there. -/
def search (uids : List UserId) (uid : UserId) : Option Nat :=
  let place := narrow uids uid uids.length 0 uids.length (by omega)
  if uids[place]? = some uid then some place else none

end FileActivity
