/-
# One after another

Doing things in turn, each to the state that the one before has left, with an answer to each.
-/

namespace FileActivity

variable {α ω σ : Type}

/-- Does things in turn, each to the state that the one before has left. -/
def inTurn (act : α → σ → ω × σ) : List α → σ → List ω × σ
  | [], s => ([], s)
  | a :: as, s => ((act a s).1 :: (inTurn act as (act a s).2).1, (inTurn act as (act a s).2).2)

@[simp] theorem length_inTurn (act : α → σ → ω × σ) (as : List α) (s : σ) :
    (inTurn act as s).1.length = as.length := by
  induction as generalizing s with
  | nil => rfl
  | cons a as ih => rw [inTurn, List.length_cons, ih, List.length_cons]

/-- What every action keeps is kept by all of them in turn. -/
theorem inTurn_keeps {act : α → σ → ω × σ} {p : σ → Prop} (hkeeps : ∀ a s, p s → p (act a s).2)
    (as : List α) {s : σ} (h : p s) : p (inTurn act as s).2 := by
  induction as generalizing s with
  | nil => exact h
  | cons a as ih => exact ih (hkeeps a s h)

/-- A supply that every counted action takes from, and none adds to, bounds the number of such
actions. -/
theorem countP_inTurn_le (act : α → σ → ω × σ) (counts : α × ω → Bool) (supply : σ → Nat)
    (hstep : ∀ a s, (if counts (a, (act a s).1) then 1 else 0) + supply (act a s).2 ≤ supply s)
    (as : List α) (s : σ) :
    (as.zip (inTurn act as s).1).countP counts + supply (inTurn act as s).2 ≤ supply s := by
  induction as generalizing s with
  | nil => exact Nat.le_of_eq (Nat.zero_add _)
  | cons a as ih =>
    have hrest := ih (act a s).2
    have hfirst := hstep a s
    rw [inTurn, List.zip_cons_cons, List.countP_cons]
    dsimp only
    omega

/-- What is seen of an action through a view of its state is seen of all of them in turn. -/
theorem inTurn_view {τ : Type} {act : α → σ → ω × σ} {seen : α → τ → ω × τ} (view : σ → τ)
    (h : ∀ a s, seen a (view s) = ((act a s).1, view (act a s).2)) (as : List α) (s : σ) :
    inTurn seen as (view s) = ((inTurn act as s).1, view (inTurn act as s).2) := by
  induction as generalizing s with
  | nil => rfl
  | cons a as ih => rw [inTurn, h, ih, inTurn]

end FileActivity
