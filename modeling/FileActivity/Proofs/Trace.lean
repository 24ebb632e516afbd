/-
# Traces

Steps of a system one after another, and what was done in them, in order.
-/
import Mathlib.Data.List.Basic

namespace FileActivity

universe u v

variable {S : Type u} {A : Type v}

/-! ## Lists that go one further -/

/-- Where an element stands in a list that goes one further: it is the last one, or it stands in
the list before. -/
theorem concat_eq_append_cons {xs pre post : List A} {a b : A} (h : xs ++ [a] = pre ++ b :: post) :
    post = [] ∧ xs = pre ∧ a = b ∨ ∃ post', post = post' ++ [a] ∧ xs = pre ++ b :: post' := by
  rcases List.eq_nil_or_concat post with rfl | ⟨post', c, rfl⟩
  · obtain ⟨hxs, hab⟩ := List.append_inj' h rfl
    exact Or.inl ⟨rfl, hxs, List.head_eq_of_cons_eq hab⟩
  · rw [List.concat_eq_append, ← List.cons_append, ← List.append_assoc] at h
    obtain ⟨hxs, hac⟩ := List.append_inj' h rfl
    rw [List.concat_eq_append, List.head_eq_of_cons_eq hac]
    exact Or.inr ⟨post', rfl, hxs⟩

theorem filterMap_concat {B : Type u} (f : A → Option B) (xs : List A) (x : A) :
    (xs ++ [x]).filterMap f = xs.filterMap f ++ (f x).toList := by
  rw [List.filterMap_append]
  cases h : f x <;> simp [h]

/-- What comes of a list that goes one further came of the list before, or of its last element. -/
theorem mem_filterMap_concat {B : Type u} {f : A → Option B} {xs : List A} {x : A} {y : B} :
    y ∈ (xs ++ [x]).filterMap f ↔ y ∈ xs.filterMap f ∨ f x = some y := by
  rw [filterMap_concat, List.mem_append, Option.mem_toList]

/-! ## Traces -/

/-- Steps one after another. -/
inductive Trace (step : S → A → S → Prop) (s₀ : S) : List A → S → Prop where
  | refl : Trace step s₀ [] s₀
  | tail {tr : List A} {a : A} {s s' : S} (hrun : Trace step s₀ tr s) (hstep : step s a s') :
    Trace step s₀ (tr ++ [a]) s'

namespace Trace

variable {step : S → A → S → Prop} {s s' s₀ : S} {a : A} {tr tr' : List A}

theorem single (h : step s a s') : Trace step s [a] s' := tail refl h

theorem trans (h : Trace step s₀ tr s) (h' : Trace step s tr' s') :
    Trace step s₀ (tr ++ tr') s' := by
  induction h' with
  | refl => rwa [List.append_nil]
  | tail _ hstep ih =>
    rw [← List.append_assoc]
    exact ih.tail hstep

theorem cons (h : step s₀ a s) (h' : Trace step s tr s') : Trace step s₀ (a :: tr) s' :=
  (single h).trans h'

end Trace

end FileActivity
