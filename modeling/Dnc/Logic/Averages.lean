/-
**Averages of lists.**

The average of a list is that of a part of it exactly where the rest is empty or has the same
average (`average_append_eq_left`). Averages subtract (`average_sub`). For weights of one sign the
square of the sum lies between the sum of the squares and its multiple by the number of the weights
(`sum_sq_le`, `sq_sum_le`).
-/

import Mathlib.Algebra.Order.BigOperators.Ring.Finset
import Mathlib.Algebra.Order.Chebyshev
import Mathlib.Algebra.BigOperators.Fin
import Mathlib.Algebra.Order.Ring.Rat
import Mathlib.Tactic.Linarith

namespace Logic

section Averages

/-- `sum(xs) / len(xs)`. -/
def average (xs : List ℚ) : ℚ := xs.sum / xs.length

theorem average_perm {xs ys : List ℚ} (perm : xs.Perm ys) : average xs = average ys := by
  rw [average, average, perm.sum_eq, perm.length_eq]

theorem average_zeros {α : Type} (xs : List α) : average (xs.map fun _ => 0) = 0 := by
  rw [average, List.map_const', List.sum_replicate, smul_zero, zero_div]

/-- **The average difference** is the difference of the averages. -/
theorem average_sub {α : Type} (xs : List α) (f g : α → ℚ) :
    average (xs.map fun x => f x - g x) = average (xs.map f) - average (xs.map g) := by
  have total : (xs.map fun x => f x - g x).sum = (xs.map f).sum - (xs.map g).sum := by
    simpa using Multiset.sum_map_sub (m := (xs : Multiset α)) (f := f) (g := g)
  rw [average, average, average, total, List.length_map, List.length_map, List.length_map, sub_div]

/-- **A part has the average of the whole** where the rest is empty or has the same average. -/
theorem average_append_eq_left {xs ys : List ℚ} (some : xs ≠ []) :
    average xs = average (xs ++ ys) ↔ ys = [] ∨ average xs = average ys := by
  rcases eq_or_ne ys [] with none | rest
  · exact iff_of_true (by rw [none, List.append_nil]) (Or.inl none)
  · rw [or_iff_right rest, average, average, average, List.sum_append, List.length_append,
      Nat.cast_add]
    have left : (0 : ℚ) < xs.length := Nat.cast_pos.mpr (List.length_pos_of_ne_nil some)
    have right : (0 : ℚ) < ys.length := Nat.cast_pos.mpr (List.length_pos_of_ne_nil rest)
    rw [div_eq_div_iff left.ne' (add_pos left right).ne', div_eq_div_iff left.ne' right.ne']
    constructor
    · intro same
      linarith
    · intro same
      linarith

/-- **At most as many times the sum of the squares.** -/
theorem sq_sum_le (xs : List ℚ) : xs.sum ^ 2 ≤ xs.length * (xs.map fun x => x ^ 2).sum := by
  have bound := sq_sum_le_card_mul_sum_sq (s := Finset.univ)
    (f := fun index : Fin xs.length => xs[index.val])
  rw [Finset.card_univ, Fintype.card_fin, Fin.sum_univ_getElem] at bound
  refine bound.trans_eq (congrArg _ ?_)
  exact Fin.sum_univ_fun_getElem xs fun x => x ^ 2

/-- **At least the sum of the squares**, where all have one sign. -/
theorem sum_sq_le {xs : List ℚ} (sign : (∀ x ∈ xs, 0 ≤ x) ∨ ∀ x ∈ xs, x ≤ 0) :
    (xs.map fun x => x ^ 2).sum ≤ xs.sum ^ 2 := by
  have nonnegative : ∀ ys : List ℚ, (∀ y ∈ ys, 0 ≤ y) → (ys.map fun y => y ^ 2).sum ≤ ys.sum ^ 2 := by
    intro ys signs
    induction ys with
    | nil => simp
    | cons y rest ih =>
      rw [List.map_cons, List.sum_cons, List.sum_cons]
      have first := signs y List.mem_cons_self
      have others := List.sum_nonneg fun other member => signs other (List.mem_cons_of_mem _ member)
      have smaller := ih fun other member => signs other (List.mem_cons_of_mem _ member)
      nlinarith [mul_nonneg first others]
  rcases sign with positive | negative
  · exact nonnegative xs positive
  · have flipped := nonnegative (xs.map Neg.neg) fun y member => by
      obtain ⟨x, inside, same⟩ := List.mem_map.mp member
      rw [← same]
      exact neg_nonneg.mpr (negative x inside)
    have squares : (xs.map Neg.neg).map (fun y => y ^ 2) = xs.map fun x => x ^ 2 := by
      rw [List.map_map]
      exact List.map_congr_left fun x _ => neg_sq x
    rwa [squares, ← List.sum_neg, neg_sq] at flipped

end Averages

end Logic
