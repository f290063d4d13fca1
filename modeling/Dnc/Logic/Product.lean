/-
**Products of lists.**

A loop in a loop visits the product of two lists. Keeping the pairs with one second component, of
which there is one, leaves the first list (`filter_product_single`).

The components of the pairs are the elements of the lists (`toFinset_map_product_fst`,
`toFinset_map_product_snd`). The pairs are as many as there are places in the two lists exactly where no list repeats an element
(`card_product_iff`).
-/

import Mathlib.Data.Finset.Card
import Mathlib.Data.Finset.Prod
import Mathlib.Data.List.Nodup
import Mathlib.Data.List.ProdSigma

namespace Logic

section Product

variable {α β : Type}

theorem filter_product (xs : List α) (ys : List β) (keep : β → Bool) :
    (xs ×ˢ ys).filter (fun pair => keep pair.2) = xs ×ˢ ys.filter keep := by
  induction xs with
  | nil => rfl
  | cons x rest ih =>
    rw [List.product_cons, List.product_cons, List.filter_append, List.filter_map, ih]
    rfl

theorem product_singleton (xs : List α) (y : β) : xs ×ˢ [y] = xs.map fun x => (x, y) := by
  induction xs with
  | nil => rfl
  | cons x rest ih =>
    rw [List.product_cons, ih]
    rfl

theorem product_map {γ : Type} (xs : List α) (ys : List β) (f : β → γ) :
    xs ×ˢ ys.map f = (xs ×ˢ ys).map fun pair => (pair.1, f pair.2) := by
  induction xs with
  | nil => rfl
  | cons x rest ih =>
    rw [List.product_cons, List.product_cons, List.map_append, List.map_map, List.map_map, ih]
    rfl

theorem filter_eq_single [DecidableEq β] {ys : List β} (nodup : ys.Nodup) {y : β} (member : y ∈ ys) :
    ys.filter (fun other => other = y) = [y] := by
  rw [List.filter_eq, List.count_eq_one_of_mem nodup member]
  rfl

/-- **One element of the second list** leaves the first list. -/
theorem filter_product_single [DecidableEq β] (xs : List α) {ys : List β} (nodup : ys.Nodup) {y : β}
    (member : y ∈ ys) :
    (xs ×ˢ ys).filter (fun pair => pair.2 = y) = xs.map fun x => (x, y) := by
  rw [filter_product xs ys fun other => other = y, filter_eq_single nodup member, product_singleton]

section Components

variable {γ : Type} [DecidableEq γ]

/-- The first components are the first list, where the second has an element. -/
theorem toFinset_map_product_fst (f : α → γ) (xs : List α) {ys : List β} (someY : ys ≠ []) :
    ((xs ×ˢ ys).map fun pair => f pair.1).toFinset = (xs.map f).toFinset := by
  obtain ⟨y, isY⟩ := List.exists_mem_of_ne_nil ys someY
  ext image
  simp only [List.mem_toFinset, List.mem_map, Prod.exists, List.mem_product]
  constructor
  · rintro ⟨x, _, ⟨isX, -⟩, same⟩
    exact ⟨x, isX, same⟩
  · rintro ⟨x, isX, same⟩
    exact ⟨x, y, ⟨isX, isY⟩, same⟩

/-- The second components are the second list, where the first has an element. -/
theorem toFinset_map_product_snd (f : β → γ) {xs : List α} (ys : List β) (someX : xs ≠ []) :
    ((xs ×ˢ ys).map fun pair => f pair.2).toFinset = (ys.map f).toFinset := by
  obtain ⟨x, isX⟩ := List.exists_mem_of_ne_nil xs someX
  ext image
  simp only [List.mem_toFinset, List.mem_map, Prod.exists, List.mem_product]
  constructor
  · rintro ⟨_, y, ⟨-, isY⟩, same⟩
    exact ⟨y, isY, same⟩
  · rintro ⟨y, isY, same⟩
    exact ⟨x, y, ⟨isX, isY⟩, same⟩

end Components

variable [DecidableEq α] [DecidableEq β]

theorem toFinset_product (xs : List α) (ys : List β) :
    (xs ×ˢ ys).toFinset = xs.toFinset ×ˢ ys.toFinset := by
  ext ⟨x, y⟩
  rw [List.mem_toFinset, List.mem_product, Finset.mem_product, List.mem_toFinset,
    List.mem_toFinset]

theorem card_toFinset_eq_length_iff {xs : List α} : xs.toFinset.card = xs.length ↔ xs.Nodup :=
  Multiset.toFinset_card_eq_card_iff_nodup

/-- **As many pairs as places** exactly where neither list repeats an element. -/
theorem card_product_iff {xs : List α} {ys : List β} (someX : xs ≠ []) (someY : ys ≠ []) :
    (xs ×ˢ ys).toFinset.card = xs.length * ys.length ↔ xs.Nodup ∧ ys.Nodup := by
  rw [toFinset_product, Finset.card_product, ← card_toFinset_eq_length_iff,
    ← card_toFinset_eq_length_iff]
  have belowX := List.toFinset_card_le xs
  have belowY := List.toFinset_card_le ys
  have positiveX := List.length_pos_of_ne_nil someX
  have positiveY := List.length_pos_of_ne_nil someY
  constructor
  · intro same
    have fullX : xs.toFinset.card = xs.length := by
      by_contra fewer
      have less := Nat.mul_lt_mul_of_lt_of_le (lt_of_le_of_ne belowX fewer) belowY positiveY
      exact absurd same less.ne
    refine ⟨fullX, ?_⟩
    rw [fullX] at same
    exact Nat.eq_of_mul_eq_mul_left positiveX same
  · rintro ⟨fullX, fullY⟩
    rw [fullX, fullY]

end Product

end Logic
