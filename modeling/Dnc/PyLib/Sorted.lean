/-
**Stable sorting by a key.**

`sortBy key` is Python's `sorted(xs, key=key)` and `sortByDesc key` is
`sorted(xs, key=key, reverse=True)`: both keep the given order among elements with equal keys.
`sortedElems` is `sorted` of a finite set, and `leastBy` is `min` where keys are compared by a
relation.

Two facts carry the uses below: lists that are permutations of each other and on which the key is
injective have the same sorted list (`sortBy_eq_of_perm`), and the head of a descending sort is the
first of the elements with the greatest key (`head_sortByDesc_le`, `head_sortByDesc_of_forall_le`).
Greatest and least values that a loop keeps are bounded by `foldl_sup_le_iff` and `le_foldl_inf_iff`.
-/

import Mathlib.Data.List.Sort
import Mathlib.Data.Finset.Sort
import Mathlib.Data.List.MinMax

namespace PyLib

section SortBy

variable {α β κ : Type} [LinearOrder κ]

/-- `sorted(xs, key=key)`. -/
def sortBy (key : α → κ) (xs : List α) : List α :=
  xs.insertionSort fun first second => key first ≤ key second

/-- `sorted(xs, key=key, reverse=True)`. -/
def sortByDesc (key : α → κ) (xs : List α) : List α :=
  xs.insertionSort fun first second => key second ≤ key first

theorem sortBy_perm (key : α → κ) (xs : List α) : (sortBy key xs).Perm xs :=
  List.perm_insertionSort _ xs

theorem mem_sortBy {key : α → κ} {xs : List α} {x : α} : x ∈ sortBy key xs ↔ x ∈ xs :=
  (sortBy_perm key xs).mem_iff

theorem sortBy_pairwise (key : α → κ) (xs : List α) :
    (sortBy key xs).Pairwise fun first second => key first ≤ key second := by
  have : Std.Total fun first second : α => key first ≤ key second :=
    ⟨fun first second => le_total (key first) (key second)⟩
  have : IsTrans α fun first second => key first ≤ key second := ⟨fun _ _ _ => le_trans⟩
  exact List.pairwise_insertionSort _ xs

/-- Sorting commutes with a map that keeps the keys. -/
theorem sortBy_map (key : β → κ) (f : α → β) (xs : List α) :
    sortBy key (xs.map f) = (sortBy (key ∘ f) xs).map f :=
  (List.map_insertionSort _ _ f xs fun _ _ _ _ => Iff.rfl).symm

/-- **Sorting is canonical where keys tell elements apart.** -/
theorem sortBy_eq_of_perm {key : α → κ} {xs ys : List α} (perm : xs.Perm ys)
    (injective : ∀ x ∈ xs, ∀ y ∈ xs, key x = key y → x = y) : sortBy key xs = sortBy key ys := by
  refine List.Perm.eq_of_pairwise ?_
    (sortBy_pairwise key xs) (sortBy_pairwise key ys)
    ((sortBy_perm key xs).trans (perm.trans (sortBy_perm key ys).symm))
  intro first second inFirst inSecond below above
  exact injective first (mem_sortBy.mp inFirst) second (perm.mem_iff.mpr (mem_sortBy.mp inSecond))
    (le_antisymm below above)

theorem sortBy_of_pairwise {key : α → κ} {xs : List α}
    (sorted : xs.Pairwise fun first second => key first ≤ key second) : sortBy key xs = xs :=
  sorted.insertionSort_eq

/-- `min(xs, key=key, default=None)`: the first of the least elements. -/
def minBy (key : α → κ) (xs : List α) : Option α := (sortBy key xs).head?

theorem mem_of_minBy {key : α → κ} {xs : List α} {x : α} (least : minBy key xs = some x) : x ∈ xs :=
  mem_sortBy.mp (List.mem_of_mem_head? least)

theorem minBy_le {key : α → κ} {xs : List α} {least : α} (found : minBy key xs = some least) :
    ∀ x ∈ xs, key least ≤ key x := by
  have sorted := sortBy_pairwise key xs
  obtain ⟨rest, split⟩ := List.head?_eq_some_iff.mp found
  intro x member
  have listed : x ∈ sortBy key xs := mem_sortBy.mpr member
  rw [split] at sorted listed
  rcases List.mem_cons.mp listed with rfl | later
  · exact le_rfl
  · exact (List.pairwise_cons.mp sorted).1 x later

theorem minBy_eq_none {key : α → κ} {xs : List α} : minBy key xs = none ↔ xs = [] := by
  rw [minBy, List.head?_eq_none_iff]
  exact ⟨fun sorted => (sorted ▸ sortBy_perm key xs).nil_eq.symm, fun empty => by rw [empty]; rfl⟩

/-- The least element does not depend on the order, where keys tell elements apart. -/
theorem minBy_eq_of_perm {key : α → κ} {xs ys : List α} (perm : xs.Perm ys)
    (injective : ∀ x ∈ xs, ∀ y ∈ xs, key x = key y → x = y) : minBy key xs = minBy key ys := by
  rw [minBy, minBy, sortBy_eq_of_perm perm injective]

theorem sortByDesc_perm (key : α → κ) (xs : List α) : (sortByDesc key xs).Perm xs :=
  List.perm_insertionSort _ xs

/-- The head of a descending sort has the greatest key. -/
theorem head_sortByDesc_le {key : α → κ} {xs rest : List α} {top : α}
    (sorted : sortByDesc key xs = top :: rest) : top ∈ xs ∧ ∀ x ∈ xs, key x ≤ key top := by
  have : Std.Total fun first second : α => key second ≤ key first :=
    ⟨fun first second => le_total (key second) (key first)⟩
  have : IsTrans α fun first second => key second ≤ key first :=
    ⟨fun _ _ _ first second => le_trans second first⟩
  have perm := sortByDesc_perm key xs
  have ordered : (sortByDesc key xs).Pairwise fun first second => key second ≤ key first :=
    List.pairwise_insertionSort _ xs
  rw [sorted] at perm ordered
  refine ⟨perm.mem_iff.mp List.mem_cons_self, fun x member => ?_⟩
  rcases List.mem_cons.mp (perm.mem_iff.mpr member) with same | later
  · rw [same]
  · exact (List.pairwise_cons.mp ordered).1 x later

/-- **Stability at the head**: a first element that no other beats stays first. -/
theorem head_sortByDesc_of_forall_le {key : α → κ} {first : α} {rest : List α}
    (top : ∀ x ∈ rest, key x ≤ key first) :
    sortByDesc key (first :: rest) = first :: sortByDesc key rest :=
  List.insertionSort_cons_of_forall_rel _ top

end SortBy

section LeastBy

variable {α : Type} (less : α → α → Prop) [DecidableRel less]

/-- `min(xs, key)`, where `less` compares the keys: a later element takes the place of the one kept
so far where it is less. -/
def leastBy (xs : List α) : Option α := xs.foldl (List.argAux less) none

variable {less}

theorem leastBy_eq_none {xs : List α} : leastBy less xs = none ↔ xs = [] := by
  rw [leastBy, List.foldl_argAux_eq_none, and_iff_left rfl]

theorem mem_of_leastBy {xs : List α} {best : α} (found : leastBy less xs = some best) :
    best ∈ xs := by
  induction xs using List.reverseRecOn with
  | nil => cases found
  | append_singleton earlier last ih =>
    rw [leastBy, List.foldl_append] at found
    change List.argAux less (leastBy less earlier) last = some best at found
    cases kept : leastBy less earlier with
    | none =>
      rw [kept] at found
      exact Option.some.inj found ▸ List.mem_append_right _ List.mem_cons_self
    | some first =>
      rw [kept] at found
      change (if less last first then some last else some first) = some best at found
      split_ifs at found <;> cases found
      · exact List.mem_append_right _ List.mem_cons_self
      · exact List.mem_append_left _ (ih kept)

/-- **What is kept is in the list, and nothing is less.** -/
theorem leastBy_spec (irrefl : ∀ x, ¬ less x x)
    (trans : ∀ x y z, less x y → less y z → less x z) {xs : List α} {best : α}
    (found : leastBy less xs = some best) : best ∈ xs ∧ ∀ x ∈ xs, ¬ less x best :=
  ⟨mem_of_leastBy found, fun _ listed =>
    List.not_of_mem_foldl_argAux less ⟨irrefl⟩ ⟨trans⟩ listed found⟩

end LeastBy

section Folds

variable {α κ : Type}

/-- A running maximum is below a bound where all that went into it is. -/
theorem foldl_sup_le_iff [SemilatticeSup κ] (value : α → κ) {xs : List α} {start bound : κ} :
    xs.foldl (fun greatest x => greatest ⊔ value x) start ≤ bound ↔
      start ≤ bound ∧ ∀ x ∈ xs, value x ≤ bound := by
  induction xs generalizing start with
  | nil => exact (and_iff_left (List.forall_mem_nil _)).symm
  | cons x rest ih => rw [List.foldl_cons, ih, sup_le_iff, List.forall_mem_cons, and_assoc]

/-- A running minimum is above a bound where all that went into it is. -/
theorem le_foldl_inf_iff [SemilatticeInf κ] (value : α → κ) {xs : List α} {start bound : κ} :
    bound ≤ xs.foldl (fun least x => least ⊓ value x) start ↔
      bound ≤ start ∧ ∀ x ∈ xs, bound ≤ value x :=
  foldl_sup_le_iff (κ := κᵒᵈ) value

end Folds

section Finset

variable {α : Type} [LinearOrder α]

/-- `sorted(s)` for a finite set. -/
def sortedElems (elems : Finset α) : List α :=
  Quot.liftOn elems.1 (fun xs => xs.insertionSort (· ≤ ·)) fun xs ys perm => by
    have same : (xs.insertionSort (· ≤ ·)).Perm (ys.insertionSort (· ≤ ·)) :=
      (List.perm_insertionSort _ xs).trans (perm.trans (List.perm_insertionSort _ ys).symm)
    refine same.eq_of_pairwise ?_ (List.pairwise_insertionSort _ xs)
      (List.pairwise_insertionSort _ ys)
    exact fun _ _ _ _ below above => le_antisymm below above

theorem sortedElems_eq_sort (elems : Finset α) : sortedElems elems = elems.sort := by
  obtain ⟨⟨xs⟩, nodup⟩ := elems
  exact (List.mergeSort_eq_insertionSort (· ≤ ·) xs).symm

@[simp] theorem mem_sortedElems {elems : Finset α} {x : α} : x ∈ sortedElems elems ↔ x ∈ elems := by
  rw [sortedElems_eq_sort, Finset.mem_sort]

theorem sortedElems_nodup (elems : Finset α) : (sortedElems elems).Nodup := by
  rw [sortedElems_eq_sort]
  exact Finset.sort_nodup _ _

@[simp] theorem toFinset_sortedElems (elems : Finset α) : (sortedElems elems).toFinset = elems := by
  rw [sortedElems_eq_sort]
  exact Finset.sort_toFinset _ _

end Finset

end PyLib
