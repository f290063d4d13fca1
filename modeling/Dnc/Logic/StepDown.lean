/-
**Holm's step-down procedure.**

The p-values of a family of hypotheses, in ascending order, are compared with the level one after
the other, each times the number of hypotheses from it on; from the first that is not below the
level on, nothing is rejected (`stepDown`). Significance is strict here, as in the code that uses it.

* `stepDown_eq_map`: where the products do not fall below an earlier one, other than above one, each
  can be compared on its own.
* `steady_iff_monotone`: this is what it takes for the products, cut off at one, to be a monotone
  function of the p-values.
-/

import Mathlib.Algebra.Order.Ring.Defs
import Mathlib.Data.List.Basic
import Mathlib.Data.Nat.Cast.Order.Ring

namespace Logic

section StepDown

variable {R : Type} [CommRing R] [LinearOrder R] [IsStrictOrderedRing R]

/-- Each value times the number of values from it on. -/
def weighted : List R → List R
  | [] => []
  | p :: rest => p * (rest.length + 1 : Nat) :: weighted rest

/-- **Holm's procedure**: which of the hypotheses with these p-values, in ascending order, are
rejected. -/
def stepDown (level : R) : List R → List Bool
  | [] => []
  | p :: rest =>
    if p * (rest.length + 1 : Nat) < level then true :: stepDown level rest
    else List.replicate (rest.length + 1) false

/-- No product falls below an earlier one, unless both are at least one. -/
def Steady (ps : List R) : Prop :=
  (weighted ps).Pairwise fun first second => first ≤ second ∨ 1 ≤ second

omit [LinearOrder R] [IsStrictOrderedRing R] in
@[simp] theorem length_weighted (ps : List R) : (weighted ps).length = ps.length := by
  induction ps with
  | nil => rfl
  | cons p rest ih => rw [weighted, List.length_cons, List.length_cons, ih]

omit [IsStrictOrderedRing R] in
/-- **Steady products are compared one by one.** -/
theorem stepDown_eq_map {level : R} (small : level ≤ 1) {ps : List R} (steady : Steady ps) :
    stepDown level ps = (weighted ps).map fun product => decide (product < level) := by
  induction ps with
  | nil => rfl
  | cons p rest ih =>
    obtain ⟨first, later⟩ := List.pairwise_cons.mp steady
    rw [stepDown, weighted, List.map_cons]
    by_cases below : p * (rest.length + 1 : Nat) < level
    · rw [if_pos below, decide_eq_true below, ih later]
    · rw [if_neg below, decide_eq_false below, List.replicate_succ]
      refine congrArg _ (List.ext_getElem (by simp) fun index inside _ => ?_).symm
      rw [List.getElem_map, List.getElem_replicate, decide_eq_false_iff_not, not_lt]
      rcases first _ (List.getElem_mem (by simpa using inside)) with rises | large
      · exact (not_lt.mp below).trans rises
      · exact small.trans large

omit [IsStrictOrderedRing R] in
theorem min_le_min_iff {first second : R} :
    min first 1 ≤ min second 1 ↔ first ≤ second ∨ 1 ≤ second := by
  rw [le_min_iff, min_le_iff, min_le_iff]
  constructor
  · exact fun both => both.1
  · exact fun below => ⟨below, Or.inr le_rfl⟩

omit [LinearOrder R] [IsStrictOrderedRing R] in
/-- The products of p-values that are not negative. -/
theorem mem_zip_weighted {ps : List R} {pair : R × R} (member : pair ∈ ps.zip (weighted ps)) :
    ∃ count ≤ ps.length, pair.2 = pair.1 * (count : Nat) := by
  induction ps with
  | nil => cases member
  | cons p rest ih =>
    rw [weighted, List.zip_cons_cons] at member
    rcases List.mem_cons.mp member with rfl | later
    · exact ⟨rest.length + 1, le_rfl, rfl⟩
    · obtain ⟨count, few, same⟩ := ih later
      exact ⟨count, few.trans (Nat.le_succ _), same⟩

/-- Equal p-values have falling products. -/
theorem zip_weighted_pairwise {ps : List R} (nonneg : ∀ p ∈ ps, 0 ≤ p) :
    (ps.zip (weighted ps)).Pairwise fun first second =>
      first.1 = second.1 → second.2 ≤ first.2 := by
  induction ps with
  | nil => exact .nil
  | cons p rest ih =>
    obtain ⟨here, later⟩ := List.forall_mem_cons.mp nonneg
    refine List.pairwise_cons.mpr ⟨fun pair member same => ?_, ih later⟩
    obtain ⟨count, few, product⟩ := mem_zip_weighted member
    rw [product, ← same]
    exact mul_le_mul_of_nonneg_left (Nat.cast_le.mpr (few.trans (Nat.le_succ _))) here

/-- **The products, cut off at one, are monotone in the p-values exactly where they are steady.** -/
theorem steady_iff_monotone {ps : List R} (sorted : ps.Pairwise (· ≤ ·))
    (nonneg : ∀ p ∈ ps, 0 ≤ p) :
    Steady ps ↔ ∀ first ∈ ps.zip (weighted ps), ∀ second ∈ ps.zip (weighted ps),
      first.1 ≤ second.1 → min first.2 1 ≤ min second.2 1 := by
  have values : (ps.zip (weighted ps)).map Prod.fst = ps := List.map_fst_zip (by simp)
  have products : (ps.zip (weighted ps)).map Prod.snd = weighted ps := List.map_snd_zip (by simp)
  have ascending : (ps.zip (weighted ps)).Pairwise fun first second => first.1 ≤ second.1 := by
    rw [← values, List.pairwise_map] at sorted
    exact sorted
  constructor
  · intro steady
    rw [Steady, ← products, List.pairwise_map] at steady
    have rising : (ps.zip (weighted ps)).Pairwise fun first second =>
        first.1 ≤ second.1 → min first.2 1 ≤ min second.2 1 :=
      steady.imp fun {_ _} rises => fun _ => min_le_min_iff.mpr rises
    -- a later pair with the same p-value has a smaller product
    have falling : (ps.zip (weighted ps)).Pairwise fun first second =>
        second.1 ≤ first.1 → min second.2 1 ≤ min first.2 1 := by
      refine (ascending.and (zip_weighted_pairwise nonneg)).imp ?_
      rintro first second ⟨below, falls⟩ above
      exact min_le_min_right 1 (falls (le_antisymm below above))
    intro first isFirst second isSecond
    exact List.Pairwise.forall_of_forall_of_flip (fun _ _ _ => le_rfl) rising falling
      isFirst isSecond
  · intro monotone
    rw [Steady, ← products, List.pairwise_map]
    refine ascending.imp_of_mem fun isFirst isSecond below => ?_
    exact min_le_min_iff.mp (monotone _ isFirst _ isSecond below)

end StepDown

end Logic
