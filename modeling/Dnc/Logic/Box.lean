/-
**Points in a box.**

What all the cubes around some points have in common is the box of the points: a point is in every
cube that contains them exactly when each of its coordinates is between the least and the greatest
of theirs (`near_all_iff`).
-/

import Mathlib.Algebra.Order.Ring.Abs
import Mathlib.Data.Set.Finite.Lattice
import Mathlib.Order.Bounds.Basic
import Mathlib.Tactic.Linarith

namespace Logic

section Box

variable {ι R : Type} [CommRing R] [LinearOrder R] [IsStrictOrderedRing R]

/-- Every coordinate of the point differs from that of the center by at most the radius. -/
def Near (center : ι → R) (radius : R) (point : ι → R) : Prop :=
  ∀ i, |point i - center i| ≤ radius

/-- Every coordinate of the point is between two of the points. -/
def Boxed (points : List (ι → R)) (point : ι → R) : Prop :=
  ∀ i, (∃ low ∈ points, low i ≤ point i) ∧ ∃ high ∈ points, point i ≤ high i

variable {points : List (ι → R)} {point : ι → R}

theorem Boxed.near (boxed : Boxed points point) {center : ι → R} {radius : R}
    (all : ∀ other ∈ points, Near center radius other) : Near center radius point := by
  intro i
  obtain ⟨⟨low, isLow, lower⟩, high, isHigh, upper⟩ := boxed i
  have below := (abs_le.mp (all low isLow i)).1
  have above := (abs_le.mp (all high isHigh i)).2
  exact abs_le.mpr ⟨by linarith, by linarith⟩

omit [IsStrictOrderedRing R] in
theorem near_neg {center : ι → R} {radius : R} :
    Near (-center) radius (-point) ↔ Near center radius point := by
  refine forall_congr' fun i => ?_
  rw [Pi.neg_apply, Pi.neg_apply, neg_sub_neg, abs_sub_comm]

/-- Finitely many values below a value are below one that is less. -/
theorem exists_between_all {values : List R} {value : R} (below : ∀ other ∈ values, other < value) :
    ∃ top < value, ∀ other ∈ values, other ≤ top := by
  induction values with
  | nil => exact ⟨value - 1, sub_one_lt value, fun _ member => nomatch member⟩
  | cons first rest ih =>
    rw [List.forall_mem_cons] at below
    obtain ⟨top, less, all⟩ := ih below.2
    refine ⟨max first top, max_lt below.1 less, List.forall_mem_cons.mpr ⟨le_max_left _ _, ?_⟩⟩
    exact fun other member => (all other member).trans (le_max_right _ _)

theorem exists_bound [Finite ι] (points : List (ι → R)) :
    ∃ bound, ∀ other ∈ points, ∀ i, |other i| ≤ bound := by
  induction points with
  | nil => exact ⟨0, fun _ member => nomatch member⟩
  | cons first rest ih =>
    obtain ⟨bound, all⟩ := ih
    obtain ⟨largest, isLargest⟩ := (Set.finite_range fun i => |first i|).bddAbove
    refine ⟨max largest bound, List.forall_mem_cons.mpr ⟨fun i => ?_, fun other member i => ?_⟩⟩
    · exact (isLargest (Set.mem_range_self i)).trans (le_max_left _ _)
    · exact (all other member i).trans (le_max_right _ _)

/-- **A point beyond all the points in one coordinate is outside a cube around them**, whose center
is far away on the other side. -/
theorem exists_near_of_above [Finite ι] {i : ι} (above : ∀ other ∈ points, other i < point i) :
    ∃ center radius, (∀ other ∈ points, Near center radius other) ∧ ¬ Near center radius point := by
  classical
  obtain ⟨top, less, highest⟩ : ∃ top < point i, ∀ other ∈ points, other i ≤ top := by
    have below : ∀ value ∈ points.map (· i), value < point i := List.forall_mem_map.mpr above
    obtain ⟨top, less, highest⟩ := exists_between_all below
    exact ⟨top, less, List.forall_mem_map.mp highest⟩
  obtain ⟨bound, bounded⟩ := exists_bound points
  -- so large that the other coordinates do not matter
  let far := max bound |top|
  have size : |top| ≤ far := le_max_right _ _
  have nonnegative : 0 ≤ far := (abs_nonneg top).trans size
  have topLower : -far ≤ top := (abs_le.mp size).1
  refine ⟨Function.update 0 i (-2 * far), top + 2 * far, fun other member j => ?_, fun near => ?_⟩
  · have small : |other j| ≤ far := (bounded other member j).trans (le_max_left _ _)
    obtain ⟨lower, upper⟩ := abs_le.mp small
    by_cases same : j = i
    · subst same
      have highest := highest other member
      rw [Function.update_self]
      exact abs_le.mpr ⟨by linarith, by linarith⟩
    · rw [Function.update_of_ne same, Pi.zero_apply, sub_zero]
      linarith
  · have close := (abs_le.mp (near i)).2
    rw [Function.update_self] at close
    linarith

/-- **What the cubes around some points have in common is their box.** -/
theorem near_all_iff [Finite ι] :
    (∀ center radius, (∀ other ∈ points, Near center radius other) → Near center radius point) ↔
      Boxed points point := by
  constructor
  · intro common i
    by_contra outside
    rw [not_and_or] at outside
    push Not at outside
    rcases outside with below | above
    · have above : ∀ other ∈ points.map Neg.neg, other i < (-point) i :=
        List.forall_mem_map.mpr fun other member => neg_lt_neg (below other member)
      obtain ⟨center, radius, all, apart⟩ := exists_near_of_above above
      refine apart (near_neg.mp ?_)
      rw [neg_neg]
      refine common _ _ fun other member => near_neg.mp ?_
      rw [neg_neg]
      exact all _ (List.mem_map_of_mem member)
    · obtain ⟨center, radius, all, apart⟩ := exists_near_of_above above
      exact apart (common center radius all)
  · intro boxed center radius all
    exact boxed.near all

end Box

end Logic
