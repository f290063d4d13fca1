/-
**Isotonic calibration.**

`dnc.assurance.calibration.fit_isotonic`: the observations are sorted by score and label, each is a
block, and neighbouring blocks are merged as long as the first has the greater value, one step back
after every merge.

* `poolLoop_pools`: the loop ends, and what it keeps on the way are pooled runs of the sorted
  observations that are in order up to the index (`PooledRuns.merge`, `Ordered.advance`,
  `Ordered.back`).
* `fitIsotonic_pools`: so the blocks are those of a pooling.
* `fitsIsotonic_iff`: they are the isotonic regression exactly where equal scores are pulled
  together.
-/

import Dnc.Logic.Isotonic
import Dnc.PyLib.Number
import Dnc.PyLib.Sorted
import Dnc.PyLib.Value

namespace Dnc.Assurance

open PyLib Logic.Isotonic

section Isotonic

variable (R : Type)

/-- `[threshold, value, count]`. -/
structure IsotonicBlock where
  threshold : R
  value : R
  count : Nat

variable {R} [PyFloat R]

/-- `zip(scores, labels, strict=True)`. -/
def zipStrict (scores labels : List R) : Except PyError (List (R × R)) :=
  if labels.length < scores.length then
    .error (.valueError "zip() argument 2 is shorter than argument 1")
  else if scores.length < labels.length then
    .error (.valueError "zip() argument 2 is longer than argument 1")
  else .ok (scores.zip labels)

/-- The block in place of two neighbours. -/
def mergeBlocks (left right : IsotonicBlock R) : IsotonicBlock R :=
  let count := left.count + right.count
  { threshold := right.threshold
    value := (left.value * ((left.count : Int) : R) + right.value * ((right.count : Int) : R)) /
      ((count : Int) : R)
    count }

/-- The loop of `fit_isotonic`, for fewer than `fuel` steps; it goes on while there is a block
behind the index. -/
def poolLoop : Nat → Nat → List (IsotonicBlock R) → Option (List (IsotonicBlock R))
  | 0, _, _ => none
  | fuel + 1, index, blocks =>
    match blocks[index]?, blocks[index + 1]? with
    | some left, some right =>
      if right.value < left.value then
        poolLoop fuel (index - 1)
          (blocks.take index ++ mergeBlocks left right :: blocks.drop (index + 2))
      else poolLoop fuel (index + 1) blocks
    | _, _ => some blocks

/-- `fit_isotonic`; `none` if the loop does not end. -/
def fitIsotonic (scores labels : List R) : Except PyError (Option (List (R × R))) := do
  let rows ← zipStrict scores labels
  let blocks := (sortBy toLex rows).map fun row => ⟨row.1, row.2, 1⟩
  return (poolLoop (2 * blocks.length + 1) 0 blocks).map fun blocks =>
    blocks.map fun block => (block.threshold, block.value)

end Isotonic

/-! ### Blocks and runs -/

section Runs

/-- The block of a run of observations. -/
def blockOf (run : List (ℚ × ℚ)) : IsotonicBlock ℚ := ⟨threshold run, mean run, run.length⟩

theorem blockOf_singleton (row : ℚ × ℚ) : blockOf [row] = ⟨row.1, row.2, 1⟩ := by
  have single : mean [row] = row.2 := by simp [mean, Logic.average]
  rw [blockOf, single]
  rfl

theorem mean_mul_length (run : List (ℚ × ℚ)) : mean run * run.length = (run.map Prod.snd).sum := by
  have same := excess_mean run
  rw [excess_eq] at same
  exact (sub_eq_zero.mp same).symm

/-- **Merging blocks is appending runs.** -/
theorem mergeBlocks_blockOf {left right : List (ℚ × ℚ)} (some : right ≠ []) :
    mergeBlocks (blockOf left) (blockOf right) = blockOf (left ++ right) := by
  have value : (mean left * ((left.length : Int) : ℚ) + mean right * ((right.length : Int) : ℚ)) /
      (((left.length + right.length : Nat) : Int) : ℚ) = mean (left ++ right) := by
    rw [Int.cast_natCast, Int.cast_natCast, Int.cast_natCast, mean_mul_length, mean_mul_length, mean,
      Logic.average, List.map_append, List.sum_append, List.length_append, List.length_map,
      List.length_map]
  simp only [mergeBlocks, blockOf, IsotonicBlock.mk.injEq]
  exact ⟨(threshold_append some).symm, value, List.length_append.symm⟩

variable {observations : List (ℚ × ℚ)}

/-- **The loop ends with a pooling**, where it starts with pooled runs that are in order up to the
index. -/
theorem poolLoop_pools {fuel index : ℕ} {runs : List (List (ℚ × ℚ))}
    (pooled : PooledRuns observations runs) (ordered : Ordered (runs.take (index + 1)))
    (inside : index ≤ runs.length) (enough : 2 * runs.length < fuel + index) :
    ∃ final, poolLoop fuel index (runs.map blockOf) = some (final.map blockOf) ∧
      Pooling observations final := by
  induction fuel generalizing index runs with
  | zero => omega
  | succ fuel ih =>
    by_cases behind : index + 1 < runs.length
    · obtain ⟨first, left, right, last, rfl, rfl⟩ := exists_neighbours behind
      have atLeft : ((first ++ left :: right :: last).map blockOf)[first.length]? =
          some (blockOf left) := by simp
      have atRight : ((first ++ left :: right :: last).map blockOf)[first.length + 1]? =
          some (blockOf right) := by simp
      have upTo : (first ++ left :: right :: last).take (first.length + 1) = first ++ [left] := by
        rw [List.append_cons]
        exact List.take_left' (by simp)
      rw [upTo] at ordered
      simp only [List.length_append, List.length_cons] at inside enough
      rw [poolLoop, atLeft, atRight]
      dsimp only
      by_cases falls : (blockOf right).value < (blockOf left).value
      · have someRight := pooled.some right (by simp)
        have blocks : ((first ++ left :: right :: last).map blockOf).take first.length ++
            mergeBlocks (blockOf left) (blockOf right) ::
              ((first ++ left :: right :: last).map blockOf).drop (first.length + 2) =
            (first ++ (left ++ right) :: last).map blockOf := by
          rw [mergeBlocks_blockOf someRight]
          simp [List.drop_append]
        rw [if_pos falls, blocks]
        refine ih (pooled.merge falls) ordered.back ?_ ?_
        · simp only [List.length_append, List.length_cons]
          omega
        · simp only [List.length_append, List.length_cons]
          omega
      · rw [if_neg falls]
        refine ih pooled ?_ ?_ ?_
        · have further : (first ++ left :: right :: last).take (first.length + 1 + 1) =
              first ++ [left] ++ [right] := by
            rw [List.append_cons, List.append_cons]
            exact List.take_left' (by simp)
          rw [further]
          exact ordered.advance (not_lt.mp falls)
        · simp only [List.length_append, List.length_cons]
          omega
        · simp only [List.length_append, List.length_cons]
          omega
    · have ended : (runs.map blockOf)[index + 1]? = none := by
        rw [List.getElem?_eq_none_iff, List.length_map]
        omega
      refine ⟨runs, ?_, pooled, ?_⟩
      · rw [poolLoop, ended]
        cases (runs.map blockOf)[index]? <;> rfl
      · rwa [List.take_of_length_le (by omega)] at ordered

end Runs

/-! ### The fit -/

section Fit

variable (scores labels : List ℚ)

/-- The observations as `fit_isotonic` sorts them. -/
def sortedObservations : List (ℚ × ℚ) := sortBy toLex (scores.zip labels)

/-- **The law of the fit**: it returns the isotonic regression of the labels on the scores. -/
def FitsIsotonic : Prop :=
  ∃ blocks, fitIsotonic scores labels = .ok (some blocks) ∧ IsotonicFit blocks (scores.zip labels)

variable {scores labels}

/-- **The fit returns the blocks of a pooling.** -/
theorem fitIsotonic_pools (paired : scores.length = labels.length) :
    ∃ runs, fitIsotonic scores labels = .ok (some (runs.map block)) ∧
      Pooling (sortedObservations scores labels) runs := by
  have rows : zipStrict scores labels = .ok (scores.zip labels) := by
    rw [zipStrict, if_neg paired.ge.not_gt, if_neg paired.le.not_gt]
  have singles : (sortedObservations scores labels).map (fun row => ⟨row.1, row.2, 1⟩) =
      ((sortedObservations scores labels).map fun row => [row]).map blockOf := by
    rw [List.map_map]
    exact List.map_congr_left fun row _ => (blockOf_singleton row).symm
  have start : PooledRuns (sortedObservations scores labels)
      ((sortedObservations scores labels).map fun row => [row]) := by
    refine ⟨?_, List.forall_mem_map.mpr fun row _ => List.cons_ne_nil _ _,
      List.forall_mem_map.mpr fun row _ => pooled_singleton row⟩
    rw [← List.flatMap_def]
    exact List.flatMap_singleton' _
  have ordered : Ordered (((sortedObservations scores labels).map fun row => [row]).take (0 + 1)) := by
    cases sortedObservations scores labels with
    | nil => exact List.Pairwise.nil
    | cons row rest => exact List.pairwise_singleton _ _
  have enough : 2 * ((sortedObservations scores labels).map fun row => [row]).length <
      2 * (((sortedObservations scores labels).map fun row => [row]).map blockOf).length + 1 + 0 := by
    rw [List.length_map blockOf]
    exact Nat.lt_succ_self _
  obtain ⟨runs, ended, pooling⟩ := poolLoop_pools start ordered (Nat.zero_le _) enough
  refine ⟨runs, ?_, pooling⟩
  have returned : fitIsotonic scores labels =
      .ok ((poolLoop (2 * ((sortedObservations scores labels).map fun row =>
        (⟨row.1, row.2, 1⟩ : IsotonicBlock ℚ)).length + 1) 0
        ((sortedObservations scores labels).map fun row => ⟨row.1, row.2, 1⟩)).map fun blocks =>
          blocks.map fun block => (block.threshold, block.value)) := by
    rw [fitIsotonic, rows]
    rfl
  rw [returned, singles, ended, Option.map_some, List.map_map]
  rfl

/-- **The law holds exactly where equal scores are pulled together.** -/
theorem fitsIsotonic_iff (paired : scores.length = labels.length) :
    FitsIsotonic scores labels ↔ TiesPooled (sortedObservations scores labels) := by
  obtain ⟨runs, fitted, pooling⟩ := fitIsotonic_pools paired
  have sorted := sortBy_pairwise toLex (scores.zip labels)
  have perm := sortBy_perm toLex (scores.zip labels)
  rw [← pooling.isotonicFit_iff sorted]
  constructor
  · rintro ⟨blocks, returned, fit⟩
    obtain rfl := Option.some.inj (Except.ok.inj (fitted.symm.trans returned))
    exact fit.perm perm.symm
  · intro fit
    exact ⟨runs.map block, fitted, fit.perm perm⟩

end Fit

/-- Observations with scores of their own are fitted. -/
theorem distinct_fit : FitsIsotonic [1, 2, 3] [1, 0, 1] := by
  have strict : (sortedObservations [1, 2, 3] [1, 0, 1]).Pairwise fun first second =>
      first.1 < second.1 := by decide +kernel
  have paired : ([1, 2, 3] : List ℚ).length = ([1, 0, 1] : List ℚ).length := rfl
  exact (fitsIsotonic_iff paired).mpr (tiesPooled_of_strict strict)

/-- Two observations with one score become two blocks with one threshold. -/
theorem tie_does_not_fit : ¬ FitsIsotonic [1, 1] [0, 1] := by
  rintro ⟨blocks, returned, fit⟩
  have blocked : (fitIsotonic [1, 1] [0, 1]).toOption = some (some [((1 : ℚ), (0 : ℚ)), (1, 1)]) := by
    decide +kernel
  rw [returned] at blocked
  obtain rfl := Option.some.inj (Option.some.inj blocked)
  exact absurd fit.thresholds (by decide +kernel)

end Dnc.Assurance
