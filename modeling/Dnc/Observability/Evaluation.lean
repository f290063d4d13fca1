/-
**The correction for multiple comparisons.**

`EvaluationSuite.holm_bonferroni` groups the results of an evaluation by metric class, sorts every
group by p-value and multiplies each p-value by the number of results from it on. It neither keeps
the greatest product so far, nor stops at the first result that is not significant, nor reads its
argument `alpha`.

* `filter_holmBonferroni`: the results of a class are those of the class in the argument, corrected.
* `holmLaw_iff`: they follow Holm's procedure exactly where the products are steady and none of them
  lies between `alpha` and the level that the code uses.
-/

import Mathlib.Algebra.Order.Ring.Rat
import Mathlib.Data.Rat.Cast.Order
import Mathlib.Tactic.NormNum
import Dnc.Logic.StepDown
import Dnc.PyLib.Grouping
import Dnc.PyLib.Sorted

namespace Dnc.Observability

open PyLib Logic

inductive MetricClass
  | class1Functional
  | class2Adaptability
  | class3Efficiency
  | class4Learning
  deriving DecidableEq, Repr

inductive ResultClassification
  | win
  | loss
  | tie
  | inconclusive
  deriving DecidableEq, Repr

structure MetricResult where
  metricName : String
  metricClass : MetricClass
  dncValue : ℚ
  baselineValue : ℚ
  pValue : ℚ
  effectSize : ℚ
  classification : ResultClassification
  deriving DecidableEq, Repr

/-- `EvaluationSuite.classify_result`. -/
def classifyResult (pValue effectSize : ℚ) : ResultClassification :=
  if 0.05 ≤ pValue then .tie
  else if 0 < effectSize then .win
  else .loss

/-- The new result for the one at a place in the sorted results of its class. -/
def correctedResult (k : Nat) (place : MetricResult × Nat) : MetricResult :=
  let adjustedP := min (place.1.pValue * (k - place.2 : Nat)) 1
  { place.1 with
    pValue := adjustedP
    classification := classifyResult adjustedP place.1.effectSize }

/-- The results of one class, corrected. -/
def correctedClass (results : List MetricResult) : List MetricResult :=
  let sortedResults := sortBy MetricResult.pValue results
  sortedResults.zipIdx.map (correctedResult sortedResults.length)

/-- `EvaluationSuite.holm_bonferroni`; the level is not read. -/
def holmBonferroni (metricResults : List MetricResult) (_alpha : ℚ) : List MetricResult :=
  let byClass := appendTo MetricResult.metricClass id Dict.empty metricResults
  byClass.entries.flatMap fun entry => correctedClass entry.2

/-- What a result says of its metric, other than its p-value and its classification. -/
structure Metric where
  metricName : String
  metricClass : MetricClass
  dncValue : ℚ
  baselineValue : ℚ
  effectSize : ℚ

def MetricResult.metric (result : MetricResult) : Metric where
  metricName := result.metricName
  metricClass := result.metricClass
  dncValue := result.dncValue
  baselineValue := result.baselineValue
  effectSize := result.effectSize

/-- Classified as a win or a loss. -/
def MetricResult.significant (result : MetricResult) : Bool :=
  result.classification = .win ∨ result.classification = .loss

/-- The results of a class, in the order of their p-values. -/
def ofClass (metricClass : MetricClass) (results : List MetricResult) : List MetricResult :=
  sortBy MetricResult.pValue (results.filter fun result => result.metricClass = metricClass)

/-- What Holm's procedure makes of the results of one class, in the order of their p-values. -/
structure HolmClass (alpha : ℚ) (raw corrected : List MetricResult) : Prop where
  metrics : corrected.map MetricResult.metric = raw.map MetricResult.metric
  rejected : corrected.map MetricResult.significant =
    stepDown alpha (raw.map MetricResult.pValue)
  nondecreasing : ∀ first ∈ raw.zip corrected, ∀ second ∈ raw.zip corrected,
    first.1.pValue ≤ second.1.pValue → first.2.pValue ≤ second.2.pValue

/-- What Holm's procedure, class by class, makes of the results. -/
structure HolmLaw (alpha : ℚ) (results corrected : List MetricResult) : Prop where
  permutation : (corrected.map MetricResult.metric).Perm (results.map MetricResult.metric)
  classes : ∀ metricClass, HolmClass alpha (ofClass metricClass results)
    (corrected.filter fun result => result.metricClass = metricClass)

/-- The p-values of a class, in ascending order. -/
def classPValues (metricClass : MetricClass) (results : List MetricResult) : List ℚ :=
  (ofClass metricClass results).map MetricResult.pValue

/-- Ascending p-values of which each, times the number of them from it on, is not below an earlier
such product, unless it is at least one, and does not lie between the two levels. -/
structure HolmSafe (alpha : ℚ) (ps : List ℚ) : Prop where
  steady : Steady ps
  apart : ∀ product ∈ weighted ps, product < 0.05 ↔ product < alpha

section Correction

theorem classified_iff {pValue effectSize : ℚ} :
    (classifyResult pValue effectSize = .win ∨ classifyResult pValue effectSize = .loss) ↔
      pValue < 0.05 := by
  unfold classifyResult
  by_cases large : (0.05 : ℚ) ≤ pValue
  · rw [if_pos large]
    simpa using large
  · rw [if_neg large]
    refine iff_of_true ?_ (not_le.mp large)
    by_cases positive : 0 < effectSize
    · exact Or.inl (if_pos positive)
    · exact Or.inr (if_neg positive)

theorem significant_correctedResult (k : Nat) (place : MetricResult × Nat) :
    (correctedResult k place).significant =
      decide (place.1.pValue * (k - place.2 : Nat) < 0.05) := by
  have level : min (place.1.pValue * (k - place.2 : Nat)) 1 < 0.05 ↔
      place.1.pValue * (k - place.2 : Nat) < 0.05 := by
    rw [min_lt_iff, or_iff_left (by norm_num)]
  exact decide_eq_decide.mpr (classified_iff.trans level)

/-- The products of the p-values, place by place. -/
theorem weighted_eq_zipIdx (ps : List ℚ) (start k : Nat) (long : k = start + ps.length) :
    weighted ps = (ps.zipIdx start).map fun place => place.1 * ((k - place.2 : Nat) : ℚ) := by
  induction ps generalizing start with
  | nil => rfl
  | cons p rest ih =>
    rw [List.length_cons] at long
    rw [weighted, List.zipIdx_cons, List.map_cons, ih (start + 1) (by omega)]
    have left : k - start = rest.length + 1 := by omega
    rw [left]

theorem class_of_mem_correctedClass {results : List MetricResult} {metricClass : MetricClass}
    (same : ∀ result ∈ results, result.metricClass = metricClass) {result : MetricResult}
    (member : result ∈ correctedClass results) : result.metricClass = metricClass := by
  obtain ⟨place, listed, rfl⟩ := List.mem_map.mp member
  exact same place.1 (mem_sortBy.mp (List.fst_mem_of_mem_zipIdx listed))

/-- **The results of a class are those of the class in the argument, corrected.** -/
theorem filter_holmBonferroni (results : List MetricResult) (alpha : ℚ)
    (metricClass : MetricClass) :
    (holmBonferroni results alpha).filter (fun result => result.metricClass = metricClass) =
      correctedClass (results.filter fun result => result.metricClass = metricClass) := by
  have grouped : ∀ owner,
      ((appendTo MetricResult.metricClass id Dict.empty results).get? owner).getD [] =
        (Dict.empty.get? owner).getD [] ++
          (results.filter fun result => result.metricClass = owner).map id :=
    fun owner => get?_appendTo Dict.empty results owner
  have owned : ∀ entry ∈ (appendTo MetricResult.metricClass id Dict.empty results).entries,
      ∀ result ∈ correctedClass entry.2, result.metricClass = entry.1 := by
    rintro ⟨owner, members⟩ listed result member
    have own := grouped owner
    rw [Dict.mem_entries.mp listed, Option.getD_some, List.map_id] at own
    refine class_of_mem_correctedClass (fun other isMember => ?_) member
    rw [own] at isMember
    exact of_decide_eq_true (List.mem_filter.mp isMember).2
  have members := grouped metricClass
  rw [List.map_id] at members
  rw [holmBonferroni, filter_flatMap_entries owned]
  cases found : (appendTo MetricResult.metricClass id Dict.empty results).get? metricClass with
  | none =>
    rw [found] at members
    rw [← show [] = results.filter _ from members]
    rfl
  | some group =>
    rw [found] at members
    rw [← show group = results.filter _ from members]
    rfl

variable {alpha : ℚ}

theorem map_weighted (raw : List MetricResult) :
    weighted (raw.map MetricResult.pValue) =
      raw.zipIdx.map fun place => place.1.pValue * ((raw.length - place.2 : Nat) : ℚ) := by
  rw [weighted_eq_zipIdx _ 0 raw.length (by simp), List.zipIdx_map, List.map_map]
  rfl

/-- The products are significant where the code finds the results so. -/
theorem map_significant (raw : List MetricResult) :
    (raw.zipIdx.map (correctedResult raw.length)).map MetricResult.significant =
      (weighted (raw.map MetricResult.pValue)).map fun product => decide (product < 0.05) := by
  rw [map_weighted, List.map_map, List.map_map]
  exact List.map_congr_left fun place _ => significant_correctedResult raw.length place

theorem map_metric (raw : List MetricResult) :
    (raw.zipIdx.map (correctedResult raw.length)).map MetricResult.metric =
      raw.map MetricResult.metric := by
  conv_rhs => rw [← List.zipIdx_map_fst 0 raw]
  rw [List.map_map, List.map_map]
  rfl

/-- **The adjusted p-values are nondecreasing exactly where the products are steady.** -/
theorem nondecreasing_iff {raw : List MetricResult}
    (sorted : (raw.map MetricResult.pValue).Pairwise (· ≤ ·))
    (nonneg : ∀ result ∈ raw, 0 ≤ result.pValue) :
    (∀ first ∈ raw.zip (raw.zipIdx.map (correctedResult raw.length)),
      ∀ second ∈ raw.zip (raw.zipIdx.map (correctedResult raw.length)),
        first.1.pValue ≤ second.1.pValue → first.2.pValue ≤ second.2.pValue) ↔
      Steady (raw.map MetricResult.pValue) := by
  have results : raw.zip (raw.zipIdx.map (correctedResult raw.length)) =
      raw.zipIdx.map fun place => (place.1, correctedResult raw.length place) := by
    have pairs := List.zip_map' (f := Prod.fst) (g := correctedResult raw.length) (l := raw.zipIdx)
    rwa [List.zipIdx_map_fst] at pairs
  have products : (raw.map MetricResult.pValue).zip (weighted (raw.map MetricResult.pValue)) =
      raw.zipIdx.map fun place =>
        (place.1.pValue, place.1.pValue * ((raw.length - place.2 : Nat) : ℚ)) := by
    have values : raw.map MetricResult.pValue = raw.zipIdx.map fun place => place.1.pValue := by
      conv_lhs => rw [← List.zipIdx_map_fst 0 raw, List.map_map]
      rfl
    rw [map_weighted, ← List.zip_map', values]
  rw [steady_iff_monotone sorted (List.forall_mem_map.mpr nonneg), results, products]
  simp only [List.forall_mem_map]
  rfl

/-- **One class follows Holm's procedure** exactly where its products are steady and none lies
between the two levels. -/
theorem holmClass_iff (small : alpha ≤ 1) {raw : List MetricResult}
    (sorted : (raw.map MetricResult.pValue).Pairwise (· ≤ ·))
    (nonneg : ∀ result ∈ raw, 0 ≤ result.pValue) :
    HolmClass alpha raw (raw.zipIdx.map (correctedResult raw.length)) ↔
      HolmSafe alpha (raw.map MetricResult.pValue) := by
  have levels (steady : Steady (raw.map MetricResult.pValue)) :
      (raw.zipIdx.map (correctedResult raw.length)).map MetricResult.significant =
          stepDown alpha (raw.map MetricResult.pValue) ↔
        ∀ product ∈ weighted (raw.map MetricResult.pValue), product < 0.05 ↔ product < alpha := by
    rw [map_significant, stepDown_eq_map small steady, List.map_inj_left]
    simp only [decide_eq_decide]
  constructor
  · intro law
    have steady := (nondecreasing_iff sorted nonneg).mp law.nondecreasing
    exact ⟨steady, (levels steady).mp law.rejected⟩
  · rintro ⟨steady, apart⟩
    exact ⟨map_metric raw, (levels steady).mpr apart, (nondecreasing_iff sorted nonneg).mpr steady⟩

theorem ofClass_sorted (metricClass : MetricClass) (results : List MetricResult) :
    (classPValues metricClass results).Pairwise (· ≤ ·) :=
  List.pairwise_map.mpr (sortBy_pairwise _ _)

/-- The metrics are permuted, whatever their p-values. -/
theorem holmBonferroni_perm (results : List MetricResult) (alpha : ℚ) :
    ((holmBonferroni results alpha).map MetricResult.metric).Perm
      (results.map MetricResult.metric) := by
  refine @perm_of_filter _ _ _ Metric.metricClass _ _ fun metricClass => ?_
  have corrected : ((holmBonferroni results alpha).map MetricResult.metric).filter
        (fun metric => metric.metricClass = metricClass) =
      (ofClass metricClass results).map MetricResult.metric := by
    rw [List.filter_map]
    exact (congrArg (List.map MetricResult.metric)
      (filter_holmBonferroni results alpha metricClass)).trans (map_metric _)
  rw [corrected, List.filter_map]
  exact (sortBy_perm _ _).map _

/-- **Holm's procedure is followed** exactly where the p-values of every class are safe. -/
theorem holmLaw_iff {alpha : ℚ} (small : alpha < 1) {results : List MetricResult}
    (nonneg : ∀ result ∈ results, 0 ≤ result.pValue) :
    HolmLaw alpha results (holmBonferroni results alpha) ↔
      ∀ metricClass, HolmSafe alpha (classPValues metricClass results) := by
  have each (metricClass : MetricClass) :
      HolmClass alpha (ofClass metricClass results) ((holmBonferroni results alpha).filter
          fun result => result.metricClass = metricClass) ↔
        HolmSafe alpha (classPValues metricClass results) := by
    rw [filter_holmBonferroni]
    refine holmClass_iff small.le (ofClass_sorted metricClass results) fun result member => ?_
    exact nonneg result (List.mem_of_mem_filter (mem_sortBy.mp member))
  constructor
  · exact fun law metricClass => (each metricClass).mp (law.classes metricClass)
  · intro safe
    exact ⟨holmBonferroni_perm results alpha,
      fun metricClass => (each metricClass).mpr (safe metricClass)⟩

end Correction

section Shadowed

/-- Two results of one class. -/
def paired (first second : ℚ) : List MetricResult :=
  [{ metricName := "accuracy", metricClass := .class1Functional, dncValue := 1, baselineValue := 0
     pValue := first, effectSize := 1, classification := .win },
   { metricName := "recall", metricClass := .class1Functional, dncValue := 1, baselineValue := 0
     pValue := second, effectSize := 1, classification := .win }]

def shadowed : List MetricResult := paired 0.04 0.045

/-- The procedure stops at the first of the two, and the code goes on to the second. -/
theorem shadowed_breaks_law : ¬ HolmLaw 0.05 shadowed (holmBonferroni shadowed 0.05) := by
  intro law
  have rejected := (law.classes .class1Functional).rejected
  exact absurd rejected (by decide +kernel)

/-- Two results that are steady. -/
theorem steady_follows_law :
    HolmLaw 0.05 (paired 0.02 0.045) (holmBonferroni (paired 0.02 0.045) 0.05) := by
  refine (holmLaw_iff (by norm_num) (by decide +kernel)).mpr fun metricClass => ?_
  refine ⟨?_, fun _ _ => Iff.rfl⟩
  unfold Steady
  cases metricClass <;> decide +kernel

end Shadowed

end Dnc.Observability
