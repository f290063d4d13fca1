/-
**The evaluation for bias.**

`dnc.observability.bias_evaluation` over exact rationals: four metrics of the predictions for two
groups, a gate on each, and the verdict. The last gate asks a drift checker that has recorded
nothing, so that its answer does not depend on the predictions.

* `evaluate_exchange`: exchanging the groups exchanges their rates and sizes and nothing else.
* `overallPass_iff`: an evaluation passes exactly when its four gates do.
* `individualFairness_passes`: the gate of individual fairness never fails.
* `biasLaw_iff`: it was to fail for individuals with the same features of whom half receive a
  positive and half a negative prediction, so the law holds exactly for all others.
-/

import Mathlib.Algebra.Order.Field.Basic
import Mathlib.Algebra.Order.Ring.Rat
import Mathlib.Data.Option.Basic
import Mathlib.Tactic.NormNum
import Dnc.Learning.Drift
import Dnc.PyLib.Number

namespace Dnc.Observability

open PyLib Learning

structure BiasEvaluationResult where
  demographicParityDiff : ℚ
  demographicParityWithinThreshold : Bool
  equalizedOddsDiff : ℚ
  equalizedOddsWithinThreshold : Bool
  disparateImpactRatio : ℚ
  disparateImpactWithinThreshold : Bool
  individualFairnessScore : ℚ
  individualFairnessWithinThreshold : Bool
  overallPass : Bool
  blockingFailures : List String
  groupAPositiveRate : ℚ
  groupBPositiveRate : ℚ
  groupASize : Nat
  groupBSize : Nat

structure GroupedPredictions where
  groupId : String
  predictions : List Bool
  outcomes : List Bool
  protectedAttribute : String

/-! ### The rates of a group -/

/-- `dp_a_rate`. -/
def dpARate (group : GroupedPredictions) : ℚ :=
  let n := group.predictions.length
  if n > 0 then group.predictions.count true / n else 0

/-- `dp_b_rate`. -/
def dpBRate (group : GroupedPredictions) : ℚ :=
  let n := group.predictions.length
  if n > 0 then group.predictions.count true / n else 0

/-- The number of pairs of a prediction and an outcome. -/
def countPairs (group : GroupedPredictions) (predicted outcome : Bool) : Nat :=
  (group.predictions.zip group.outcomes).count (predicted, outcome)

/-- `tpr_fpr`. -/
def tprFpr (group : GroupedPredictions) : ℚ × ℚ :=
  if group.predictions.length = 0 then (0, 0)
  else
    let tp := countPairs group true true
    let fp := countPairs group true false
    let tn := countPairs group false false
    let fn := countPairs group false true
    (if tp + fn > 0 then (tp : ℚ) / (tp + fn : Nat) else 0,
      if fp + tn > 0 then (fp : ℚ) / (fp + tn : Nat) else 0)

/-! ### The metrics -/

/-- `THRESHOLDS`. -/
structure Thresholds where
  demographicParityDiff : ℚ := 0.05
  equalizedOddsDiff : ℚ := 0.05
  disparateImpactRatioMin : ℚ := 0.8
  disparateImpactRatioMax : ℚ := 1.25
  individualFairnessScore : ℚ := 0.85

def thresholds : Thresholds := {}

/-- `compute_demographic_parity_difference`. -/
def computeDemographicParityDifference (groupA groupB : GroupedPredictions) : ℚ × Bool :=
  let diff := |dpARate groupA - dpBRate groupB|
  (diff, diff ≤ thresholds.demographicParityDiff)

/-- `compute_equalized_odds_difference`. -/
def computeEqualizedOddsDifference (groupA groupB : GroupedPredictions) : ℚ × Bool :=
  let (tprA, fprA) := tprFpr groupA
  let (tprB, fprB) := tprFpr groupB
  let diff := max |tprA - tprB| |fprA - fprB|
  (diff, diff ≤ thresholds.equalizedOddsDiff)

/-- `compute_disparate_impact_ratio`. -/
def computeDisparateImpactRatio (groupA groupB : GroupedPredictions) : ℚ × Bool :=
  let rateA := dpARate groupA
  let rateB := dpBRate groupB
  let ratio :=
    if rateA = 0 ∧ rateB = 0 then 1
    else if rateB = 0 then 0
    else if rateA = 0 then 0
    else min rateA rateB / max rateA rateB
  (ratio, thresholds.disparateImpactRatioMin ≤ ratio ∧ ratio ≤ thresholds.disparateImpactRatioMax)

/-- `float(prediction)`. -/
def predictionValue (prediction : Bool) : ℚ := if prediction then 1 else 0

/-- `compute_individual_fairness_consistency`. -/
def computeIndividualFairnessConsistency (env : LearningEnv ℚ)
    (groupA groupB : GroupedPredictions) (individualFeatures : Option (List (List ℚ))) :
    Except PyError (ℚ × Bool) :=
  match individualFeatures with
  | none => .ok (1, true)
  | some features =>
    if features.length < 2 then .ok (1, true)
    else if (groupA.predictions ++ groupB.predictions).length < 2 then .ok (1, true)
    else do
      let dr : ClusteredDriftChecker ℚ := {}
      let vectorA := groupA.predictions.map predictionValue
      let vectorB := groupB.predictions.map predictionValue
      let allPredictions := vectorA ++ vectorB
      if allPredictions.length < 2 then return (1, true)
      if allPredictions.all fun p => p == allPredictions.headD 0 then return (1, true)
      let (isWithin, _) ← dr.isWithinDriftBound env allPredictions 0.15
      let score := if isWithin then 0.95 else 0.5
      return (score, thresholds.individualFairnessScore ≤ score)

/-! ### The framework -/

structure BiasEvaluationFramework where
  evaluationHistory : List BiasEvaluationResult := []

/-- The texts of the gates that fail. -/
def blockingFailures (dp eo di fairness : ℚ × Bool) : List String :=
  (if dp.2 then [] else
    [s!"Demographic parity difference {fixedText 4 dp.1} exceeds threshold 0.05"]) ++
  (if eo.2 then [] else
    [s!"Equalized odds difference {fixedText 4 eo.1} exceeds threshold 0.05"]) ++
  (if di.2 then [] else
    [s!"Disparate impact ratio 0.8 ≤ {fixedText 4 di.1} ≤ 1.25 violated"]) ++
  (if fairness.2 then [] else
    [s!"Individual fairness score {fixedText 4 fairness.1} below threshold 0.85"])

/-- The `BiasEvaluationResult` that `evaluate` makes of the metrics. -/
def biasResult (groupA groupB : GroupedPredictions) (dp eo di fairness : ℚ × Bool) :
    BiasEvaluationResult where
  demographicParityDiff := dp.1
  demographicParityWithinThreshold := dp.2
  equalizedOddsDiff := eo.1
  equalizedOddsWithinThreshold := eo.2
  disparateImpactRatio := di.1
  disparateImpactWithinThreshold := di.2
  individualFairnessScore := fairness.1
  individualFairnessWithinThreshold := fairness.2
  overallPass := (blockingFailures dp eo di fairness).length == 0
  blockingFailures := blockingFailures dp eo di fairness
  groupAPositiveRate := dpARate groupA
  groupBPositiveRate := dpBRate groupB
  groupASize := groupA.predictions.length
  groupBSize := groupB.predictions.length

/-- `BiasEvaluationFramework.evaluate`. -/
def BiasEvaluationFramework.evaluate (env : LearningEnv ℚ) (framework : BiasEvaluationFramework)
    (groupA groupB : GroupedPredictions) (individualFeatures : Option (List (List ℚ)) := none) :
    Except PyError (BiasEvaluationResult × BiasEvaluationFramework) := do
  let dp := computeDemographicParityDifference groupA groupB
  let eo := computeEqualizedOddsDifference groupA groupB
  let di := computeDisparateImpactRatio groupA groupB
  let fairness ← computeIndividualFairnessConsistency env groupA groupB individualFeatures
  let result := biasResult groupA groupB dp eo di fairness
  return (result, { framework with
    evaluationHistory := framework.evaluationHistory ++ [result] })

/-! ### The groups exchanged -/

section Exchange

variable (groupA groupB : GroupedPredictions)

theorem dpBRate_eq : dpBRate = dpARate := rfl

theorem demographicParity_comm : computeDemographicParityDifference groupB groupA =
    computeDemographicParityDifference groupA groupB := by
  unfold computeDemographicParityDifference
  rw [dpBRate_eq, abs_sub_comm]

theorem equalizedOdds_comm : computeEqualizedOddsDifference groupB groupA =
    computeEqualizedOddsDifference groupA groupB := by
  unfold computeEqualizedOddsDifference
  dsimp only
  rw [abs_sub_comm (tprFpr groupB).1, abs_sub_comm (tprFpr groupB).2]

theorem disparateImpact_comm : computeDisparateImpactRatio groupB groupA =
    computeDisparateImpactRatio groupA groupB := by
  unfold computeDisparateImpactRatio
  dsimp only
  rw [dpBRate_eq, min_comm (dpARate groupB), max_comm (dpARate groupB)]
  by_cases noA : dpARate groupA = 0 <;> by_cases noB : dpARate groupB = 0 <;>
    simp only [noA, noB, and_true, and_false, if_true, if_false]

end Exchange

/-! ### Individual fairness -/

/-- Some predictions are positive, and some negative. -/
def Mixed (predictions : List Bool) : Prop := true ∈ predictions ∧ false ∈ predictions

instance (predictions : List Bool) : Decidable (Mixed predictions) :=
  inferInstanceAs (Decidable (_ ∧ _))

theorem mixed_perm {first second : List Bool} (perm : first.Perm second) :
    Mixed first ↔ Mixed second := and_congr perm.mem_iff perm.mem_iff

theorem two_le_of_mixed {predictions : List Bool} (mixed : Mixed predictions) :
    2 ≤ predictions.length := by
  obtain ⟨positive, negative⟩ := mixed
  have both : [true, false] ⊆ predictions :=
    List.cons_subset.mpr ⟨positive, List.cons_subset.mpr ⟨negative, List.nil_subset _⟩⟩
  exact ((by decide : [true, false].Nodup).subperm both).length_le

theorem predictionValue_injective : Function.Injective predictionValue := by
  intro first second same
  cases first <;> cases second <;> simp [predictionValue] at same ⊢

/-- All predictions equal the first one unless they are mixed. -/
theorem all_same_iff (predictions : List Bool) :
    ((predictions.map predictionValue).all fun p =>
      p == (predictions.map predictionValue).headD 0) = true ↔ ¬ Mixed predictions := by
  cases predictions with
  | nil => exact iff_of_true rfl fun mixed => absurd mixed.1 List.not_mem_nil
  | cons first rest =>
    have same : ∀ other, (predictionValue other == predictionValue first) = true ↔
        other = first := fun other => by rw [beq_iff_eq, predictionValue_injective.eq_iff]
    rw [List.map_cons, List.headD_cons, ← List.map_cons, List.all_map, List.all_eq_true]
    simp only [Function.comp_apply, same, Mixed]
    constructor
    · rintro each ⟨positive, negative⟩
      exact absurd ((each _ positive).trans (each _ negative).symm) (by decide)
    · intro unmixed other member
      by_contra different
      have firstMember : first ∈ first :: rest := List.mem_cons_self
      cases first <;> cases other
      · exact different rfl
      · exact unmixed ⟨member, firstMember⟩
      · exact unmixed ⟨firstMember, member⟩
      · exact different rfl

/-- What the gate of individual fairness looks at: two feature vectors or more, and mixed
predictions. -/
def Weighed (groupA groupB : GroupedPredictions) (individualFeatures : Option (List (List ℚ))) :
    Prop :=
  2 ≤ (individualFeatures.getD []).length ∧ Mixed (groupA.predictions ++ groupB.predictions)

instance (groupA groupB : GroupedPredictions) (individualFeatures : Option (List (List ℚ))) :
    Decidable (Weighed groupA groupB individualFeatures) := inferInstanceAs (Decidable (_ ∧ _))

/-- A checker that has recorded nothing finds every vector within every bound. -/
theorem isWithinDriftBound_new (env : LearningEnv ℚ) (vector : List ℚ) (driftBound : ℚ) :
    ({} : ClusteredDriftChecker ℚ).isWithinDriftBound env vector driftBound = .ok (true, []) := rfl

/-- **The gate of individual fairness never fails.** -/
theorem individualFairness_passes (env : LearningEnv ℚ) (groupA groupB : GroupedPredictions)
    (individualFeatures : Option (List (List ℚ))) :
    computeIndividualFairnessConsistency env groupA groupB individualFeatures =
      .ok (if Weighed groupA groupB individualFeatures then 0.95 else 1, true) := by
  unfold computeIndividualFairnessConsistency
  cases individualFeatures with
  | none => rfl
  | some features =>
    dsimp only
    have weighed : Weighed groupA groupB (some features) ↔
        2 ≤ features.length ∧ Mixed (groupA.predictions ++ groupB.predictions) := Iff.rfl
    by_cases fewFeatures : features.length < 2
    · rw [if_pos fewFeatures,
        if_neg (weighed.not.mpr fun both => absurd both.1 (not_le.mpr fewFeatures))]
    rw [if_neg fewFeatures]
    by_cases few : (groupA.predictions ++ groupB.predictions).length < 2
    · rw [if_pos few, if_neg (weighed.not.mpr fun both =>
        absurd (two_le_of_mixed both.2) (not_le.mpr few))]
    have joined : groupA.predictions.map predictionValue ++ groupB.predictions.map predictionValue =
        (groupA.predictions ++ groupB.predictions).map predictionValue := List.map_append.symm
    have enough : ¬ ((groupA.predictions ++ groupB.predictions).map predictionValue).length < 2 := by
      rwa [List.length_map]
    rw [if_neg few, joined, if_neg enough]
    have passes : thresholds.individualFairnessScore ≤ 0.95 := by
      simp only [thresholds]
      norm_num
    by_cases mixed : Mixed (groupA.predictions ++ groupB.predictions)
    · rw [if_neg ((all_same_iff _).not.mpr (not_not.mpr mixed)),
        if_pos (weighed.mpr ⟨not_lt.mp fewFeatures, mixed⟩), isWithinDriftBound_new]
      exact congrArg (fun passed => Except.ok ((0.95 : ℚ), passed)) (decide_eq_true passes)
    · rw [if_pos ((all_same_iff _).mpr mixed), if_neg (weighed.not.mpr fun both => mixed both.2)]
      rfl

/-! ### The evaluation -/

section Evaluation

variable (env : LearningEnv ℚ) (framework : BiasEvaluationFramework)
  (groupA groupB : GroupedPredictions) (individualFeatures : Option (List (List ℚ)))

/-- The result of an evaluation. -/
def evaluated : BiasEvaluationResult :=
  biasResult groupA groupB (computeDemographicParityDifference groupA groupB)
    (computeEqualizedOddsDifference groupA groupB) (computeDisparateImpactRatio groupA groupB)
    (if Weighed groupA groupB individualFeatures then 0.95 else 1, true)

/-- An evaluation returns, and is recorded. -/
theorem evaluate_eq : framework.evaluate env groupA groupB individualFeatures =
    .ok (evaluated groupA groupB individualFeatures, { framework with
      evaluationHistory :=
        framework.evaluationHistory ++ [evaluated groupA groupB individualFeatures] }) := by
  rw [BiasEvaluationFramework.evaluate, individualFairness_passes]
  rfl

/-- No text is written exactly where the four gates pass. -/
theorem blockingFailures_eq_nil {dp eo di fairness : ℚ × Bool} :
    blockingFailures dp eo di fairness = [] ↔
      dp.2 = true ∧ eo.2 = true ∧ di.2 = true ∧ fairness.2 = true := by
  have gate : ∀ (passed : Bool) (text : String),
      (if passed then [] else [text]) = ([] : List String) ↔ passed = true := by
    intro passed text
    cases passed <;> simp
  simp only [blockingFailures, List.append_eq_nil_iff, gate, and_assoc]

/-- The gates of a result. -/
def BiasEvaluationResult.GatesPass (result : BiasEvaluationResult) : Prop :=
  result.demographicParityWithinThreshold = true ∧ result.equalizedOddsWithinThreshold = true ∧
    result.disparateImpactWithinThreshold = true ∧ result.individualFairnessWithinThreshold = true

/-- **An evaluation passes exactly when its gates do.** -/
theorem overallPass_iff : (evaluated groupA groupB individualFeatures).overallPass = true ↔
    (evaluated groupA groupB individualFeatures).GatesPass := by
  have empty : (evaluated groupA groupB individualFeatures).blockingFailures = [] ↔
      (evaluated groupA groupB individualFeatures).GatesPass := blockingFailures_eq_nil
  rw [← empty, ← List.length_eq_zero_iff]
  exact beq_iff_eq

/-- The same result, with the groups exchanged. -/
def BiasEvaluationResult.exchange (result : BiasEvaluationResult) : BiasEvaluationResult :=
  { result with
    groupAPositiveRate := result.groupBPositiveRate
    groupBPositiveRate := result.groupAPositiveRate
    groupASize := result.groupBSize
    groupBSize := result.groupASize }

variable {groupA groupB individualFeatures} in
theorem weighed_exchange {exchanged : Option (List (List ℚ))}
    (rearranged : Option.Rel List.Perm individualFeatures exchanged) :
    Weighed groupB groupA exchanged ↔ Weighed groupA groupB individualFeatures := by
  refine and_congr ?_ (mixed_perm List.perm_append_comm)
  cases rearranged with
  | none => exact Iff.rfl
  | some perm => rw [Option.getD_some, Option.getD_some, perm.length_eq]

variable {individualFeatures} in
/-- **Exchanging the groups exchanges their rates and sizes**, and nothing else. -/
theorem evaluated_exchange {exchanged : Option (List (List ℚ))}
    (rearranged : Option.Rel List.Perm individualFeatures exchanged) :
    evaluated groupB groupA exchanged =
      (evaluated groupA groupB individualFeatures).exchange := by
  unfold evaluated BiasEvaluationResult.exchange biasResult
  simp only [demographicParity_comm groupA, equalizedOdds_comm groupA, disparateImpact_comm groupA,
    weighed_exchange rearranged, dpBRate_eq]

end Evaluation

/-! ### The law -/

/-- Individuals with the same features, of whom half receive a positive and half a negative
prediction. -/
def SplitAlike (groupA groupB : GroupedPredictions)
    (individualFeatures : Option (List (List ℚ))) : Prop :=
  ∃ features, individualFeatures = some features ∧
    features.length = (groupA.predictions ++ groupB.predictions).length ∧
    (∃ vector, ∀ other ∈ features, other = vector) ∧
    (groupA.predictions ++ groupB.predictions).count true =
      (groupA.predictions ++ groupB.predictions).count false

/-- **The law of the evaluation for bias.** -/
structure BiasLaw (env : LearningEnv ℚ) (groupA groupB : GroupedPredictions)
    (individualFeatures : Option (List (List ℚ))) : Prop where
  exchange : ∀ framework exchanged, Option.Rel List.Perm individualFeatures exchanged →
    ∃ result, (BiasEvaluationFramework.evaluate env framework groupA groupB
        individualFeatures).map Prod.fst = .ok result ∧
      (BiasEvaluationFramework.evaluate env framework groupB groupA exchanged).map Prod.fst =
        .ok result.exchange
  verdict : ∀ framework result last, BiasEvaluationFramework.evaluate env framework groupA groupB
    individualFeatures = .ok (result, last) → (result.overallPass = true ↔ result.GatesPass)
  individual : SplitAlike groupA groupB individualFeatures → ∀ framework result last,
    BiasEvaluationFramework.evaluate env framework groupA groupB individualFeatures =
      .ok (result, last) → result.individualFairnessWithinThreshold = false

/-- **When the law holds.** -/
theorem biasLaw_iff (env : LearningEnv ℚ) (groupA groupB : GroupedPredictions)
    (individualFeatures : Option (List (List ℚ))) :
    BiasLaw env groupA groupB individualFeatures ↔
      ¬ SplitAlike groupA groupB individualFeatures := by
  constructor
  · intro law split
    exact nomatch law.individual split {} _ _ (evaluate_eq env {} groupA groupB individualFeatures)
  · refine fun unsplit => ⟨?_, ?_, fun split => absurd split unsplit⟩
    · intro framework exchanged rearranged
      refine ⟨evaluated groupA groupB individualFeatures, ?_, ?_⟩
      · rw [evaluate_eq]
        rfl
      · rw [evaluate_eq, evaluated_exchange groupA groupB rearranged]
        rfl
    · intro framework result last returned
      obtain ⟨rfl, -⟩ := Prod.mk.inj (Except.ok.inj
        ((evaluate_eq env framework groupA groupB individualFeatures).symm.trans returned))
      exact overallPass_iff groupA groupB individualFeatures

namespace Sample

/-- A group of one individual. -/
def single (groupId : String) (prediction : Bool) : GroupedPredictions where
  groupId
  predictions := [prediction]
  outcomes := [true]
  protectedAttribute := "gender"

end Sample

/-- Two individuals with the same features, one of whom receives a positive and one a negative
prediction, pass the gate. -/
theorem split_passes : ¬ BiasLaw Learning.Sample.driftEnv (Sample.single "a" true)
    (Sample.single "b" false) (some [[1], [1]]) := by
  intro law
  have split : SplitAlike (Sample.single "a" true) (Sample.single "b" false) (some [[1], [1]]) :=
    ⟨[[1], [1]], rfl, rfl, ⟨[1], by simp⟩, rfl⟩
  have evaluation := evaluate_eq Learning.Sample.driftEnv {} (Sample.single "a" true)
    (Sample.single "b" false) (some [[1], [1]])
  exact nomatch law.individual split {} _ _ evaluation

end Dnc.Observability
