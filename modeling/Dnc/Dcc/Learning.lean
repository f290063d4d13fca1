/-
**The learning engine.**

`dnc.dcc.learning_engine`: every assessment of an executed proposal is compared with its prediction,
and the knowledge base accumulates predictions, outcomes, errors, verdicts and their averages one
observation at a time. Numbers are exact rationals.

* `knowledge_run`: after any run of learning and resetting the knowledge base is the summary of the
  observations since the last reset, all of them and each once.
* `Consistent`, `Bounded`: what the summary and the influence computed from it are worth: shares lie
  between zero and one, verdicts are those of the last observation of a proposal, the recommended
  bounds stay in their ranges.
* `learning_without_authority`: whatever is learned, the controller authorizes in the same cycles, a
  proposal of the same score.
-/

import Dnc.Dcc.Adaptation
import Dnc.Logic.Averages
import Dnc.Logic.Run
import Dnc.Logic.Window
import Dnc.PyLib.Dict
import Dnc.PyLib.Value

namespace Dnc

open PyLib Logic

structure OutcomeRecord where
  proposalId : String
  observedUtility : ℚ
  observedCost : ℚ
  observedRisk : String
  improvementDelta : ℚ
  alignmentScore : ℚ
  successful : Bool
deriving DecidableEq

structure PredictionError where
  proposalId : String
  utilityError : ℚ
  costError : ℚ
  riskMiss : Bool
  absoluteError : ℚ
deriving DecidableEq

/-- `LearningSignal.metadata` as `generate_learning_signal` fills it. -/
structure LearningSignalMetadata where
  observedUtility : ℚ
  predictedUtility : ℚ
  successful : Bool
deriving DecidableEq

structure LearningSignal where
  signalType : String
  proposalId : String
  error : Option PredictionError := none
  metadata : LearningSignalMetadata
deriving DecidableEq

structure AdaptationKnowledgeBase where
  predictions : List (PredictionRecord ℚ) := []
  outcomes : List OutcomeRecord := []
  predictionErrors : List PredictionError := []
  proposalOutcomes : Dict String String := ∅
  cumulativeImprovement : ℚ := 0
  averageUtilityError : ℚ := 0
  averageCostError : ℚ := 0
  utilityAccuracy : ℚ := 1
  costAccuracy : ℚ := 1
  riskAccuracy : ℚ := 1
  cycleCount : Nat := 0
  successfulProposals : Nat := 0
  failedProposals : Nat := 0

structure LearningEngine where
  knowledge : AdaptationKnowledgeBase := {}
  signalCounter : Nat := 0

/-- `improvement_delta > 0`. -/
def OutcomeRecord.improves (outcome : OutcomeRecord) : Bool := 0 < outcome.improvementDelta

/-- The verdict on a proposal. -/
def OutcomeRecord.verdict (outcome : OutcomeRecord) : String :=
  if outcome.improves then "SUCCESSFUL" else "UNSUCCESSFUL"

namespace LearningEngine

/-- `record_outcome`. -/
def recordOutcome (assessment : Assessment ℚ) : Except PyError OutcomeRecord :=
  match assessment.executionResult with
  | none => .error (.attributeError "'NoneType' object has no attribute 'success'")
  | some executionResult => .ok {
      proposalId := assessment.proposalId
      observedUtility := assessment.postExecutionUtilityMeasured
      observedCost := assessment.costActual
      observedRisk := assessment.riskActual
      improvementDelta := assessment.improvementDelta
      alignmentScore := assessment.alignmentScore
      successful := executionResult.success }

/-- `compute_prediction_error`. -/
def computePredictionError (prediction : PredictionRecord ℚ) (outcome : OutcomeRecord) :
    PredictionError :=
  let utilityError := outcome.observedUtility - prediction.predictedUtility
  let costError := outcome.observedCost - prediction.predictedCost
  { proposalId := prediction.proposalId
    utilityError
    costError
    riskMiss := outcome.observedRisk ≠ prediction.predictedRisk
    absoluteError := |utilityError| + |costError| }

/-- `update_knowledge`. -/
def updateKnowledge (knowledge : AdaptationKnowledgeBase) (prediction : PredictionRecord ℚ)
    (outcome : OutcomeRecord) (error : PredictionError) : AdaptationKnowledgeBase :=
  let predictions := knowledge.predictions ++ [prediction]
  let outcomes := knowledge.outcomes ++ [outcome]
  let errors := knowledge.predictionErrors ++ [error]
  let averageCostError := average (errors.map PredictionError.costError)
  let successful := outcomes.countP OutcomeRecord.improves
  let total := outcomes.length
  { predictions
    outcomes
    predictionErrors := errors
    proposalOutcomes := knowledge.proposalOutcomes.set outcome.proposalId outcome.verdict
    cumulativeImprovement := knowledge.cumulativeImprovement + outcome.improvementDelta
    averageUtilityError := average (errors.map PredictionError.utilityError)
    averageCostError
    utilityAccuracy := successful / total
    costAccuracy := 1 - min 1 (|averageCostError| / max outcome.observedCost 0.01)
    riskAccuracy := 1 - errors.countP PredictionError.riskMiss / total
    cycleCount := knowledge.cycleCount + 1
    successfulProposals := successful
    failedProposals := total - successful }

/-- The type of the signal that `generate_learning_signal` makes. -/
def signalType (error : PredictionError) (outcome : OutcomeRecord) : String :=
  if outcome.successful ∧ 0 < error.utilityError then "POSITIVE_SURPRISE"
  else if outcome.successful ∧ error.utilityError < -0.2 then "NEGATIVE_SURPRISE"
  else if 0.3 < error.absoluteError then "ERROR_LARGE"
  else if 0.15 < error.absoluteError then "ERROR_MEDIUM"
  else if 0.05 < error.absoluteError then "ERROR_SMALL"
  else "INFO"

/-- `generate_learning_signal`. -/
def generateLearningSignal (engine : LearningEngine) (error : PredictionError)
    (outcome : OutcomeRecord) : LearningSignal × LearningEngine :=
  ({ signalType := signalType error outcome
     proposalId := error.proposalId
     error := some error
     metadata := {
       observedUtility := outcome.observedUtility
       predictedUtility := outcome.observedUtility - error.utilityError
       successful := outcome.successful } },
    { engine with signalCounter := engine.signalCounter + 1 })

/-- `GeneratorInfluence()`. -/
def defaultInfluence : GeneratorInfluence ℚ where
  recommendedMaxCost := 100
  recommendedMinUtility := 0.5
  adaptationBias := 0

/-- `compute_generator_influence`. -/
def computeGeneratorInfluence (knowledge : AdaptationKnowledgeBase) : GeneratorInfluence ℚ :=
  if knowledge.predictionErrors = [] then defaultInfluence
  else
    let recentErrors := knowledge.predictionErrors.rtake 10
    let averageUtilityError := average (recentErrors.map PredictionError.utilityError)
    let averageCostError := average (recentErrors.map PredictionError.costError)
    let recentOutcomes := knowledge.outcomes.rtake 10
    let successRate : ℚ :=
      recentOutcomes.countP OutcomeRecord.improves / (max recentOutcomes.length 1 : Nat)
    let riskAccuracy : ℚ :=
      1 - recentErrors.countP PredictionError.riskMiss / (max recentErrors.length 1 : Nat)
    { preferredOperationTypes :=
        if successRate < 0.4 then [] else if 0.7 < successRate then ["ADD_UNIT", "CONNECT_UNITS"]
        else []
      avoidedOperationTypes :=
        if successRate < 0.4 then ["COMPOSE_UNITS", "SPECIALIZE_UNIT"] else []
      recommendedMaxCost := max 10 (100 - averageCostError * 10)
      recommendedMinUtility :=
        if averageUtilityError < -0.1 then max 0.3 (0.5 + averageUtilityError) else 0.5
      recommendedRiskTolerance := if riskAccuracy < 0.5 then "LOW" else "MEDIUM"
      adaptationBias :=
        knowledge.cumulativeImprovement / (max knowledge.cycleCount 1 : Nat) }

/-- `learn_from_assessment`; where the outcome cannot be recorded the engine is as before. -/
def learnFromAssessment (engine : LearningEngine) (prediction : PredictionRecord ℚ)
    (assessment : Assessment ℚ) :
    Except PyError (List LearningSignal × GeneratorInfluence ℚ) × LearningEngine :=
  match recordOutcome assessment with
  | .error error => (.error error, engine)
  | .ok outcome =>
    let error := computePredictionError prediction outcome
    let (signal, engine) := engine.generateLearningSignal error outcome
    let knowledge := updateKnowledge engine.knowledge prediction outcome error
    (.ok ([signal], computeGeneratorInfluence knowledge), { engine with knowledge })

/-- `reset_knowledge`. -/
def resetKnowledge (_engine : LearningEngine) : LearningEngine := {}

end LearningEngine

/-! ### What has been observed -/

/-- A prediction and what came of it. -/
structure LearnedObservation where
  prediction : PredictionRecord ℚ
  outcome : OutcomeRecord

namespace LearnedObservation

/-- What an assessment shows of a prediction. -/
def ofAssessment (prediction : PredictionRecord ℚ) (assessment : Assessment ℚ) :
    Option LearnedObservation :=
  (LearningEngine.recordOutcome assessment).toOption.map fun outcome => ⟨prediction, outcome⟩

def error (observation : LearnedObservation) : PredictionError :=
  LearningEngine.computePredictionError observation.prediction observation.outcome

/-- The share of a history that has a property. -/
def share (property : LearnedObservation → Bool) (history : List LearnedObservation) : ℚ :=
  history.countP property / history.length

/-- The accuracy of the costs, measured against the last observed one. -/
def costAccuracy (history : List LearnedObservation) : ℚ :=
  match history.getLast? with
  | none => 1
  | some last =>
    1 - min 1 (|average (history.map fun observation => observation.error.costError)| /
      max last.outcome.observedCost 0.01)

/-- **The knowledge of a history**, all at once. -/
def summary (history : List LearnedObservation) : AdaptationKnowledgeBase where
  predictions := history.map prediction
  outcomes := history.map outcome
  predictionErrors := history.map error
  proposalOutcomes := Dict.ofItems (history.map fun observation =>
    (observation.outcome.proposalId, observation.outcome.verdict))
  cumulativeImprovement := (history.map fun observation => observation.outcome.improvementDelta).sum
  averageUtilityError := average (history.map fun observation => observation.error.utilityError)
  averageCostError := average (history.map fun observation => observation.error.costError)
  utilityAccuracy := if history = [] then 1 else share (·.outcome.improves) history
  costAccuracy := costAccuracy history
  riskAccuracy := 1 - share (·.error.riskMiss) history
  cycleCount := history.length
  successfulProposals := history.countP (·.outcome.improves)
  failedProposals := history.countP (! ·.outcome.improves)

variable {history : List LearnedObservation}

theorem share_nonneg (property : LearnedObservation → Bool) : 0 ≤ share property history :=
  div_nonneg (Nat.cast_nonneg _) (Nat.cast_nonneg _)

theorem share_le_one (property : LearnedObservation → Bool) : share property history ≤ 1 :=
  div_le_one_of_le₀ (Nat.cast_le.mpr List.countP_le_length) (Nat.cast_nonneg _)

theorem costAccuracy_nonneg : 0 ≤ costAccuracy history := by
  unfold costAccuracy
  split
  · exact zero_le_one
  · exact sub_nonneg.mpr (min_le_left _ _)

theorem costAccuracy_le_one : costAccuracy history ≤ 1 := by
  unfold costAccuracy
  split
  · exact le_rfl
  · refine sub_le_self _ (le_min zero_le_one (div_nonneg (abs_nonneg _) ?_))
    exact le_max_of_le_right (by norm_num)

theorem costAccuracy_concat (observation : LearnedObservation) :
    costAccuracy (history ++ [observation]) =
      1 - min 1 (|average ((history ++ [observation]).map fun seen => seen.error.costError)| /
        max observation.outcome.observedCost 0.01) := by
  rw [costAccuracy, List.getLast?_concat]

/-- An observation improves or does not. -/
theorem countP_improves (history : List LearnedObservation) :
    history.countP (·.outcome.improves) + history.countP (! ·.outcome.improves) =
      history.length := by
  rw [List.length_eq_countP_add_countP fun seen : LearnedObservation => seen.outcome.improves]
  refine congrArg (_ + ·) (List.countP_congr fun seen _ => ?_)
  simp

theorem summary_nil : summary [] = {} := by
  unfold summary
  rw [if_pos rfl]
  simp [average, share, costAccuracy, Dict.ofItems]

/-- **One more observation**: updating the summary of a history gives the summary of the longer
one. -/
theorem updateKnowledge_summary (history : List LearnedObservation)
    (observation : LearnedObservation) :
    LearningEngine.updateKnowledge (summary history) observation.prediction observation.outcome
        observation.error = summary (history ++ [observation]) := by
  have outcomes : (summary history).outcomes ++ [observation.outcome] =
      (history ++ [observation]).map outcome := by rw [List.map_append]; rfl
  have errors : (summary history).predictionErrors ++ [observation.error] =
      (history ++ [observation]).map error := by rw [List.map_append]; rfl
  have improving : ((history ++ [observation]).map outcome).countP OutcomeRecord.improves =
      (history ++ [observation]).countP (·.outcome.improves) := List.countP_map
  have failing : (history ++ [observation]).countP (! ·.outcome.improves) =
      (history ++ [observation]).length - (history ++ [observation]).countP
        (·.outcome.improves) := by
    rw [← countP_improves, Nat.add_sub_cancel_left]
  unfold LearningEngine.updateKnowledge
  dsimp only
  rw [outcomes, errors, improving, List.length_map]
  refine AdaptationKnowledgeBase.mk.injEq .. |>.mpr ⟨?_, rfl, rfl, ?_, ?_, ?_, ?_, ?_, ?_, ?_, ?_,
    rfl, failing.symm⟩
  · rw [List.map_append]; rfl
  · rw [List.map_append, Dict.ofItems, List.foldl_append]; rfl
  · rw [List.map_append, List.sum_append, List.map_singleton, List.sum_singleton]; rfl
  · rw [List.map_map]; rfl
  · rw [List.map_map]; rfl
  · rw [if_neg (by simp)]; rfl
  · rw [costAccuracy_concat, List.map_map]; rfl
  · rw [List.countP_map]; rfl
  · rw [List.length_append]; rfl

/-- The verdict on a proposal is that of its last observation. -/
theorem verdict_summary (history : List LearnedObservation) (proposalId : String) :
    (summary history).proposalOutcomes.get? proposalId =
      (history.reverse.find? fun seen => seen.outcome.proposalId == proposalId).map
        fun seen => seen.outcome.verdict := by
  induction history using List.reverseRecOn with
  | nil => rfl
  | append_singleton history last ih =>
    have stored : (summary (history ++ [last])).proposalOutcomes =
        (summary history).proposalOutcomes.set last.outcome.proposalId last.outcome.verdict := by
      rw [← updateKnowledge_summary]
      rfl
    rw [stored, Dict.get?_set, List.reverse_concat, List.find?_cons]
    by_cases same : proposalId = last.outcome.proposalId
    · rw [if_pos same, same, beq_self_eq_true]
      rfl
    · rw [if_neg same, beq_eq_false_iff_ne.mpr (Ne.symm same)]
      exact ih

end LearnedObservation

namespace LearningEngine

open LearnedObservation

/-- A knowledge base whose numbers are what their names say. -/
structure Consistent (history : List LearnedObservation) (knowledge : AdaptationKnowledgeBase) :
    Prop where
  summarizes : knowledge = summary history
  utility : 0 ≤ knowledge.utilityAccuracy ∧ knowledge.utilityAccuracy ≤ 1
  cost : 0 ≤ knowledge.costAccuracy ∧ knowledge.costAccuracy ≤ 1
  risk : 0 ≤ knowledge.riskAccuracy ∧ knowledge.riskAccuracy ≤ 1
  counted : knowledge.successfulProposals + knowledge.failedProposals = knowledge.cycleCount
  verdicts : ∀ proposalId, knowledge.proposalOutcomes.get? proposalId =
    (history.reverse.find? fun seen => seen.outcome.proposalId == proposalId).map
      fun seen => seen.outcome.verdict

/-- An influence within the bounds that the generator and the controller are promised. -/
structure Bounded (history : List LearnedObservation) (influence : GeneratorInfluence ℚ) :
    Prop where
  cost : 10 ≤ influence.recommendedMaxCost
  utility : 0.3 ≤ influence.recommendedMinUtility ∧ influence.recommendedMinUtility ≤ 0.5
  risk : influence.recommendedRiskTolerance = "LOW" ∨ influence.recommendedRiskTolerance = "MEDIUM"
  apart : influence.preferredOperationTypes = [] ∨ influence.avoidedOperationTypes = []
  bias : influence.adaptationBias =
    average (history.map fun observation => observation.outcome.improvementDelta)

theorem consistent_summary (history : List LearnedObservation) :
    Consistent history (summary history) where
  summarizes := rfl
  utility := by
    unfold summary
    dsimp only
    split_ifs
    · exact ⟨zero_le_one, le_rfl⟩
    · exact ⟨share_nonneg _, share_le_one _⟩
  cost := ⟨costAccuracy_nonneg, costAccuracy_le_one⟩
  risk := ⟨sub_nonneg.mpr (share_le_one _), sub_le_self _ (share_nonneg _)⟩
  counted := countP_improves history
  verdicts := verdict_summary history

theorem bounded_influence (history : List LearnedObservation) :
    Bounded history (computeGeneratorInfluence (summary history)) := by
  unfold computeGeneratorInfluence
  rcases eq_or_ne history [] with rfl | some
  · rw [summary_nil, if_pos rfl]
    refine ⟨by norm_num [defaultInfluence], by norm_num [defaultInfluence], Or.inr rfl, Or.inl rfl,
      ?_⟩
    exact (div_zero _).symm
  · have errors : (summary history).predictionErrors ≠ [] := fun none =>
      some (List.map_eq_nil_iff.mp none)
    rw [if_neg errors]
    refine ⟨le_max_left _ _, ?_, ?_, ?_, ?_⟩
    · dsimp only
      split_ifs with low
      · refine ⟨le_max_left _ _, max_le (by norm_num) ?_⟩
        linarith
      · norm_num
    · exact (ite_eq_or_eq _ _ _)
    · dsimp only
      split_ifs <;> simp
    · have length : max (summary history).cycleCount 1 = history.length :=
        max_eq_left (List.length_pos_of_ne_nil some)
      rw [length, average, List.length_map]
      rfl

/-! ### Runs -/

/-- A call of the engine. -/
inductive LearningCall where
  | learn (prediction : PredictionRecord ℚ) (assessment : Assessment ℚ)
  | reset

/-- The engine after a call. -/
def step (engine : LearningEngine) : LearningCall → LearningEngine
  | .learn prediction assessment => (engine.learnFromAssessment prediction assessment).2
  | .reset => engine.resetKnowledge

/-- What a call adds to what has been observed since the last reset. -/
def observe (history : List LearnedObservation) : LearningCall → List LearnedObservation
  | .learn prediction assessment => history ++ (ofAssessment prediction assessment).toList
  | .reset => []

/-- The engine knows a history. -/
structure Knows (engine : LearningEngine) (history : List LearnedObservation) : Prop where
  knowledge : engine.knowledge = summary history
  signals : engine.signalCounter = history.length

theorem Knows.step {engine : LearningEngine} {history : List LearnedObservation}
    (knows : engine.Knows history) (call : LearningCall) :
    (engine.step call).Knows (observe history call) := by
  cases call with
  | reset => exact ⟨summary_nil.symm, rfl⟩
  | learn prediction assessment =>
    simp only [LearningEngine.step, observe, learnFromAssessment, ofAssessment]
    cases recordOutcome assessment with
    | error error =>
      rw [Except.toOption, Option.map_none, Option.toList_none, List.append_nil]
      exact knows
    | ok outcome =>
      refine ⟨?_, ?_⟩
      · have updated := updateKnowledge_summary history ⟨prediction, outcome⟩
        rw [← knows.knowledge] at updated
        exact updated
      · rw [List.length_append]
        exact congrArg (· + 1) knows.signals

/-- **The knowledge of a run** is consistent, the summary of the observations since the last reset,
and what the engine recommends next is within bounds. -/
theorem knowledge_run (calls : List LearningCall) :
    Consistent (run observe [] calls) (run step {} calls).knowledge ∧
      (run step {} calls).signalCounter = (run observe [] calls).length ∧
      Bounded (run observe [] calls)
        (computeGeneratorInfluence (run step {} calls).knowledge) := by
  have knows : (run step {} calls).Knows (run observe [] calls) := by
    induction calls using List.reverseRecOn with
    | nil => exact ⟨summary_nil.symm, rfl⟩
    | append_singleton before call ih =>
      rw [run_append, run_append]
      exact ih.step call
  refine ⟨?_, knows.signals, ?_⟩
  · rw [knows.knowledge]
    exact consistent_summary _
  · rw [knows.knowledge]
    exact bounded_influence _

end LearningEngine

/-! ### Learning and authority -/

namespace LearnedStructuralAdaptation

variable {R : Type} [PyFloat R]

open StructuralController

/-- The decision names a proposal that may be authorized and that no such proposal outscores. -/
def NamesBest (proposals : List (MutationProposal R)) (context : EvaluationContext R)
    (decision : AuthorizationDecision) : Prop :=
  ∃ best ∈ proposals, decision.proposalId = best.proposalId ∧
    singleDecision best context = .authorize ∧
      ∀ other ∈ proposals, singleDecision other context = .authorize →
        computeScore other context ≤ computeScore best context

/-- **What the controller grants**: an authorization exactly where some proposal may be authorized,
and it names a best one; the proposal that is returned is one that may be. -/
structure Grants (proposals : List (MutationProposal R)) (context : EvaluationContext R)
    (result : AdaptationCycleResult R) : Prop where
  authorized_iff : result.authorization.authorized = true ↔
    ∃ proposal ∈ proposals, singleDecision proposal context = .authorize
  best : result.authorization.authorized = true → NamesBest proposals context result.authorization
  returned : result.authorization.authorized = true →
    result.proposal ∈ proposals ∧ singleDecision result.proposal context = .authorize

/-- Two adaptations that count the same. -/
structure SameStanding (first second : LearnedStructuralAdaptation) : Prop where
  generator : first.generator = second.generator
  decisions : first.controller.decisionCounter = second.controller.decisionCounter
  history : first.controller.authorizedHistory.length = second.controller.authorizedHistory.length
  predictions : first.predictions = second.predictions
  cycles : first.cycleCount = second.cycleCount
  generated : first.proposalsGenerated = second.proposalsGenerated
  authorized : first.proposalsAuthorized = second.proposalsAuthorized

theorem SameStanding.refl (adaptation : LearnedStructuralAdaptation) :
    SameStanding adaptation adaptation := ⟨rfl, rfl, rfl, rfl, rfl, rfl, rfl⟩

/-- How `authorize_top_scoring` leaves the controller. -/
theorem authorizeTopScoring_cases (controller : StructuralController)
    (evaluations : List (ProposalEvaluation R)) (context : EvaluationContext R) :
    (authorizeCapable evaluations = [] ∧
        controller.authorizeTopScoring evaluations context = (none, controller)) ∨
      ∃ top ∈ authorizeCapable evaluations,
        (∀ other ∈ authorizeCapable evaluations, other.score ≤ top.score) ∧
        controller.authorizeTopScoring evaluations context =
          (some (authorization top), {
            decisionCounter := controller.decisionCounter + 1
            authorizedHistory := controller.authorizedHistory ++ [top.proposal.proposalId] }) := by
  unfold authorizeTopScoring
  cases sorted : sortByDesc ProposalEvaluation.score (authorizeCapable evaluations) with
  | nil =>
    have perm := sortByDesc_perm ProposalEvaluation.score (authorizeCapable evaluations)
    rw [sorted] at perm
    exact Or.inl ⟨perm.symm.eq_nil, rfl⟩
  | cons top rest =>
    obtain ⟨member, greatest⟩ := head_sortByDesc_le sorted
    refine Or.inr ⟨top, member, greatest, ?_⟩
    have capable := (mem_authorizeCapable.mp member).2
    simp only [authorize, ne_eq, capable, not_true_eq_false, if_false]

theorem mem_capable_map {evaluator : StructuralController} {context : EvaluationContext R}
    {proposals : List (MutationProposal R)} {evaluation : ProposalEvaluation R} :
    evaluation ∈ authorizeCapable (proposals.map (evaluator.evaluateSingle context)) ↔
      ∃ proposal ∈ proposals, singleDecision proposal context = .authorize ∧
        evaluator.evaluateSingle context proposal = evaluation := by
  rw [authorizeCapable_map, List.mem_map]
  simp only [List.mem_filter, decide_eq_true_eq, and_assoc]

/-- The controller after `evaluate_proposals`. -/
def counted (controller : StructuralController) : StructuralController :=
  { controller with decisionCounter := controller.decisionCounter + 1 }

/-- What a cycle that authorizes leaves behind, `named` being the identifier it authorized. -/
def granted (adaptation : LearnedStructuralAdaptation) (ranked : Nat) (named : String) :
    LearnedStructuralAdaptation :=
  { adaptation with
    controller := {
      decisionCounter := adaptation.controller.decisionCounter + 2
      authorizedHistory := adaptation.controller.authorizedHistory ++ [named] }
    predictions := ⟨adaptation.predictions.predictionCounter + 1⟩
    proposalsGenerated := adaptation.proposalsGenerated + ranked
    proposalsAuthorized := adaptation.proposalsAuthorized + 1 }

/-- **How a cycle ends** from its ranked proposals. -/
theorem authorizeRanked_cases (adaptation : LearnedStructuralAdaptation) (graph : StructuralGraph)
    (ranked : List (MutationProposal R)) (context : EvaluationContext R)
    (learningApplied rankedByLearning : Bool) :
    let outcome := authorizeRanked adaptation graph ranked context learningApplied rankedByLearning
    ∃ result, outcome.result = .ok result ∧
      (((∀ proposal ∈ ranked, singleDecision proposal context ≠ .authorize) ∧
          result.authorization.authorized = false ∧
          outcome.adaptation = if ranked = [] then adaptation
            else { adaptation with controller := counted adaptation.controller }) ∨
        (NamesBest ranked context result.authorization ∧
          result.authorization.authorized = true ∧ result.proposal ∈ ranked ∧
          singleDecision result.proposal context = .authorize ∧
          outcome.adaptation =
            granted adaptation ranked.length result.authorization.proposalId)) := by
  intro outcome
  cases ranked with
  | nil =>
    exact ⟨_, rfl, Or.inl ⟨fun _ member => absurd member List.not_mem_nil, rfl, (if_pos rfl).symm⟩⟩
  | cons fallback rest =>
    have evaluated : adaptation.controller.evaluateProposals (fallback :: rest) context =
        ((fallback :: rest).map ((counted adaptation.controller).evaluateSingle context),
          counted adaptation.controller) := rfl
    unfold outcome authorizeRanked
    rw [evaluated]
    dsimp only
    rcases authorizeTopScoring_cases (counted adaptation.controller)
      ((fallback :: rest).map ((counted adaptation.controller).evaluateSingle context)) context with
      ⟨none, same⟩ | ⟨top, member, greatest, same⟩
    · rw [same]
      refine ⟨_, rfl, Or.inl ⟨fun proposal listed allowed => ?_, rfl,
        (if_neg (List.cons_ne_nil _ _)).symm⟩⟩
      have capable : (counted adaptation.controller).evaluateSingle context proposal ∈
          authorizeCapable ((fallback :: rest).map
            ((counted adaptation.controller).evaluateSingle context)) :=
        mem_capable_map.mpr ⟨proposal, listed, allowed, rfl⟩
      rw [none] at capable
      exact absurd capable List.not_mem_nil
    · rw [same]
      obtain ⟨best, listed, allowed, rfl⟩ := mem_capable_map.mp member
      have capable :=
        authorizeCapable_map (counted adaptation.controller) context (fallback :: rest)
      cases candidates : (fallback :: rest).filter fun proposal =>
          singleDecision proposal context = .authorize with
      | nil =>
        rw [candidates, List.map_nil] at capable
        rw [capable] at member
        exact absurd member List.not_mem_nil
      | cons first others =>
        rw [candidates, List.map_cons] at capable
        have chosen : first ∈ (fallback :: rest).filter fun proposal =>
            singleDecision proposal context = .authorize := by
          rw [candidates]
          exact List.mem_cons_self
        have returned : firstAuthorized ((fallback :: rest).map
            ((counted adaptation.controller).evaluateSingle context)) fallback = first :=
          firstAuthorized_eq capable fallback
        rw [returned]
        exact ⟨_, rfl, Or.inr ⟨⟨best, listed, rfl, allowed, fun other inProposals permitted =>
            greatest _ (mem_capable_map.mpr ⟨other, inProposals, permitted, rfl⟩)⟩, rfl,
          (List.mem_filter.mp chosen).1, of_decide_eq_true (List.mem_filter.mp chosen).2, rfl⟩⟩

/-- A permuted list is ranked with the same authority. -/
theorem NamesBest.perm {first second : List (MutationProposal R)} {context : EvaluationContext R}
    {decision : AuthorizationDecision} (names : NamesBest first context decision)
    (perm : first.Perm second) : NamesBest second context decision := by
  obtain ⟨best, listed, named, allowed, greatest⟩ := names
  exact ⟨best, perm.mem_iff.mp listed, named, allowed,
    fun other member => greatest other (perm.mem_iff.mpr member)⟩

theorem rankProposals_perm (proposals : List (MutationProposal R))
    (context : LearnedGenerationContext R) : (rankProposals proposals context).Perm proposals := by
  unfold rankProposals
  split
  · exact sortByDesc_perm _ _
  · exact List.Perm.refl _

omit [PyFloat R] in
/-- Learning changes no part of the contexts that the generator and the controller read. -/
theorem learn_contexts (process : PredictionRecord R → Assessment R → GeneratorInfluence R)
    (genContext : LearnedGenerationContext R) (evalContext : LearnedEvaluationContext R)
    (prior : Option (Assessment R)) :
    (learn process genContext evalContext prior).2.1.toGenerationContext =
        genContext.toGenerationContext ∧
      (learn process genContext evalContext prior).2.2.toEvaluationContext =
        evalContext.toEvaluationContext := by
  cases prior with
  | none => exact ⟨rfl, rfl⟩
  | some assessment =>
    unfold learn
    dsimp only
    split_ifs <;> exact ⟨rfl, rfl⟩

/-- What a cycle is given. -/
structure CycleInput (R : Type) where
  graph : StructuralGraph
  genContext : LearnedGenerationContext R
  evalContext : LearnedEvaluationContext R
  prior : Option (Assessment R)

section Authority

variable (generate : ComputationGenerator → StructuralGraph → GenerationContext R →
  Except PyError (List (MutationProposal R)) × ComputationGenerator)

/-- A cycle, under the learning policy of the moment. -/
def cycle (adaptation : LearnedStructuralAdaptation)
    (call : CycleInput R × (PredictionRecord R → Assessment R → GeneratorInfluence R)) :
    CycleOutcome R :=
  executeAdaptationCycle generate call.2 adaptation call.1.graph call.1.genContext
    call.1.evalContext call.1.prior

/-- What the controller decides on in a cycle: what the generator proposes. -/
def proposed (adaptation : LearnedStructuralAdaptation) (input : CycleInput R) :
    Except PyError (List (MutationProposal R)) :=
  (generate adaptation.generator input.graph input.genContext.toGenerationContext).1

/-- **The outcome of a cycle is the controller's**: it raises what the generator raises, authorizes
exactly where a proposal may be authorized, and then names a best one. -/
structure Governed (proposed : Except PyError (List (MutationProposal R)))
    (context : EvaluationContext R) (outcome : CycleOutcome R) : Prop where
  raised : ∀ error, outcome.result = .error error ↔ proposed = .error error
  granted : ∀ proposals result, proposed = .ok proposals → outcome.result = .ok result →
    Grants proposals context result

/-- The adaptation once the proposals of a cycle are made. -/
def begun (adaptation : LearnedStructuralAdaptation) (generator : ComputationGenerator) :
    LearnedStructuralAdaptation :=
  { adaptation with
    generator
    cycleCount := adaptation.cycleCount + 1 }

/-- **How a cycle goes**: the influence is spent on the order of the proposals. -/
theorem cycle_eq (adaptation : LearnedStructuralAdaptation)
    (call : CycleInput R × (PredictionRecord R → Assessment R → GeneratorInfluence R)) :
    (∃ error generator,
        generate adaptation.generator call.1.graph call.1.genContext.toGenerationContext =
          (.error error, generator) ∧
        cycle generate adaptation call =
          { result := .error error, adaptation := begun adaptation generator }) ∨
      ∃ proposals generator ranked applied rankedByLearning,
        generate adaptation.generator call.1.graph call.1.genContext.toGenerationContext =
          (.ok proposals, generator) ∧
        ranked.Perm proposals ∧
        cycle generate adaptation call =
          authorizeRanked (begun adaptation generator) call.1.graph ranked
            call.1.evalContext.toEvaluationContext applied rankedByLearning := by
  obtain ⟨genSame, evalSame⟩ :=
    learn_contexts call.2 call.1.genContext call.1.evalContext call.1.prior
  unfold cycle executeAdaptationCycle
  rcases learned : learn call.2 call.1.genContext call.1.evalContext call.1.prior with
    ⟨applied, genContext, evalContext⟩
  rw [learned] at genSame evalSame
  dsimp only at genSame evalSame ⊢
  rw [genSame, evalSame]
  rcases generate adaptation.generator call.1.graph call.1.genContext.toGenerationContext with
    ⟨_ | proposals, generator⟩
  · exact Or.inl ⟨_, _, rfl, rfl⟩
  · exact Or.inr ⟨_, _, _, _, _, rfl, rankProposals_perm proposals genContext, rfl⟩

theorem governed_cycle (adaptation : LearnedStructuralAdaptation)
    (call : CycleInput R × (PredictionRecord R → Assessment R → GeneratorInfluence R)) :
    Governed (proposed generate adaptation call.1) call.1.evalContext.toEvaluationContext
      (cycle generate adaptation call) := by
  unfold proposed
  rcases cycle_eq generate adaptation call with
    ⟨error, generator, generated, same⟩ |
      ⟨proposals, generator, ranked, applied, rankedByLearning, generated, perm, same⟩
  · rw [generated, same]
    refine ⟨fun other => ⟨fun failed => ?_, fun failed => ?_⟩, fun proposals result failed => ?_⟩
    · exact congrArg Except.error (Except.error.inj failed)
    · exact congrArg Except.error (Except.error.inj failed)
    · cases failed
  · obtain ⟨result, returned, ending⟩ := authorizeRanked_cases (begun adaptation generator)
      call.1.graph ranked call.1.evalContext.toEvaluationContext applied rankedByLearning
    rw [generated, same]
    refine ⟨fun other => ⟨fun failed => ?_, fun failed => ?_⟩, fun given other known shown => ?_⟩
    · cases returned.symm.trans failed
    · cases failed
    · obtain rfl := Except.ok.inj known
      obtain rfl := Except.ok.inj (returned.symm.trans shown)
      rcases ending with ⟨denied, refused, -⟩ | ⟨named, allowed, listed, authorized, -⟩
      · refine ⟨iff_of_false (by rw [refused]; exact Bool.false_ne_true) ?_, ?_, ?_⟩
        · rintro ⟨proposal, member, permitted⟩
          exact denied proposal (perm.mem_iff.mpr member) permitted
        · exact fun granted => absurd (refused.symm.trans granted) Bool.false_ne_true
        · exact fun granted => absurd (refused.symm.trans granted) Bool.false_ne_true
      · obtain ⟨best, bestListed, -, bestAllowed, -⟩ := id named
        exact ⟨iff_of_true allowed ⟨best, perm.mem_iff.mp bestListed, bestAllowed⟩,
          fun _ => named.perm perm, fun _ => ⟨perm.mem_iff.mp listed, authorized⟩⟩

/-- A permuted list leaves the same standing. -/
theorem sameStanding_authorizeRanked {first second : LearnedStructuralAdaptation}
    (standing : SameStanding first second) (graph : StructuralGraph)
    {ranked other : List (MutationProposal R)} (perm : ranked.Perm other)
    (context : EvaluationContext R) (applied appliedOther rankedFirst rankedOther : Bool) :
    SameStanding (authorizeRanked first graph ranked context applied rankedFirst).adaptation
      (authorizeRanked second graph other context appliedOther rankedOther).adaptation := by
  obtain ⟨generator, decisions, history, predictions, cycles, generated, authorized⟩ := standing
  obtain ⟨leftResult, -, left⟩ :=
    authorizeRanked_cases first graph ranked context applied rankedFirst
  obtain ⟨rightResult, -, right⟩ :=
    authorizeRanked_cases second graph other context appliedOther rankedOther
  have empty : ranked = [] ↔ other = [] := by
    rw [← List.length_eq_zero_iff, ← List.length_eq_zero_iff, perm.length_eq]
  rcases left with ⟨denied, -, left⟩ | ⟨⟨best, listed, -, allowed, -⟩, -, -, -, left⟩
  · rcases right with ⟨-, -, right⟩ | ⟨⟨best, listed, -, allowed, -⟩, -⟩
    · rw [left, right]
      by_cases none : ranked = []
      · rw [if_pos none, if_pos (empty.mp none)]
        exact ⟨generator, decisions, history, predictions, cycles, generated, authorized⟩
      · rw [if_neg none, if_neg (empty.not.mp none)]
        exact ⟨generator, congrArg (· + 1) decisions, history, predictions, cycles, generated,
          authorized⟩
    · exact absurd allowed (denied best (perm.mem_iff.mpr listed))
  · rcases right with ⟨denied, -⟩ | ⟨-, -, -, -, right⟩
    · exact absurd allowed (denied best (perm.mem_iff.mp listed))
    · rw [left, right]
      refine ⟨generator, congrArg (· + 2) decisions, ?_, ?_, cycles, ?_,
        congrArg (· + 1) authorized⟩
      · simpa only [granted, List.length_append, List.length_singleton] using
          congrArg (· + 1) history
      · simp only [granted, predictions]
      · simp only [granted, generated, perm.length_eq]

theorem SameStanding.cycle {first second : LearnedStructuralAdaptation}
    (standing : SameStanding first second) (input : CycleInput R)
    (process other : PredictionRecord R → Assessment R → GeneratorInfluence R) :
    SameStanding (cycle generate first (input, process)).adaptation
      (cycle generate second (input, other)).adaptation := by
  have begins : ∀ generator, SameStanding (begun first generator) (begun second generator) :=
    fun generator => ⟨rfl, standing.decisions, standing.history, standing.predictions,
      congrArg (· + 1) standing.cycles, standing.generated, standing.authorized⟩
  rcases cycle_eq generate first (input, process) with
    ⟨error, generator, made, left⟩ |
      ⟨proposals, generator, ranked, applied, byLearning, made, perm, left⟩ <;>
  rcases cycle_eq generate second (input, other) with
    ⟨errorOther, generatorOther, madeOther, right⟩ |
      ⟨proposalsOther, generatorOther, rankedOther, appliedOther, byOther, madeOther, permOther,
        right⟩ <;>
  rw [← standing.generator, made, Prod.mk.injEq] at madeOther <;>
  rw [left, right, ← madeOther.2]
  · exact begins generator
  · cases madeOther.1
  · cases madeOther.1
  · obtain rfl := Except.ok.inj madeOther.1
    exact sameStanding_authorizeRanked (begins generator) input.graph (perm.trans permOther.symm)
      input.evalContext.toEvaluationContext applied appliedOther byLearning byOther

/-- What the controller makes of two cycles over the same proposals is the same but for ties. -/
structure SameAuthority (proposed : Except PyError (List (MutationProposal R)))
    (context : EvaluationContext R) (first second : CycleOutcome R) : Prop where
  left : Governed proposed context first
  right : Governed proposed context second
  raised : ∀ error, first.result = .error error ↔ second.result = .error error
  authorized : ∀ left right, first.result = .ok left → second.result = .ok right →
    (left.authorization.authorized = true ↔ right.authorization.authorized = true)
  tied : ∀ left right, first.result = .ok left → second.result = .ok right →
    left.authorization.authorized = true → ∃ best other,
      left.authorization.proposalId = best.proposalId ∧
      right.authorization.proposalId = other.proposalId ∧
      computeScore best context = computeScore other context

theorem Governed.sameAuthority {proposed : Except PyError (List (MutationProposal R))}
    {context : EvaluationContext R} {first second : CycleOutcome R}
    (left : Governed proposed context first) (right : Governed proposed context second) :
    SameAuthority proposed context first second := by
  have both : ∀ one two, first.result = .ok one → second.result = .ok two → ∃ proposals,
      Grants proposals context one ∧ Grants proposals context two := by
    intro one two returnedOne returnedTwo
    cases proposed with
    | error error => cases ((left.raised error).mpr rfl).symm.trans returnedOne
    | ok proposals =>
      exact ⟨proposals, left.granted proposals one rfl returnedOne,
        right.granted proposals two rfl returnedTwo⟩
  refine ⟨left, right, fun error => (left.raised error).trans (right.raised error).symm, ?_, ?_⟩
  · intro one two returnedOne returnedTwo
    obtain ⟨proposals, grantsOne, grantsTwo⟩ := both one two returnedOne returnedTwo
    exact grantsOne.authorized_iff.trans grantsTwo.authorized_iff.symm
  · intro one two returnedOne returnedTwo authorized
    obtain ⟨proposals, grantsOne, grantsTwo⟩ := both one two returnedOne returnedTwo
    obtain ⟨best, listed, named, allowed, greatest⟩ := grantsOne.best authorized
    obtain ⟨other, otherListed, otherNamed, otherAllowed, otherGreatest⟩ :=
      grantsTwo.best (grantsTwo.authorized_iff.mpr (grantsOne.authorized_iff.mp authorized))
    exact ⟨best, other, named, otherNamed,
      le_antisymm (otherGreatest best listed allowed) (greatest other otherListed otherAllowed)⟩

/-- **Learning has no authority.** Two adaptations that run the same cycles under learning policies
that answer anything raise in the same cycles and authorize in the same ones, where each names a
best proposal of the same proposals; and they count the same. -/
theorem learning_without_authority (start : LearnedStructuralAdaptation)
    (calls : List (CycleInput R × (PredictionRecord R → Assessment R → GeneratorInfluence R) ×
      (PredictionRecord R → Assessment R → GeneratorInfluence R)))
    (input : CycleInput R)
    (process other : PredictionRecord R → Assessment R → GeneratorInfluence R) :
    let first := Logic.run (fun state call => (cycle generate state call).adaptation) start
      (calls.map fun call => (call.1, call.2.1))
    let second := Logic.run (fun state call => (cycle generate state call).adaptation) start
      (calls.map fun call => (call.1, call.2.2))
    SameStanding first second ∧
      SameAuthority (proposed generate first input) input.evalContext.toEvaluationContext
        (cycle generate first (input, process)) (cycle generate second (input, other)) := by
  intro first second
  have standing : SameStanding first second := by
    have along : ∀ left right, SameStanding left right →
        SameStanding
          (Logic.run (fun state call => (cycle generate state call).adaptation) left
            (calls.map fun call => (call.1, call.2.1)))
          (Logic.run (fun state call => (cycle generate state call).adaptation) right
            (calls.map fun call => (call.1, call.2.2))) := by
      induction calls with
      | nil => exact fun _ _ standing => standing
      | cons call rest ih =>
        intro left right standing
        exact ih _ _ (standing.cycle generate call.1 call.2.1 call.2.2)
    exact along start start (SameStanding.refl start)
  have same : proposed generate first input = proposed generate second input := by
    rw [proposed, proposed, standing.generator]
  have left := governed_cycle generate first (input, process)
  have right := governed_cycle generate second (input, other)
  rw [← same] at right
  exact ⟨standing, left.sameAuthority right⟩

end Authority

end LearnedStructuralAdaptation

end Dnc
