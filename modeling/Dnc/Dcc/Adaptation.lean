/-
**The learned adaptation cycle.**

`dnc.dcc.learned_adaptation`: `executeAdaptationCycle` learns from the prior assessment, generates
proposals, lets the learned influence rank them, and has the controller evaluate and authorize. The
generator and the learning policy are parameters; what the policy answers is any influence.

The cycle takes the first AUTHORIZE evaluation for the authorized one. `authorizeRanked_follows_iff`:
it records and returns the proposal that the decision names exactly when, in the ranked list, no
proposal that may be authorized outscores the first that may.
-/

import Dnc.Dcc.Contracts
import Dnc.Dcc.Controller
import Dnc.Dcc.Generator

namespace Dnc

open PyLib

structure GeneratorInfluence (R : Type) where
  preferredOperationTypes : List String := []
  avoidedOperationTypes : List String := []
  recommendedMaxCost : R
  recommendedMinUtility : R
  recommendedRiskTolerance : String := "MEDIUM"
  adaptationBias : R

structure LearnedGenerationContext (R : Type) extends GenerationContext R where
  generatorInfluence : Option (GeneratorInfluence R) := none
  learnedPreferredOps : List String := []
  learnedAvoidedOps : List String := []
  learnedBias : R
  learningActive : Bool := false

structure LearnedEvaluationContext (R : Type) extends EvaluationContext R where
  controllerInfluence : Option (GeneratorInfluence R) := none
  learnedRiskAdjustment : String := "MEDIUM"
  learningActive : Bool := false

structure AdaptationCycleResult (R : Type) where
  proposal : MutationProposal R
  authorization : AuthorizationDecision
  assessment : Option (Assessment R) := none
  predictionRecord : Option (PredictionRecord R) := none
  learningApplied : Bool
  proposalRankedByLearning : Bool
  safetyConstraintsSatisfied : Bool := true
  metadata : JsonObject

structure LearnedStructuralAdaptation where
  generator : ComputationGenerator := {}
  controller : StructuralController := {}
  predictions : PredictionTracker := {}
  cycleCount : Nat := 0
  proposalsGenerated : Nat := 0
  proposalsAuthorized : Nat := 0

namespace LearnedStructuralAdaptation

variable {R : Type} [PyFloat R]

/-- What a cycle learns from the prior assessment: the policy's influence, in both contexts. -/
def learn (process : PredictionRecord R → Assessment R → GeneratorInfluence R)
    (genContext : LearnedGenerationContext R) (evalContext : LearnedEvaluationContext R)
    (prior : Option (Assessment R)) :
    Bool × LearnedGenerationContext R × LearnedEvaluationContext R :=
  match prior with
  | none => (false, genContext, evalContext)
  | some assessment =>
    if assessment.executionResult.isNone then (false, genContext, evalContext)
    else
      let prediction : PredictionRecord R := {
        proposalId := assessment.proposalId
        predictedUtility := assessment.preTransactionUtilityEstimate
        predictedCost := assessment.costActual
        predictedRisk := assessment.riskActual }
      let influence := process prediction assessment
      (true,
        { genContext with
          generatorInfluence := some influence
          learnedPreferredOps := influence.preferredOperationTypes
          learnedAvoidedOps := influence.avoidedOperationTypes
          learnedBias := influence.adaptationBias
          learningActive := true },
        { evalContext with
          controllerInfluence := some influence
          learnedRiskAdjustment := influence.recommendedRiskTolerance
          learningActive := true })

/-- `proposal_score` of `_rank_proposals_with_learning`. -/
def proposalScore (influence : GeneratorInfluence R) (proposal : MutationProposal R) : R :=
  let score := proposal.candidateOperations.foldl (fun (score : R) operation =>
    let opType : String := PyEnum.value operation.opType
    let score := if opType ∈ influence.preferredOperationTypes then score + 0.2 else score
    if opType ∈ influence.avoidedOperationTypes then score - 0.3 else score) 0.0
  if influence.adaptationBias < 0.0 then score + influence.adaptationBias * 0.1 else score

/-- The ranked proposals: `_rank_proposals_with_learning` where learning is active. -/
def rankProposals (proposals : List (MutationProposal R)) (context : LearnedGenerationContext R) :
    List (MutationProposal R) :=
  match context.learningActive, context.generatorInfluence with
  | true, some influence => sortByDesc (proposalScore influence) proposals
  | _, _ => proposals

/-- What a cycle returns or raises and the state after it; `recorded` is the proposal handed to
`record_prediction`. -/
structure CycleOutcome (R : Type) where
  result : Except PyError (AdaptationCycleResult R)
  adaptation : LearnedStructuralAdaptation
  recorded : Option (MutationProposal R) := none

/-- The end of a cycle that authorizes nothing. -/
def unauthorized (adaptation : LearnedStructuralAdaptation) (proposal : MutationProposal R)
    (authorization : AuthorizationDecision) (learningApplied proposalRankedByLearning : Bool) :
    CycleOutcome R where
  result := .ok {
    proposal
    authorization
    learningApplied
    proposalRankedByLearning
    metadata := [("reason", .str "not_authorized")] }
  adaptation := adaptation

/-- The steps of a cycle from the ranked proposals on: evaluate, authorize, record. -/
def authorizeRanked (adaptation : LearnedStructuralAdaptation) (graph : StructuralGraph)
    (ranked : List (MutationProposal R)) (context : EvaluationContext R)
    (learningApplied proposalRankedByLearning : Bool) : CycleOutcome R :=
  match ranked with
  | [] => {
      result := .ok {
        proposal := {
          proposalId := "no_proposal"
          targetGraphId := graph.graphId.value
          candidateOperations := []
          expectedUtility := 0.0
          estimatedCost := 0.0 }
        authorization := {
          proposalId := "no_proposal"
          authorized := false
          rejectionReason := some "No proposals generated" }
        learningApplied
        proposalRankedByLearning := false
        metadata := [("reason", .str "no_proposals")] }
      adaptation }
  | fallback :: _ =>
    let (evaluations, controller) := adaptation.controller.evaluateProposals ranked context
    match controller.authorizeTopScoring evaluations context with
    | (none, controller) =>
      unauthorized { adaptation with controller } fallback
        { proposalId := "eval_failed", authorized := false } learningApplied
        proposalRankedByLearning
    | (some decision, controller) =>
      if decision.authorized = false then
        unauthorized { adaptation with controller } fallback decision learningApplied
          proposalRankedByLearning
      else
        let proposal := StructuralController.firstAuthorized evaluations fallback
        let (record, predictions) := adaptation.predictions.recordPrediction proposal
          { proposalId := proposal.proposalId, authorized := true }
        { result := .ok {
            proposal
            authorization := decision
            predictionRecord := some record
            learningApplied
            proposalRankedByLearning
            metadata := [("cycle", .int adaptation.cycleCount),
              ("proposals_generated", .int ranked.length),
              ("evaluations_made", .int evaluations.length)] }
          adaptation := { adaptation with
            controller
            predictions
            proposalsGenerated := adaptation.proposalsGenerated + ranked.length
            proposalsAuthorized := adaptation.proposalsAuthorized + 1 }
          recorded := some proposal }

/-- `LearnedStructuralAdaptation.execute_adaptation_cycle`. -/
def executeAdaptationCycle
    (generate : ComputationGenerator → StructuralGraph → GenerationContext R →
      Except PyError (List (MutationProposal R)) × ComputationGenerator)
    (process : PredictionRecord R → Assessment R → GeneratorInfluence R)
    (adaptation : LearnedStructuralAdaptation) (graph : StructuralGraph)
    (genContext : LearnedGenerationContext R) (evalContext : LearnedEvaluationContext R)
    (prior : Option (Assessment R)) : CycleOutcome R :=
  let adaptation := { adaptation with cycleCount := adaptation.cycleCount + 1 }
  let (learningApplied, genContext, evalContext) := learn process genContext evalContext prior
  match generate adaptation.generator graph genContext.toGenerationContext with
  | (.error error, generator) =>
    { result := .error error, adaptation := { adaptation with generator } }
  | (.ok proposals, generator) =>
    let ranked := rankProposals proposals genContext
    authorizeRanked { adaptation with generator } graph ranked evalContext.toEvaluationContext
      learningApplied (ranked.length == proposals.length && decide (ranked ≠ proposals))

/-- **What a recorded proposal is**: the cycle returns it with the decision of the controller, and
it is the proposal of the first AUTHORIZE evaluation. -/
theorem authorizeRanked_recorded {adaptation : LearnedStructuralAdaptation}
    {graph : StructuralGraph} {ranked : List (MutationProposal R)} {context : EvaluationContext R}
    {learningApplied rankedByLearning : Bool} {recorded : MutationProposal R}
    (reached : (authorizeRanked adaptation graph ranked context learningApplied
      rankedByLearning).recorded = some recorded) :
    ∃ result fallback, (authorizeRanked adaptation graph ranked context learningApplied
          rankedByLearning).result = .ok result ∧
      ((adaptation.controller.evaluateProposals ranked context).2.authorizeTopScoring
        (adaptation.controller.evaluateProposals ranked context).1 context).1 =
          some result.authorization ∧
      result.proposal = recorded ∧
      recorded = StructuralController.firstAuthorized
        (adaptation.controller.evaluateProposals ranked context).1 fallback := by
  cases ranked with
  | nil => cases reached
  | cons fallback rest =>
    simp only [authorizeRanked] at reached ⊢
    rcases chosen : (adaptation.controller.evaluateProposals (fallback :: rest) context).2
      |>.authorizeTopScoring (adaptation.controller.evaluateProposals (fallback :: rest) context).1
        context with ⟨decision, controller⟩
    rw [chosen] at reached
    cases decision with
    | none => cases reached
    | some decision =>
      simp only at reached ⊢
      split_ifs at reached with denied
      · cases reached
      · rw [if_neg denied]
        obtain rfl := Option.some.inj reached
        exact ⟨_, fallback, rfl, rfl, rfl, rfl⟩

/-- The cycle returns the proposal it recorded, and the decision it returns names that proposal as
a highest-scoring one. -/
def CycleOutcome.FollowsDecision (outcome : CycleOutcome R)
    (evaluations : List (ProposalEvaluation R)) (recorded : MutationProposal R) : Prop :=
  ∃ result, outcome.result = .ok result ∧ result.proposal = recorded ∧
    StructuralController.NamesTop evaluations result.authorization recorded

theorem authorizeRanked_follows_iff {adaptation : LearnedStructuralAdaptation}
    {graph : StructuralGraph} {ranked : List (MutationProposal R)} {context : EvaluationContext R}
    {learningApplied rankedByLearning : Bool} {recorded : MutationProposal R}
    (reached : (authorizeRanked adaptation graph ranked context learningApplied
      rankedByLearning).recorded = some recorded) :
    (authorizeRanked adaptation graph ranked context learningApplied
        rankedByLearning).FollowsDecision
          (adaptation.controller.evaluateProposals ranked context).1 recorded ↔
      StructuralController.FirstIsTop ranked context := by
  obtain ⟨result, fallback, returned, authorized, same, first⟩ := authorizeRanked_recorded reached
  have selects := StructuralController.namesTop_firstAuthorized fallback authorized
  constructor
  · rintro ⟨other, returnedOther, -, names⟩
    obtain rfl : result = other := Except.ok.inj (returned.symm.trans returnedOther)
    rw [first] at names
    exact selects.mp names
  · intro firstIsTop
    refine ⟨result, returned, same, ?_⟩
    rw [first]
    exact selects.mpr firstIsTop

end LearnedStructuralAdaptation

end Dnc
