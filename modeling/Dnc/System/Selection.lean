/-
**Which proposal is executed.**

The controller authorizes a highest-scoring AUTHORIZE evaluation. `runCycle` and the learned
adaptation cycle then look for the authorized proposal on their own, and take the first AUTHORIZE
evaluation. `selection_follows_iff`: in both, for every generator, context and learned influence,
the proposal that is recorded, executed and returned is the one the decision names exactly when no
proposal that may be authorized outscores the first that may.

`composition_authorized_wiring_executed` runs the real generator into the other case: five units
without edges and a low observed utility make it propose a wiring (score 0.904) and, after it, a
composition (score 0.91).
-/

import Dnc.System.Cycle

namespace Dnc

open PyLib

variable {R : Type} [PyFloat R]

/-- **A cycle follows the decision exactly when the first proposal that may be authorized is a
highest-scoring one.** -/
theorem DNCSystem.runCycle_follows_iff
    {generate : ComputationGenerator → StructuralGraph → GenerationContext R →
      Except PyError (List (MutationProposal R)) × ComputationGenerator}
    {env : CycleEnv R} {system : DNCSystem R} {objective : GenerationObjective R}
    {prior : Option (Assessment R)} {signals : Finset NecessitySignal}
    {proposals : List (MutationProposal R)} {handoff : Handoff R}
    (generated : (generate system.generator system.graph
      (system.generationContext objective prior signals)).1 = .ok proposals)
    (reached : (system.runCycle generate env objective prior signals).handoff = some handoff) :
    (system.runCycle generate env objective prior signals).FollowsDecision
        (system.controller.evaluateProposals proposals (system.evaluationContext objective)).1
        handoff ↔
      StructuralController.FirstIsTop proposals (system.evaluationContext objective) := by
  by_cases denied : env.permitted = false
  · simp only [runCycle, if_pos denied] at reached
    cases reached
  · rcases made : generate system.generator system.graph
      (system.generationContext objective prior signals) with ⟨result, generator⟩
    rw [made] at generated
    obtain rfl : result = .ok proposals := generated
    have cycle : system.runCycle generate env objective prior signals =
        authorizeAndTransact env
          { system with
            cycleCount := system.cycleCount + 1
            generator
            proposalsGenerated := system.proposalsGenerated + proposals.length }
          objective prior (toString system.graph.version) proposals := by
      simp only [runCycle, if_neg denied]
      split
      · rename_i error other failed
        cases failed.symm.trans made
      · rename_i others other succeeded
        cases succeeded.symm.trans made
        rfl
    rw [cycle] at reached ⊢
    obtain ⟨fallback, decided, recorded, consistent⟩ := authorizeAndTransact_handoff reached
    have selects := StructuralController.namesTop_firstAuthorized fallback decided
    unfold CycleOutcome.FollowsDecision
    rw [recorded]
    exact ⟨fun follows => selects.mp follows.1,
      fun firstIsTop => ⟨selects.mpr firstIsTop, consistent⟩⟩

/-- **The same for the adaptation cycle**, over the proposals as the learned influence ranks them. -/
theorem LearnedStructuralAdaptation.executeAdaptationCycle_follows_iff
    {generate : ComputationGenerator → StructuralGraph → GenerationContext R →
      Except PyError (List (MutationProposal R)) × ComputationGenerator}
    {process : PredictionRecord R → Assessment R → GeneratorInfluence R}
    {adaptation : LearnedStructuralAdaptation} {graph : StructuralGraph}
    {genContext : LearnedGenerationContext R} {evalContext : LearnedEvaluationContext R}
    {prior : Option (Assessment R)} {proposals : List (MutationProposal R)}
    {recorded : MutationProposal R}
    (generated : (generate adaptation.generator graph
      (learn process genContext evalContext prior).2.1.toGenerationContext).1 = .ok proposals)
    (reached : (adaptation.executeAdaptationCycle generate process graph genContext evalContext
      prior).recorded = some recorded) :
    (adaptation.executeAdaptationCycle generate process graph genContext evalContext
        prior).FollowsDecision
          (adaptation.controller.evaluateProposals
            (rankProposals proposals (learn process genContext evalContext prior).2.1)
            (learn process genContext evalContext prior).2.2.toEvaluationContext).1 recorded ↔
      StructuralController.FirstIsTop
        (rankProposals proposals (learn process genContext evalContext prior).2.1)
        (learn process genContext evalContext prior).2.2.toEvaluationContext := by
  rcases learned : learn process genContext evalContext prior with
    ⟨learningApplied, learnedGen, learnedEval⟩
  rw [learned] at generated
  rcases made : generate adaptation.generator graph learnedGen.toGenerationContext with
    ⟨result, generator⟩
  rw [made] at generated
  obtain rfl : result = .ok proposals := generated
  have cycle : ∃ rankedByLearning,
      adaptation.executeAdaptationCycle generate process graph genContext evalContext prior =
        authorizeRanked { adaptation with cycleCount := adaptation.cycleCount + 1, generator } graph
          (rankProposals proposals learnedGen) learnedEval.toEvaluationContext learningApplied
          rankedByLearning := by
    simp only [executeAdaptationCycle, learned, made]
    exact ⟨_, rfl⟩
  obtain ⟨rankedByLearning, cycle⟩ := cycle
  rw [cycle] at reached ⊢
  exact authorizeRanked_follows_iff reached

/-- **Executed is authorized exactly when the first proposal that may be authorized is a
highest-scoring one**, in the cycle of the system and in the learned adaptation cycle. -/
theorem selection_follows_iff (proposals : List (MutationProposal R))
    (generate : ComputationGenerator → StructuralGraph → GenerationContext R →
      Except PyError (List (MutationProposal R)) × ComputationGenerator) :
    (∀ (env : CycleEnv R) (system : DNCSystem R) (objective : GenerationObjective R)
      (prior : Option (Assessment R)) (signals : Finset NecessitySignal) (handoff : Handoff R),
      (generate system.generator system.graph
        (system.generationContext objective prior signals)).1 = .ok proposals →
      (system.runCycle generate env objective prior signals).handoff = some handoff →
      ((system.runCycle generate env objective prior signals).FollowsDecision
          (system.controller.evaluateProposals proposals (system.evaluationContext objective)).1
          handoff ↔
        StructuralController.FirstIsTop proposals (system.evaluationContext objective))) ∧
    (∀ (process : PredictionRecord R → Assessment R → GeneratorInfluence R)
      (adaptation : LearnedStructuralAdaptation) (graph : StructuralGraph)
      (genContext learnedGen : LearnedGenerationContext R)
      (evalContext learnedEval : LearnedEvaluationContext R) (prior : Option (Assessment R))
      (learningApplied : Bool) (recorded : MutationProposal R),
      LearnedStructuralAdaptation.learn process genContext evalContext prior =
        (learningApplied, learnedGen, learnedEval) →
      (generate adaptation.generator graph learnedGen.toGenerationContext).1 = .ok proposals →
      (adaptation.executeAdaptationCycle generate process graph genContext evalContext
        prior).recorded = some recorded →
      ((adaptation.executeAdaptationCycle generate process graph genContext evalContext
          prior).FollowsDecision
            (adaptation.controller.evaluateProposals
              (LearnedStructuralAdaptation.rankProposals proposals learnedGen)
              learnedEval.toEvaluationContext).1 recorded ↔
        StructuralController.FirstIsTop
          (LearnedStructuralAdaptation.rankProposals proposals learnedGen)
          learnedEval.toEvaluationContext)) := by
  constructor
  · intro env system objective prior signals handoff generated reached
    exact DNCSystem.runCycle_follows_iff generated reached
  · intro process adaptation graph genContext learnedGen evalContext learnedEval prior
      learningApplied recorded learned generated reached
    have follows := @LearnedStructuralAdaptation.executeAdaptationCycle_follows_iff R _ generate
      process adaptation graph genContext evalContext prior proposals recorded
    rw [learned] at follows
    exact follows generated reached

/-! ### The real generator -/

namespace Sample

def unitC : UnitID := ⟨"unit_c", by decide⟩

def unitD : UnitID := ⟨"unit_d", by decide⟩

def unitE : UnitID := ⟨"unit_e", by decide⟩

/-- Five units and no edge. -/
def scattered : StructuralGraph where
  graphId := ⟨"graph", graph_normalized⟩
  units := [unitA, unitB, unitC, unitD, unitE].foldl
    (fun units unitId => Dict.set units unitId.value (unitNamed unitId)) ∅

def objective : GenerationObjective Rat where
  taskDescription := "task"
  costBudget := 100

def cycleEnv : CycleEnv Rat where
  permitted := true
  transaction := env
  txId := ⟨"tx", by decide⟩
  assess _ proposal before after _ := .ok {
    assessmentId := "assess_1"
    proposalId := proposal.proposalId
    graphBefore := before
    graphAfter := after
    executionResult := some { graphId := "graph", graphVersion := after }
    preTransactionUtilityEstimate := proposal.expectedUtility
    postExecutionUtilityMeasured := 0.7
    improvementDelta := 0
    costActual := 0
    alignmentScore := 1 }
  learn _ _ := .ok ()

def cycle (system : DNCSystem Rat) : CycleOutcome Rat :=
  system.runCycle ComputationGenerator.generateProposals cycleEnv objective none ∅

/-- The proposals of a system's next cycle. -/
def proposals (system : DNCSystem Rat) : List (MutationProposal Rat) :=
  (ComputationGenerator.generateProposals system.generator system.graph
    (system.generationContext objective none ∅)).1.toOption.getD []

def evaluations (system : DNCSystem Rat) : List (ProposalEvaluation Rat) :=
  (system.controller.evaluateProposals (proposals system) (system.evaluationContext objective)).1

/-- A fresh system, with an empty graph. -/
def fresh : DNCSystem Rat where
  graph := { graphId := ⟨"graph", graph_normalized⟩ }
  lastObservedUtility := 0.75

/-- A system whose last execution was worth little. -/
def degraded : DNCSystem Rat where
  graph := scattered
  cyclesSinceMutation := 1000
  priorMutationHarmed := true
  lastObservedUtility := 0.3

def adaptContext : LearnedGenerationContext Rat where
  objective := objective
  lastObservedUtility := 0.75
  learnedBias := 0
  learningActive := true
  generatorInfluence := some {
    avoidedOperationTypes := ["COMPOSE_UNITS"]
    recommendedMaxCost := 10
    recommendedMinUtility := 0.5
    adaptationBias := -1 }

def adaptEvaluation : LearnedEvaluationContext Rat where
  toEvaluationContext := fresh.evaluationContext objective

def adaptation : LearnedStructuralAdaptation.CycleOutcome Rat :=
  LearnedStructuralAdaptation.executeAdaptationCycle ComputationGenerator.generateProposals
    (fun _ _ => ⟨[], [], 10, 0.5, "MEDIUM", 0⟩) {} fresh.graph adaptContext adaptEvaluation none

end Sample

/-- **The defect**: the decision names the composition, and the wiring is executed. -/
theorem composition_authorized_wiring_executed :
    ∃ handoff, (Sample.cycle Sample.degraded).handoff = some handoff ∧
      handoff.decision.proposalId = "gen_comp_1_5" ∧
      handoff.transacted = some [ComputationGenerator.connectData Sample.unitE Sample.unitA] ∧
      ¬ (Sample.cycle Sample.degraded).FollowsDecision (Sample.evaluations Sample.degraded)
        handoff := by
  have shown : ((Sample.cycle Sample.degraded).handoff.map fun handoff =>
      (handoff.decision.proposalId, handoff.recorded.proposalId, handoff.transacted)) =
        some ("gen_comp_1_5", "gen_wire_1_5",
          some [ComputationGenerator.connectData Sample.unitE Sample.unitA]) := by
    decide +kernel
  obtain ⟨handoff, reached, shown⟩ := Option.map_eq_some_iff.mp shown
  simp only [Prod.mk.injEq] at shown
  obtain ⟨decided, recorded, transacted⟩ := shown
  refine ⟨handoff, reached, decided, transacted, fun follows => ?_⟩
  have named := follows.1.2.1
  rw [decided, recorded] at named
  exact absurd named (by decide)

/-- A fresh system grows its first unit as authorized, and so does an adaptation cycle. -/
theorem selection_follows_fresh :
    (∃ handoff, (Sample.cycle Sample.fresh).handoff = some handoff ∧
      (Sample.cycle Sample.fresh).FollowsDecision (Sample.evaluations Sample.fresh) handoff) ∧
    ∃ recorded evaluations, Sample.adaptation.recorded = some recorded ∧
      Sample.adaptation.FollowsDecision evaluations recorded := by
  have follows := selection_follows_iff (Sample.proposals Sample.fresh)
    ComputationGenerator.generateProposals
  have generated : (ComputationGenerator.generateProposals Sample.fresh.generator
      Sample.fresh.graph (Sample.fresh.generationContext Sample.objective none ∅)).1 =
        .ok (Sample.proposals Sample.fresh) := by decide +kernel
  have adapted : (ComputationGenerator.generateProposals {} Sample.fresh.graph
      Sample.adaptContext.toGenerationContext).1 = .ok (Sample.proposals Sample.fresh) := by
    decide +kernel
  obtain ⟨handoff, reached⟩ : ∃ handoff, (Sample.cycle Sample.fresh).handoff = some handoff :=
    Option.isSome_iff_exists.mp (by decide +kernel)
  obtain ⟨recorded, proposed⟩ : ∃ recorded, Sample.adaptation.recorded = some recorded :=
    Option.isSome_iff_exists.mp (by decide +kernel)
  have systemFollows := follows.1 Sample.cycleEnv Sample.fresh Sample.objective none ∅ handoff
    generated reached
  have adaptationFollows := follows.2 (fun _ _ => ⟨[], [], 10, 0.5, "MEDIUM", 0⟩) {}
    Sample.fresh.graph Sample.adaptContext Sample.adaptContext Sample.adaptEvaluation
    Sample.adaptEvaluation none false recorded rfl adapted proposed
  exact ⟨⟨handoff, reached, systemFollows.mpr (by decide +kernel)⟩, recorded, _, proposed,
    adaptationFollows.mpr (by decide +kernel)⟩

end Dnc
