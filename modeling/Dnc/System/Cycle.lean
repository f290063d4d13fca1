/-
**The structural cycle of the system.**

`dnc.system`, `run_cycle`: generate, evaluate, authorize, record the prediction, transact, execute,
assess, learn. What the cycle takes from outside is `CycleEnv`: whether the kill switches permit it,
the transaction manager's environment, and what execution and assessment find. The outcome carries,
besides the returned values and the state, what the cycle hands to its collaborators once a decision
is made (`Handoff`).

The cycle takes the first AUTHORIZE evaluation for the one the controller authorized.
`authorizeAndTransact_handoff` is the inversion of a cycle that reaches the transaction, and
`runCycle_follows_iff` says exactly when the proposal it executes is the one the decision names.
-/

import Dnc.Dcc.Adaptation
import Dnc.Transaction.Manager

namespace Dnc

open PyLib

structure SystemConfig where
  enableMutation : Bool := true
  enableLearning : Bool := true
deriving DecidableEq, Repr

/-- The part of `DNCSystem` a cycle reads or writes. -/
structure DNCSystem (R : Type) where
  config : SystemConfig := {}
  graph : StructuralGraph
  provenanceLog : Option ProvenanceLog := none
  generator : ComputationGenerator := {}
  controller : StructuralController := {}
  tracker : PredictionTracker := {}
  cycleCount : Nat := 0
  proposalsGenerated : Nat := 0
  proposalsAuthorized : Nat := 0
  transactionCommits : Nat := 0
  transactionRollbacks : Nat := 0
  cyclesSinceMutation : Int := 999
  recentMutationCount : Int := 0
  priorMutationHarmed : Bool := false
  lastObservedUtility : R

/-- What a cycle takes from outside. -/
structure CycleEnv (R : Type) where
  /-- `kill_switches.permitted(…)`. -/
  permitted : Bool
  transaction : TransactionEnv
  txId : TransactionID
  /-- `assess_execution(execution_core.execute(projector.project(graph)), proposal, before, after,
  baseline)`. -/
  assess : StructuralGraph → MutationProposal R → String → String → R → Except PyError (Assessment R)
  /-- `learning.process(prediction, assessment)`. -/
  learn : PredictionRecord R → Assessment R → Except PyError Unit

/-- What a cycle hands on once the controller has decided: the decision and the proposal, as
`record_prediction` gets them, and the operations that `execute_transaction` gets, if it is called.
-/
structure Handoff (R : Type) where
  decision : AuthorizationDecision
  recorded : MutationProposal R
  transacted : Option (List IROperation)

/-- The returned triple. -/
structure CycleResult (R : Type) where
  success : Bool
  assessment : Option (Assessment R)
  proposal : Option (MutationProposal R)

structure CycleOutcome (R : Type) where
  result : Except PyError (CycleResult R)
  system : DNCSystem R
  handoff : Option (Handoff R) := none

namespace DNCSystem

variable {R : Type} [PyFloat R]

/-- `last_utility` of a cycle. -/
def lastUtility (system : DNCSystem R) (prior : Option (Assessment R)) : R :=
  match prior with
  | some assessment => assessment.postExecutionUtilityMeasured
  | none => system.lastObservedUtility

/-- The context a cycle hands to the generator. -/
def generationContext (system : DNCSystem R) (objective : GenerationObjective R)
    (prior : Option (Assessment R)) (signals : Finset NecessitySignal) : GenerationContext R where
  objective := objective
  currentUnitCount := system.graph.units.length
  currentEdgeCount := system.graph.edges.length
  lastObservedUtility := system.lastUtility prior
  recentMutationCount := system.recentMutationCount
  cyclesSinceMutation := system.cyclesSinceMutation
  priorMutationHarmed := system.priorMutationHarmed
  necessitySignals := signals

/-- The context a cycle evaluates proposals in. -/
def evaluationContext (system : DNCSystem R) (objective : GenerationObjective R) :
    EvaluationContext R where
  currentGraph := system.graph
  activeObjectives := [objective.taskDescription]
  availableBudget := objective.costBudget
  riskTolerance := "HIGH"
  criteria := {
    minUtility := 0.3
    maxCost := 50.0
    maxUnits := objective.maxUnits
    maxEdges := objective.maxEdges }
  stabilityBaselineUtility := system.lastObservedUtility
  cyclesSinceMutation := system.cyclesSinceMutation
  recentMutationCount := system.recentMutationCount

/-- A cycle that ends without a decision. -/
def idle (system : DNCSystem R) : CycleOutcome R where
  result := .ok ⟨false, none, none⟩
  system := { system with cyclesSinceMutation := system.cyclesSinceMutation + 1 }

/-- The end of a cycle: execute and assess on the system's graph, then learn. -/
def assessAndLearn (env : CycleEnv R) (system : DNCSystem R) (proposal : MutationProposal R)
    (prediction : PredictionRecord R) (before : String) (baseline : R)
    (prior : Option (Assessment R)) (handoff : Handoff R) : CycleOutcome R :=
  match env.assess system.graph proposal before (toString system.graph.version) baseline with
  | .error error => ⟨.error error, system, some handoff⟩
  | .ok assessment =>
    let learned :=
      if system.config.enableLearning ∧ prior.isSome then env.learn prediction assessment
      else .ok ()
    match learned with
    | .error error => ⟨.error error, system, some handoff⟩
    | .ok () =>
      ⟨.ok ⟨true, some assessment, some proposal⟩,
        { system with
          priorMutationHarmed := decide (assessment.improvementDelta < -0.02)
          lastObservedUtility := assessment.postExecutionUtilityMeasured },
        some handoff⟩

/-- The steps of a cycle once a proposal is selected: record the prediction and transact. -/
def transact (env : CycleEnv R) (system : DNCSystem R) (decision : AuthorizationDecision)
    (proposal : MutationProposal R) (before : String) (baseline : R)
    (prior : Option (Assessment R)) : CycleOutcome R :=
  let (prediction, tracker) := system.tracker.recordPrediction proposal decision
  let system := { system with tracker, proposalsAuthorized := system.proposalsAuthorized + 1 }
  if system.config.enableMutation then
    let handoff : Handoff R := ⟨decision, proposal, some proposal.candidateOperations⟩
    let outcome := executeTransaction env.transaction system.provenanceLog env.txId system.graph
      proposal.candidateOperations none
    let system := { system with graph := outcome.graph, provenanceLog := outcome.log }
    match outcome.result with
    | .error error => ⟨.error error, system, some handoff⟩
    | .ok (success, _) =>
      if success = false then
        ⟨.ok ⟨false, none, some proposal⟩,
          { system with
            transactionRollbacks := system.transactionRollbacks + 1
            cyclesSinceMutation := system.cyclesSinceMutation + 1 },
          some handoff⟩
      else
        assessAndLearn env
          { system with
            transactionCommits := system.transactionCommits + 1
            cyclesSinceMutation := 0
            recentMutationCount := system.recentMutationCount + 1 }
          proposal prediction before baseline prior handoff
  else
    assessAndLearn env
      { system with cyclesSinceMutation := system.cyclesSinceMutation + 1 }
      proposal prediction before baseline prior ⟨decision, proposal, none⟩

/-- The steps of a cycle once proposals are generated: evaluate and authorize. -/
def authorizeAndTransact (env : CycleEnv R) (system : DNCSystem R)
    (objective : GenerationObjective R) (prior : Option (Assessment R)) (before : String)
    (proposals : List (MutationProposal R)) : CycleOutcome R :=
  match proposals with
  | [] => system.idle
  | fallback :: _ =>
    let context := system.evaluationContext objective
    let (evaluations, controller) := system.controller.evaluateProposals proposals context
    match controller.authorizeTopScoring evaluations context with
    | (none, controller) => idle { system with controller }
    | (some decision, controller) =>
      if decision.authorized = false then idle { system with controller }
      else
        transact env { system with controller } decision
          (StructuralController.firstAuthorized evaluations fallback) before
          (system.lastUtility prior) prior

/-- `DNCSystem.run_cycle`. -/
def runCycle
    (generate : ComputationGenerator → StructuralGraph → GenerationContext R →
      Except PyError (List (MutationProposal R)) × ComputationGenerator)
    (env : CycleEnv R) (system : DNCSystem R) (objective : GenerationObjective R)
    (prior : Option (Assessment R)) (signals : Finset NecessitySignal) : CycleOutcome R :=
  if env.permitted = false then
    ⟨.error (.dncPolicyError "enterprise kill switch denied operation"), system, none⟩
  else
    let system := { system with cycleCount := system.cycleCount + 1 }
    let before := toString system.graph.version
    match generate system.generator system.graph
        (system.generationContext objective prior signals) with
    | (.error error, generator) => ⟨.error error, { system with generator }, none⟩
    | (.ok proposals, generator) =>
      authorizeAndTransact env
        { system with generator, proposalsGenerated := system.proposalsGenerated + proposals.length }
        objective prior before proposals

end DNCSystem

/-! ### What a cycle hands on -/

section Handoff

variable {R : Type} [PyFloat R]

/-- What is executed and what is returned is the recorded proposal. -/
structure CycleOutcome.Consistent (outcome : CycleOutcome R) (handoff : Handoff R) : Prop where
  transacted : ∀ operations, handoff.transacted = some operations →
    operations = handoff.recorded.candidateOperations
  returned : ∀ result, outcome.result = .ok result → result.proposal = some handoff.recorded

/-- The proposal that a cycle records, executes and returns is the one its decision names as a
highest-scoring one. -/
def CycleOutcome.FollowsDecision (outcome : CycleOutcome R)
    (evaluations : List (ProposalEvaluation R)) (handoff : Handoff R) : Prop :=
  StructuralController.NamesTop evaluations handoff.decision handoff.recorded ∧
    outcome.Consistent handoff

namespace DNCSystem

omit [PyFloat R] in
theorem Consistent.of_error (error : PyError) (system : DNCSystem R) {handoff : Handoff R}
    (transacted : ∀ operations, handoff.transacted = some operations →
      operations = handoff.recorded.candidateOperations) :
    CycleOutcome.Consistent ⟨.error error, system, some handoff⟩ handoff where
  transacted := transacted
  returned := fun _ returned => by cases returned

omit [PyFloat R] in
theorem Consistent.of_ok {result : CycleResult R} (system : DNCSystem R) {handoff : Handoff R}
    (returned : result.proposal = some handoff.recorded)
    (transacted : ∀ operations, handoff.transacted = some operations →
      operations = handoff.recorded.candidateOperations) :
    CycleOutcome.Consistent ⟨.ok result, system, some handoff⟩ handoff where
  transacted := transacted
  returned := by
    rintro other same
    obtain rfl := Except.ok.inj same
    exact returned

/-- Executing and assessing hand on what they are given. -/
theorem assessAndLearn_handoff (env : CycleEnv R) (system : DNCSystem R)
    (prediction : PredictionRecord R) (before : String) (baseline : R)
    (prior : Option (Assessment R)) {handoff : Handoff R}
    (transacted : ∀ operations, handoff.transacted = some operations →
      operations = handoff.recorded.candidateOperations) :
    (assessAndLearn env system handoff.recorded prediction before baseline prior handoff).handoff =
        some handoff ∧
      (assessAndLearn env system handoff.recorded prediction before baseline prior
        handoff).Consistent handoff := by
  unfold assessAndLearn
  cases env.assess system.graph handoff.recorded before (toString system.graph.version)
      baseline with
  | error error => exact ⟨rfl, Consistent.of_error error system transacted⟩
  | ok assessment =>
    simp only
    cases (if system.config.enableLearning = true ∧ prior.isSome = true then
        env.learn prediction assessment else .ok ()) with
    | error error => exact ⟨rfl, Consistent.of_error error system transacted⟩
    | ok learned => exact ⟨rfl, Consistent.of_ok _ rfl transacted⟩

/-- A transaction is handed the recorded proposal, whatever its outcome. -/
theorem transact_handoff (env : CycleEnv R) (system : DNCSystem R)
    (decision : AuthorizationDecision) (proposal : MutationProposal R) (before : String)
    (baseline : R) (prior : Option (Assessment R)) :
    ∃ handoff : Handoff R, handoff.decision = decision ∧ handoff.recorded = proposal ∧
      (system.transact env decision proposal before baseline prior).handoff = some handoff ∧
      (system.transact env decision proposal before baseline prior).Consistent handoff := by
  unfold transact
  simp only
  split_ifs with mutates
  · have transacted : ∀ operations,
        (⟨decision, proposal, some proposal.candidateOperations⟩ : Handoff R).transacted =
          some operations → operations = proposal.candidateOperations :=
      fun operations given => (Option.some.inj given).symm
    refine ⟨⟨decision, proposal, some proposal.candidateOperations⟩, rfl, rfl, ?_⟩
    cases (executeTransaction env.transaction system.provenanceLog env.txId system.graph
        proposal.candidateOperations none).result with
    | error error => exact ⟨rfl, Consistent.of_error error _ transacted⟩
    | ok returned =>
      obtain ⟨success, ctx⟩ := returned
      simp only
      split_ifs with rolledBack
      · exact ⟨rfl, Consistent.of_ok _ rfl transacted⟩
      · exact assessAndLearn_handoff env _ _ before baseline prior transacted
  · refine ⟨⟨decision, proposal, none⟩, rfl, rfl, ?_⟩
    exact @assessAndLearn_handoff R _ env _ _ before baseline prior ⟨decision, proposal, none⟩
      fun operations absent => by cases absent

/-- **A cycle that gets past the controller**: its decision is the controller's, and its proposal is
that of the first AUTHORIZE evaluation. -/
theorem authorizeAndTransact_handoff {env : CycleEnv R} {system : DNCSystem R}
    {objective : GenerationObjective R} {prior : Option (Assessment R)} {before : String}
    {proposals : List (MutationProposal R)} {handoff : Handoff R}
    (reached : (system.authorizeAndTransact env objective prior before proposals).handoff =
      some handoff) :
    ∃ fallback,
      ((system.controller.evaluateProposals proposals
          (system.evaluationContext objective)).2.authorizeTopScoring
        (system.controller.evaluateProposals proposals (system.evaluationContext objective)).1
        (system.evaluationContext objective)).1 = some handoff.decision ∧
      handoff.recorded = StructuralController.firstAuthorized
        (system.controller.evaluateProposals proposals (system.evaluationContext objective)).1
        fallback ∧
      (system.authorizeAndTransact env objective prior before proposals).Consistent handoff := by
  cases proposals with
  | nil => cases reached
  | cons fallback rest =>
    simp only [authorizeAndTransact] at reached ⊢
    rcases chosen : (system.controller.evaluateProposals (fallback :: rest)
        (system.evaluationContext objective)).2.authorizeTopScoring
      (system.controller.evaluateProposals (fallback :: rest)
        (system.evaluationContext objective)).1
      (system.evaluationContext objective) with ⟨decision, controller⟩
    rw [chosen] at reached
    cases decision with
    | none => cases reached
    | some decision =>
      simp only at reached ⊢
      split_ifs at reached with denied
      · cases reached
      · rw [if_neg denied]
        obtain ⟨given, decided, recorded, handed, consistent⟩ :=
          transact_handoff env { system with controller } decision
            (StructuralController.firstAuthorized (system.controller.evaluateProposals
              (fallback :: rest) (system.evaluationContext objective)).1 fallback) before
            (system.lastUtility prior) prior
        obtain rfl : given = handoff := Option.some.inj (handed.symm.trans reached)
        exact ⟨fallback, congrArg some decided.symm, recorded, consistent⟩

end DNCSystem

end Handoff

end Dnc
