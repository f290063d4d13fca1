/-
**Halting policies.**

`dnc.halting.policy`: three baselines that stop after a number of attempts, and the adaptive policy,
which falls back to a baseline unless it is enabled. The baselines ask `minimumStopChecks` before they
stop. The adaptive policy does not: it has the checks in its own conditions, except that it leaves
with RETRIEVE or VERIFY for missing information and contradictions, where these actions are available.

The available actions are a set; the best next action is the one with the greatest key, and keys
differ, so the order in which the set is walked does not matter.
-/

import Dnc.Halting.Contracts

namespace Dnc.Halting

open PyLib Cognition Assurance

section Policies

variable {R : Type} [PyFloat R]

/-- `value is not None and amount > value`. -/
def exceeds {α : Type} [LT α] [DecidableLT α] (limit : Option α) (amount : α) : Bool :=
  match limit with
  | none => false
  | some limit => decide (limit < amount)

/-- The entries that one attempt adds to `tails`. -/
def tailViolations (budget : InferenceBudget R) (attempt : AttemptRecord R) : List String :=
  (if exceeds budget.maxSingleAttemptTokens attempt.tokens then
    [s!"TOKENS:{attempt.attemptId}"] else []) ++
  (if exceeds budget.maxSingleAttemptCost attempt.cost then
    [s!"COST:{attempt.attemptId}"] else []) ++
  (if exceeds budget.maxSingleAttemptTimeMs attempt.latencyMs then
    [s!"TIME:{attempt.attemptId}"] else [])

/-- `budget_status`. -/
def budgetStatus (context : HaltingContext R) : BudgetStatus R :=
  let tokens := (context.attempts.map fun attempt => attempt.tokens).sum
  let cost := pySum (context.attempts.map fun attempt => attempt.cost)
  let timeMs := (context.attempts.map fun attempt => attempt.latencyMs).sum
  let tails := context.attempts.flatMap (tailViolations context.budget)
  { attempts := context.attempts.length
    tokens, cost, timeMs
    exhausted :=
      decide (context.budget.maxAttempts ≤ context.attempts.length) ||
        decide (context.budget.maxTokens ≤ tokens) || decide (context.budget.maxCost ≤ cost) ||
        decide (context.budget.maxTimeMs ≤ timeMs) || !tails.isEmpty
    tailViolations := tails }

/-- `context.confidence is not None and context.confidence.applicability_status == "calibrated"`. -/
def calibrated (context : HaltingContext R) : Bool :=
  match context.confidence with
  | none => false
  | some confidence => confidence.applicabilityStatus == "calibrated"

/-- `_minimum_stop_checks`. -/
def minimumStopChecks (context : HaltingContext R) : Bool :=
  context.mandatoryChecksPassed && context.outputContractSatisfied &&
    context.criticalContradictions.isEmpty && context.missingInformation.isEmpty &&
    calibrated context

/-- STOP where the checks pass, ABSTAIN otherwise. -/
def stopOrAbstain (passed : Bool) : InferenceAction := if passed then .stop else .abstain

/-- `tuple(attempt.semantic_attempt() for attempt in context.attempts)`, clustered. -/
def contextClusters (env : TextEnv R) (context : HaltingContext R) :
    Except PyError (List (SemanticCluster R)) := do
  let attempts ← context.attempts.mapM AttemptRecord.semanticAttempt
  clusterAttempts env attempts

/-- The fraction of the weight that the first cluster has. -/
def leadingFraction (clusters : List (SemanticCluster R)) : R :=
  let total := pySum (clusters.map SemanticCluster.independentWeight)
  match clusters.head? with
  | none => 0.0
  | some lead => if total = ((0 : Int) : R) then 0.0 else lead.independentWeight / total

/-! ### Baselines -/

structure FixedAttemptPolicy where
  attempts : Int

/-- `FixedAttemptPolicy.decide`. -/
def FixedAttemptPolicy.decide (policy : FixedAttemptPolicy) (context : HaltingContext R) :
    InferenceDecision R :=
  let status := budgetStatus context
  let action :=
    if policy.attempts ≤ context.attempts.length then stopOrAbstain (minimumStopChecks context)
    else .sample
  { action := if status.exhausted ∧ action ≠ .stop then .abstain else action
    reasonCodes := ["FIXED_ATTEMPT_BASELINE"]
    budgetStatus := status
    leadingClusterWeight := 0.0
    policyMode := .fixedAttempt }

structure FixedRefinementPolicy where
  refinements : Int

/-- `FixedRefinementPolicy.decide`. -/
def FixedRefinementPolicy.decide (policy : FixedRefinementPolicy) (context : HaltingContext R) :
    InferenceDecision R :=
  let status := budgetStatus context
  { action :=
      if status.exhausted ∧ (context.attempts.length : Int) ≤ policy.refinements then .abstain
      else if policy.refinements < context.attempts.length then
        stopOrAbstain (minimumStopChecks context)
      else .sample
    reasonCodes := ["FIXED_REFINEMENT_BASELINE"]
    budgetStatus := status
    leadingClusterWeight := 0.0
    policyMode := .fixedRefinement }

structure SelfConsistencyPolicy (R : Type) [PyFloat R] where
  attempts : Int
  minimumLeadingFraction : R := 0.5

/-- `SelfConsistencyPolicy.decide`. -/
def SelfConsistencyPolicy.decide (policy : SelfConsistencyPolicy R) (env : TextEnv R)
    (context : HaltingContext R) : Except PyError (InferenceDecision R) := do
  let status := budgetStatus context
  let clusters ← contextClusters env context
  let fraction := leadingFraction clusters
  return {
    action :=
      if policy.attempts ≤ context.attempts.length then
        stopOrAbstain (Decidable.decide (policy.minimumLeadingFraction ≤ fraction) &&
          minimumStopChecks context)
      else if status.exhausted then .abstain else .sample
    reasonCodes := ["SELF_CONSISTENCY_BASELINE"]
    budgetStatus := status
    clusterCount := clusters.length
    leadingClusterWeight := fraction
    policyMode := .selfConsistency }

/-! ### The adaptive policy -/

structure AdaptiveHaltingPolicy (R : Type) [PyFloat R] where
  thresholdPolicy : RiskThresholdPolicy R
  enabled : Bool := false
  minimumIndependentGroups : Int := 2
  minimumLeadingFraction : R := 0.6
  fallback : FixedAttemptPolicy := ⟨3⟩

/-- `tuple(action for action in InferenceAction if action in context.available_actions)`. -/
def alternatives (context : HaltingContext R) : List InferenceAction :=
  (PyEnum.members (α := InferenceAction)).filter fun action =>
    Decidable.decide (action ∈ context.availableActions)

/-- `AdaptiveHaltingPolicy._best_next_action`: an action, what it promises and what it costs. -/
def bestNextAction (context : HaltingContext R) : InferenceAction × R × R :=
  let value (action : InferenceAction) := (context.expectedActionValues.get? action).getD 0.0
  let cost (action : InferenceAction) := (context.actionCosts.get? action).getD 0.0
  let candidates := (alternatives context).filter fun action =>
    Decidable.decide (action ≠ .stop ∧ action ≠ .abstain)
  let key (action : InferenceAction) := toLex (value action - cost action, PyEnum.value action)
  match (sortByDesc key candidates).head? with
  | none => (.abstain, 0.0, 0.0)
  | some selected => (selected, value selected, cost selected)

/-- `AdaptiveHaltingPolicy._decision`. -/
def earlyDecision (context : HaltingContext R) (clusters : List (SemanticCluster R))
    (action : InferenceAction) (reason : String) : InferenceDecision R where
  action := action
  reasonCodes := [reason]
  budgetStatus := budgetStatus context
  clusterCount := clusters.length
  leadingClusterWeight := leadingFraction clusters
  alternatives := alternatives context

/-- The returns of `decide` before the threshold is looked up. -/
def earlyReturn (context : HaltingContext R) (clusters : List (SemanticCluster R)) :
    Option (InferenceDecision R) :=
  let exhausted := (budgetStatus context).exhausted
  if context.ambiguousFields ≠ [] ∧ .ask ∈ context.availableActions then
    some (earlyDecision context clusters .ask "AMBIGUITY_REQUIRES_CLARIFICATION")
  else if context.missingInformation ≠ [] ∧ .retrieve ∈ context.availableActions then
    some (earlyDecision context clusters .retrieve "MISSING_INFORMATION")
  else if context.criticalContradictions ≠ [] ∧ .verify ∈ context.availableActions then
    some (earlyDecision context clusters .verify "CRITICAL_CONTRADICTION")
  else if context.calibrationShifted then
    let action := if .diversify ∈ context.availableActions ∧ exhausted = false then
      InferenceAction.diversify else .abstain
    some (earlyDecision context clusters action "CALIBRATION_SHIFTED")
  else if exhausted then
    some (earlyDecision context clusters .abstain "BUDGET_EXHAUSTED")
  else none

/-- `confidence.lower_bound if confidence is not None else None`. -/
def lowerBound (context : HaltingContext R) : Option R :=
  context.confidence.bind fun confidence => confidence.lowerBound

/-- `len(lead.correlation_groups) if lead else 0`. -/
def independentGroups (clusters : List (SemanticCluster R)) : Nat :=
  match clusters.head? with
  | none => 0
  | some lead => lead.correlationGroups.length

namespace AdaptiveHaltingPolicy

/-- `stable`. -/
def stable (policy : AdaptiveHaltingPolicy R) (clusters : List (SemanticCluster R)) : Bool :=
  clusters.head?.isSome && Decidable.decide (policy.minimumLeadingFraction ≤ leadingFraction clusters) &&
    Decidable.decide (policy.minimumIndependentGroups ≤ independentGroups clusters)

/-- `may_stop`. -/
def mayStop (policy : AdaptiveHaltingPolicy R) (context : HaltingContext R)
    (clusters : List (SemanticCluster R)) (threshold : R) : Bool :=
  let (_, marginalValue, nextCost) := bestNextAction context
  context.mandatoryChecksPassed && context.outputContractSatisfied && calibrated context &&
    (match lowerBound context with
      | none => false
      | some bound => Decidable.decide (threshold ≤ bound)) &&
    policy.stable clusters && Decidable.decide (marginalValue ≤ nextCost)

/-- The action when the policy does not stop. -/
def continueWith (context : HaltingContext R) : InferenceAction :=
  let nextAction :=
    if calibrated context = false ∧ .verify ∈ context.availableActions then .verify
    else (bestNextAction context).1
  if nextAction ∉ context.availableActions ∨ nextAction = .stop ∨ nextAction = .abstain then .sample
  else nextAction

/-- The independent groups of the leading cluster are too few, and more can be had. -/
def diversifies (policy : AdaptiveHaltingPolicy R) (context : HaltingContext R)
    (clusters : List (SemanticCluster R)) : Bool :=
  clusters.head?.isSome &&
    Decidable.decide ((independentGroups clusters : Int) < policy.minimumIndependentGroups) &&
    Decidable.decide (.diversify ∈ context.availableActions)

/-- The returns of `decide` once the threshold is known. -/
def weigh (policy : AdaptiveHaltingPolicy R) (context : HaltingContext R)
    (clusters : List (SemanticCluster R)) (threshold : R) : InferenceDecision R :=
  let decision (action : InferenceAction) (reasonCodes : List String) : InferenceDecision R :=
    { action, reasonCodes
      budgetStatus := budgetStatus context
      threshold := some threshold
      calibratedLowerBound := lowerBound context
      clusterCount := clusters.length
      leadingClusterWeight := leadingFraction clusters
      alternatives := alternatives context }
  if policy.diversifies context clusters then decision .diversify ["INDEPENDENCE_INSUFFICIENT"]
  else if policy.mayStop context clusters threshold ∧ .stop ∈ context.availableActions then
    decision .stop ["MANDATORY_CHECKS_PASS", "CALIBRATED_BOUND_MET", "SEMANTIC_STABILITY",
      "MARGINAL_VALUE_EXHAUSTED"]
  else decision (continueWith context) ["STOP_PRECONDITIONS_UNMET"]

/-- `AdaptiveHaltingPolicy.decide`. -/
def decide (policy : AdaptiveHaltingPolicy R) (env : TextEnv R) (context : HaltingContext R) :
    Except PyError (InferenceDecision R) :=
  if policy.enabled = false then .ok (policy.fallback.decide context)
  else do
    let clusters ← contextClusters env context
    match earlyReturn context clusters with
    | some decision => return decision
    | none =>
      let threshold ← policy.thresholdPolicy.thresholdFor context.riskClass context.domain
      return policy.weigh context clusters threshold

end AdaptiveHaltingPolicy

variable (R) in
/-- One of the four policies. -/
inductive HaltingPolicy where
  | fixedAttempt (policy : FixedAttemptPolicy)
  | fixedRefinement (policy : FixedRefinementPolicy)
  | selfConsistency (policy : SelfConsistencyPolicy R)
  | adaptive (policy : AdaptiveHaltingPolicy R)

/-- `policy.decide(context)`. -/
def HaltingPolicy.decide (env : TextEnv R) (context : HaltingContext R) :
    HaltingPolicy R → Except PyError (InferenceDecision R)
  | .fixedAttempt policy => .ok (policy.decide context)
  | .fixedRefinement policy => .ok (policy.decide context)
  | .selfConsistency policy => policy.decide env context
  | .adaptive policy => policy.decide env context

end Policies

end Dnc.Halting
