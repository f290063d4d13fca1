/-
**Halting contracts.**

`dnc.halting.contracts`: attempts with what they used, the budget, and the context in which a policy
decides whether to stop. Amounts of money are floats; tokens and milliseconds are integers.
-/

import Dnc.Assurance.Policy
import Dnc.Assurance.Semantic

namespace Dnc.Halting

open PyLib Cognition Assurance

inductive InferenceAction where
  | sample | diversify | verify | retrieve | ask | stop | abstain
deriving DecidableEq, Repr

instance : PyEnum InferenceAction where
  name := "InferenceAction"
  members := [.sample, .diversify, .verify, .retrieve, .ask, .stop, .abstain]
  value
    | .sample => "SAMPLE"
    | .diversify => "DIVERSIFY"
    | .verify => "VERIFY"
    | .retrieve => "RETRIEVE"
    | .ask => "ASK"
    | .stop => "STOP"
    | .abstain => "ABSTAIN"

inductive HaltingPolicyMode where
  | fixedAttempt | fixedRefinement | selfConsistency | adaptive
deriving DecidableEq, Repr

section Contracts

variable {R : Type} [PyFloat R]

structure AttemptRecordData (R : Type) where
  attemptId : String
  taskId : String
  conclusion : String
  atomicClaims : List String
  modelFingerprint : String
  promptFingerprint : String
  seedFamily : String
  retrievalFingerprint : String := "none"
  verifierResultIds : List String := []
  tokens : Int := 0
  cost : R
  latencyMs : Int := 0

/-- `AttemptRecord.__post_init__`. -/
def AttemptRecordData.violation (data : AttemptRecordData R) : Option PyError :=
  if data.attemptId = "" ∨ data.taskId = "" ∨ data.modelFingerprint = "" ∨
      data.promptFingerprint = "" ∨ data.seedFamily = "" then
    some (.valueError "attempt identity and diversity fingerprints MUST be complete")
  else if data.tokens < 0 ∨ data.cost < ((0 : Int) : R) ∨ data.latencyMs < 0 then
    some (.valueError "attempt resource usage MUST be non-negative")
  else none

variable (R) in
structure AttemptRecord extends AttemptRecordData R where
  valid : toAttemptRecordData.violation = none

namespace AttemptRecord

/-- `AttemptRecord.correlation_group`. -/
def correlationGroup (attempt : AttemptRecord R) : String :=
  ":".intercalate [attempt.modelFingerprint, attempt.promptFingerprint, attempt.seedFamily,
    attempt.retrievalFingerprint]

/-- `AttemptRecord.semantic_attempt`. -/
def semanticAttempt (attempt : AttemptRecord R) : Except PyError (SemanticAttempt R) :=
  SemanticAttempt.ofData {
    attemptId := attempt.attemptId
    conclusion := attempt.conclusion
    atomicClaims := attempt.atomicClaims
    correlationGroup := attempt.correlationGroup
    verifierCoverage := if attempt.verifierResultIds ≠ [] then 1.0 else 0.0
    weight := 1.0 }

end AttemptRecord

structure InferenceBudgetData (R : Type) where
  maxAttempts : Int
  maxTokens : Int
  maxCost : R
  maxTimeMs : Int
  maxSingleAttemptTokens : Option Int := none
  maxSingleAttemptCost : Option R := none
  maxSingleAttemptTimeMs : Option Int := none

/-- `InferenceBudget.__post_init__`. -/
def InferenceBudgetData.violation (data : InferenceBudgetData R) : Option PyError :=
  if data.maxAttempts ≤ 0 ∨ data.maxTokens < 0 ∨ data.maxCost < ((0 : Int) : R) ∨
      data.maxTimeMs < 0 then
    some (.valueError "inference budget limits are invalid")
  else none

variable (R) in
structure InferenceBudget extends InferenceBudgetData R where
  valid : toInferenceBudgetData.violation = none

structure BudgetStatus (R : Type) where
  attempts : Nat
  tokens : Int
  cost : R
  timeMs : Int
  exhausted : Bool
  tailViolations : List String

structure HaltingContextData (R : Type) [PyFloat R] where
  taskId : String
  domain : String
  riskClass : RiskClass
  attempts : List (AttemptRecord R)
  budget : InferenceBudget R
  mandatoryChecksPassed : Bool
  outputContractSatisfied : Bool
  confidence : Option (ConfidenceEstimate R) := none
  criticalContradictions : List String := []
  missingInformation : List String := []
  ambiguousFields : List String := []
  calibrationShifted : Bool := false
  expectedActionValues : Dict InferenceAction R := ∅
  actionCosts : Dict InferenceAction R := ∅
  availableActions : Finset InferenceAction := (PyEnum.members (α := InferenceAction)).toFinset

/-- `HaltingContext.__post_init__`. -/
def HaltingContextData.violation (data : HaltingContextData R) : Option PyError :=
  if data.taskId = "" ∨ data.domain = "" then
    some (.valueError "halting context task and domain MUST be non-empty")
  else if ∃ attempt ∈ data.attempts, attempt.taskId ≠ data.taskId then
    some (.valueError "all attempts MUST belong to the active task")
  else none

variable (R) in
structure HaltingContext extends HaltingContextData R where
  valid : toHaltingContextData.violation = none

structure InferenceDecision (R : Type) where
  action : InferenceAction
  reasonCodes : List String
  budgetStatus : BudgetStatus R
  threshold : Option R := none
  calibratedLowerBound : Option R := none
  clusterCount : Nat := 0
  leadingClusterWeight : R
  alternatives : List InferenceAction := []
  policyMode : HaltingPolicyMode := .adaptive

end Contracts

end Dnc.Halting
