/-
**Candidates and decisions of the semantic controller.**

`dnc.control.contracts`, and of `dnc.cognition.contracts` the proposal that a candidate carries. The
metadata of a proposal hold JSON values and, under one key, a structural no-op decision.
-/

import Dnc.Capabilities.Registry

namespace Dnc.Control

open PyLib Cognition Capabilities

structure NoOpDecisionData where
  proposalId : String
  sourceStateId : String
  acceptedNoOp : Bool
  isolationGrade : String
  rationale : String
  uncapturedState : List String := []

/-- `NoOpDecision.__post_init__`. -/
def NoOpDecisionData.violation (data : NoOpDecisionData) : Option PyError :=
  if data.proposalId = "" then some (.valueError "proposal_id MUST be non-empty")
  else if data.sourceStateId = "" then some (.valueError "source_state_id MUST be non-empty")
  else if data.isolationGrade = "" then some (.valueError "isolation_grade MUST be non-empty")
  else if data.rationale = "" then some (.valueError "rationale MUST be non-empty")
  else none

structure NoOpDecision extends NoOpDecisionData where
  valid : toNoOpDecisionData.violation = none

/-- A value of a proposal's metadata. -/
inductive MetadataValue where
  | noOpDecision (decision : NoOpDecision)
  | json (value : Json)

/-- `value is not None`. -/
def MetadataValue.isPresent : MetadataValue → Bool
  | .json .null => false
  | _ => true

/-- `isinstance(value, NoOpDecision)`. -/
def MetadataValue.isNoOpDecision : MetadataValue → Bool
  | .noOpDecision _ => true
  | _ => false

section Contracts

variable {R : Type} [PyFloat R]

structure CognitiveProposalData (R : Type) [PyFloat R] where
  proposalId : String
  taskId : String
  actionType : CognitiveActionType
  rationale : String
  preconditions : List String := []
  expectedEffects : List String := []
  evidenceRequirements : List String := []
  estimatedCost : R := 0.0
  estimatedLatencyMs : Int := 0
  risk : RiskClass := .medium
  reversible : Bool := true
  metadata : Dict String MetadataValue := ∅

/-- `CognitiveProposal.__post_init__`. -/
def CognitiveProposalData.violation (data : CognitiveProposalData R) : Option PyError :=
  if data.proposalId = "" then some (.valueError "proposal_id MUST be non-empty")
  else if data.taskId = "" then some (.valueError "task_id MUST be non-empty")
  else if data.rationale = "" then some (.valueError "rationale MUST be non-empty")
  else if data.estimatedCost < ((0 : Int) : R) then
    some (.valueError "estimated_cost MUST be non-negative")
  else if data.estimatedLatencyMs < 0 then
    some (.valueError "estimated_latency_ms MUST be non-negative")
  else none

variable (R) in
structure CognitiveProposal extends CognitiveProposalData R where
  valid : toCognitiveProposalData.violation = none

inductive CandidateSource where
  | rule | planner | model | skill | verifier | hypothesis
deriving DecidableEq, Repr

structure OutcomeVectorData (R : Type) [PyFloat R] where
  qualityGain : R := 0.0
  informationGain : R := 0.0
  confidenceGain : R := 0.0
  monetaryCost : R := 0.0
  computeCost : R := 0.0
  latencyMs : R := 0.0
  epistemicRisk : R := 0.0
  safetyRisk : R := 0.0
  privacyRisk : R := 0.0
  reversibility : R := 1.0
  sideEffectMagnitude : R := 0.0

/-- `self.__dict__.values()`. -/
def OutcomeVectorData.values (data : OutcomeVectorData R) : List R := [
  data.qualityGain, data.informationGain, data.confidenceGain, data.monetaryCost, data.computeCost,
  data.latencyMs, data.epistemicRisk, data.safetyRisk, data.privacyRisk, data.reversibility,
  data.sideEffectMagnitude]

/-- `OutcomeVector.__post_init__`. -/
def OutcomeVectorData.violation (data : OutcomeVectorData R) : Option PyError :=
  if ∃ value ∈ data.values, value < ((0 : Int) : R) then
    some (.valueError "outcome vector values MUST be non-negative")
  else none

variable (R) in
structure OutcomeVector extends OutcomeVectorData R where
  valid : toOutcomeVectorData.violation = none

structure ActionCandidateData (R : Type) [PyFloat R] where
  proposal : CognitiveProposal R
  source : CandidateSource
  prediction : OutcomeVector R
  uncertainty : R := 0.0
  requiredPermissions : Finset String := ∅
  preconditionsSatisfied : Bool := true
  shadowPrediction : Option (OutcomeVector R) := none

/-- `ActionCandidate.__post_init__`. -/
def ActionCandidateData.violation (data : ActionCandidateData R) : Option PyError :=
  if ¬ (((0 : Int) : R) ≤ data.uncertainty ∧ data.uncertainty ≤ ((1 : Int) : R)) then
    some (.valueError "candidate uncertainty MUST be between 0 and 1")
  else none

variable (R) in
structure ActionCandidate extends ActionCandidateData R where
  valid : toActionCandidateData.violation = none

structure ControllerContextData (R : Type) [PyFloat R] where
  taskId : String
  riskClass : RiskClass
  candidates : List (ActionCandidate R)
  availableBudget : R
  deadlineRemainingMs : Int
  grantedPermissions : Finset String := ∅
  allowedActions : Finset CognitiveActionType := (PyEnum.members (α := CognitiveActionType)).toFinset
  stopAuthorized : Bool := false
  tenantId : String := "tenant-default"

/-- `ControllerContext.__post_init__`. -/
def ControllerContextData.violation (data : ControllerContextData R) : Option PyError :=
  if data.taskId = "" ∨ data.tenantId = "" then
    some (.valueError "controller task and tenant identity MUST be non-empty")
  else if data.availableBudget < ((0 : Int) : R) ∨ data.deadlineRemainingMs < 0 then
    some (.valueError "controller budget and deadline MUST be non-negative")
  else none

variable (R) in
structure ControllerContext extends ControllerContextData R where
  valid : toControllerContextData.violation = none

structure CandidateRejection where
  proposalId : String
  reasonCodes : List String

structure ControllerDecision (R : Type) [PyFloat R] where
  selected : Option (ActionCandidate R)
  alternatives : List (ActionCandidate R)
  rejections : List CandidateRejection
  paretoSurvivors : List String
  reasonCodes : List String
  auditRecordId : String
  shadowLog : List (String × OutcomeVector R) := []

end Contracts

end Dnc.Control
