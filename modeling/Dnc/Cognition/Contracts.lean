/-
**Cognitive contracts.**

`dnc.cognition.contracts`: the records of a cognitive state. As in the IR contracts, a record is its
data together with the fact that the check of `__post_init__` finds nothing, and `ofData` is the
constructor call on values of the declared types.

A tuple of strings is a list here, and a free-form dictionary is a `PyDict`.
-/

import Dnc.Kernel.Contracts
import Dnc.PyLib.Data

namespace Dnc.Cognition

open PyLib

/-- `COGNITIVE_SCHEMA_VERSION`. -/
def cognitiveSchemaVersion : String := "2026-07-31.phase3.v1"

/-! ### Enumerations -/

inductive RiskClass where
  | low | medium | high | critical
deriving DecidableEq, Repr

theorem RiskClass.complete (member : RiskClass) : member ∈ [low, medium, high, critical] := by
  cases member <;> simp

instance : PyEnum RiskClass where
  name := "RiskClass"
  members := [.low, .medium, .high, .critical]
  value
    | .low => "LOW"
    | .medium => "MEDIUM"
    | .high => "HIGH"
    | .critical => "CRITICAL"
  complete := RiskClass.complete
  injective := PyEnum.injective_of_nodup RiskClass.complete (by decide)

inductive EpistemicStatus where
  | verifiedFact | directObservation | retrievedClaim | modelInference | fact | observation
  | assumption | prediction | conflict | unknown | capabilityLimit | unverifiable | retracted
deriving DecidableEq, Repr

namespace EpistemicStatus

def members : List EpistemicStatus := [verifiedFact, directObservation, retrievedClaim,
  modelInference, fact, observation, assumption, prediction, conflict, unknown, capabilityLimit,
  unverifiable, retracted]

theorem complete (member : EpistemicStatus) : member ∈ members := by
  cases member <;> simp [members]

def value : EpistemicStatus → String
  | verifiedFact => "VERIFIED_FACT"
  | directObservation => "DIRECT_OBSERVATION"
  | retrievedClaim => "RETRIEVED_CLAIM"
  | modelInference => "MODEL_INFERENCE"
  | fact => "FACT"
  | observation => "OBSERVATION"
  | assumption => "ASSUMPTION"
  | prediction => "PREDICTION"
  | conflict => "CONFLICT"
  | unknown => "UNKNOWN"
  | capabilityLimit => "CAPABILITY_LIMIT"
  | unverifiable => "UNVERIFIABLE"
  | retracted => "RETRACTED"

end EpistemicStatus

instance : PyEnum EpistemicStatus where
  name := "EpistemicStatus"
  members := EpistemicStatus.members
  value := EpistemicStatus.value
  complete := EpistemicStatus.complete
  injective := PyEnum.injective_of_nodup EpistemicStatus.complete (by decide)

inductive EnforcementTier where
  | invariant | constraint | policy | preference
deriving DecidableEq, Repr

theorem EnforcementTier.complete (member : EnforcementTier) :
    member ∈ [invariant, constraint, policy, preference] := by
  cases member <;> simp

instance : PyEnum EnforcementTier where
  name := "EnforcementTier"
  members := [.invariant, .constraint, .policy, .preference]
  value
    | .invariant => "INVARIANT"
    | .constraint => "CONSTRAINT"
    | .policy => "POLICY"
    | .preference => "PREFERENCE"
  complete := EnforcementTier.complete
  injective := PyEnum.injective_of_nodup EnforcementTier.complete (by decide)

inductive EvidenceSourceType where
  | userProvided | system | retrieved | tool | model | human
deriving DecidableEq, Repr

theorem EvidenceSourceType.complete (member : EvidenceSourceType) :
    member ∈ [userProvided, system, retrieved, tool, model, human] := by
  cases member <;> simp

instance : PyEnum EvidenceSourceType where
  name := "EvidenceSourceType"
  members := [.userProvided, .system, .retrieved, .tool, .model, .human]
  value
    | .userProvided => "USER_PROVIDED"
    | .system => "SYSTEM"
    | .retrieved => "RETRIEVED"
    | .tool => "TOOL"
    | .model => "MODEL"
    | .human => "HUMAN"
  complete := EvidenceSourceType.complete
  injective := PyEnum.injective_of_nodup EvidenceSourceType.complete (by decide)

inductive RelationType where
  | supports | contradicts | dependsOn | invalidates
deriving DecidableEq, Repr

theorem RelationType.complete (member : RelationType) :
    member ∈ [supports, contradicts, dependsOn, invalidates] := by
  cases member <;> simp

instance : PyEnum RelationType where
  name := "RelationType"
  members := [.supports, .contradicts, .dependsOn, .invalidates]
  value
    | .supports => "SUPPORTS"
    | .contradicts => "CONTRADICTS"
    | .dependsOn => "DEPENDS_ON"
    | .invalidates => "INVALIDATES"
  complete := RelationType.complete
  injective := PyEnum.injective_of_nodup RelationType.complete (by decide)

inductive InvalidationStatus where
  | current | stale | invalid | superseded
deriving DecidableEq, Repr

theorem InvalidationStatus.complete (member : InvalidationStatus) :
    member ∈ [current, stale, invalid, superseded] := by
  cases member <;> simp

instance : PyEnum InvalidationStatus where
  name := "InvalidationStatus"
  members := [.current, .stale, .invalid, .superseded]
  value
    | .current => "CURRENT"
    | .stale => "STALE"
    | .invalid => "INVALID"
    | .superseded => "SUPERSEDED"
  complete := InvalidationStatus.complete
  injective := PyEnum.injective_of_nodup InvalidationStatus.complete (by decide)

inductive HypothesisStatus where
  | proposed | active | testPlanned | observationReceived | supported | weakened | falsified
  | unresolved | acceptedForAction | retired
deriving DecidableEq, Repr

namespace HypothesisStatus

def members : List HypothesisStatus := [proposed, active, testPlanned, observationReceived,
  supported, weakened, falsified, unresolved, acceptedForAction, retired]

theorem complete (member : HypothesisStatus) : member ∈ members := by
  cases member <;> simp [members]

def value : HypothesisStatus → String
  | proposed => "PROPOSED"
  | active => "ACTIVE"
  | testPlanned => "TEST_PLANNED"
  | observationReceived => "OBSERVATION_RECEIVED"
  | supported => "SUPPORTED"
  | weakened => "WEAKENED"
  | falsified => "FALSIFIED"
  | unresolved => "UNRESOLVED"
  | acceptedForAction => "ACCEPTED_FOR_ACTION"
  | retired => "RETIRED"

end HypothesisStatus

instance : PyEnum HypothesisStatus where
  name := "HypothesisStatus"
  members := HypothesisStatus.members
  value := HypothesisStatus.value
  complete := HypothesisStatus.complete
  injective := PyEnum.injective_of_nodup HypothesisStatus.complete (by decide)

inductive ActionLifecycleState where
  | proposed | validated | policyChecked | authorized | prepared | executing | observed | verified
  | assessed | closed | rejected | cancelled | timedOut | failed | compensationRequired
  | quarantined
deriving DecidableEq, Repr

namespace ActionLifecycleState

def members : List ActionLifecycleState := [proposed, validated, policyChecked, authorized,
  prepared, executing, observed, verified, assessed, closed, rejected, cancelled, timedOut, failed,
  compensationRequired, quarantined]

theorem complete (member : ActionLifecycleState) : member ∈ members := by
  cases member <;> simp [members]

def value : ActionLifecycleState → String
  | proposed => "PROPOSED"
  | validated => "VALIDATED"
  | policyChecked => "POLICY_CHECKED"
  | authorized => "AUTHORIZED"
  | prepared => "PREPARED"
  | executing => "EXECUTING"
  | observed => "OBSERVED"
  | verified => "VERIFIED"
  | assessed => "ASSESSED"
  | closed => "CLOSED"
  | rejected => "REJECTED"
  | cancelled => "CANCELLED"
  | timedOut => "TIMED_OUT"
  | failed => "FAILED"
  | compensationRequired => "COMPENSATION_REQUIRED"
  | quarantined => "QUARANTINED"

end ActionLifecycleState

instance : PyEnum ActionLifecycleState where
  name := "ActionLifecycleState"
  members := ActionLifecycleState.members
  value := ActionLifecycleState.value
  complete := ActionLifecycleState.complete
  injective := PyEnum.injective_of_nodup ActionLifecycleState.complete (by decide)

/-! ### Shared checks -/

/-- `value is not None and not 0.0 <= value <= 1.0` as a check on the field `name`. -/
def unitViolation (name : String) : Option PyNumber → Option PyError
  | none => none
  | some number =>
    if 0 ≤ number.value ∧ number.value ≤ 1 then none
    else some (.valueError s!"{name} MUST be between 0 and 1")

/-- `value is not None and value < 0` as a check with the given message. -/
def negativeViolation (message : String) : Option PyNumber → Option PyError
  | none => none
  | some number => if number.value < 0 then some (.valueError message) else none

/-! ### The task -/

structure ObjectiveConstraintData where
  constraintId : String
  predicate : String
  label : String
  tier : EnforcementTier
  scope : String := "task"
  activationCondition : String := "always"
  violationSeverity : RiskClass := .medium
  detectorVersion : String := "manual-v1"
  overrideAuthority : Option String := none
  overrideForbidden : Bool := false
  remediation : String := "escalate"

def ObjectiveConstraintData.violation (data : ObjectiveConstraintData) : Option PyError :=
  if data.constraintId = "" then some (.valueError "constraint_id MUST be non-empty")
  else if data.predicate = "" then some (.valueError "predicate MUST be non-empty")
  else if data.label = "" then some (.valueError "label MUST be non-empty")
  else none

structure ObjectiveConstraint extends ObjectiveConstraintData where
  valid : toObjectiveConstraintData.violation = none

structure CognitiveBudgetsData where
  tokens : Option PyNumber := none
  money : Option PyNumber := none
  wallTimeMs : Option PyNumber := none
  acceleratorTimeMs : Option PyNumber := none
  toolCalls : Option PyNumber := none
  branchCount : Option PyNumber := none
  attemptCount : Option PyNumber := none

/-- The fields by name, in their order. -/
def CognitiveBudgetsData.fields (data : CognitiveBudgetsData) : List (String × Option PyNumber) := [
  ("tokens", data.tokens), ("money", data.money), ("wall_time_ms", data.wallTimeMs),
  ("accelerator_time_ms", data.acceleratorTimeMs), ("tool_calls", data.toolCalls),
  ("branch_count", data.branchCount), ("attempt_count", data.attemptCount)]

def CognitiveBudgetsData.violation (data : CognitiveBudgetsData) : Option PyError :=
  data.fields.findSome? fun (name, value) =>
    negativeViolation s!"{name} MUST be non-negative when provided" value

structure CognitiveBudgets extends CognitiveBudgetsData where
  valid : toCognitiveBudgetsData.violation = none

structure GoalInvariantData where
  objective : String
  successCriteria : List String := []
  constraints : List String := []
  authority : List String := []
  mandatoryVerification : List String := []

def GoalInvariantData.violation (data : GoalInvariantData) : Option PyError :=
  if data.objective = "" then some (.valueError "objective MUST be non-empty") else none

structure GoalInvariant extends GoalInvariantData where
  valid : toGoalInvariantData.violation = none

structure PolicyContextData where
  riskClass : RiskClass
  budget : Option PyNumber := none
  deadline : Option String := none
  dataBoundaries : List String := []
  sideEffectBoundaries : List String := []

def PolicyContextData.violation (data : PolicyContextData) : Option PyError :=
  negativeViolation "budget MUST be non-negative when provided" data.budget

structure PolicyContext extends PolicyContextData where
  valid : toPolicyContextData.violation = none

/-- `CognitiveBudgets()`. -/
def CognitiveBudgets.unlimited : CognitiveBudgets := ⟨{}, rfl⟩

structure TaskSpecData where
  taskId : String
  description : String
  goal : GoalInvariant
  policy : PolicyContext
  parentTaskId : Option String := none
  tenantId : String := "tenant-default"
  actorId : String := "actor-default"
  sessionId : String := "session-default"
  expectedOutputContract : PyDict := ∅
  constraints : List ObjectiveConstraint := []
  prohibitedOutcomes : List String := []
  softPreferences : List String := []
  domain : String := "general"
  dataClassification : String := "internal"
  jurisdictionTags : List String := []
  budgets : CognitiveBudgets := .unlimited
  requiredEvidence : List String := []
  acceptableUncertainty : Option PyNumber := none
  abstentionRule : String := "abstain when required evidence is missing"
  escalationRule : String := "escalate high-risk unresolved contradictions"
  sideEffectClass : SideEffectClass := .none
  retentionPolicy : String := "default"
  auditPolicy : String := "append-only"
  userSources : List String := []
  systemSources : List String := []
  retrievedSources : List String := []
  securityLabels : List String := []
  schemaVersion : String := cognitiveSchemaVersion
  metadata : PyDict := ∅

def TaskSpecData.violation (data : TaskSpecData) : Option PyError :=
  if data.taskId = "" then some (.valueError "task_id MUST be non-empty")
  else if data.description = "" then some (.valueError "description MUST be non-empty")
  else if data.tenantId = "" then some (.valueError "tenant_id MUST be non-empty")
  else if data.actorId = "" then some (.valueError "actor_id MUST be non-empty")
  else if data.sessionId = "" then some (.valueError "session_id MUST be non-empty")
  else unitViolation "acceptable_uncertainty" data.acceptableUncertainty

structure TaskSpec extends TaskSpecData where
  valid : toTaskSpecData.violation = none

/-! ### Evidence -/

structure EvidenceItemData where
  evidenceId : String
  source : String
  summary : String
  supports : List String := []
  contradicts : List String := []
  verifier : Option String := none
  confidence : Option PyNumber := none
  metadata : PyDict := ∅

def EvidenceItemData.violation (data : EvidenceItemData) : Option PyError :=
  if data.evidenceId = "" then some (.valueError "evidence_id MUST be non-empty")
  else if data.source = "" then some (.valueError "source MUST be non-empty")
  else unitViolation "confidence" data.confidence

structure EvidenceItem extends EvidenceItemData where
  valid : toEvidenceItemData.violation = none

structure EvidenceRefData where
  evidenceId : String
  artifactHash : String
  sourceType : EvidenceSourceType
  sourceIdentity : String
  acquiredAt : String
  tenantId : String := "tenant-default"
  securityLabels : List String := []
  freshness : Option String := none
  trustPolicy : String := "unverified"
  authorityLevel : String := "none"
  independenceGroup : String := "default"
  chainOfCustody : List String := []
  transformationLineage : List String := []
  promptInjectionUntrusted : Bool := false
  signature : Option String := none
  verifierResults : List String := []
  supports : List String := []
  contradicts : List String := []
  retentionObligations : List String := []
  deletionObligations : List String := []
  schemaVersion : String := cognitiveSchemaVersion
  metadata : PyDict := ∅

def EvidenceRefData.violation (data : EvidenceRefData) : Option PyError :=
  if data.evidenceId = "" then some (.valueError "evidence_id MUST be non-empty")
  else if data.artifactHash = "" then some (.valueError "artifact_hash MUST be non-empty")
  else if data.sourceIdentity = "" then some (.valueError "source_identity MUST be non-empty")
  else if data.acquiredAt = "" then some (.valueError "acquired_at MUST be non-empty")
  else if data.tenantId = "" then some (.valueError "tenant_id MUST be non-empty")
  else none

structure EvidenceRef extends EvidenceRefData where
  valid : toEvidenceRefData.violation = none

/-- `EvidenceItem | EvidenceRef`. -/
inductive Evidence where
  | item (evidence : EvidenceItem)
  | ref (evidence : EvidenceRef)

def Evidence.evidenceId : Evidence → String
  | .item evidence => evidence.evidenceId
  | .ref evidence => evidence.evidenceId

/-- `getattr(evidence, "tenant_id", tenant_id)`. -/
def Evidence.tenantIdD (tenantId : String) : Evidence → String
  | .item _ => tenantId
  | .ref evidence => evidence.tenantId

/-- `getattr(evidence, "security_labels", ())`. -/
def Evidence.securityLabels : Evidence → List String
  | .item _ => []
  | .ref evidence => evidence.securityLabels

/-! ### Claims, relations and hypotheses -/

structure EpistemicItemData where
  itemId : String
  status : EpistemicStatus
  content : String
  tenantId : String := "tenant-default"
  normalizedClaim : Option String := none
  subject : Option String := none
  predicate : Option String := none
  object : Option String := none
  scope : String := "task"
  temporalValidity : Option String := none
  confidenceRef : Option String := none
  evidenceIds : List String := []
  supportIds : List String := []
  contradictionIds : List String := []
  dependsOn : List String := []
  independenceGroup : String := "default"
  freshness : Option String := none
  expiresAt : Option String := none
  invalidationStatus : InvalidationStatus := .current
  securityLabels : List String := []
  irUnitRefs : List String := []
  schemaVersion : String := cognitiveSchemaVersion
  metadata : PyDict := ∅

def EpistemicItemData.violation (data : EpistemicItemData) : Option PyError :=
  if data.itemId = "" then some (.valueError "item_id MUST be non-empty")
  else if data.content = "" then some (.valueError "content MUST be non-empty")
  else if data.tenantId = "" then some (.valueError "tenant_id MUST be non-empty")
  else none

structure EpistemicItem extends EpistemicItemData where
  valid : toEpistemicItemData.violation = none

/-- `replace(item, invalidation_status=status)`. -/
def EpistemicItem.withInvalidationStatus (item : EpistemicItem) (status : InvalidationStatus) :
    EpistemicItem :=
  ⟨{ item.toEpistemicItemData with invalidationStatus := status }, item.valid⟩

structure EpistemicRelationData where
  relationId : String
  relationType : RelationType
  sourceId : String
  targetId : String
  tenantId : String := "tenant-default"
  evidenceIds : List String := []
  securityLabels : List String := []
  schemaVersion : String := cognitiveSchemaVersion

def EpistemicRelationData.violation (data : EpistemicRelationData) : Option PyError :=
  if data.relationId = "" then some (.valueError "relation_id MUST be non-empty")
  else if data.sourceId = "" ∨ data.targetId = "" then
    some (.valueError "relation endpoints MUST be non-empty")
  else none

structure EpistemicRelation extends EpistemicRelationData where
  valid : toEpistemicRelationData.violation = none

structure HypothesisData where
  hypothesisId : String
  proposition : String
  status : HypothesisStatus := .proposed
  scope : String := "task"
  prior : Option PyNumber := none
  posterior : Option PyNumber := none
  qualitativeUncertainty : String := "unknown"
  supportingEvidence : List String := []
  contradictingEvidence : List String := []
  assumptions : List String := []
  dependsOn : List String := []
  predictedObservations : List String := []
  strongestFalsifier : String := ""
  discriminatingActions : List String := []
  decisionRelevance : String := "unspecified"
  costOfBeingWrong : RiskClass := .medium
  acceptedForAction : Bool := false
  tenantId : String := "tenant-default"
  securityLabels : List String := []
  schemaVersion : String := cognitiveSchemaVersion
  metadata : PyDict := ∅

def HypothesisData.violation (data : HypothesisData) : Option PyError :=
  if data.hypothesisId = "" then some (.valueError "hypothesis_id MUST be non-empty")
  else if data.proposition = "" then some (.valueError "proposition MUST be non-empty")
  else
    (unitViolation "prior" data.prior).or ((unitViolation "posterior" data.posterior).or
      (if data.acceptedForAction ∧ data.status ≠ .acceptedForAction then
        some (.valueError "accepted_for_action requires ACCEPTED_FOR_ACTION status")
      else none))

structure Hypothesis extends HypothesisData where
  valid : toHypothesisData.violation = none

end Dnc.Cognition
