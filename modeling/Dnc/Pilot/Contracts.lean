/-
**The pilot's workflow, criteria and evidence.**

`dnc.pilot.governance`, the frozen records. A workflow profile, the success criteria and an outcome
observation are checked when they are built, so each carries the fact that its check finds nothing.
The `json` of a record is what `dataclasses.asdict` gives to `json.dumps`.
-/

import Dnc.PyLib.Enum
import Dnc.PyLib.JsonText
import Dnc.PyLib.Number
import Dnc.PyLib.Text

namespace Dnc.Pilot

open PyLib

inductive RolloutStage where
  | offlineReplay | shadow | limitedCanary | generalAvailability
deriving DecidableEq, Repr

instance : PyEnum RolloutStage where
  name := "RolloutStage"
  members := [.offlineReplay, .shadow, .limitedCanary, .generalAvailability]
  value
    | .offlineReplay => "offline_replay"
    | .shadow => "shadow"
    | .limitedCanary => "limited_canary"
    | .generalAvailability => "general_availability"

inductive ExerciseKind where
  | incident | providerChange | modelChange | policyChange | skillRollback | disasterRecovery
deriving DecidableEq, Repr

instance : PyEnum ExerciseKind where
  name := "ExerciseKind"
  members := [.incident, .providerChange, .modelChange, .policyChange, .skillRollback,
    .disasterRecovery]
  value
    | .incident => "incident"
    | .providerChange => "provider_change"
    | .modelChange => "model_change"
    | .policyChange => "policy_change"
    | .skillRollback => "skill_rollback"
    | .disasterRecovery => "disaster_recovery"

inductive ApprovalRole where
  | product | domain | research | security | privacy | operations | architecture
deriving DecidableEq, Repr

instance : PyEnum ApprovalRole where
  name := "ApprovalRole"
  members := [.product, .domain, .research, .security, .privacy, .operations, .architecture]
  value
    | .product => "product"
    | .domain => "domain"
    | .research => "research"
    | .security => "security"
    | .privacy => "privacy"
    | .operations => "operations"
    | .architecture => "architecture"

/-! ### The workflow -/

structure WorkflowProfileData where
  workflowId : String
  version : String
  domain : String
  domainOwner : String
  reversible : Bool
  outcomeMeasurable : Bool
  critical : Bool
  systemFingerprint : String
  dataClassification : String
  rollbackTarget : String

namespace WorkflowProfileData

/-- The fields that `WorkflowProfile` requires. -/
def required (workflow : WorkflowProfileData) : List String :=
  [workflow.workflowId, workflow.version, workflow.domain, workflow.domainOwner,
    workflow.systemFingerprint, workflow.dataClassification, workflow.rollbackTarget]

/-- `WorkflowProfile.__post_init__`. -/
def violation (workflow : WorkflowProfileData) : Option PyError :=
  if ∃ value ∈ workflow.required, isBlank value = true then
    some (.valueError "workflow profile fields must be non-empty")
  else if workflow.reversible = false ∨ workflow.outcomeMeasurable = false ∨
      workflow.critical = true then
    some (.valueError "first pilot must be reversible, measurable, and noncritical")
  else none

/-- `asdict(workflow)`. -/
def json (workflow : WorkflowProfileData) : Json :=
  .obj [("workflow_id", .str workflow.workflowId), ("version", .str workflow.version),
    ("domain", .str workflow.domain), ("domain_owner", .str workflow.domainOwner),
    ("reversible", .bool workflow.reversible),
    ("outcome_measurable", .bool workflow.outcomeMeasurable),
    ("critical", .bool workflow.critical),
    ("system_fingerprint", .str workflow.systemFingerprint),
    ("data_classification", .str workflow.dataClassification),
    ("rollback_target", .str workflow.rollbackTarget)]

end WorkflowProfileData

structure WorkflowProfile extends WorkflowProfileData where
  valid : toWorkflowProfileData.violation = none

/-! ### The evidence -/

section Evidence

/-- The JSON value of what an optional field holds. -/
def optionalJson {α : Type} (json : α → Json) : Option α → Json
  | none => .null
  | some value => json value

structure ExerciseRecord where
  kind : ExerciseKind
  exercisedBy : String
  evidenceUri : String
  passed : Bool

/-- `asdict(record)`. -/
def ExerciseRecord.json (record : ExerciseRecord) : Json :=
  .obj [("kind", .str (PyEnum.value record.kind)), ("exercised_by", .str record.exercisedBy),
    ("evidence_uri", .str record.evidenceUri), ("passed", .bool record.passed)]

structure OperationalReadiness where
  capacityPlan : String
  costPlan : String
  supportModel : String
  upgradePolicy : String
  deprecationPolicy : String
  customerDocumentation : String

namespace OperationalReadiness

/-- `asdict(readiness).values()`. -/
def values (readiness : OperationalReadiness) : List String :=
  [readiness.capacityPlan, readiness.costPlan, readiness.supportModel, readiness.upgradePolicy,
    readiness.deprecationPolicy, readiness.customerDocumentation]

/-- `OperationalReadiness.complete`. -/
def complete (readiness : OperationalReadiness) : Bool :=
  readiness.values.all fun value => !isBlank value

/-- `asdict(readiness)`. -/
def json (readiness : OperationalReadiness) : Json :=
  .obj [("capacity_plan", .str readiness.capacityPlan), ("cost_plan", .str readiness.costPlan),
    ("support_model", .str readiness.supportModel),
    ("upgrade_policy", .str readiness.upgradePolicy),
    ("deprecation_policy", .str readiness.deprecationPolicy),
    ("customer_documentation", .str readiness.customerDocumentation)]

end OperationalReadiness

structure Approval where
  role : ApprovalRole
  approver : String
  workflowFingerprint : String
  evidenceFingerprint : String
  approved : Bool

structure GAReview where
  approved : Bool
  reasons : List String
  workflowFingerprint : String
  evidenceFingerprint : String
  qualifiedDomain : String

variable (R : Type) [FloatOps R]

structure PilotCriteriaData where
  baselineValue : R
  minimumBusinessValue : R
  maximumFailureRate : R
  maximumP95LatencyMs : R
  maximumCostPerCase : R
  minimumObservations : Int
  minimumDurationDays : Int
  requireDelayedOutcomes : Bool := true
  requireOperatorFeedback : Bool := true

structure OutcomeObservationData where
  observationId : String
  stage : RolloutStage
  day : Int
  businessValue : R
  failed : Bool
  latencyMs : R
  cost : R
  operatorFeedback : Option String
  delayedOutcome : Option R
  source : String
  external : Bool

variable {R}

/-- `PilotCriteria.__post_init__`. -/
def PilotCriteriaData.violation (criteria : PilotCriteriaData R) : Option PyError :=
  if criteria.minimumObservations ≤ 0 ∨ criteria.minimumDurationDays ≤ 0 then
    some (.valueError "sustained evidence thresholds must be positive")
  else if ¬ (((0 : Int) : R) ≤ criteria.maximumFailureRate ∧
      criteria.maximumFailureRate ≤ ((1 : Int) : R)) then
    some (.valueError "maximum_failure_rate must be between zero and one")
  else if criteria.maximumP95LatencyMs ≤ ((0 : Int) : R) ∨
      criteria.maximumCostPerCase ≤ ((0 : Int) : R) then
    some (.valueError "SLO and cost limits must be positive")
  else if criteria.minimumBusinessValue ≤ criteria.baselineValue then
    some (.valueError "minimum business value must exceed the frozen baseline")
  else none

/-- `OutcomeObservation.__post_init__`. -/
def OutcomeObservationData.violation (observation : OutcomeObservationData R) : Option PyError :=
  if isBlank observation.observationId = true ∨ isBlank observation.source = true then
    some (.valueError "observation identity and source are required")
  else if observation.day < 0 ∨ observation.latencyMs < ((0 : Int) : R) ∨
      observation.cost < ((0 : Int) : R) then
    some (.valueError "observation measurements cannot be negative")
  else none

/-- `asdict(criteria)`. -/
def PilotCriteriaData.json (number : R → Json) (criteria : PilotCriteriaData R) : Json :=
  .obj [("baseline_value", number criteria.baselineValue),
    ("minimum_business_value", number criteria.minimumBusinessValue),
    ("maximum_failure_rate", number criteria.maximumFailureRate),
    ("maximum_p95_latency_ms", number criteria.maximumP95LatencyMs),
    ("maximum_cost_per_case", number criteria.maximumCostPerCase),
    ("minimum_observations", .int criteria.minimumObservations),
    ("minimum_duration_days", .int criteria.minimumDurationDays),
    ("require_delayed_outcomes", .bool criteria.requireDelayedOutcomes),
    ("require_operator_feedback", .bool criteria.requireOperatorFeedback)]

/-- `asdict(observation)`. -/
def OutcomeObservationData.json (number : R → Json) (observation : OutcomeObservationData R) :
    Json :=
  .obj [("observation_id", .str observation.observationId),
    ("stage", .str (PyEnum.value observation.stage)), ("day", .int observation.day),
    ("business_value", number observation.businessValue), ("failed", .bool observation.failed),
    ("latency_ms", number observation.latencyMs), ("cost", number observation.cost),
    ("operator_feedback", optionalJson .str observation.operatorFeedback),
    ("delayed_outcome", optionalJson number observation.delayedOutcome),
    ("source", .str observation.source), ("external", .bool observation.external)]

variable (R)

structure PilotCriteria extends PilotCriteriaData R where
  valid : toPilotCriteriaData.violation = none

structure OutcomeObservation extends OutcomeObservationData R where
  valid : toOutcomeObservationData.violation = none

end Evidence

end Dnc.Pilot
