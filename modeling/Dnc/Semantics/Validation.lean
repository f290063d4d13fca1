/-
**The validation of semantic candidates.**

`dnc.semantics`: a candidate declares units and brings operations of its own, which add units and
connect them. `validate_semantic_candidate` checks every declared unit, and compares the units that
the operations add with the declared ones by identifier only.

`Checked` states what the checks of one unit are for; `checked_of_valid` is that a candidate without
a reason against it has declared nothing else.
-/

import Dnc.Capabilities.Registry
import Dnc.Ir.Operations
import Dnc.Logic.Sequence
import Dnc.PyLib.Number

namespace Dnc.Semantics

open PyLib Cognition Capabilities Logic

section Candidates

variable {R : Type} [PyFloat R]

structure SemanticGraphCandidateData (R : Type) [PyFloat R] where
  candidateId : String
  taskId : String
  operations : List IROperation
  units : List ComputationalUnit
  semanticJustification : String
  predictedEvidence : List String
  provenanceRefs : List String
  capabilityIds : List String
  sourceKinds : List String
  hypothesisIds : List String := []
  estimatedCost : R := 0.0
  requiredIsolationGrade : String := "I1_GRAPH_ONLY"
  semanticFingerprint : String := ""

/-- `SemanticGraphCandidate.__post_init__`. -/
def SemanticGraphCandidateData.violation (data : SemanticGraphCandidateData R) : Option PyError :=
  if data.candidateId = "" ∨ data.taskId = "" ∨ data.semanticJustification = "" ∨
      data.semanticFingerprint = "" then
    some (.valueError "semantic candidate identity and justification MUST be complete")
  else if data.operations = [] ∨ data.units = [] then
    some (.valueError "semantic candidates MUST contain units and operations")
  else if data.predictedEvidence = [] ∨ data.provenanceRefs = [] then
    some (.valueError "semantic candidates MUST predict evidence and declare provenance")
  else if data.estimatedCost < ((0 : Int) : R) then
    some (.valueError "semantic candidate cost MUST be non-negative")
  else none

variable (R) in
structure SemanticGraphCandidate extends SemanticGraphCandidateData R where
  valid : toSemanticGraphCandidateData.violation = none

/-- The constructor call. -/
def SemanticGraphCandidate.ofData :
    SemanticGraphCandidateData R → Except PyError (SemanticGraphCandidate R) :=
  construct SemanticGraphCandidateData.violation SemanticGraphCandidate.mk

theorem SemanticGraphCandidate.ofData_eq_ok {data : SemanticGraphCandidateData R}
    {candidate : SemanticGraphCandidate R} :
    ofData data = .ok candidate ↔ candidate.toSemanticGraphCandidateData = data := by
  constructor
  · intro made
    obtain ⟨valid, rfl⟩ := construct_eq_ok made
    rfl
  · rintro rfl
    exact construct_of_valid candidate.valid

/-! ### Validation -/

structure SemanticValidation where
  valid : Bool
  reasonCodes : List String
deriving DecidableEq

/-- What a candidate is validated against. -/
structure Grants (R : Type) where
  taskId : String
  tenantId : String
  availableBudget : R
  grantedPermissions : Finset String
  availableIsolationGrade : String

/-- `_ISOLATION_ORDER.get(grade, default)`. -/
def isolationOrder (default : Int) : String → Int
  | "I0_NONE" => 0
  | "I1_GRAPH_ONLY" => 1
  | "I2_PROCESS_LOCAL" => 2
  | "I3_RECORDED_EXTERNALS" => 3
  | "I4_SANDBOXED_ENVIRONMENT" => 4
  | _ => default

/-- `_risk_order`. -/
def riskOrder : RiskClass → Nat
  | .low => 1
  | .medium => 2
  | .high => 3
  | .critical => 4

variable (registry : CapabilityRegistry R) (clock : Nat → Int) (grants : Grants R)
  (candidate : SemanticGraphCandidate R)

/-- The loop over the capabilities, from the given reading of the clock on. -/
def capabilityReasons : Nat → List String → List String
  | _, [] => []
  | reading, capabilityId :: rest =>
    (match registry.get capabilityId with
      | none => [s!"CAPABILITY_UNAVAILABLE:{capabilityId}"]
      | some card =>
        if card ∉ registry.available (clock reading) then
          [s!"CAPABILITY_UNAVAILABLE:{capabilityId}"]
        else reasonIf (¬ card.permissions ⊆ grants.grantedPermissions)
          s!"PERMISSION:{capabilityId}") ++
      capabilityReasons (reading + 1) rest

/-- `frozenset(unit.metadata.get("required_permissions", ()))`. -/
def requiredPermissions (unit : ComputationalUnit) : Except PyError PySet := do
  PySet.ofValue (← unit.metadata.getD "required_permissions" (.arr []))

/-- `required.issubset(granted_permissions)`. -/
def Granted (granted : Finset String) (required : PySet) : Prop :=
  ∀ elem ∈ required.elems, ∃ permission ∈ granted, elem = .str permission

instance (granted : Finset String) (required : PySet) : Decidable (Granted granted required) :=
  decidable_of_iff (∀ elem ∈ required.elems, elem.text?.any fun text => decide (text ∈ granted)) <| by
    refine forall₂_congr fun elem _ => ?_
    cases elem <;> simp [Json.text?]

/-- `registry.get(capability_id) if capability_id else None`. -/
def boundCard (capabilityId : Json) : Except PyError (Option (CapabilityCard R)) :=
  if capabilityId.truthy then registry.getValue capabilityId else .ok none

/-- The checks of one declared unit. -/
def unitReasons (unit : ComputationalUnit) : Except PyError (List String) := do
  let uid := unit.unitId.value
  let tenant ← unit.metadata.getD "tenant_id" .null
  let justification ← unit.metadata.getD "semantic_justification" .null
  let capabilityId ← unit.metadata.getD "capability_id" .null
  let found ← boundCard registry capabilityId
  let action ← unit.metadata.getD "action_type" .null
  let risk ← unit.metadata.getD "risk_class" .null
  let metadata :=
    match PyEnum.parse (α := CognitiveActionType) action, PyEnum.parse (α := RiskClass) risk with
    | .ok action, .ok risk =>
      reasonIf (∃ card : CapabilityCard R, card ∈ found ∧ action ∉ card.supportedActions)
        s!"ACTION_UNSUPPORTED:{uid}" ++
      reasonIf (∃ card : CapabilityCard R, card ∈ found ∧ riskOrder card.riskLimit < riskOrder risk)
        s!"RISK_LIMIT:{uid}"
    | _, _ => [s!"SEMANTIC_METADATA:{uid}"]
  let required ← requiredPermissions unit
  return reasonIf (tenant ≠ .str grants.tenantId) s!"TENANT_MISMATCH:{uid}" ++
    reasonIf (unit.contract.inputSchema.truthy = false ∨ unit.contract.outputSchema.truthy = false)
      s!"SCHEMA_REQUIRED:{uid}" ++
    reasonIf (justification.truthy = false) s!"JUSTIFICATION_REQUIRED:{uid}" ++
    reasonIf (¬ ∃ capability ∈ candidate.capabilityIds, capabilityId = .str capability)
      s!"CAPABILITY_BINDING:{uid}" ++
    metadata ++
    reasonIf (¬ Granted grants.grantedPermissions required) s!"UNIT_PERMISSION:{uid}"

/-- `{unit.unit_id.value for unit in candidate.units}`. -/
def declaredUnits : Finset String :=
  (candidate.units.map fun unit => unit.unitId.value).toFinset

/-- The checks of one operation. -/
def operationReasons (declared : Finset String) (operation : IROperation) : List String :=
  reasonIf (operation.rationale = "") "OPERATION_RATIONALE_REQUIRED" ++
  reasonIf (operation.opType ∉ [OperationType.addUnit, .connectUnits])
    s!"OPERATION_NOT_SEMANTIC:{PyEnum.value operation.opType}" ++
  reasonIf (operation.opType = .addUnit ∧
      ¬ ∃ unit ∈ operation.parameters.unit, unit.unitId.value ∈ declared)
    "UNDECLARED_ADDED_UNIT"

/-- What an operation adds to `added_units`. -/
def addedUnit (declared : Finset String) (operation : IROperation) : Option String :=
  if operation.opType = .addUnit then
    (operation.parameters.unit.map fun unit => unit.unitId.value).filter fun uid => uid ∈ declared
  else none

/-- `validate_semantic_candidate`. -/
def validateSemanticCandidate : Except PyError SemanticValidation := do
  let declared := declaredUnits candidate
  let first := reasonIf (candidate.taskId ≠ grants.taskId) "TASK_MISMATCH" ++
    reasonIf (grants.availableBudget < candidate.estimatedCost) "COST_BUDGET" ++
    reasonIf (candidate.provenanceRefs = []) "PROVENANCE_REQUIRED" ++
    reasonIf (isolationOrder (-1) grants.availableIsolationGrade <
      isolationOrder 99 candidate.requiredIsolationGrade) "ISOLATION_GRADE"
  let capabilities := capabilityReasons registry clock grants 0 candidate.capabilityIds
  let units ← candidate.units.mapM (unitReasons registry grants candidate)
  let operations := candidate.operations.flatMap (operationReasons declared)
  let mismatch := reasonIf
    ((candidate.operations.filterMap (addedUnit declared)).toFinset ≠ declared)
    "DECLARED_UNIT_OPERATION_MISMATCH"
  let reasons := first ++ capabilities ++ units.flatten ++ operations ++ mismatch
  return ⟨reasons.isEmpty, reasons⟩

/-! ### What the validation of a unit is for -/

/-- **A unit passes the checks**: it belongs to the tenant, declares its schemas and a
justification, is bound to a capability of the candidate that is available and supports its action
within its risk limit, and asks for no permission that is not granted. -/
structure Checked (unit : ComputationalUnit) : Prop where
  tenant : unit.metadata.getD "tenant_id" .null = .ok (.str grants.tenantId)
  inputSchema : unit.contract.inputSchema.truthy = true
  outputSchema : unit.contract.outputSchema.truthy = true
  justified : ∃ justification,
    unit.metadata.getD "semantic_justification" .null = .ok justification ∧
      justification.truthy = true
  capable : ∃ capabilityId card action risk,
    unit.metadata.getD "capability_id" .null = .ok (.str capabilityId) ∧
    capabilityId ∈ candidate.capabilityIds ∧ registry.get capabilityId = some card ∧
    (∃ reading, card ∈ registry.available (clock reading)) ∧
    unit.metadata.getD "action_type" .null =
      .ok (.str (PyEnum.value (α := CognitiveActionType) action)) ∧
    action ∈ card.supportedActions ∧
    unit.metadata.getD "risk_class" .null = .ok (.str (PyEnum.value (α := RiskClass) risk)) ∧
    riskOrder risk ≤ riskOrder card.riskLimit
  permitted : ∃ required, requiredPermissions unit = .ok required ∧
    Granted grants.grantedPermissions required

variable {registry clock grants candidate}

/-- Without a reason against them, all capabilities are available. -/
theorem available_of_capabilityReasons {capabilityIds : List String} {reading : Nat}
    (none : capabilityReasons registry clock grants reading capabilityIds = []) :
    ∀ capabilityId ∈ capabilityIds, ∃ card, registry.get capabilityId = some card ∧
      ∃ reading, card ∈ registry.available (clock reading) := by
  induction capabilityIds generalizing reading with
  | nil => exact fun _ member => absurd member List.not_mem_nil
  | cons capabilityId rest ih =>
    obtain ⟨here, later⟩ := List.append_eq_nil_iff.mp none
    refine List.forall_mem_cons.mpr ⟨?_, ih later⟩
    cases found : registry.get capabilityId with
    | none => simp [found] at here
    | some card =>
      rw [found] at here
      by_cases listed : card ∈ registry.available (clock reading)
      · exact ⟨card, rfl, reading, listed⟩
      · simp [listed] at here

/-- A unit without a reason against it passes the checks. -/
theorem checked_of_unitReasons {unit : ComputationalUnit}
    (available : ∀ capabilityId ∈ candidate.capabilityIds, ∃ card,
      registry.get capabilityId = some card ∧ ∃ reading, card ∈ registry.available (clock reading))
    (none : unitReasons registry grants candidate unit = .ok []) :
    Checked registry clock grants candidate unit := by
  unfold unitReasons at none
  obtain ⟨tenant, hasTenant, none⟩ := bind_eq_ok.mp none
  obtain ⟨justification, hasJustification, none⟩ := bind_eq_ok.mp none
  obtain ⟨capability, hasCapability, none⟩ := bind_eq_ok.mp none
  obtain ⟨found, looked, none⟩ := bind_eq_ok.mp none
  obtain ⟨action, hasAction, none⟩ := bind_eq_ok.mp none
  obtain ⟨risk, hasRisk, none⟩ := bind_eq_ok.mp none
  obtain ⟨required, hasRequired, none⟩ := bind_eq_ok.mp none
  have none := Except.ok.inj none
  simp only [List.append_eq_nil_iff, reasonIf_eq_nil, not_not] at none
  obtain ⟨⟨⟨⟨⟨sameTenant, schemas⟩, justified⟩, capabilityId, listed, rfl⟩, metadata⟩, granted⟩ := none
  obtain ⟨card, registered, serving⟩ := available capabilityId listed
  -- the card was looked up: a registered capability is not the empty name
  have truthy : (Json.str capabilityId).truthy = true := by
    have named := card.named
    rw [registry.keyed capabilityId card registered] at named
    simpa [Json.truthy] using named
  rw [boundCard, if_pos truthy] at looked
  obtain rfl : registry.get capabilityId = found := Except.ok.inj looked
  rw [registered] at metadata
  cases parsedAction : PyEnum.parse (α := CognitiveActionType) action with
  | error error => simp [parsedAction] at metadata
  | ok actionType =>
    cases parsedRisk : PyEnum.parse (α := RiskClass) risk with
    | error error => simp [parsedAction, parsedRisk] at metadata
    | ok riskClass =>
      simp only [parsedAction, parsedRisk, List.append_eq_nil_iff, reasonIf_eq_nil, not_exists,
        not_and, not_not, not_lt, Option.mem_def, Option.some.injEq] at metadata
      refine ⟨by rw [hasTenant, sameTenant], ?_, ?_, ⟨justification, hasJustification, ?_⟩, ?_,
        ⟨required, hasRequired, granted⟩⟩
      · simpa using fun falsy => schemas (Or.inl falsy)
      · simpa using fun falsy => schemas (Or.inr falsy)
      · simpa using justified
      · refine ⟨capabilityId, card, actionType, riskClass, hasCapability, listed, registered, serving,
          ?_, metadata.1 card rfl, ?_, metadata.2 card rfl⟩
        · rw [hasAction, PyEnum.parse_eq_ok parsedAction]
        · rw [hasRisk, PyEnum.parse_eq_ok parsedRisk]

/-- **What a candidate without a reason against it has declared**: every unit passes the checks,
every operation adds or connects, and the added units are declared by their identifiers. -/
theorem checked_of_valid {validation : SemanticValidation}
    (returned : validateSemanticCandidate registry clock grants candidate = .ok validation)
    (isValid : validation.valid = true) :
    (∀ unit ∈ candidate.units, Checked registry clock grants candidate unit) ∧
      ∀ operation ∈ candidate.operations,
        operation.opType ∈ [OperationType.addUnit, .connectUnits] := by
  obtain ⟨units, ran, same⟩ := bind_eq_ok.mp returned
  obtain rfl := Except.ok.inj same
  simp only [List.isEmpty_iff, List.append_eq_nil_iff, List.flatten_eq_nil_iff] at isValid
  obtain ⟨⟨⟨⟨-, capabilities⟩, noUnit⟩, operations⟩, -⟩ := isValid
  constructor
  · intro unit member
    obtain ⟨reasons, listed, here⟩ := forall₂_mem_left (mapM_eq_ok.mp ran) member
    rw [noUnit reasons listed] at here
    exact checked_of_unitReasons (available_of_capabilityReasons capabilities) here
  · intro operation member
    have none : operationReasons (declaredUnits candidate) operation = [] :=
      List.flatMap_eq_nil_iff.mp operations operation member
    simp only [operationReasons, List.append_eq_nil_iff, reasonIf_eq_nil, not_not] at none
    exact none.1.2

end Candidates

end Dnc.Semantics
