/-
**Execution contexts.**

`dnc.ir.contracts.ExecutionContext`: where and with what rights a graph is to run, and
`validate_execution_context`, which holds every unit of a graph against one. The check reads the
contracts of the units and nothing else of a graph, so graphs with the same content pass it together
(`permitted_of_content`).

* `contextErrors_of_ungoverned`: `requires_execution_context` misses nothing that is tested. A unit
  that requires no context passes the check of every context.
* `contextErrors_of_wider`: with more rights or a stronger isolation a unit passes whatever it has
  passed.

`contextLaw` puts both together for whole graphs.
-/

import Dnc.Ir.Content
import Dnc.Ir.Validator

namespace Dnc

open PyLib Logic

structure ExecutionContextData where
  tenantId : String
  permissions : Finset String
  isolationGrade : IsolationGrade
  region : String := ""
  device : String := ""
  runtime : String := ""
  capabilities : Finset String := ∅
  trustZone : String := ""
  confidentialCompute : Bool := false
deriving DecidableEq

/-- `ExecutionContext.__post_init__` on values of the declared types. -/
def ExecutionContextData.violation (data : ExecutionContextData) : Option PyError :=
  if data.tenantId = "" then some (.valueError "execution tenant_id MUST be non-empty")
  else if anyBlank data.permissions then
    some (.valueError "execution permissions MUST contain non-empty strings")
  else if anyBlank data.capabilities then
    some (.valueError "execution capabilities MUST contain non-empty strings")
  else none

structure ExecutionContext extends ExecutionContextData where
  valid : toExecutionContextData.violation = none
deriving DecidableEq

/-- `UnitContract.requires_execution_context`. -/
def UnitContract.requiresExecutionContext (contract : UnitContract) : Bool :=
  contract.sideEffects.classification != .none ||
  decide (contract.placement.allowedRegions ≠ ∅) ||
  decide (contract.placement.allowedDevices ≠ ∅) ||
  decide (contract.placement.allowedRuntimes ≠ ∅) ||
  decide (contract.placement.requiredCapabilities ≠ ∅) ||
  contract.placement.requiresLocalInputs ||
  contract.security.tenantId.any (fun tenantId => tenantId != "") ||
  decide (contract.security.requiredPermissions ≠ ∅) ||
  decide (contract.security.allowedResidencies ≠ ∅) ||
  contract.security.trustZone != "" ||
  decide (contract.security.acceptedTrustZones ≠ ∅) ||
  contract.security.confidentialComputeRequired

/-- `bool(allowed) and value not in allowed`. -/
def outside (allowed : Finset String) (value : String) : Bool :=
  decide (allowed ≠ ∅ ∧ value ∉ allowed)

/-- The tuple `checks` of one unit: whether the check fails, its code and its message. -/
def contextChecks (contract : UnitContract) (context : ExecutionContext) :
    List (Bool × String × String) :=
  let security := contract.security
  let placement := contract.placement
  let effects := contract.sideEffects
  [(security.tenantId.any (fun tenantId => tenantId != context.tenantId), "CTX_TENANT_MISMATCH",
      "execution tenant does not match the unit tenant"),
    (decide (¬ security.requiredPermissions ⊆ context.permissions), "CTX_PERMISSION_MISSING",
      "execution context lacks required permissions"),
    (decide (context.isolationGrade.rank < effects.minimumIsolation.rank),
      "CTX_ISOLATION_INSUFFICIENT", "execution isolation is below the unit minimum"),
    (outside placement.allowedRegions context.region, "CTX_REGION_DENIED",
      "execution region is not allowed"),
    (outside placement.allowedDevices context.device, "CTX_DEVICE_DENIED",
      "execution device is not allowed"),
    (outside placement.allowedRuntimes context.runtime, "CTX_RUNTIME_DENIED",
      "execution runtime is not allowed"),
    (decide (¬ placement.requiredCapabilities ⊆ context.capabilities), "CTX_CAPABILITY_MISSING",
      "execution context lacks placement capabilities"),
    (outside security.acceptedTrustZones context.trustZone, "CTX_TRUST_ZONE_DENIED",
      "execution trust zone is not accepted"),
    (security.trustZone != "" && context.trustZone != security.trustZone,
      "CTX_UNIT_TRUST_ZONE_MISMATCH",
      "execution trust zone does not match the unit declaration"),
    (outside security.allowedResidencies context.region, "CTX_RESIDENCY_DENIED",
      "execution region violates data residency"),
    (security.confidentialComputeRequired && !context.confidentialCompute,
      "CTX_CONFIDENTIAL_COMPUTE_REQUIRED", "unit requires confidential compute")]

/-- The errors of one unit. -/
def contextErrors (context : ExecutionContext) (uid : String) (unit : ComputationalUnit) :
    List ValidationError :=
  (contextChecks unit.contract context).flatMap fun check =>
    report check.1 (invariantError check.2.1 s!"Unit {uid}: {check.2.2}." uid)

/-- `DNCIRValidator.validate_execution_context`. -/
def validateExecutionContext (graph : StructuralGraph) (context : ExecutionContext) :
    ValidationResult :=
  let errors := graph.units.entries.flatMap fun entry => contextErrors context entry.1 entry.2
  { isValid := errors.isEmpty, errors }

/-- The context satisfies every requirement of the graph. -/
def Permitted (graph : StructuralGraph) (context : ExecutionContext) : Prop :=
  (validateExecutionContext graph context).isValid = true

/-- Some unit of the graph requires a context. -/
def StructuralGraph.Governed (graph : StructuralGraph) : Prop :=
  ∃ uid unit, graph.units.get? uid = some unit ∧ unit.contract.requiresExecutionContext = true

/-! ### Requiring a context -/

theorem contextErrors_eq_nil {context : ExecutionContext} {uid : String}
    {unit : ComputationalUnit} :
    contextErrors context uid unit = [] ↔
      ∀ check ∈ contextChecks unit.contract context, check.1 = false := by
  unfold contextErrors
  simp only [List.flatMap_eq_nil_iff, report_eq_nil]

/-- **A unit that requires no context is permitted by every context.** -/
theorem contextErrors_of_ungoverned {unit : ComputationalUnit}
    (ungoverned : unit.contract.requiresExecutionContext = false) (context : ExecutionContext)
    (uid : String) : contextErrors context uid unit = [] := by
  unfold UnitContract.requiresExecutionContext at ungoverned
  simp only [Bool.or_eq_false_iff, bne_eq_false_iff_eq, decide_eq_false_iff_not, not_not, and_assoc]
    at ungoverned
  obtain ⟨effects, regions, devices, runtimes, capabilities, -, tenant, permissions, residencies,
    zone, zones, confidential⟩ := ungoverned
  have untenanted : unit.contract.security.tenantId = none := by
    cases given : unit.contract.security.tenantId with
    | none => rfl
    | some text =>
      have nonBlank := unit.contract.security.texts.1 text given
      rw [given] at tenant
      have empty : text = "" := by simpa using tenant
      subst empty
      exact absurd nonBlank (by decide)
  have isolation : unit.contract.sideEffects.minimumIsolation = .i0None := by
    have valid := unit.contract.sideEffects.valid
    unfold SideEffectData.violation at valid
    rw [if_pos effects] at valid
    split_ifs at valid with blank declared stronger
    exact not_not.mp stronger
  have lowest : ¬ context.isolationGrade.rank < IsolationGrade.i0None.rank := Nat.not_lt_zero _
  refine contextErrors_eq_nil.mpr ?_
  simp only [contextChecks, outside, untenanted, isolation, regions, devices, runtimes,
    capabilities, permissions, residencies, zone, zones, confidential, decide_eq_false lowest]
  simp

theorem permitted_iff {graph : StructuralGraph} {context : ExecutionContext} :
    Permitted graph context ↔ ∀ uid unit, graph.units.get? uid = some unit →
      contextErrors context uid unit = [] := by
  unfold Permitted validateExecutionContext
  rw [List.isEmpty_iff]
  exact Dict.flatMap_entries_eq_nil

/-! ### Wider contexts -/

/-- The second context differs from the first only by more permissions and capabilities, a higher
isolation grade, or confidential compute. -/
structure ExecutionContext.WidensTo (context wider : ExecutionContext) : Prop where
  tenantId : wider.tenantId = context.tenantId
  permissions : context.permissions ⊆ wider.permissions
  isolation : context.isolationGrade.rank ≤ wider.isolationGrade.rank
  region : wider.region = context.region
  device : wider.device = context.device
  runtime : wider.runtime = context.runtime
  capabilities : context.capabilities ⊆ wider.capabilities
  trustZone : wider.trustZone = context.trustZone
  confidential : context.confidentialCompute = true → wider.confidentialCompute = true

section Wider

variable {context wider : ExecutionContext} (widens : context.WidensTo wider)

include widens

/-- The four checks that read what widens still pass, and the others read what stays. -/
theorem contextErrors_of_wider {uid : String} {unit : ComputationalUnit}
    (permitted : contextErrors context uid unit = []) : contextErrors wider uid unit = [] := by
  have passes := contextErrors_eq_nil.mp permitted
  refine contextErrors_eq_nil.mpr ?_
  simp only [contextChecks, List.forall_mem_cons, widens.tenantId, widens.region, widens.device,
    widens.runtime, widens.trustZone, decide_eq_false_iff_not, not_not, not_lt,
    Bool.and_eq_false_iff, Bool.not_eq_false'] at passes ⊢
  obtain ⟨tenant, permissions, isolation, region, device, runtime, capabilities, zone, own, residency,
    confidential, -⟩ := passes
  exact ⟨tenant, permissions.trans widens.permissions, isolation.trans widens.isolation, region,
    device, runtime, capabilities.trans widens.capabilities, zone, own, residency,
    confidential.imp_right widens.confidential, List.forall_mem_nil _⟩

theorem permitted_of_wider {graph : StructuralGraph} (permitted : Permitted graph context) :
    Permitted graph wider :=
  permitted_iff.mpr fun uid unit stored =>
    contextErrors_of_wider widens (permitted_iff.mp permitted uid unit stored)

end Wider

/-- What a context is needed for: a graph none of whose units requires one is accepted in every
context, and what is accepted in a context is accepted in every wider one. -/
structure ContextLaw (graph : StructuralGraph) : Prop where
  ungoverned : ¬ graph.Governed → ∀ context, Permitted graph context
  widening : ∀ context wider : ExecutionContext, context.WidensTo wider →
    Permitted graph context → Permitted graph wider

/-- **Every graph obeys the law of contexts.** -/
theorem contextLaw (graph : StructuralGraph) : ContextLaw graph where
  ungoverned ungoverned context := by
    refine permitted_iff.mpr fun uid unit stored => ?_
    have free : unit.contract.requiresExecutionContext = false :=
      Bool.eq_false_of_not_eq_true fun requires => ungoverned ⟨uid, unit, stored, requires⟩
    exact contextErrors_of_ungoverned free context uid
  widening _ _ widens permitted := permitted_of_wider widens permitted

/-! ### Graphs with the same content -/

section Units

variable {first second : ComputationalUnit} (same : first.content = second.content)

include same

/-- The clauses that a context is checked against are part of the content. -/
theorem clauses_of_content : first.contract.sideEffects = second.contract.sideEffects ∧
    first.contract.placement = second.contract.placement ∧
    first.contract.security = second.contract.security :=
  ⟨congrArg UnitContent.sideEffects same, congrArg UnitContent.placement same,
    congrArg UnitContent.security same⟩

theorem contextErrors_of_content (context : ExecutionContext) (uid : String) :
    contextErrors context uid first = contextErrors context uid second := by
  obtain ⟨effects, placement, security⟩ := clauses_of_content same
  unfold contextErrors contextChecks
  rw [effects, placement, security]

theorem requiresExecutionContext_of_content :
    first.contract.requiresExecutionContext = second.contract.requiresExecutionContext := by
  obtain ⟨effects, placement, security⟩ := clauses_of_content same
  unfold UnitContract.requiresExecutionContext
  rw [effects, placement, security]

end Units

section Graphs

variable {first second : StructuralGraph} (same : first.content = second.content)

include same

/-- A unit of one graph is one of the other, up to its content. -/
theorem stored_of_content {uid : String} {unit : ComputationalUnit}
    (stored : second.units.get? uid = some unit) :
    ∃ other, first.units.get? uid = some other ∧ other.content = unit.content := by
  have contents : (first.units.get? uid).map ComputationalUnit.content =
      (second.units.get? uid).map ComputationalUnit.content :=
    congrFun (congrArg GraphContent.units same) uid
  rw [stored] at contents
  exact Option.map_eq_some_iff.mp contents

theorem permitted_of_content {context : ExecutionContext} (permitted : Permitted first context) :
    Permitted second context := by
  refine permitted_iff.mpr fun uid unit stored => ?_
  obtain ⟨other, storedOther, alike⟩ := stored_of_content same stored
  rw [← contextErrors_of_content alike]
  exact permitted_iff.mp permitted uid other storedOther

theorem governed_of_content (governed : second.Governed) : first.Governed := by
  obtain ⟨uid, unit, stored, requires⟩ := governed
  obtain ⟨other, storedOther, alike⟩ := stored_of_content same stored
  exact ⟨uid, other, storedOther, (requiresExecutionContext_of_content alike).trans requires⟩

end Graphs

end Dnc
