/-
**Decision policies.**

`dnc.execution.decision_policy`: what a policy is to the runtime, and the reference policy. A policy
is its methods over a state `π`; it reads the execution state and leaves it alone.
-/

import Dnc.PyLib.Data
import Dnc.State.ExecutionState

namespace Dnc.Runtime

open PyLib

/-- `decision_policy.Decision`; `proceed` is CONTINUE. -/
inductive PolicyDecision where
  | proceed | replan | pause | terminate | rollback
deriving DecidableEq

/-- The dictionary that the runtime passes to a policy, with the key `failure_detected` where a
caller adds it. -/
structure PolicyObservation (R : Type) where
  signals : List PyData
  timestamp : R
  failureDetected : Bool := false

/-- A policy without `set_critical_section` leaves its state there. -/
structure DecisionPolicy (R α π : Type) where
  decide : π → PolicyObservation R → ExecutionState R α → PolicyDecision × π
  setCriticalSection : π → Bool → π

/-! ### The reference policy -/

/-- The fields of `RulePolicy` that its decisions read. -/
structure RulePolicy (R : Type) where
  maxReplans : Int
  resourceThreshold : R
  replanCooldownSteps : Int
  replanCount : Int
  lastReplanStep : Int
  criticalSection : Bool

namespace RulePolicy

variable {R α : Type} [PyFloat R]

/-- `RulePolicy(max_replans)`. -/
def new (maxReplans : Int) : RulePolicy R where
  maxReplans := maxReplans
  resourceThreshold := 0.1
  replanCooldownSteps := 3
  replanCount := 0
  lastReplanStep := -1
  criticalSection := false

variable (policy : RulePolicy R) (observation : PolicyObservation R) (es : ExecutionState R α)

/-- `RulePolicy.can_replan`, once the policy has seen a state. -/
def canReplan : Bool :=
  if policy.criticalSection then false
  else if policy.maxReplans ≤ policy.replanCount then false
  else if 0 ≤ policy.lastReplanStep ∧
      (es.stepIndex : Int) - policy.lastReplanStep < policy.replanCooldownSteps then false
  else true

/-- `RulePolicy._is_resource_exhausted`. -/
def isResourceExhausted : Bool := decide (es.budgetRemaining < policy.resourceThreshold)

/-- `RulePolicy._is_all_modules_complete`. -/
def isAllModulesComplete : Bool := decide (es.pendingCount = 0)

/-- `RulePolicy._apply_rules`; `_is_step_deadline_missed` is never true. -/
def applyRules : PolicyDecision :=
  if policy.criticalSection then .proceed
  else if policy.maxReplans ≤ policy.replanCount then .terminate
  else if policy.isResourceExhausted es ∧ policy.canReplan es then .replan
  else if observation.failureDetected then
    if policy.canReplan es then .replan else .rollback
  else if isAllModulesComplete es then .terminate
  else .proceed

/-- `RulePolicy.decide`. -/
def decide : PolicyDecision × RulePolicy R :=
  let decision := policy.applyRules observation es
  if decision = .replan then
    (decision, { policy with
      replanCount := policy.replanCount + 1
      lastReplanStep := es.stepIndex })
  else (decision, policy)

/-- `RulePolicy.set_critical_section`. -/
def setCriticalSection (active : Bool) : RulePolicy R := { policy with criticalSection := active }

end RulePolicy

/-- The methods of `RulePolicy`. -/
def rulePolicy {R α : Type} [PyFloat R] : DecisionPolicy R α (RulePolicy R) where
  decide := RulePolicy.decide
  setCriticalSection := RulePolicy.setCriticalSection

/-- **A policy that has room to replan and sees no trouble** ends the run when everything is
complete, and goes on until then. -/
theorem RulePolicy.decide_quiet {R α : Type} [PyFloat R] {policy : RulePolicy R}
    {observation : PolicyObservation R} {es : ExecutionState R α}
    (calm : policy.criticalSection = false) (room : policy.replanCount < policy.maxReplans)
    (funded : policy.resourceThreshold ≤ es.budgetRemaining)
    (healthy : observation.failureDetected = false) :
    policy.decide observation es =
      (if es.pendingCount = 0 then .terminate else .proceed, policy) := by
  have rules : policy.applyRules observation es =
      if es.pendingCount = 0 then .terminate else .proceed := by
    simp [applyRules, calm, not_le.mpr room, isResourceExhausted, not_lt.mpr funded, healthy,
      isAllModulesComplete]
  unfold decide
  rw [rules]
  by_cases done : es.pendingCount = 0
  · rw [if_pos done]
    rfl
  · rw [if_neg done]
    rfl

/-- In a critical section the policy goes on. -/
theorem RulePolicy.decide_critical {R α : Type} [PyFloat R] {policy : RulePolicy R}
    {observation : PolicyObservation R} {es : ExecutionState R α}
    (critical : policy.criticalSection = true) :
    policy.decide observation es = (.proceed, policy) := by
  have rules : policy.applyRules observation es = .proceed := by
    unfold applyRules
    rw [if_pos critical]
  unfold decide
  rw [rules]
  rfl

end Dnc.Runtime
