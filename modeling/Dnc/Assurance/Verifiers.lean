/-
**Verifiers and the cascade.**

`dnc.assurance.contracts` and `dnc.assurance.registry`: what a verifier declares and answers, the
registry that stores verifiers by identifier, and the cascade that asks the candidates for a claim
one after the other, the cheapest first, until the policy is met.

A verifier is what it declares together with any answer it may give, an exception included; nothing
is asked of the answers. Costs are rationals. Every stored verifier is stored under the identifier
it declares (`runCalls_keyed`).
-/

import Dnc.Cognition.Contracts
import Dnc.Logic.Run
import Dnc.Logic.Sequence
import Dnc.PyLib.Dict
import Dnc.PyLib.Sorted
import Mathlib.Data.Prod.Lex

namespace Dnc.Assurance

open PyLib Logic
open Cognition (RiskClass)

inductive VerificationStatus where
  | pass | fail | indeterminate | inapplicable | error
deriving DecidableEq, Repr

structure VerifierClaimData where
  claimId : String
  targetId : String
  scope : String
  value : Json
  domain : String := "general"
  riskClass : RiskClass := .medium
  tenantId : String := "tenant-default"

/-- `VerifierClaim.__post_init__`. -/
def VerifierClaimData.violation (data : VerifierClaimData) : Option PyError :=
  if data.claimId = "" ∨ data.targetId = "" ∨ data.scope = "" ∨ data.domain = "" then
    some (.valueError "claim identity, target, scope, and domain MUST be non-empty")
  else if data.tenantId = "" then some (.valueError "tenant_id MUST be non-empty")
  else none

structure VerifierClaim extends VerifierClaimData where
  valid : toVerifierClaimData.violation = none

/-- `_risk_order`. -/
def riskOrder : RiskClass → Nat
  | .low => 1
  | .medium => 2
  | .high => 3
  | .critical => 4

structure VerifierDescriptorData where
  verifierId : String
  version : String
  scopes : Finset String
  domains : Finset String := {"general"}
  maximumRisk : RiskClass := .medium
  cost : ℚ := 0
  independenceGroup : String := "default"
  fingerprint : String := ""
  requiresHumanApproval : Bool := false

/-- `VerifierDescriptor.__post_init__`. -/
def VerifierDescriptorData.violation (data : VerifierDescriptorData) : Option PyError :=
  if data.verifierId = "" ∨ data.version = "" ∨ data.scopes = ∅ then
    some (.valueError "verifier identity, version, and scopes MUST be declared")
  else if data.cost < 0 then some (.valueError "verifier cost MUST be non-negative")
  else none

structure VerifierDescriptor extends VerifierDescriptorData where
  valid : toVerifierDescriptorData.violation = none

/-- `VerifierDescriptor.supports`. -/
def VerifierDescriptor.Supports (descriptor : VerifierDescriptor) (claim : VerifierClaim) : Prop :=
  claim.scope ∈ descriptor.scopes ∧
    (claim.domain ∈ descriptor.domains ∨ "*" ∈ descriptor.domains) ∧
    riskOrder claim.riskClass ≤ riskOrder descriptor.maximumRisk

instance (descriptor : VerifierDescriptor) (claim : VerifierClaim) :
    Decidable (descriptor.Supports claim) := inferInstanceAs (Decidable (_ ∧ (_ ∨ _) ∧ _))

structure VerifierResultData where
  resultId : String
  verifierId : String
  verifierVersion : String
  verifierFingerprint : String
  claimId : String
  targetId : String
  scope : String
  status : VerificationStatus
  independenceGroup : String
  tenantId : String
  checks : List String := []

/-- `VerifierResult.__post_init__`. -/
def VerifierResultData.violation (data : VerifierResultData) : Option PyError :=
  if data.resultId = "" ∨ data.verifierId = "" ∨ data.claimId = "" ∨ data.targetId = "" ∨
      data.scope = "" then
    some (.valueError "verification result identity and scope MUST be non-empty")
  else none

structure VerifierResult extends VerifierResultData where
  valid : toVerifierResultData.violation = none

structure Verifier where
  descriptor : VerifierDescriptor
  verify : VerifierClaim → Except PyError VerifierResult

/-! ### The registry -/

structure VerifierRegistry where
  verifiers : Dict String Verifier := ∅
  disabled : Finset String := ∅

namespace VerifierRegistry

/-- `VerifierRegistry.register`. -/
def register (registry : VerifierRegistry) (verifier : Verifier) : VerifierRegistry :=
  { registry with
    verifiers := registry.verifiers.set verifier.descriptor.verifierId verifier }

/-- `VerifierRegistry.get`. -/
def get (registry : VerifierRegistry) (verifierId : String) : Option Verifier :=
  registry.verifiers.get? verifierId

/-- `VerifierRegistry._require`. -/
def require (registry : VerifierRegistry) (verifierId : String) : Except PyError Verifier :=
  match registry.get verifierId with
  | none => .error (.keyError s!"unknown verifier: {verifierId}")
  | some verifier => .ok verifier

/-- `VerifierRegistry.disable`. -/
def disable (registry : VerifierRegistry) (verifierId : String) : Except PyError VerifierRegistry := do
  let _ ← registry.require verifierId
  return { registry with disabled := insert verifierId registry.disabled }

/-- `VerifierRegistry.enable`. -/
def enable (registry : VerifierRegistry) (verifierId : String) : Except PyError VerifierRegistry := do
  let _ ← registry.require verifierId
  return { registry with disabled := registry.disabled.erase verifierId }

/-- `VerifierRegistry.candidates`. -/
def candidates (registry : VerifierRegistry) (claim : VerifierClaim) : List Verifier :=
  (sortBy (fun item : Verifier => toLex (item.descriptor.cost, item.descriptor.verifierId))
    registry.verifiers.values).filter fun verifier =>
      verifier.descriptor.verifierId ∉ registry.disabled ∧ verifier.descriptor.Supports claim

end VerifierRegistry

/-- A call on the registry. -/
inductive VerifierCall where
  | register (verifier : Verifier)
  | disable (verifierId : String)
  | enable (verifierId : String)

/-- The registry after a call; one that raises leaves it as it was. -/
def VerifierCall.step (registry : VerifierRegistry) : VerifierCall → VerifierRegistry
  | .register verifier => registry.register verifier
  | .disable verifierId => (registry.disable verifierId).toOption.getD registry
  | .enable verifierId => (registry.enable verifierId).toOption.getD registry

/-- Every verifier is stored under the identifier it declares. -/
def VerifierRegistry.Keyed (registry : VerifierRegistry) : Prop :=
  ∀ verifierId verifier, registry.get verifierId = some verifier →
    verifier.descriptor.verifierId = verifierId

theorem VerifierRegistry.disable_verifiers {registry next : VerifierRegistry} {verifierId : String}
    (disabled : registry.disable verifierId = .ok next) : next.verifiers = registry.verifiers := by
  obtain ⟨_, -, same⟩ := bind_eq_ok.mp disabled
  rw [← Except.ok.inj same]

theorem VerifierRegistry.enable_verifiers {registry next : VerifierRegistry} {verifierId : String}
    (enabled : registry.enable verifierId = .ok next) : next.verifiers = registry.verifiers := by
  obtain ⟨_, -, same⟩ := bind_eq_ok.mp enabled
  rw [← Except.ok.inj same]

/-- Switching a verifier off or on stores nothing. -/
theorem VerifierCall.step_keyed {registry : VerifierRegistry} {call : VerifierCall}
    (keyed : registry.Keyed) : (call.step registry).Keyed := by
  cases call with
  | register verifier =>
    intro verifierId stored found
    rw [VerifierCall.step, VerifierRegistry.get, VerifierRegistry.register, Dict.get?_set] at found
    split_ifs at found with same
    · rw [← Option.some.inj found, same]
    · exact keyed verifierId stored found
  | disable verifierId =>
    rw [VerifierCall.step]
    cases disabled : registry.disable verifierId with
    | error error => exact keyed
    | ok next =>
      intro other stored found
      rw [Except.toOption, Option.getD_some, VerifierRegistry.get,
        VerifierRegistry.disable_verifiers disabled] at found
      exact keyed other stored found
  | enable verifierId =>
    rw [VerifierCall.step]
    cases enabled : registry.enable verifierId with
    | error error => exact keyed
    | ok next =>
      intro other stored found
      rw [Except.toOption, Option.getD_some, VerifierRegistry.get,
        VerifierRegistry.enable_verifiers enabled] at found
      exact keyed other stored found

/-- **Every run keeps the verifiers under their identifiers.** -/
theorem runCalls_keyed (calls : List VerifierCall) :
    (run VerifierCall.step {} calls).Keyed := by
  have empty : VerifierRegistry.Keyed {} := by
    intro verifierId verifier found
    cases found
  exact run_invariant (fun _ _ keyed => VerifierCall.step_keyed keyed) empty calls

/-! ### The cascade -/

structure CascadePolicyData where
  requiredPasses : Int := 1
  requiredIndependenceGroups : Int := 1
  maximumCost : Option ℚ := none
  stopOnFailure : Bool := true
  requireHumanApproval : Bool := false

/-- `CascadePolicy.__post_init__`. -/
def CascadePolicyData.violation (data : CascadePolicyData) : Option PyError :=
  if data.requiredPasses ≤ 0 ∨ data.requiredIndependenceGroups ≤ 0 then
    some (.valueError "cascade pass and independence requirements MUST be positive")
  else if ∃ maximum ∈ data.maximumCost, maximum < 0 then
    some (.valueError "maximum_cost MUST be non-negative")
  else none

structure CascadePolicy extends CascadePolicyData where
  valid : toCascadePolicyData.violation = none

structure CascadeResult where
  claim : VerifierClaim
  results : List VerifierResult
  satisfied : Bool
  totalCost : ℚ
  reason : String

/-- The answer is about the claim, and in the name of the verifier that was asked. -/
def Answers (descriptor : VerifierDescriptor) (claim : VerifierClaim) (result : VerifierResult) :
    Prop :=
  result.scope = claim.scope ∧ result.claimId = claim.claimId ∧ result.targetId = claim.targetId ∧
    result.tenantId = claim.tenantId ∧ result.verifierId = descriptor.verifierId ∧
    result.verifierVersion = descriptor.version ∧
    result.verifierFingerprint = descriptor.fingerprint ∧
    result.independenceGroup = descriptor.independenceGroup

instance (descriptor : VerifierDescriptor) (claim : VerifierClaim) (result : VerifierResult) :
    Decidable (Answers descriptor claim result) :=
  inferInstanceAs (Decidable (_ ∧ _ ∧ _ ∧ _ ∧ _ ∧ _ ∧ _ ∧ _))

/-- `passed`. -/
def passedResults (results : List VerifierResult) : List VerifierResult :=
  results.filter fun item => item.status = .pass

/-- `human_passed`: the first passing result of a verifier that needs a human decides. -/
def humanPassed (registry : VerifierRegistry) : List VerifierResult → Except PyError Bool
  | [] => .ok false
  | item :: rest =>
    if item.status = .pass then
      match registry.get item.verifierId with
      | none => .error (.attributeError "'NoneType' object has no attribute 'descriptor'")
      | some verifier =>
        if verifier.descriptor.requiresHumanApproval then .ok true else humanPassed registry rest
    else humanPassed registry rest

/-- The requirements of the policy, once it is known whether a human passed the claim. -/
def requirementsMet (policy : CascadePolicy) (results : List VerifierResult) (human : Bool) : Prop :=
  policy.requiredPasses ≤ (passedResults results).length ∧
    policy.requiredIndependenceGroups ≤
      (((passedResults results).map fun item => item.independenceGroup).toFinset.card : Int) ∧
    (policy.requireHumanApproval = false ∨ human = true)

instance (policy : CascadePolicy) (results : List VerifierResult) (human : Bool) :
    Decidable (requirementsMet policy results human) :=
  inferInstanceAs (Decidable (_ ∧ _ ∧ (_ ∨ _)))

variable (registry : VerifierRegistry) (claim : VerifierClaim) (policy : CascadePolicy)

/-- The loop over the candidates, with the results so far and what they cost. -/
def cascadeLoop : List Verifier → List VerifierResult → ℚ → Except PyError CascadeResult
  | [], results, totalCost =>
    .ok ⟨claim, results, false, totalCost, "assurance requirements unmet"⟩
  | verifier :: rest, results, totalCost =>
    if ∃ maximum ∈ policy.maximumCost, maximum < totalCost + verifier.descriptor.cost then
      cascadeLoop rest results totalCost
    else do
      let result ← verifier.verify claim
      if ¬ Answers verifier.descriptor claim result then
        .error (.dncVerificationError
          "verifier returned a result outside its declared identity or claim scope")
      else if result.status = .pass ∧ result.checks = [] then
        .error (.dncVerificationError "passing verifier result MUST declare performed checks")
      else
        let results := results ++ [result]
        let totalCost := totalCost + verifier.descriptor.cost
        if result.status = .fail ∧ policy.stopOnFailure = true then
          .ok ⟨claim, results, false, totalCost, "verification failed"⟩
        else do
          let human ← humanPassed registry results
          if requirementsMet policy results human then
            .ok ⟨claim, results, true, totalCost, "requirements satisfied"⟩
          else cascadeLoop rest results totalCost

/-- `VerifierCascade.run`. -/
def runCascade : Except PyError CascadeResult :=
  if registry.candidates claim = [] then
    .error (.dncVerificationError "no applicable verifier for claim scope and risk")
  else cascadeLoop registry claim policy (registry.candidates claim) [] 0

end Dnc.Assurance
