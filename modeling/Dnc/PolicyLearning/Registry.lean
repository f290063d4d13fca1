/-
**The registry of learned policies.**

`dnc.policy_learning.registry.LearnedPolicyRegistry`: the policy versions by fingerprint, the stage
each has reached, the evidence recorded for each, and the kill switch. A snapshot is a copy of the
three dictionaries with the switch, and any such copy is restored as it is.

A call that raises leaves the registry as it was. `promoteCanary_eq_ok` and `promoteActive_eq_ok`
say what a promotion that returns has found and has done.
-/

import Dnc.Cognition.Contracts
import Dnc.Logic.Sequence
import Dnc.PyLib.Dict
import Dnc.PyLib.Number
import Dnc.PyLib.Value

namespace Dnc.PolicyLearning

open PyLib Logic
open Cognition (RiskClass)

structure LearnedPolicyVersion (R : Type) where
  policyId : String
  version : String
  trainingDataHash : String
  modelHash : String
  maximumRisk : R
  maximumCost : R
  explorationEpsilon : R
  fingerprint : String

structure OPEEstimate (R : Type) where
  ips : R
  selfNormalizedIps : R
  doublyRobust : R
  effectiveSampleSize : R
  supportedFraction : R
  sensitivityRange : R × R

inductive PolicyLifecycle where
  | shadow | canary | active | rolledBack
deriving DecidableEq, Repr

structure PromotionEvidence (R : Type) where
  evidenceId : String
  policyFingerprint : String
  estimate : OPEEstimate R
  baselineValue : R
  calibrationError : R
  shadowGuardrailRegressions : Int
  lowerConfidenceBound : R

namespace PromotionEvidence

variable {R : Type} [FloatOps R]

/-- `max(estimators) - min(estimators)`. -/
def spread (evidence : PromotionEvidence R) : R :=
  let estimate := evidence.estimate
  pyMax (pyMax estimate.ips estimate.selfNormalizedIps) estimate.doublyRobust -
    pyMin (pyMin estimate.ips estimate.selfNormalizedIps) estimate.doublyRobust

/-- The evidence that `promote_canary` rejects. -/
def Insufficient (evidence : PromotionEvidence R) : Prop :=
  evidence.estimate.effectiveSampleSize < ((10 : Int) : R) ∨
    evidence.estimate.supportedFraction < 0.8 ∨ 0.1 < evidence.spread ∨
    evidence.lowerConfidenceBound ≤ evidence.baselineValue ∨
    0.05 < evidence.calibrationError ∨ evidence.shadowGuardrailRegressions ≠ 0

instance (evidence : PromotionEvidence R) : Decidable evidence.Insufficient :=
  inferInstanceAs (Decidable (_ ∨ _ ∨ _ ∨ _ ∨ _ ∨ _))

end PromotionEvidence

structure LearnedPolicyRegistry (R : Type) where
  policies : Dict String (LearnedPolicyVersion R) := ∅
  lifecycle : Dict String PolicyLifecycle := ∅
  evidence : Dict String (PromotionEvidence R) := ∅
  killSwitch : Bool := false

namespace LearnedPolicyRegistry

variable {R : Type}

/-- `LearnedPolicyRegistry.snapshot`: copies of the three dictionaries, and the switch. -/
def snapshot (registry : LearnedPolicyRegistry R) : LearnedPolicyRegistry R := registry

/-- `LearnedPolicyRegistry.restore`. -/
def restore (state : LearnedPolicyRegistry R) : LearnedPolicyRegistry R := state

/-! ### Promotion -/

/-- `LearnedPolicyRegistry.register`. -/
def register (registry : LearnedPolicyRegistry R) (policy : LearnedPolicyVersion R) :
    Except PyError (LearnedPolicyRegistry R) :=
  if policy.fingerprint ∈ registry.policies then
    .error (.valueError "learned policy version already registered")
  else
    .ok { registry with
      policies := registry.policies.set policy.fingerprint policy
      lifecycle := registry.lifecycle.set policy.fingerprint .shadow }

/-- `LearnedPolicyRegistry.record_evidence`. -/
def recordEvidence (registry : LearnedPolicyRegistry R) (evidence : PromotionEvidence R) :
    Except PyError (LearnedPolicyRegistry R) :=
  if evidence.policyFingerprint ∉ registry.policies then
    .error (.keyError "promotion evidence references unknown policy")
  else
    .ok { registry with evidence := registry.evidence.set evidence.policyFingerprint evidence }

/-- `LearnedPolicyRegistry._require_evidence`. -/
def requireEvidence (registry : LearnedPolicyRegistry R) (fingerprint : String) :
    Except PyError (PromotionEvidence R) :=
  if registry.lifecycle.get? fingerprint ≠ some .shadow then
    .error (.valueError "policy must be in shadow before canary")
  else
    match registry.evidence.get? fingerprint with
    | none => .error (.valueError "promotion evidence is required")
    | some evidence => .ok evidence

/-- The stage of a policy when another one becomes active. -/
def displaced : PolicyLifecycle → PolicyLifecycle
  | .active => .rolledBack
  | lifecycle => lifecycle

/-- `LearnedPolicyRegistry.promote_active`. -/
def promoteActive (registry : LearnedPolicyRegistry R) (fingerprint : String) :
    Except PyError (LearnedPolicyRegistry R) :=
  if registry.killSwitch = true ∨ registry.lifecycle.get? fingerprint ≠ some .canary then
    .error (.valueError "only enabled canary policy can become active")
  else
    .ok { registry with
      lifecycle := (registry.lifecycle.mapValues displaced).set fingerprint .active }

/-- What an activation that returns has found, and what it has done. -/
theorem promoteActive_eq_ok {registry next : LearnedPolicyRegistry R} {fingerprint : String}
    (promoted : registry.promoteActive fingerprint = .ok next) :
    registry.lifecycle.get? fingerprint = some .canary ∧
      next = { registry with
        lifecycle := (registry.lifecycle.mapValues displaced).set fingerprint .active } := by
  unfold promoteActive at promoted
  split_ifs at promoted with refused
  rw [not_or, not_not] at refused
  cases promoted
  exact ⟨refused.2, rfl⟩

/-- `LearnedPolicyRegistry.can_execute`. -/
def canExecute (registry : LearnedPolicyRegistry R) (fingerprint : String) (riskClass : RiskClass) :
    Bool :=
  !registry.killSwitch && riskClass = .low &&
    (registry.lifecycle.get? fingerprint = some .canary ||
      registry.lifecycle.get? fingerprint = some .active)

/-- `LearnedPolicyRegistry.rollback`. -/
def rollback (registry : LearnedPolicyRegistry R) (fingerprint : String) :
    Except PyError (LearnedPolicyRegistry R) :=
  if fingerprint ∉ registry.policies then .error (.keyError "unknown learned policy")
  else .ok { registry with lifecycle := registry.lifecycle.set fingerprint .rolledBack }

/-! ### Admission to canary -/

variable [FloatOps R]

/-- `LearnedPolicyRegistry.promote_canary`. -/
def promoteCanary (registry : LearnedPolicyRegistry R) (fingerprint : String) :
    Except PyError (LearnedPolicyRegistry R) := do
  let evidence ← registry.requireEvidence fingerprint
  if evidence.Insufficient then
    .error (.valueError "learned policy promotion evidence is insufficient or discordant")
  else
    .ok { registry with lifecycle := registry.lifecycle.set fingerprint .canary }

/-- What a canary promotion that returns has found, and what it has done. -/
theorem promoteCanary_eq_ok {registry next : LearnedPolicyRegistry R} {fingerprint : String}
    (promoted : registry.promoteCanary fingerprint = .ok next) :
    ∃ evidence, registry.lifecycle.get? fingerprint = some .shadow ∧
      registry.evidence.get? fingerprint = some evidence ∧ ¬evidence.Insufficient ∧
      next = { registry with lifecycle := registry.lifecycle.set fingerprint .canary } := by
  obtain ⟨evidence, found, rest⟩ := bind_eq_ok.mp promoted
  unfold requireEvidence at found
  split_ifs at found with unready
  have shadow : registry.lifecycle.get? fingerprint = some .shadow := not_not.mp unready
  cases stored : registry.evidence.get? fingerprint with
  | none =>
    rw [stored] at found
    cases found
  | some other =>
    rw [stored] at found
    cases found
    split_ifs at rest with short
    cases rest
    exact ⟨evidence, shadow, rfl, short, rfl⟩

end LearnedPolicyRegistry

end Dnc.PolicyLearning
