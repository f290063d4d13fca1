/-
**Confidence and risk thresholds.**

The confidence estimate of `dnc.cognition.contracts` as far as its own check and the halting policies
read it, and the threshold policy of `dnc.assurance.policy`: a threshold for every risk class, not
decreasing with the risk.
-/

import Dnc.Cognition.Contracts
import Dnc.PyLib.Dict
import Dnc.PyLib.Number

namespace Dnc.Assurance

open PyLib Cognition

section Confidence

variable {R : Type} [PyFloat R]

structure ConfidenceEstimateData (R : Type) where
  estimateId : String
  targetId : String
  targetType : String
  pCorrect : Option R := none
  failureProbability : Option R := none
  lowerBound : Option R := none
  upperBound : Option R := none
  sampleCount : Int := 0
  semanticClusterCount : Int := 0
  applicabilityStatus : String := "unavailable"

/-- The four numeric fields, by name. -/
def ConfidenceEstimateData.numeric (data : ConfidenceEstimateData R) : List (String × Option R) := [
  ("p_correct", data.pCorrect), ("failure_probability", data.failureProbability),
  ("lower_bound", data.lowerBound), ("upper_bound", data.upperBound)]

/-- A number outside of `[0, 1]`. -/
def outsideUnit (value : Option R) : Bool :=
  match value with
  | none => false
  | some value => !(decide (0.0 ≤ value) && decide (value ≤ 1.0))

/-- `ConfidenceEstimate.__post_init__`. -/
def ConfidenceEstimateData.violation (data : ConfidenceEstimateData R) : Option PyError :=
  if data.estimateId = "" ∨ data.targetId = "" ∨ data.targetType = "" then
    some (.valueError "confidence estimate IDs MUST be non-empty")
  else
    match data.numeric.find? fun field => outsideUnit field.2 with
    | some field => some (.valueError s!"{field.1} MUST be between 0 and 1")
    | none =>
      if (data.numeric.any fun field => field.2.isSome) ∧
          data.applicabilityStatus ≠ "calibrated" ∧ data.applicabilityStatus ≠ "extrapolated" then
        some (.valueError "numeric confidence requires applicable calibration evidence")
      else if data.sampleCount < 0 ∨ data.semanticClusterCount < 0 then
        some (.valueError "confidence sample and cluster counts MUST be non-negative")
      else none

variable (R) in
structure ConfidenceEstimate extends ConfidenceEstimateData R where
  valid : toConfidenceEstimateData.violation = none

structure RiskThresholdPolicyData (R : Type) where
  policyId : String
  version : String
  domain : String
  thresholds : Dict RiskClass R
  approvedBy : String
  humanApprovalRef : String

/-- `RiskThresholdPolicy.__post_init__`. -/
def RiskThresholdPolicyData.violation (data : RiskThresholdPolicyData R) : Option PyError :=
  if data.policyId = "" ∨ data.version = "" ∨ data.domain = "" ∨ data.approvedBy = "" ∨
      data.humanApprovalRef = "" then
    some (.dncPolicyError "risk threshold policy requires human approval provenance")
  else if ∃ risk ∈ PyEnum.members (α := RiskClass), risk ∉ data.thresholds then
    some (.dncPolicyError "risk threshold policy MUST cover every risk class")
  else if ∃ threshold ∈ data.thresholds.values,
      ¬ (((0 : Int) : R) ≤ threshold ∧ threshold ≤ ((1 : Int) : R)) then
    some (.dncPolicyError "risk thresholds MUST be between 0 and 1")
  else
    let ordered := (PyEnum.members (α := RiskClass)).filterMap data.thresholds.get?
    if ordered ≠ sortBy id ordered then
      some (.dncPolicyError "risk thresholds MUST be non-decreasing with risk class")
    else none

variable (R) in
structure RiskThresholdPolicy extends RiskThresholdPolicyData R where
  valid : toRiskThresholdPolicyData.violation = none

/-- `RiskThresholdPolicy.threshold_for`. -/
def RiskThresholdPolicy.thresholdFor (policy : RiskThresholdPolicy R) (riskClass : RiskClass)
    (domain : String) : Except PyError R :=
  if domain ≠ policy.domain ∧ policy.domain ≠ "*" then
    .error (.dncPolicyError "risk policy is inapplicable to domain")
  else
    match policy.thresholds.get? riskClass with
    | none => .error (.keyError (PyEnum.display riskClass))
    | some threshold => .ok threshold

end Confidence

end Dnc.Assurance
