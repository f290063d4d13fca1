/-
**Logged decisions and predictions.**

`dnc.policy_learning.contracts` and `TabularShadowPredictor.predict`: a decision as it was logged,
with the candidates it chose from, and a table of predictions with one for everything else.
-/

import Dnc.PyLib.Dict
import Dnc.PyLib.Number
import Dnc.PyLib.Value

namespace Dnc.PolicyLearning

open PyLib

section Contracts

variable {R : Type} [PyFloat R]

structure LoggedCandidateData (R : Type) where
  actionId : String
  propensity : R
  predictedCost : R
  predictedRisk : R

/-- `LoggedCandidate.__post_init__`. -/
def LoggedCandidateData.violation (data : LoggedCandidateData R) : Option PyError :=
  if data.actionId = "" ∨ ¬ (((0 : Int) : R) < data.propensity ∧ data.propensity ≤ ((1 : Int) : R))
  then
    some (.valueError "candidate action and propensity MUST be valid")
  else if data.predictedCost < ((0 : Int) : R) ∨
      ¬ (((0 : Int) : R) ≤ data.predictedRisk ∧ data.predictedRisk ≤ ((1 : Int) : R)) then
    some (.valueError "candidate cost/risk MUST be bounded")
  else none

variable (R) in
structure LoggedCandidate extends LoggedCandidateData R where
  valid : toLoggedCandidateData.violation = none

/-- A logged action had a chance. -/
theorem LoggedCandidate.propensity_pos (candidate : LoggedCandidate R) :
    ((0 : Int) : R) < candidate.propensity := by
  have valid := candidate.valid
  unfold LoggedCandidateData.violation at valid
  split_ifs at valid with unlikely
  exact (not_not.mp (not_or.mp unlikely).2).1

variable (R) in
structure DecisionExample where
  decisionId : String
  contextKey : String
  candidates : List (LoggedCandidate R)
  selectedActionId : String
  outcome : Option R
  delayedCorrection : Option R := none
  censored : Bool := false

/-- `DecisionExample.selected`. -/
def DecisionExample.selected (logged : DecisionExample R) : Except PyError (LoggedCandidate R) :=
  match logged.candidates.find? fun item => item.actionId = logged.selectedActionId with
  | none => .error (.stopIteration "")
  | some candidate => .ok candidate

/-- `DecisionExample.corrected_outcome`. -/
def DecisionExample.correctedOutcome (logged : DecisionExample R) : Option R :=
  match logged.delayedCorrection with
  | some correction => some correction
  | none => logged.outcome

structure Prediction (R : Type) where
  outcome : R
  cost : R
  risk : R

variable (R) in
structure TabularShadowPredictor where
  predictions : Dict (String × String) (Prediction R) := ∅
  global : Prediction R := ⟨0.0, 0.0, 1.0⟩

/-- `TabularShadowPredictor.predict`. -/
def TabularShadowPredictor.predict (predictor : TabularShadowPredictor R)
    (contextKey actionId : String) : Prediction R :=
  (predictor.predictions.get? (contextKey, actionId)).getD predictor.global

structure PolicyDecision (R : Type) where
  actionId : String
  propensities : Dict String R
  usedLearnedPolicy : Bool
  reasonCodes : List String

end Contracts

end Dnc.PolicyLearning
