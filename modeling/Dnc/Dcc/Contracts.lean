/-
**Proposals, authorizations and assessments.**

`dnc.dcc.dcc_contracts`: the generator proposes operations on a graph with what it expects of them,
and the controller answers with an authorization that names a proposal by its identifier. The
prediction record is what the tracker of `dnc.dcc.learning_engine` keeps of an authorized proposal.

`dnc.dcc.assessment_engine`: what the execution of an authorized proposal was found to be worth. A
cycle reads an assessment; how one is made is up to the execution core and is a parameter of the
cycles.
-/

import Dnc.Ir.Operations
import Dnc.PyLib.Number

namespace Dnc

open PyLib

structure MutationProposal (R : Type) where
  proposalId : String
  targetGraphId : String
  candidateOperations : List IROperation
  rationale : String := ""
  expectedUtility : R
  estimatedCost : R
  riskAssessment : String := "MEDIUM"
deriving DecidableEq

structure AuthorizationDecision where
  proposalId : String
  authorized : Bool
  rejectionReason : Option String := none
  conditions : List String := []
deriving DecidableEq, Repr

structure PredictionRecord (R : Type) where
  proposalId : String
  predictedUtility : R
  predictedCost : R
  predictedRisk : String
  timestamp : Nat := 0
deriving DecidableEq

structure PredictionTracker where
  predictionCounter : Nat := 0
deriving DecidableEq, Repr

/-- `PredictionTracker.record_prediction`; the decision is passed and not read. -/
def PredictionTracker.recordPrediction {R : Type} (tracker : PredictionTracker)
    (proposal : MutationProposal R) (_decision : AuthorizationDecision) :
    PredictionRecord R × PredictionTracker :=
  let tracker : PredictionTracker := ⟨tracker.predictionCounter + 1⟩
  ({ proposalId := proposal.proposalId
     predictedUtility := proposal.expectedUtility
     predictedCost := proposal.estimatedCost
     predictedRisk := proposal.riskAssessment
     timestamp := tracker.predictionCounter }, tracker)

/-! ### Assessments -/

structure ExecutionResult where
  graphId : String
  graphVersion : String
  success : Bool := true
deriving DecidableEq, Repr

structure Assessment (R : Type) where
  assessmentId : String
  proposalId : String
  graphBefore : String
  graphAfter : String
  executionResult : Option ExecutionResult
  preTransactionUtilityEstimate : R
  postExecutionUtilityMeasured : R
  improvementDelta : R
  costActual : R
  riskActual : String := "LOW"
  alignmentScore : R
deriving DecidableEq

end Dnc
