/-
**The reference controller.**

`dnc.cognition.controller`: what to do next (`proposeNext`), whether that is authorized
(`CognitiveAuthorizationKernel.authorize`) and when the task is over (`halt`). All three ask
`_can_stop`, which compares the risk of the answer with the threshold of a calibration profile.

`EvidenceRef` has no field `verifier`, so that `has_mandatory_verification` raises AttributeError on
a state with one (`Unreadable`); only the question of stopping is answered by this error.

* `StopsWith`: what `_can_stop` asks of a state.
* `controller_agrees`: the proposal, its authorization and the halting decision are of one mind in
  every state, and each raises exactly where the question of stopping comes up in an unreadable
  state.
* `halting_run`: after any run of operations, whether to stop is decided by the answer of the first
  state, the claims and the evidence of it and those that the run has accepted.
-/

import Dnc.Cognition.EventLog
import Dnc.Control.Contracts

namespace Dnc.Cognition

open PyLib Logic Capabilities Control

/-! ### Calibration profiles -/

structure CalibrationProfileData where
  profileId : String
  domain : String
  policyVersion : String
  riskThresholds : Dict RiskClass PyNumber
  evidenceSummary : String := ""
  capabilityFingerprint : Option String := none

/-- `CalibrationProfile.__post_init__`. -/
def CalibrationProfileData.violation (data : CalibrationProfileData) : Option PyError :=
  if data.profileId = "" then some (.valueError "profile_id MUST be non-empty")
  else if data.domain = "" then some (.valueError "domain MUST be non-empty")
  else if data.policyVersion = "" then some (.valueError "policy_version MUST be non-empty")
  else if ∃ riskClass ∈ PyEnum.members (α := RiskClass), riskClass ∉ data.riskThresholds then
    some (.valueError "risk_thresholds MUST include every RiskClass")
  else if ∃ threshold ∈ data.riskThresholds.values,
      ¬ (0 ≤ threshold.value ∧ threshold.value ≤ 1) then
    some (.valueError "risk thresholds MUST be between 0 and 1")
  else none

structure CalibrationProfile extends CalibrationProfileData where
  valid : toCalibrationProfileData.violation = none

theorem CalibrationProfile.complete (profile : CalibrationProfile) (riskClass : RiskClass) :
    ∃ threshold, profile.riskThresholds.get? riskClass = some threshold := by
  have valid := profile.valid
  unfold CalibrationProfileData.violation at valid
  split_ifs at valid with _ _ _ missing
  by_contra unknown
  refine missing ⟨riskClass, PyEnum.complete riskClass, fun listed => unknown ?_⟩
  exact Dict.mem_iff_get?.mp listed

/-- `CalibrationProfile.threshold_for`. -/
def CalibrationProfile.thresholdFor (profile : CalibrationProfile) (riskClass : RiskClass) :
    Except PyError PyNumber :=
  match profile.riskThresholds.get? riskClass with
  | some threshold => .ok threshold
  | none => .error (.keyError (PyEnum.display riskClass))

/-! ### Proposals and decisions -/

/-- The constructor call of `CognitiveProposal`. -/
def makeProposal : CognitiveProposalData ℚ → Except PyError (CognitiveProposal ℚ) :=
  construct CognitiveProposalData.violation CognitiveProposal.mk

structure CognitiveDecisionData where
  proposalId : String
  authorized : Bool
  selected : Bool := false
  rejectionReason : Option String := none
  conditions : List String := []
  auditRecordId : Option String := none

/-- `CognitiveDecision.__post_init__`. -/
def CognitiveDecisionData.violation (data : CognitiveDecisionData) : Option PyError :=
  if data.proposalId = "" then some (.valueError "proposal_id MUST be non-empty")
  else if data.selected ∧ ¬ data.authorized then
    some (.valueError "selected cognitive decisions MUST be authorized")
  else none

structure CognitiveDecision extends CognitiveDecisionData where
  valid : toCognitiveDecisionData.violation = none

/-- The constructor call. -/
def CognitiveDecision.ofData : CognitiveDecisionData → Except PyError CognitiveDecision :=
  construct CognitiveDecisionData.violation CognitiveDecision.mk

inductive HaltingDecisionType where
  | stop | continue | abstain | ask | verify | repair | escalate
deriving DecidableEq, Repr

structure HaltingDecisionData where
  taskId : String
  decision : HaltingDecisionType
  answerStateId : Option String
  calibratedRisk : Option PyNumber
  evidenceIds : List String
  unresolvedContradictions : List String := []
  missingInformation : List String := []
  marginalValueEstimate : Option PyNumber := none
  rationale : String := ""

/-- What `HaltingDecision.__post_init__` asks of a decision to stop. -/
def HaltingDecisionData.stopViolation (data : HaltingDecisionData) : Option PyError :=
  if data.answerStateId = none then
    some (.valueError "STOP decisions MUST identify an answer_state_id")
  else if data.calibratedRisk = none then
    some (.valueError "STOP decisions MUST include calibrated_risk")
  else if data.unresolvedContradictions ≠ [] then
    some (.valueError "STOP decisions MUST NOT have unresolved contradictions")
  else if data.missingInformation ≠ [] then
    some (.valueError "STOP decisions MUST NOT have missing information")
  else none

/-- `HaltingDecision.__post_init__`. -/
def HaltingDecisionData.violation (data : HaltingDecisionData) : Option PyError :=
  if data.taskId = "" then some (.valueError "task_id MUST be non-empty")
  else
    ((unitViolation "calibrated_risk" data.calibratedRisk).or
      (negativeViolation "marginal_value_estimate MUST be non-negative"
        data.marginalValueEstimate)).or
      (if data.decision = .stop then data.stopViolation else none)

structure HaltingDecision extends HaltingDecisionData where
  valid : toHaltingDecisionData.violation = none

/-- The constructor call. -/
def HaltingDecision.ofData : HaltingDecisionData → Except PyError HaltingDecision :=
  construct HaltingDecisionData.violation HaltingDecision.mk

/-! ### When to stop -/

namespace CognitiveState

/-- `CognitiveState.unresolved_contradictions`. -/
def unresolvedContradictions (state : CognitiveState) : List String :=
  (state.epistemicItems.filter fun item => item.status = .conflict).map fun item => item.itemId

/-- `CognitiveState.evidence_ids`. -/
def evidenceIds (state : CognitiveState) : List String := state.evidence.map Evidence.evidenceId

/-- `item.verifier`. -/
def verifierOf : Evidence → Except PyError (Option String)
  | .item evidence => .ok evidence.verifier
  | .ref _ => .error (.attributeError "'EvidenceRef' object has no attribute 'verifier'")

/-- `CognitiveState.has_mandatory_verification`. -/
def hasMandatoryVerification (state : CognitiveState) : Except PyError Bool :=
  if state.task.goal.mandatoryVerification = [] then .ok true
  else if state.verifiedAnswer = false then .ok false
  else do
    let verifiers ← state.evidence.mapM verifierOf
    return state.task.goal.mandatoryVerification.all fun verifier => some verifier ∈ verifiers

/-- `_can_stop`. -/
def canStop (state : CognitiveState) (calibration : CalibrationProfile) : Except PyError Bool := do
  if state.answerStateId = none then return false
  if !(← state.hasMandatoryVerification) then return false
  if state.unresolvedContradictions ≠ [] ∨ state.missingInformation ≠ [] then return false
  match state.calibratedRisk with
  | none => return false
  | some risk =>
    let threshold ← calibration.thresholdFor state.task.policy.riskClass
    if threshold.value < risk.value then return false
    return !state.marginalValueEstimate.any fun value => 0 < value.value

end CognitiveState

/-! ### The controller -/

structure CognitiveAuthorizationKernel where
  calibration : CalibrationProfile

namespace CognitiveAuthorizationKernel

/-- `RISK_ORDER`. -/
def riskOrder : RiskClass → Nat
  | .low => 1
  | .medium => 2
  | .high => 3
  | .critical => 4

/-- A decision against a proposal. -/
def rejected (proposal : CognitiveProposal ℚ) (reason : String) :
    Except PyError CognitiveDecision :=
  CognitiveDecision.ofData {
    proposalId := proposal.proposalId
    authorized := false
    rejectionReason := some reason }

/-- `CognitiveAuthorizationKernel.authorize`. -/
def authorize (kernel : CognitiveAuthorizationKernel)
    (proposal : CognitiveProposal ℚ) (state : CognitiveState) : Except PyError CognitiveDecision :=
  let granted := CognitiveDecision.ofData { proposalId := proposal.proposalId, authorized := true }
  if proposal.taskId ≠ state.task.taskId then
    rejected proposal "proposal task_id does not match cognitive state"
  else if riskOrder state.task.policy.riskClass < riskOrder proposal.risk then
    rejected proposal "proposal risk exceeds task policy risk class"
  else if proposal.actionType = .stop then do
    if ← state.canStop kernel.calibration then granted
    else rejected proposal "STOP preconditions are not satisfied"
  else granted

end CognitiveAuthorizationKernel

/-- The controller, with the authorization that its constructor was given or has filled in. -/
structure ReferenceCognitiveController where
  calibration : CalibrationProfile
  authorization : CognitiveAuthorizationKernel := ⟨calibration⟩

namespace ReferenceCognitiveController

/-- A proposal about the task of the state, at the risk of its policy. -/
def proposal (state : CognitiveState) (suffix : String) (actionType : CognitiveActionType)
    (rationale : String) (evidenceRequirements : List String := []) :
    Except PyError (CognitiveProposal ℚ) :=
  makeProposal {
    proposalId := s!"{state.task.taskId}:{suffix}"
    taskId := state.task.taskId
    actionType
    rationale
    evidenceRequirements
    risk := state.task.policy.riskClass }

/-- `ReferenceCognitiveController.propose_next`. -/
def proposeNext (controller : ReferenceCognitiveController) (state : CognitiveState) :
    Except PyError (CognitiveProposal ℚ) :=
  if state.unresolvedContradictions ≠ [] then
    proposal state "verify-conflict" .verify
      "unresolved contradictions require verification before stopping"
      state.unresolvedContradictions
  else if state.missingInformation ≠ [] then
    proposal state "ask-missing-info" .ask
      "missing information dominates further internal reasoning" state.missingInformation
  else do
    if ← state.canStop controller.calibration then
      proposal state "stop" .stop
        "answer risk, verification, and information requirements are satisfied"
    else if state.answerStateId ≠ none then
      proposal state "verify-answer" .verify "answer exists but stopping evidence is insufficient"
    else proposal state "reason" .reason "no answer state exists yet"

/-- `ReferenceCognitiveController.decide_next`. -/
def decideNext (controller : ReferenceCognitiveController) (state : CognitiveState) :
    Except PyError CognitiveDecision := do
  let proposal ← controller.proposeNext state
  let decision ← controller.authorization.authorize proposal state
  if decision.authorized = false then return decision
  CognitiveDecision.ofData {
    proposalId := proposal.proposalId
    authorized := true
    selected := true }

/-- A halting decision about the task of the state. -/
def halting (state : CognitiveState) (decision : HaltingDecisionType) (rationale : String)
    (unresolvedContradictions missingInformation : List String := []) :
    Except PyError HaltingDecision :=
  HaltingDecision.ofData {
    taskId := state.task.taskId
    decision
    answerStateId := state.answerStateId
    calibratedRisk := state.calibratedRisk
    evidenceIds := state.evidenceIds
    unresolvedContradictions
    missingInformation
    marginalValueEstimate := state.marginalValueEstimate
    rationale }

/-- `ReferenceCognitiveController.halt`. -/
def halt (controller : ReferenceCognitiveController) (state : CognitiveState) :
    Except PyError HaltingDecision := do
  if ← state.canStop controller.calibration then
    halting state .stop "risk and verification policy satisfied"
  else if state.unresolvedContradictions ≠ [] then
    halting state .verify "contradictions remain unresolved" state.unresolvedContradictions
      state.missingInformation
  else if state.missingInformation ≠ [] then
    halting state .ask "missing information remains" [] state.missingInformation
  else halting state .verify "stopping preconditions are not yet satisfied"

end ReferenceCognitiveController

/-! ### What stopping asks -/

/-- A claim that keeps a task from stopping. -/
def EpistemicStatus.Blocks (status : EpistemicStatus) : Prop :=
  status = .conflict ∨ status = .unknown ∨ status = .capabilityLimit

/-- What a state says of its answer. -/
structure Answer where
  task : TaskSpec
  answerStateId : Option String
  verifiedAnswer : Bool
  calibratedRisk : Option PyNumber
  marginalValueEstimate : Option PyNumber

/-- The answer of a state. -/
abbrev CognitiveState.answer (state : CognitiveState) : Answer where
  task := state.task
  answerStateId := state.answerStateId
  verifiedAnswer := state.verifiedAnswer
  calibratedRisk := state.calibratedRisk
  marginalValueEstimate := state.marginalValueEstimate

/-- The question of stopping raises: it asks a reference for its verifier. -/
structure Unreadable (answer : Answer) (evidence : List Evidence) : Prop where
  answered : answer.answerStateId ≠ none
  mandatory : answer.task.goal.mandatoryVerification ≠ []
  verified : answer.verifiedAnswer = true
  reference : ∃ item, Evidence.ref item ∈ evidence

/-- **What `_can_stop` asks** of an answer, the statuses of the claims and the evidence. -/
structure StopsWith (calibration : CalibrationProfile) (answer : Answer)
    (statuses : List EpistemicStatus) (evidence : List Evidence) : Prop where
  readable : ¬ Unreadable answer evidence
  answered : answer.answerStateId ≠ none
  verified : answer.task.goal.mandatoryVerification = [] ∨
    answer.verifiedAnswer = true ∧ ∀ verifier ∈ answer.task.goal.mandatoryVerification,
      ∃ item ∈ evidence, CognitiveState.verifierOf item = .ok (some verifier)
  clear : ∀ status ∈ statuses, ¬ status.Blocks
  acceptable : ∃ risk threshold, answer.calibratedRisk = some risk ∧
    calibration.riskThresholds.get? answer.task.policy.riskClass = some threshold ∧
    risk.value ≤ threshold.value
  settled : ∀ value, answer.marginalValueEstimate = some value → value.value ≤ 0

namespace CognitiveState

variable {state : CognitiveState} {calibration : CalibrationProfile}

/-- The statuses of the claims. -/
def statuses (state : CognitiveState) : List EpistemicStatus :=
  state.epistemicItems.map fun item => item.status

theorem clear_iff : (state.unresolvedContradictions = [] ∧ state.missingInformation = []) ↔
    ∀ status ∈ state.statuses, ¬ status.Blocks := by
  unfold unresolvedContradictions missingInformation statuses
  simp only [List.map_eq_nil_iff, List.filter_eq_nil_iff, List.forall_mem_map, decide_eq_true_iff,
    List.mem_cons, List.not_mem_nil, or_false]
  constructor
  · rintro ⟨noConflict, nothingMissing⟩ item member (conflict | missing)
    · exact noConflict item member conflict
    · exact nothingMissing item member missing
  · exact fun clear => ⟨fun item member conflict => clear item member (Or.inl conflict),
      fun item member missing => clear item member (Or.inr missing)⟩

theorem thresholdFor_eq_ok {profile : CalibrationProfile} {riskClass : RiskClass}
    {threshold : PyNumber} : profile.thresholdFor riskClass = .ok threshold ↔
      profile.riskThresholds.get? riskClass = some threshold := by
  unfold CalibrationProfile.thresholdFor
  obtain ⟨known, found⟩ := profile.complete riskClass
  rw [found, Except.ok.injEq, Option.some.injEq]

/-- The verifiers of the evidence, if no reference is asked for one. -/
theorem mapM_verifierOf (evidence : List Evidence) :
    (∃ item, Evidence.ref item ∈ evidence) ∧ (∃ error, evidence.mapM verifierOf = .error error) ∨
      (¬ ∃ item, Evidence.ref item ∈ evidence) ∧ ∃ verifiers,
        evidence.mapM verifierOf = .ok verifiers ∧
        ∀ verifier, verifier ∈ verifiers ↔ ∃ item ∈ evidence, verifierOf item = .ok verifier := by
  induction evidence with
  | nil => exact Or.inr ⟨by simp, [], rfl, by simp⟩
  | cons head rest ih =>
    rw [List.mapM_cons]
    cases head with
    | ref item => exact Or.inl ⟨⟨item, List.mem_cons_self⟩, _, rfl⟩
    | item own =>
      rcases ih with ⟨⟨item, member⟩, error, failed⟩ | ⟨readable, verifiers, read, listed⟩
      · rw [failed]
        exact Or.inl ⟨⟨item, List.mem_cons_of_mem _ member⟩, error, rfl⟩
      · rw [read]
        refine Or.inr ⟨?_, own.verifier :: verifiers, rfl, fun verifier => ?_⟩
        · rintro ⟨item, member⟩
          rcases List.mem_cons.mp member with same | later
          · cases same
          · exact readable ⟨item, later⟩
        · rw [List.mem_cons, listed, List.exists_mem_cons_iff]
          refine or_congr_left ?_
          show verifier = own.verifier ↔ Except.ok own.verifier = Except.ok verifier
          rw [Except.ok.injEq, eq_comm]

theorem hasMandatoryVerification_cases (state : CognitiveState) :
    let asked := state.task.goal.mandatoryVerification ≠ [] ∧ state.verifiedAnswer = true ∧
      ∃ item, Evidence.ref item ∈ state.evidence
    asked ∧ (∃ error, state.hasMandatoryVerification = .error error) ∨
      ¬ asked ∧ ∃ holds, state.hasMandatoryVerification = .ok holds ∧
        (holds = true ↔ state.task.goal.mandatoryVerification = [] ∨
          state.verifiedAnswer = true ∧ ∀ verifier ∈ state.task.goal.mandatoryVerification,
            ∃ item ∈ state.evidence, verifierOf item = .ok (some verifier)) := by
  unfold hasMandatoryVerification
  by_cases mandatory : state.task.goal.mandatoryVerification = []
  · rw [if_pos mandatory]
    exact Or.inr ⟨fun asked => asked.1 mandatory, true, rfl, iff_of_true rfl (Or.inl mandatory)⟩
  rw [if_neg mandatory]
  cases verified : state.verifiedAnswer with
  | false =>
    refine Or.inr ⟨fun asked => Bool.false_ne_true asked.2.1, false, rfl, ?_⟩
    exact iff_of_false Bool.false_ne_true fun holds => holds.elim mandatory fun both =>
      Bool.false_ne_true both.1
  | true =>
    rcases mapM_verifierOf state.evidence with
      ⟨reference, error, failed⟩ | ⟨readable, verifiers, read, listed⟩
    · refine Or.inl ⟨⟨mandatory, rfl, reference⟩, error, ?_⟩
      rw [if_neg Bool.false_ne_true.symm, failed]
      rfl
    · refine Or.inr ⟨fun asked => readable asked.2.2,
        state.task.goal.mandatoryVerification.all fun verifier => some verifier ∈ verifiers, ?_, ?_⟩
      · rw [if_neg Bool.false_ne_true.symm, read]
        rfl
      · rw [List.all_eq_true]
        simp only [decide_eq_true_iff, listed, mandatory, false_or, true_and]

/-- **When the question of stopping is answered**, and how. -/
theorem canStop_cases (state : CognitiveState) (calibration : CalibrationProfile) :
    Unreadable state.answer state.evidence ∧ (∃ error, state.canStop calibration = .error error) ∨
      ¬ Unreadable state.answer state.evidence ∧ ∃ stops, state.canStop calibration = .ok stops ∧
        (stops = true ↔ StopsWith calibration state.answer state.statuses state.evidence) := by
  have refuses : ∀ {P : Prop}, ¬ P → (false = true ↔ P) := iff_of_false Bool.false_ne_true
  unfold canStop
  by_cases answered : state.answerStateId = none
  · rw [if_pos answered]
    exact Or.inr ⟨fun unreadable => unreadable.answered answered, false, rfl,
      refuses fun stops => stops.answered answered⟩
  rw [if_neg answered]
  rcases hasMandatoryVerification_cases state with
    ⟨⟨mandatory, verified, reference⟩, error, failed⟩ | ⟨readable, holds, checked, spec⟩
  · refine Or.inl ⟨⟨answered, mandatory, verified, reference⟩, error, ?_⟩
    rw [failed]
    rfl
  have readable : ¬ Unreadable state.answer state.evidence := fun unreadable =>
    readable ⟨unreadable.mandatory, unreadable.verified, unreadable.reference⟩
  refine Or.inr ⟨readable, ?_⟩
  rw [checked]
  cases holds with
  | false =>
    refine ⟨false, rfl, refuses fun stops => ?_⟩
    exact absurd (spec.mpr stops.verified) Bool.false_ne_true
  | true =>
    simp only [bind, Except.bind, pure, Except.pure, Bool.not_true, Bool.false_eq_true, if_false]
    have verified := spec.mp rfl
    by_cases clear : state.unresolvedContradictions ≠ [] ∨ state.missingInformation ≠ []
    · rw [if_pos clear]
      refine ⟨false, rfl, refuses fun stops => ?_⟩
      obtain ⟨noConflict, nothingMissing⟩ := clear_iff.mpr stops.clear
      exact clear.elim (fun conflict => conflict noConflict) fun missing => missing nothingMissing
    rw [if_neg clear]
    have unblocked : ∀ status ∈ state.statuses, ¬ status.Blocks := by
      rw [not_or, not_not, not_not] at clear
      exact clear_iff.mp clear
    cases assessed : state.calibratedRisk with
    | none =>
      refine ⟨false, rfl, refuses fun stops => ?_⟩
      obtain ⟨risk, -, known, -⟩ := stops.acceptable
      cases assessed.symm.trans known
    | some risk =>
      obtain ⟨threshold, found⟩ := calibration.complete state.task.policy.riskClass
      dsimp only
      rw [thresholdFor_eq_ok.mpr found]
      dsimp only
      by_cases exceeds : threshold.value < risk.value
      · rw [if_pos exceeds]
        refine ⟨false, rfl, refuses fun stops => ?_⟩
        obtain ⟨other, bound, known, same, below⟩ := stops.acceptable
        obtain rfl := Option.some.inj (assessed.symm.trans known)
        obtain rfl := Option.some.inj (found.symm.trans same)
        exact absurd exceeds (not_lt.mpr below)
      · rw [if_neg exceeds]
        refine ⟨_, rfl, ?_⟩
        rw [Bool.not_eq_true', Option.any_eq_false]
        simp only [decide_eq_false_iff_not, not_lt]
        have acceptable := not_lt.mp exceeds
        exact ⟨fun settled => ⟨readable, answered, verified, unblocked,
          ⟨risk, threshold, assessed, found, acceptable⟩, settled⟩, fun stops => stops.settled⟩

end CognitiveState

/-! ### The controller's answers -/

namespace ReferenceCognitiveController

variable {controller : ReferenceCognitiveController} {state : CognitiveState}

theorem taskId_ne_empty (state : CognitiveState) : state.task.taskId ≠ "" := by
  have valid := state.task.valid
  unfold TaskSpecData.violation at valid
  intro empty
  rw [if_pos empty] at valid
  cases valid

/-- What the state of a task calls for. -/
inductive Stance where
  | conflict | missing | stop | verify | reason
deriving DecidableEq

namespace Stance

/-- The action that is proposed. -/
def action : Stance → CognitiveActionType
  | conflict => .verify
  | missing => .ask
  | stop => .stop
  | verify => .verify
  | reason => .reason

/-- The halting decision. -/
def halting : Stance → HaltingDecisionType
  | conflict => .verify
  | missing => .ask
  | stop => .stop
  | verify => .verify
  | reason => .verify

/-- The state calls for this. -/
def Fits (calibration : CalibrationProfile) (state : CognitiveState) : Stance → Prop
  | conflict => state.unresolvedContradictions ≠ []
  | missing => state.unresolvedContradictions = [] ∧ state.missingInformation ≠ []
  | stop => StopsWith calibration state.answer state.statuses state.evidence
  | verify => (∀ status ∈ state.statuses, ¬ status.Blocks) ∧ state.answerStateId ≠ none ∧
      ¬ StopsWith calibration state.answer state.statuses state.evidence
  | reason => (∀ status ∈ state.statuses, ¬ status.Blocks) ∧ state.answerStateId = none

/-- **A state calls for one thing only.** -/
theorem Fits.unique {calibration : CalibrationProfile} {first second : Stance}
    (here : first.Fits calibration state) (there : second.Fits calibration state) :
    first = second := by
  have clear : StopsWith calibration state.answer state.statuses state.evidence →
      state.unresolvedContradictions = [] ∧ state.missingInformation = [] := fun stops =>
    CognitiveState.clear_iff.mpr stops.clear
  have answered : StopsWith calibration state.answer state.statuses state.evidence →
      state.answerStateId ≠ none := StopsWith.answered
  cases first <;> cases second <;> simp only [Fits, ← CognitiveState.clear_iff] at here there <;>
    first | rfl | exact absurd here (by tauto)

end Stance

/-- The proposals of the controller are well formed. -/
theorem proposal_made {suffix rationale : String} {actionType : CognitiveActionType}
    {evidenceRequirements : List String} (stance : Stance) (reasoned : rationale ≠ "")
    (fits : stance.Fits controller.calibration state) (isAction : actionType = stance.action) :
    ∃ made, proposal state suffix actionType rationale evidenceRequirements = .ok made ∧
      made.taskId = state.task.taskId ∧ made.risk = state.task.policy.riskClass ∧
      ∃ stance : Stance, stance.Fits controller.calibration state ∧
        made.actionType = stance.action := by
  have named : s!"{state.task.taskId}:{suffix}" ≠ "" := by
    have task : toString state.task.taskId ≠ "" := taskId_ne_empty state
    simp [task]
  have free : ¬ ((0.0 : ℚ) < ((0 : Int) : ℚ)) := by norm_num
  have valid : CognitiveProposalData.violation (R := ℚ) {
      proposalId := s!"{state.task.taskId}:{suffix}"
      taskId := state.task.taskId
      actionType
      rationale
      evidenceRequirements
      risk := state.task.policy.riskClass } = none := by
    unfold CognitiveProposalData.violation
    rw [if_neg named, if_neg (taskId_ne_empty state), if_neg reasoned, if_neg free,
      if_neg (lt_irrefl _)]
  exact ⟨_, construct_of_valid valid, rfl, rfl, stance, fits, isAction⟩

theorem proposeNext_cases (controller : ReferenceCognitiveController) (state : CognitiveState) :
    (Unreadable state.answer state.evidence ∧ (∀ status ∈ state.statuses, ¬ status.Blocks) ∧
        ∃ error, controller.proposeNext state = .error error) ∨
      ¬ (Unreadable state.answer state.evidence ∧ ∀ status ∈ state.statuses, ¬ status.Blocks) ∧
        ∃ proposal, controller.proposeNext state = .ok proposal ∧
          proposal.taskId = state.task.taskId ∧ proposal.risk = state.task.policy.riskClass ∧
          ∃ stance : Stance, stance.Fits controller.calibration state ∧
            proposal.actionType = stance.action := by
  unfold proposeNext
  by_cases conflict : state.unresolvedContradictions ≠ []
  · rw [if_pos conflict]
    refine Or.inr ⟨fun both => conflict (CognitiveState.clear_iff.mpr both.2).1, ?_⟩
    exact proposal_made .conflict (by decide) conflict rfl
  rw [if_neg conflict]
  by_cases missing : state.missingInformation ≠ []
  · rw [if_pos missing]
    refine Or.inr ⟨fun both => missing (CognitiveState.clear_iff.mpr both.2).2, ?_⟩
    exact proposal_made .missing (by decide) ⟨not_not.mp conflict, missing⟩ rfl
  rw [if_neg missing]
  have clear := CognitiveState.clear_iff.mp ⟨not_not.mp conflict, not_not.mp missing⟩
  rcases state.canStop_cases controller.calibration with
    ⟨unreadable, error, failed⟩ | ⟨readable, stops, answer, spec⟩
  · rw [failed]
    exact Or.inl ⟨unreadable, clear, error, rfl⟩
  rw [answer]
  refine Or.inr ⟨fun both => readable both.1, ?_⟩
  cases stops with
  | true => exact proposal_made .stop (by decide) (spec.mp rfl) rfl
  | false =>
    have goes := mt spec.mpr Bool.false_ne_true
    show ∃ proposal, (if state.answerStateId ≠ none then _ else _) = _ ∧ _
    by_cases answered : state.answerStateId ≠ none
    · rw [if_pos answered]
      exact proposal_made .verify (by decide) ⟨clear, answered, goes⟩ rfl
    · rw [if_neg answered]
      exact proposal_made .reason (by decide) ⟨clear, not_not.mp answered⟩ rfl

/-- The halting decisions of the controller are well formed. -/
theorem halting_made {decision : HaltingDecisionType} {rationale : String}
    {unresolvedContradictions missingInformation : List String}
    (stance : Stance) (fits : stance.Fits controller.calibration state)
    (isDecision : decision = stance.halting)
    (stops : decision = .stop → state.answerStateId ≠ none ∧ state.calibratedRisk ≠ none ∧
      unresolvedContradictions = [] ∧ missingInformation = []) :
    ∃ made, halting state decision rationale unresolvedContradictions missingInformation =
      .ok made ∧ ∃ stance : Stance, stance.Fits controller.calibration state ∧
        made.decision = stance.halting := by
  have checked : (unitViolation "calibrated_risk" state.calibratedRisk).or (negativeViolation
      "marginal_value_estimate MUST be non-negative" state.marginalValueEstimate) = none := by
    have valid := state.valid
    unfold CognitiveStateData.violation at valid
    split_ifs at valid
    exact valid
  have valid : HaltingDecisionData.violation {
      taskId := state.task.taskId
      decision
      answerStateId := state.answerStateId
      calibratedRisk := state.calibratedRisk
      evidenceIds := state.evidenceIds
      unresolvedContradictions
      missingInformation
      marginalValueEstimate := state.marginalValueEstimate
      rationale } = none := by
    unfold HaltingDecisionData.violation
    rw [if_neg (taskId_ne_empty state)]
    dsimp only
    rw [checked, Option.none_or]
    split_ifs with isStop
    · obtain ⟨answered, assessed, noConflict, nothingMissing⟩ := stops isStop
      unfold HaltingDecisionData.stopViolation
      rw [if_neg answered, if_neg assessed, if_neg (not_not.mpr noConflict),
        if_neg (not_not.mpr nothingMissing)]
    · rfl
  exact ⟨_, construct_of_valid valid, stance, fits, isDecision⟩

theorem halt_cases (controller : ReferenceCognitiveController) (state : CognitiveState) :
    (Unreadable state.answer state.evidence ∧ ∃ error, controller.halt state = .error error) ∨
      ¬ Unreadable state.answer state.evidence ∧ ∃ halting, controller.halt state = .ok halting ∧
        ∃ stance : Stance, stance.Fits controller.calibration state ∧
          halting.decision = stance.halting := by
  unfold halt
  rcases state.canStop_cases controller.calibration with
    ⟨unreadable, error, failed⟩ | ⟨readable, stops, answer, spec⟩
  · rw [failed]
    exact Or.inl ⟨unreadable, error, rfl⟩
  rw [answer]
  refine Or.inr ⟨readable, ?_⟩
  cases stops with
  | true =>
    have stops := spec.mp rfl
    obtain ⟨risk, -, assessed, -⟩ := stops.acceptable
    have known : state.calibratedRisk ≠ none := fun missing => by
      cases assessed.symm.trans missing
    exact halting_made .stop stops rfl fun _ => ⟨stops.answered, known, rfl, rfl⟩
  | false =>
    have goes := mt spec.mpr Bool.false_ne_true
    show ∃ halting, (if state.unresolvedContradictions ≠ [] then _ else _) = _ ∧ _
    by_cases conflict : state.unresolvedContradictions ≠ []
    · rw [if_pos conflict]
      exact halting_made .conflict conflict rfl fun isStop => by cases isStop
    rw [if_neg conflict]
    by_cases missing : state.missingInformation ≠ []
    · rw [if_pos missing]
      exact halting_made .missing ⟨not_not.mp conflict, missing⟩ rfl
        fun isStop => by cases isStop
    rw [if_neg missing]
    have clear := CognitiveState.clear_iff.mp ⟨not_not.mp conflict, not_not.mp missing⟩
    by_cases answered : state.answerStateId ≠ none
    · exact halting_made .verify ⟨clear, answered, goes⟩ rfl
        fun isStop => by cases isStop
    · exact halting_made .reason ⟨clear, not_not.mp answered⟩ rfl
        fun isStop => by cases isStop

theorem proposalId_ne_empty (proposal : CognitiveProposal ℚ) : proposal.proposalId ≠ "" := by
  have valid := proposal.valid
  unfold CognitiveProposalData.violation at valid
  intro empty
  rw [if_pos empty] at valid
  cases valid

/-- **What is authorized** of proposals about the task, at the risk of its policy. -/
theorem authorize_cases (kernel : CognitiveAuthorizationKernel) {proposal : CognitiveProposal ℚ}
    (task : proposal.taskId = state.task.taskId)
    (risk : proposal.risk = state.task.policy.riskClass)
    (readable : proposal.actionType = .stop → ¬ Unreadable state.answer state.evidence) :
    ∃ decision, kernel.authorize proposal state = .ok decision ∧
      (decision.authorized = true ↔ (proposal.actionType = .stop →
        StopsWith kernel.calibration state.answer state.statuses state.evidence)) ∧
      (decision.authorized = false → decision.selected = false) := by
  have named := proposalId_ne_empty proposal
  have granted : ∃ decision, CognitiveDecision.ofData {
      proposalId := proposal.proposalId, authorized := true } = .ok decision ∧
        decision.authorized = true ∧ (decision.authorized = false → decision.selected = false) :=
    ⟨_, construct_of_valid (by simp [CognitiveDecisionData.violation, named]), rfl, fun _ => rfl⟩
  have rejected : ∃ decision, CognitiveAuthorizationKernel.rejected proposal
      "STOP preconditions are not satisfied" = .ok decision ∧ decision.authorized = false ∧
        (decision.authorized = false → decision.selected = false) :=
    ⟨_, construct_of_valid (by simp [CognitiveDecisionData.violation, named]), rfl, fun _ => rfl⟩
  have admitted : ¬ CognitiveAuthorizationKernel.riskOrder state.task.policy.riskClass <
      CognitiveAuthorizationKernel.riskOrder proposal.risk := by
    rw [risk]
    exact lt_irrefl _
  unfold CognitiveAuthorizationKernel.authorize
  dsimp only
  rw [if_neg (not_not.mpr task), if_neg admitted]
  by_cases stop : proposal.actionType = .stop
  · rw [if_pos stop]
    rcases state.canStop_cases kernel.calibration with
      ⟨unreadable, -⟩ | ⟨-, stops, answer, spec⟩
    · exact absurd unreadable (readable stop)
    · rw [answer]
      cases stops with
      | true =>
        obtain ⟨decision, made, authorized, unselected⟩ := granted
        exact ⟨decision, made, iff_of_true authorized fun _ => spec.mp rfl, unselected⟩
      | false =>
        obtain ⟨decision, made, denied, unselected⟩ := rejected
        refine ⟨decision, made, iff_of_false ?_ fun stops => ?_, unselected⟩
        · rw [denied]
          exact Bool.false_ne_true
        · exact absurd (spec.mpr (stops stop)) Bool.false_ne_true
  · rw [if_neg stop]
    obtain ⟨decision, made, authorized, unselected⟩ := granted
    exact ⟨decision, made, iff_of_true authorized fun isStop => absurd isStop stop, unselected⟩

/-- **The controller is of one mind**: proposing, deciding and halting answer to the same stance. -/
structure OfOneMind (controller : ReferenceCognitiveController) (state : CognitiveState) :
    Prop where
  /-- Halting raises where the question of stopping does. -/
  haltRaises : (∃ error, controller.halt state = .error error) ↔
    Unreadable state.answer state.evidence
  /-- Proposing asks it where nothing is in conflict or missing. -/
  proposeRaises : (∃ error, controller.proposeNext state = .error error) ↔
    Unreadable state.answer state.evidence ∧ ∀ status ∈ state.statuses, ¬ status.Blocks
  /-- Deciding raises nothing else. -/
  decideRaises : (∃ error, controller.decideNext state = .error error) ↔
    ∃ error, controller.proposeNext state = .error error
  agree : ∀ proposal decision, controller.proposeNext state = .ok proposal →
    controller.halt state = .ok decision → ∃ stance : Stance,
      stance.Fits controller.calibration state ∧ proposal.actionType = stance.action ∧
        decision.decision = stance.halting
  /-- What is proposed is selected, unless the authorization has a profile that would not stop. -/
  selected : ∀ decision, controller.decideNext state = .ok decision →
    decision.selected = decision.authorized ∧ (decision.authorized = true ↔
      (StopsWith controller.calibration state.answer state.statuses state.evidence →
        StopsWith controller.authorization.calibration state.answer state.statuses state.evidence))

theorem Stance.action_eq_stop {stance : Stance} : stance.action = .stop ↔ stance = .stop := by
  cases stance <;> simp [Stance.action]

/-- How a decision comes about. -/
theorem decideNext_cases (controller : ReferenceCognitiveController) (state : CognitiveState) :
    (∃ error, controller.proposeNext state = .error error ∧
        controller.decideNext state = .error error) ∨
      ∃ proposal decision, controller.proposeNext state = .ok proposal ∧
        controller.decideNext state = .ok decision ∧
        decision.selected = decision.authorized ∧ (decision.authorized = true ↔
          (StopsWith controller.calibration state.answer state.statuses state.evidence →
            StopsWith controller.authorization.calibration state.answer state.statuses
              state.evidence)) := by
  unfold decideNext
  rcases proposeNext_cases controller state with
    ⟨-, -, error, failed⟩ | ⟨-, proposal, proposed, task, risk, stance, fits, isAction⟩
  · rw [failed]
    exact Or.inl ⟨error, rfl, rfl⟩
  have stops_iff : proposal.actionType = .stop ↔
      StopsWith controller.calibration state.answer state.statuses state.evidence := by
    rw [isAction, Stance.action_eq_stop]
    constructor
    · rintro rfl
      exact fits
    · intro stops
      have fitsStop : Stance.stop.Fits controller.calibration state := stops
      exact fits.unique fitsStop
  obtain ⟨decision, made, authorized, unselected⟩ := authorize_cases controller.authorization task
    risk fun stop => (stops_iff.mp stop).readable
  rw [stops_iff] at authorized
  refine Or.inr ⟨proposal, ?_⟩
  rw [proposed]
  show ∃ decision, _ ∧ (controller.authorization.authorize proposal state >>= _) = _ ∧ _
  rw [made]
  show ∃ final, _ ∧ (if decision.authorized = false then _ else _) = _ ∧ _
  by_cases denied : decision.authorized = false
  · rw [if_pos denied]
    exact ⟨decision, rfl, rfl, (unselected denied).trans denied.symm, authorized⟩
  · rw [if_neg denied]
    have granted : decision.authorized = true := Bool.not_eq_false _ ▸ denied
    refine ⟨_, rfl, construct_of_valid ?_, rfl, iff_of_true rfl (authorized.mp granted)⟩
    simp [CognitiveDecisionData.violation, proposalId_ne_empty proposal]

theorem controller_agrees (controller : ReferenceCognitiveController) (state : CognitiveState) :
    OfOneMind controller state where
  haltRaises := by
    rcases halt_cases controller state with ⟨unreadable, failed⟩ | ⟨readable, halting, made, -⟩
    · exact iff_of_true failed unreadable
    · refine iff_of_false ?_ readable
      rintro ⟨error, failed⟩
      cases made.symm.trans failed
  proposeRaises := by
    rcases proposeNext_cases controller state with
      ⟨unreadable, clear, failed⟩ | ⟨unasked, proposal, made, -⟩
    · exact iff_of_true failed ⟨unreadable, clear⟩
    · refine iff_of_false ?_ unasked
      rintro ⟨error, failed⟩
      cases made.symm.trans failed
  decideRaises := by
    rcases decideNext_cases controller state with
      ⟨error, proposed, decided⟩ | ⟨proposal, decision, proposed, decided, -⟩
    · exact iff_of_true ⟨error, decided⟩ ⟨error, proposed⟩
    · refine iff_of_false ?_ ?_
      · rintro ⟨error, failed⟩
        cases decided.symm.trans failed
      · rintro ⟨error, failed⟩
        cases proposed.symm.trans failed
  agree proposal decision proposed halted := by
    rcases proposeNext_cases controller state with
      ⟨-, -, error, failed⟩ | ⟨-, made, same, -, -, stance, fits, isAction⟩
    · cases failed.symm.trans proposed
    rcases halt_cases controller state with
      ⟨-, error, failed⟩ | ⟨-, left, returned, other, also, isDecision⟩
    · cases failed.symm.trans halted
    obtain rfl := Except.ok.inj (same.symm.trans proposed)
    obtain rfl := Except.ok.inj (returned.symm.trans halted)
    exact ⟨stance, fits, isAction, fits.unique also ▸ isDecision⟩
  selected decision decided := by
    rcases decideNext_cases controller state with
      ⟨error, -, failed⟩ | ⟨proposal, made, -, same, spec⟩
    · cases failed.symm.trans decided
    · obtain rfl := Except.ok.inj (same.symm.trans decided)
      exact spec

end ReferenceCognitiveController

/-! ### Runs -/

/-- The call, if it was accepted. -/
def acceptedCall (entry : CognitiveState × StateCall) : Option StateCall :=
  match entry.1.apply entry.2 with
  | .ok _ => some entry.2
  | .error _ => none

/-- The calls of a run that were accepted. -/
def acceptedCalls (start : CognitiveState) (calls : List StateCall) : List StateCall :=
  (trace stateStep start calls).filterMap acceptedCall

/-- The status of the claim that a call appends. -/
def StateCall.status? : StateCall → Option EpistemicStatus
  | .withEpistemicItem item => some item.status
  | _ => none

/-- The evidence that a call appends. -/
def StateCall.evidence? : StateCall → Option Evidence
  | .withEvidence evidence => some evidence
  | _ => none

/-- **What one call does to the question of stopping**: it appends what it was accepted with. -/
theorem stateStep_appends (state : CognitiveState) (call : StateCall) :
    (stateStep state call).answer = state.answer ∧
      (stateStep state call).statuses =
        state.statuses ++ (acceptedCall (state, call)).toList.filterMap StateCall.status? ∧
      (stateStep state call).evidence =
        state.evidence ++ (acceptedCall (state, call)).toList.filterMap StateCall.evidence? := by
  unfold stateStep acceptedCall
  cases applied : state.apply call with
  | error error => exact ⟨rfl, (List.append_nil _).symm, (List.append_nil _).symm⟩
  | ok next =>
    dsimp only
    have described : ∀ data : CognitiveStateData, next.toCognitiveStateData = data →
        next.answer = ⟨data.task, data.answerStateId, data.verifiedAnswer, data.calibratedRisk,
          data.marginalValueEstimate⟩ ∧
        next.statuses = data.epistemicItems.map (fun item => item.status) ∧
        next.evidence = data.evidence := by
      rintro _ rfl
      exact ⟨rfl, rfl, rfl⟩
    have plain : next.answer = state.answer ∧ next.statuses = state.statuses ∧
        next.evidence = state.evidence → next.answer = state.answer ∧
          next.statuses = state.statuses ++ [] ∧ next.evidence = state.evidence ++ [] := by
      rw [List.append_nil, List.append_nil]
      exact id
    cases call with
    | withEpistemicItem item =>
      obtain ⟨-, left⟩ := CognitiveState.withEpistemicItem_eq_ok applied
      obtain ⟨answer, statuses, evidence⟩ := described _ left
      exact ⟨answer, statuses.trans List.map_append, evidence.trans (List.append_nil _).symm⟩
    | withEvidence evidence =>
      have left := CognitiveState.withEvidence_eq_ok applied
      obtain ⟨answer, statuses, evidence⟩ := described _ left
      exact ⟨answer, statuses.trans (List.append_nil _).symm, evidence⟩
    | withRelation relation =>
      obtain ⟨-, -, left⟩ := CognitiveState.withRelation_eq_ok applied
      have same := described _ left
      exact plain same
    | withHypothesis hypothesis =>
      have left := CognitiveState.withHypothesis_eq_ok applied
      have same := described _ left
      exact plain same
    | withActionTransition actionId nextState =>
      rcases CognitiveState.withActionTransition_eq_ok applied with ⟨-, rfl⟩ | ⟨-, -, left⟩
      · exact plain ⟨rfl, rfl, rfl⟩
      · have same := described _ left
        exact plain same
    | invalidateFrom itemId reason =>
      obtain ⟨-, left⟩ := CognitiveState.invalidateFrom_eq_ok applied
      obtain ⟨answer, statuses, evidence⟩ := described _ left
      exact plain ⟨answer, statuses.trans (CognitiveState.map_invalidateItems fun _ _ => rfl),
        evidence⟩
    | withMaterializedView viewId dependencyItemIds =>
      obtain ⟨-, left⟩ := CognitiveState.withMaterializedView_eq_ok applied
      have same := described _ left
      exact plain same

namespace ReferenceCognitiveController

/-- **Halting, over a run.** Whether the controller stops after a run is decided by the answer that
was there before it, by the claims and the evidence before it and by those that the run has
accepted. A claim that blocks is never got rid of, and evidence that verifies is never lost. -/
theorem halting_run (controller : ReferenceCognitiveController) (start : CognitiveState)
    (calls : List StateCall) :
    (∃ decision, controller.halt (run stateStep start calls) = .ok decision ∧
        decision.decision = .stop) ↔
      StopsWith controller.calibration start.answer
        (start.statuses ++ (acceptedCalls start calls).filterMap StateCall.status?)
        (start.evidence ++ (acceptedCalls start calls).filterMap StateCall.evidence?) := by
  let Grown (state : CognitiveState) (seen : List StateCall) : Prop :=
    state.answer = start.answer ∧
      state.statuses = start.statuses ++ seen.filterMap StateCall.status? ∧
      state.evidence = start.evidence ++ seen.filterMap StateCall.evidence?
  have grown : Grown (run stateStep start calls) ([] ++ acceptedCalls start calls) := by
    refine run_observes (P := Grown) ⟨rfl, (List.append_nil _).symm, (List.append_nil _).symm⟩
      fun entry _ seen here => ?_
    obtain ⟨answer, statuses, evidence⟩ := here
    obtain ⟨sameAnswer, moreStatuses, moreEvidence⟩ := stateStep_appends entry.1 entry.2
    refine ⟨sameAnswer.trans answer, ?_, ?_⟩
    · rw [moreStatuses, statuses, List.filterMap_append, List.append_assoc]
    · rw [moreEvidence, evidence, List.filterMap_append, List.append_assoc]
  obtain ⟨answer, statuses, evidence⟩ := grown
  rw [List.nil_append] at statuses evidence
  rw [← statuses, ← evidence, ← answer]
  have stops_iff : ∀ stance : Stance,
      stance.Fits controller.calibration (run stateStep start calls) →
      (stance.halting = .stop ↔ StopsWith controller.calibration
        (run stateStep start calls).answer (run stateStep start calls).statuses
        (run stateStep start calls).evidence) := by
    intro stance fits
    constructor
    · intro stops
      cases stance with
      | stop => exact fits
      | _ => cases stops
    · intro stops
      have fitsStop : Stance.stop.Fits controller.calibration (run stateStep start calls) := stops
      rw [fits.unique fitsStop]
      rfl
  rcases controller.halt_cases (run stateStep start calls) with
    ⟨unreadable, error, failed⟩ | ⟨-, halting, made, stance, fits, isDecision⟩
  · refine iff_of_false ?_ fun stops => stops.readable unreadable
    rintro ⟨decision, returned, -⟩
    cases failed.symm.trans returned
  · rw [← stops_iff stance fits, ← isDecision]
    constructor
    · rintro ⟨decision, returned, stops⟩
      obtain rfl := Except.ok.inj (made.symm.trans returned)
      exact stops
    · exact fun stops => ⟨halting, made, stops⟩

end ReferenceCognitiveController

end Dnc.Cognition
