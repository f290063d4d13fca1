/-
**The structural controller.**

`dnc.dcc.structural_controller`: `evaluateProposals` scores every proposal against the baseline of
doing nothing and decides on it; `authorizeTopScoring` names the highest-scoring proposal that may be
authorized. The text of a rejection reason shows floats, so a reason is kept as data and `text`
takes the two ways of showing them.

`authorizeTopScoring_eq_some` says what an authorization means: it names the proposal of an
AUTHORIZE evaluation that no other AUTHORIZE evaluation outscores, the first of them where several
tie (`authorizeTopScoring_first`).
-/

import Dnc.Dcc.Contracts
import Dnc.PyLib.Sorted

namespace Dnc

open PyLib

inductive DecisionType where
  | authorize | reject | defer | requestRevision
deriving DecidableEq, Repr

instance : PyEnum DecisionType where
  name := "DecisionType"
  members := [.authorize, .reject, .defer, .requestRevision]
  value
    | .authorize => "AUTHORIZE"
    | .reject => "REJECT"
    | .defer => "DEFER"
    | .requestRevision => "REQUEST_REVISION"

section Evaluation

variable {R : Type}

structure EvaluationCriteria (R : Type) where
  minUtility : R
  maxRisk : String := "HIGH"
  maxCost : R
  requireRationale : Bool := true
  requireAlignment : Bool := false
  maxUnits : Int := 20
  maxEdges : Int := 50

structure EvaluationContext (R : Type) where
  currentGraph : StructuralGraph
  activeObjectives : List String := []
  constraints : List String := []
  availableBudget : R
  riskTolerance : String := "MEDIUM"
  criteria : EvaluationCriteria R
  stabilityBaselineUtility : R
  cyclesSinceMutation : Int := 999
  recentMutationCount : Int := 0

/-- The reasons `_evaluate_single` gives for a rejection. -/
inductive RejectionReason (R : Type) where
  | utility (expected threshold : R)
  | risk (assessment tolerance : String)
  | cost (estimated budget : R)
  | rationale
deriving DecidableEq

/-- `ProposalEvaluation.metadata` as `_evaluate_single` fills it. -/
structure EvaluationMetadata (R : Type) where
  evaluatedAt : Nat
  contextBudget : R
  riskTolerance : String

structure ProposalEvaluation (R : Type) where
  proposal : MutationProposal R
  decision : DecisionType
  score : R
  rejectionReasons : List (RejectionReason R) := []
  conditions : List String := []
  metadata : EvaluationMetadata R

/-- `risk_order.get(risk, missing)`. -/
def riskOrder (risk : String) (missing : Nat) : Nat :=
  if risk = "LOW" then 0 else if risk = "MEDIUM" then 1 else if risk = "HIGH" then 2 else missing

end Evaluation

section Scoring

variable {R : Type} [PyFloat R]

/-- `risk_scores.get(risk, 0.0)`. -/
def riskScore (risk : String) : R :=
  if risk = "LOW" then 1.0 else if risk = "MEDIUM" then 0.6 else if risk = "HIGH" then 0.2 else 0.0

/-- The Phase 8 part of the score. -/
def baseScore (proposal : MutationProposal R) : R :=
  let costScore := max 0.0 (1.0 - proposal.estimatedCost / 10.0)
  0.6 * proposal.expectedUtility + 0.2 * costScore + 0.2 * riskScore proposal.riskAssessment

def structuralComplexityPenalty (context : EvaluationContext R) : R :=
  let unitRatio : R :=
    ((context.currentGraph.units.length : Int) : R) / ((max context.criteria.maxUnits 1 : Int) : R)
  if 0.5 < unitRatio then max 0.0 ((unitRatio - 0.5) * 0.3) else 0.0

def churnPenalty (context : EvaluationContext R) : R :=
  if context.cyclesSinceMutation < 3 then
    max 0.0 (0.20 - (context.cyclesSinceMutation : R) * 0.07)
  else if 10 < context.recentMutationCount then
    min 0.10 (((context.recentMutationCount - 10 : Int) : R) * 0.01)
  else 0.0

/-- `_compute_score`. -/
def computeScore (proposal : MutationProposal R) (context : EvaluationContext R) : R :=
  let marginalUtility := proposal.expectedUtility - context.stabilityBaselineUtility
  let netMarginal :=
    max 0.0 (marginalUtility - structuralComplexityPenalty context - churnPenalty context)
  if marginalUtility ≤ 0.0 then baseScore proposal
  else if netMarginal < 0.05 then baseScore proposal + 0.05 * netMarginal / 0.05
  else min 1.0 (baseScore proposal + min 0.20 (netMarginal * 0.5))

/-- The checks of `_evaluate_single`. -/
def rejectionReasons (proposal : MutationProposal R) (context : EvaluationContext R) :
    List (RejectionReason R) :=
  (if proposal.expectedUtility < context.criteria.minUtility then
    [.utility proposal.expectedUtility context.criteria.minUtility] else []) ++
  (if riskOrder context.riskTolerance 2 < riskOrder proposal.riskAssessment 3 then
    [.risk proposal.riskAssessment context.riskTolerance] else []) ++
  (if context.availableBudget < proposal.estimatedCost then
    [.cost proposal.estimatedCost context.availableBudget] else []) ++
  (if context.criteria.requireRationale = true ∧ proposal.rationale = "" then
    [.rationale] else [])

/-- The decision of `_evaluate_single`. -/
def singleDecision (proposal : MutationProposal R) (context : EvaluationContext R) : DecisionType :=
  let score := computeScore proposal context
  if rejectionReasons proposal context ≠ [] then .reject
  else if 0.8 ≤ score then .authorize
  else if 0.5 ≤ score then .defer
  else .reject

end Scoring

/-! ### The controller -/

structure StructuralController where
  decisionCounter : Nat := 0
  authorizedHistory : List String := []
deriving DecidableEq, Repr

namespace StructuralController

variable {R : Type} [PyFloat R]

/-- `_evaluate_single`. -/
def evaluateSingle (controller : StructuralController) (context : EvaluationContext R)
    (proposal : MutationProposal R) : ProposalEvaluation R where
  proposal := proposal
  decision := singleDecision proposal context
  score := computeScore proposal context
  rejectionReasons := rejectionReasons proposal context
  metadata := {
    evaluatedAt := controller.decisionCounter
    contextBudget := context.availableBudget
    riskTolerance := context.riskTolerance }

/-- `evaluate_proposals`. -/
def evaluateProposals (controller : StructuralController) (proposals : List (MutationProposal R))
    (context : EvaluationContext R) : List (ProposalEvaluation R) × StructuralController :=
  let controller := { controller with decisionCounter := controller.decisionCounter + 1 }
  (proposals.map (controller.evaluateSingle context), controller)

/-- What `authorize` returns for an AUTHORIZE evaluation. -/
def authorization (evaluation : ProposalEvaluation R) : AuthorizationDecision where
  proposalId := evaluation.proposal.proposalId
  authorized := true
  conditions := evaluation.conditions

omit [PyFloat R] in
/-- `authorize`; the context is passed and not read. -/
def authorize (controller : StructuralController) (evaluation : ProposalEvaluation R)
    (_context : EvaluationContext R) : AuthorizationDecision × StructuralController :=
  let controller := { controller with decisionCounter := controller.decisionCounter + 1 }
  if evaluation.decision ≠ .authorize then
    ({ proposalId := evaluation.proposal.proposalId
       authorized := false
       rejectionReason :=
         some s!"Decision was {PyEnum.value evaluation.decision}, not AUTHORIZE" }, controller)
  else
    (authorization evaluation,
      { controller with
        authorizedHistory := controller.authorizedHistory ++ [evaluation.proposal.proposalId] })

/-- The evaluations that are explicitly AUTHORIZE-ready. -/
def authorizeCapable (evaluations : List (ProposalEvaluation R)) : List (ProposalEvaluation R) :=
  evaluations.filter fun evaluation => evaluation.decision = .authorize

/-- `authorize_top_scoring`. -/
def authorizeTopScoring (controller : StructuralController)
    (evaluations : List (ProposalEvaluation R)) (context : EvaluationContext R) :
    Option AuthorizationDecision × StructuralController :=
  match sortByDesc ProposalEvaluation.score (authorizeCapable evaluations) with
  | [] => (none, controller)
  | top :: _ =>
    let (decision, controller) := controller.authorize top context
    (some decision, controller)

omit [PyFloat R] in
theorem mem_authorizeCapable {evaluations : List (ProposalEvaluation R)}
    {evaluation : ProposalEvaluation R} :
    evaluation ∈ authorizeCapable evaluations ↔
      evaluation ∈ evaluations ∧ evaluation.decision = .authorize := by
  unfold authorizeCapable
  rw [List.mem_filter, decide_eq_true_iff]

omit [PyFloat R] in
theorem authorize_of_authorize (controller : StructuralController)
    {evaluation : ProposalEvaluation R} (context : EvaluationContext R)
    (capable : evaluation.decision = .authorize) :
    (controller.authorize evaluation context).1 = authorization evaluation := by
  unfold authorize
  rw [if_neg (not_not_intro capable)]

/-- **An authorization names a highest-scoring AUTHORIZE evaluation.** -/
theorem authorizeTopScoring_eq_some {controller : StructuralController}
    {evaluations : List (ProposalEvaluation R)} {context : EvaluationContext R}
    {decision : AuthorizationDecision}
    (authorized : (controller.authorizeTopScoring evaluations context).1 = some decision) :
    ∃ top ∈ authorizeCapable evaluations,
      decision = authorization top ∧ ∀ other ∈ authorizeCapable evaluations, other.score ≤ top.score := by
  unfold authorizeTopScoring at authorized
  cases sorted : sortByDesc ProposalEvaluation.score (authorizeCapable evaluations) with
  | nil => simp [sorted] at authorized
  | cons top rest =>
    simp only [sorted, Option.some.injEq] at authorized
    obtain ⟨member, greatest⟩ := head_sortByDesc_le sorted
    refine ⟨top, member, ?_, greatest⟩
    rw [← authorized]
    exact authorize_of_authorize controller context (mem_authorizeCapable.mp member).2

/-- **Among equal scores the first evaluation is named.** -/
theorem authorizeTopScoring_first (controller : StructuralController)
    (context : EvaluationContext R) {evaluations rest : List (ProposalEvaluation R)}
    {first : ProposalEvaluation R} (capable : authorizeCapable evaluations = first :: rest)
    (top : ∀ other ∈ rest, other.score ≤ first.score) :
    (controller.authorizeTopScoring evaluations context).1 = some (authorization first) := by
  have member : first ∈ authorizeCapable evaluations := by
    rw [capable]
    exact List.mem_cons_self
  unfold authorizeTopScoring
  rw [capable, head_sortByDesc_of_forall_le top]
  exact congrArg some
    (authorize_of_authorize controller context (mem_authorizeCapable.mp member).2)

/-! ### Which proposal a caller takes for the authorized one -/

/-- `next((e.proposal for e in evaluations if e.decision.value == "AUTHORIZE"), fallback)`. -/
def firstAuthorized (evaluations : List (ProposalEvaluation R)) (fallback : MutationProposal R) :
    MutationProposal R :=
  match evaluations.find? fun evaluation => PyEnum.value evaluation.decision == "AUTHORIZE" with
  | some evaluation => evaluation.proposal
  | none => fallback

/-- The decision names the proposal, and the proposal has a highest-scoring AUTHORIZE evaluation. -/
def NamesTop (evaluations : List (ProposalEvaluation R)) (decision : AuthorizationDecision)
    (proposal : MutationProposal R) : Prop :=
  decision.authorized = true ∧ decision.proposalId = proposal.proposalId ∧
    ∃ evaluation ∈ authorizeCapable evaluations, evaluation.proposal = proposal ∧
      ∀ other ∈ authorizeCapable evaluations, other.score ≤ evaluation.score

/-- No proposal that may be authorized outscores the first one that may. -/
def FirstIsTop (proposals : List (MutationProposal R)) (context : EvaluationContext R) : Prop :=
  ∀ first, proposals.find? (fun proposal => singleDecision proposal context = .authorize) =
      some first →
    ∀ other ∈ proposals, singleDecision other context = .authorize →
      computeScore other context ≤ computeScore first context

instance (proposals : List (MutationProposal R)) (context : EvaluationContext R) :
    Decidable (FirstIsTop proposals context) :=
  match found : proposals.find? fun proposal => singleDecision proposal context = .authorize with
  | none => .isTrue fun first same => by
      rw [found] at same
      cases same
  | some first =>
    decidable_of_iff (∀ other ∈ proposals, singleDecision other context = .authorize →
        computeScore other context ≤ computeScore first context) (by
      constructor
      · intro top other same
        rw [found] at same
        obtain rfl := Option.some.inj same
        exact top
      · exact fun top => top first found)

omit [PyFloat R] in
theorem value_eq_authorize (decision : DecisionType) :
    (PyEnum.value decision == "AUTHORIZE") = decide (decision = .authorize) := by
  cases decision <;> decide

omit [PyFloat R] in
theorem firstAuthorized_eq {evaluations rest : List (ProposalEvaluation R)}
    {first : ProposalEvaluation R} (capable : authorizeCapable evaluations = first :: rest)
    (fallback : MutationProposal R) : firstAuthorized evaluations fallback = first.proposal := by
  have found : evaluations.find? (fun evaluation =>
      PyEnum.value evaluation.decision == "AUTHORIZE") = some first := by
    simp only [value_eq_authorize]
    rw [← List.head?_filter]
    exact congrArg List.head? capable
  unfold firstAuthorized
  rw [found]

/-- The evaluations of `_evaluate_single` that may be authorized are those of the proposals that
may. -/
theorem authorizeCapable_map (controller : StructuralController) (context : EvaluationContext R)
    (proposals : List (MutationProposal R)) :
    authorizeCapable (proposals.map (controller.evaluateSingle context)) =
      (proposals.filter fun proposal => singleDecision proposal context = .authorize).map
        (controller.evaluateSingle context) := by
  unfold authorizeCapable
  rw [List.filter_map]
  rfl

/-- **The first AUTHORIZE evaluation's proposal is the one the decision names exactly when no other
outscores it.** -/
theorem namesTop_firstAuthorized {controller evaluator : StructuralController}
    {proposals : List (MutationProposal R)} {context : EvaluationContext R}
    {decision : AuthorizationDecision} (fallback : MutationProposal R)
    (authorized : (controller.authorizeTopScoring
      (proposals.map (evaluator.evaluateSingle context)) context).1 = some decision) :
    NamesTop (proposals.map (evaluator.evaluateSingle context)) decision
        (firstAuthorized (proposals.map (evaluator.evaluateSingle context)) fallback) ↔
      FirstIsTop proposals context := by
  obtain ⟨top, topMember, named, greatest⟩ := authorizeTopScoring_eq_some authorized
  have capable := authorizeCapable_map evaluator context proposals
  cases candidates : proposals.filter fun proposal =>
      singleDecision proposal context = .authorize with
  | nil =>
    rw [candidates, List.map_nil] at capable
    rw [capable] at topMember
    exact absurd topMember List.not_mem_nil
  | cons first rest =>
    rw [candidates, List.map_cons] at capable
    have found : proposals.find? (fun proposal => singleDecision proposal context = .authorize) =
        some first := by
      rw [← List.head?_filter, candidates]
      rfl
    have eligible : ∀ other, other ∈ first :: rest ↔
        other ∈ proposals ∧ singleDecision other context = .authorize := by
      intro other
      rw [← candidates, List.mem_filter, decide_eq_true_iff]
    rw [firstAuthorized_eq capable fallback]
    constructor
    · rintro ⟨-, -, evaluation, member, same, best⟩ other foundOther proposal inProposals allowed
      obtain rfl : first = other := Option.some.inj (found.symm.trans foundOther)
      have scored : evaluation.score = computeScore first context := by
        obtain ⟨origin, -, rfl⟩ := List.mem_map.mp (mem_authorizeCapable.mp member).1
        exact congrArg (computeScore · context) same
      have listed : evaluator.evaluateSingle context proposal ∈
          authorizeCapable (proposals.map (evaluator.evaluateSingle context)) :=
        mem_authorizeCapable.mpr ⟨List.mem_map_of_mem inProposals, allowed⟩
      have below := best _ listed
      rw [scored] at below
      exact below
    · intro firstIsTop
      have below : ∀ other ∈ rest.map (evaluator.evaluateSingle context),
          other.score ≤ (evaluator.evaluateSingle context first).score := by
        intro other member
        obtain ⟨proposal, later, rfl⟩ := List.mem_map.mp member
        have both := (eligible proposal).mp (List.mem_cons_of_mem _ later)
        exact firstIsTop first found proposal both.1 both.2
      have chosen := authorizeTopScoring_first controller context capable below
      rw [chosen] at authorized
      obtain rfl := Option.some.inj authorized
      refine ⟨rfl, rfl, evaluator.evaluateSingle context first, ?_, rfl, fun other member => ?_⟩
      · rw [capable]
        exact List.mem_cons_self
      · rw [capable] at member
        rcases List.mem_cons.mp member with same | later
        · exact le_of_eq (congrArg ProposalEvaluation.score same)
        · exact below other later

end StructuralController

end Dnc
