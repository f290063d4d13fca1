/-
**The semantic controller.**

`dnc.control.controller.SemanticCognitiveController.select`: candidates are deduplicated by
identifier and by meaning, the rest is checked against the context, what passes is pruned to the
Pareto front, and the first of the least by a lexicographic key is selected.

* `validateAndDeduplicate_unique`: the deduplication keeps the first of what clashes.
* `selected_isSome_iff`: something is selected exactly when something that was kept is authorized.
  Dominance is a strict order, so the front of what is authorized is not empty.
* `selects_iff`: the deduplication runs before the checks, so an authorized candidate is lost behind
  one that is kept and then refused. Selection finds an authorized candidate exactly where none is
  there, or one of them clashes with no candidate that was kept before it.
-/

import Dnc.Cognition.Canonical
import Dnc.Control.Contracts
import Dnc.Logic.Pareto
import Dnc.Semantics.Validation
import Mathlib.Data.Prod.Lex

namespace Dnc.Control

open PyLib Cognition Capabilities Logic

section Controller

variable {R : Type} [PyFloat R]

/-- `_RISK_ORDER`. -/
def riskOrder : RiskClass → Nat
  | .low => 1
  | .medium => 2
  | .high => 3
  | .critical => 4

/-- The tuple `semantic_key`. -/
structure SemanticKey where
  taskId : String
  actionType : CognitiveActionType
  preconditions : List String
  expectedEffects : List String
  evidenceRequirements : List String
  risk : RiskClass
  reversible : Bool
  requiredPermissions : List String
deriving DecidableEq

def semanticKey (candidate : ActionCandidate R) : SemanticKey where
  taskId := candidate.proposal.taskId
  actionType := candidate.proposal.actionType
  preconditions := sortBy id candidate.proposal.preconditions
  expectedEffects := sortBy id candidate.proposal.expectedEffects
  evidenceRequirements := sortBy id candidate.proposal.evidenceRequirements
  risk := candidate.proposal.risk
  reversible := candidate.proposal.reversible
  requiredPermissions := sortedElems candidate.requiredPermissions

/-- The local variables of `_validate_and_deduplicate`. -/
structure Deduplication (R : Type) [PyFloat R] where
  unique : List (ActionCandidate R) := []
  seenIds : Finset String := ∅
  seenSemantics : Finset SemanticKey := ∅
  rejected : List CandidateRejection := []

/-- The body of the loop of `_validate_and_deduplicate`. -/
def deduplicateNext (sofar : Deduplication R) (candidate : ActionCandidate R) : Deduplication R :=
  if candidate.proposal.proposalId ∈ sofar.seenIds ∨ semanticKey candidate ∈ sofar.seenSemantics then
    { sofar with
      rejected := sofar.rejected ++ [⟨candidate.proposal.proposalId, ["DUPLICATE"]⟩] }
  else
    { sofar with
      unique := sofar.unique ++ [candidate]
      seenIds := insert candidate.proposal.proposalId sofar.seenIds
      seenSemantics := insert (semanticKey candidate) sofar.seenSemantics }

/-- `SemanticCognitiveController._validate_and_deduplicate`. -/
def validateAndDeduplicate (candidates : List (ActionCandidate R)) :
    List (ActionCandidate R) × List CandidateRejection :=
  let loop := candidates.foldl deduplicateNext {}
  (loop.unique, loop.rejected)

/-- `SemanticCognitiveController._authorization_reasons`. -/
def authorizationReasons (candidate : ActionCandidate R) (context : ControllerContext R) :
    List String :=
  let proposal := candidate.proposal
  let noOp := (proposal.metadata.get? "no_op_decision").filter MetadataValue.isPresent
  reasonIf (proposal.taskId ≠ context.taskId) "TASK_MISMATCH" ++
    reasonIf (proposal.actionType ∉ context.allowedActions) "ACTION_NOT_ALLOWED" ++
    reasonIf (riskOrder context.riskClass < riskOrder proposal.risk) "RISK_LIMIT" ++
    reasonIf (context.availableBudget < proposal.estimatedCost) "COST_BUDGET" ++
    reasonIf (context.deadlineRemainingMs < proposal.estimatedLatencyMs) "DEADLINE" ++
    reasonIf (¬ candidate.requiredPermissions ⊆ context.grantedPermissions) "PERMISSION" ++
    reasonIf (candidate.preconditionsSatisfied = false) "PRECONDITION" ++
    reasonIf (proposal.actionType = .stop ∧ context.stopAuthorized = false)
      "STOP_NOT_AUTHORIZED" ++
    reasonIf (proposal.actionType = .stop ∧ noOp.isSome) "STOP_NO_OP_CONFLATION" ++
    reasonIf (proposal.actionType = .restructure ∧ noOp.any fun value => !value.isNoOpDecision)
      "INVALID_NO_OP_DECISION"

/-- `_objectives`. -/
def objectives (vector : OutcomeVector R) : List R := [
  vector.qualityGain, vector.informationGain, vector.confidenceGain, -vector.monetaryCost,
  -vector.computeCost, -vector.latencyMs, -vector.epistemicRisk, -vector.safetyRisk,
  -vector.privacyRisk, vector.reversibility, -vector.sideEffectMagnitude]

/-- `_dominates`. -/
def dominates (left right : OutcomeVector R) : Bool := exceeds (objectives left) (objectives right)

/-- `pareto_prune`. Nothing dominates itself, so that the test `other is not candidate` makes no
difference. -/
def paretoPrune (candidates : List (ActionCandidate R)) : List (ActionCandidate R) :=
  undominated (fun other candidate : ActionCandidate R =>
    dominates other.prediction candidate.prediction = true) candidates

/-- `_lexicographic_key`. -/
def lexicographicKey (candidate : ActionCandidate R) :
    R ×ₗ R ×ₗ R ×ₗ R ×ₗ R ×ₗ R ×ₗ R ×ₗ R ×ₗ R ×ₗ String :=
  let vector := candidate.prediction
  toLex (vector.safetyRisk, toLex (vector.privacyRisk,
    toLex (vector.epistemicRisk + candidate.uncertainty, toLex (vector.sideEffectMagnitude,
    toLex (-vector.reversibility,
    toLex (-(vector.qualityGain + vector.informationGain + vector.confidenceGain),
    toLex (vector.monetaryCost, toLex (vector.computeCost, toLex (vector.latencyMs,
    candidate.proposal.proposalId)))))))))

/-- `audit_payload`. -/
def auditPayload (taskId : String) (selected : Option (ActionCandidate R))
    (survivors : List (ActionCandidate R)) (rejections : List CandidateRejection) : PyData :=
  .dict [("task_id", .str taskId),
    ("selected", (selected.map fun candidate =>
      PyData.str candidate.proposal.proposalId).getD .null),
    ("survivors", .list (survivors.map fun candidate => .str candidate.proposal.proposalId)),
    ("rejections", .list (rejections.map fun item =>
      .tuple [.str item.proposalId, .tuple (item.reasonCodes.map .str)]))]

/-- `SemanticCognitiveController.select`, given `hashlib.sha256(…).hexdigest()`. -/
def select (sha256 : String → String) (context : ControllerContext R) : ControllerDecision R :=
  let (unique, duplicateRejections) := validateAndDeduplicate context.candidates
  let authorized := unique.filter fun candidate => authorizationReasons candidate context = []
  let refused := unique.filter fun candidate => authorizationReasons candidate context ≠ []
  let survivors := paretoPrune authorized
  let selected := minBy lexicographicKey survivors
  let survivorIds := survivors.map fun candidate => candidate.proposal.proposalId
  let rejections := duplicateRejections ++
    (refused.map fun candidate =>
      ⟨candidate.proposal.proposalId, authorizationReasons candidate context⟩) ++
    (authorized.filter fun candidate => candidate.proposal.proposalId ∉ survivorIds).map fun candidate =>
      ⟨candidate.proposal.proposalId, ["PARETO_DOMINATED"]⟩
  { selected
    -- no two of the authorized candidates have one identifier
    alternatives := (sortBy lexicographicKey authorized).filter fun candidate =>
      some candidate.proposal.proposalId ≠ selected.map fun chosen => chosen.proposal.proposalId
    rejections
    paretoSurvivors := survivorIds
    reasonCodes := if selected.isSome then ["LEXICOGRAPHIC_RISK_SELECTION"]
      else ["NO_AUTHORIZED_CANDIDATE"]
    auditRecordId := sha256 (canonicalJson (auditPayload context.taskId selected survivors rejections))
    shadowLog := unique.filterMap fun candidate =>
      candidate.shadowPrediction.map fun prediction => (candidate.proposal.proposalId, prediction) }

/-! ### What is kept -/

/-- One identifier, or one meaning. -/
def SameProposal (first second : ActionCandidate R) : Prop :=
  first.proposal.proposalId = second.proposal.proposalId ∨ semanticKey first = semanticKey second

instance : DecidableRel (SameProposal (R := R)) := fun _ _ => inferInstanceAs (Decidable (_ ∨ _))

/-- The loop has seen the identifiers and meanings of what it has kept. -/
structure SeenKept (sofar : Deduplication R) (candidates : List (ActionCandidate R)) : Prop where
  unique : sofar.unique = keepFirst SameProposal candidates
  ids : ∀ proposalId, proposalId ∈ sofar.seenIds ↔
    ∃ kept ∈ sofar.unique, kept.proposal.proposalId = proposalId
  semantics : ∀ key, key ∈ sofar.seenSemantics ↔ ∃ kept ∈ sofar.unique, semanticKey kept = key

theorem SeenKept.next {sofar : Deduplication R} {candidates : List (ActionCandidate R)}
    (seen : SeenKept sofar candidates) (candidate : ActionCandidate R) :
    SeenKept (deduplicateNext sofar candidate) (candidates ++ [candidate]) := by
  have clashes : (candidate.proposal.proposalId ∈ sofar.seenIds ∨
      semanticKey candidate ∈ sofar.seenSemantics) ↔
        ∃ kept ∈ sofar.unique, SameProposal kept candidate := by
    rw [seen.ids, seen.semantics, ← exists_or]
    refine exists_congr fun kept => ?_
    rw [← and_or_left]
    rfl
  have kept : keepFirst SameProposal (candidates ++ [candidate]) =
      if ∃ kept ∈ sofar.unique, SameProposal kept candidate then sofar.unique
      else sofar.unique ++ [candidate] := by
    rw [keepFirst_append_singleton, keepNext, ← seen.unique]
  unfold deduplicateNext
  by_cases duplicate : ∃ kept ∈ sofar.unique, SameProposal kept candidate
  · rw [if_pos (clashes.mpr duplicate)]
    rw [if_pos duplicate] at kept
    exact ⟨kept.symm, seen.ids, seen.semantics⟩
  · rw [if_neg (clashes.not.mpr duplicate)]
    rw [if_neg duplicate] at kept
    -- what holds of some kept candidate, with one kept more
    have grown : ∀ P : ActionCandidate R → Prop, (∃ kept ∈ sofar.unique ++ [candidate], P kept) ↔
        P candidate ∨ ∃ kept ∈ sofar.unique, P kept := by
      intro P
      simp only [List.mem_append, List.mem_singleton, or_and_right, exists_or, exists_eq_left]
      exact Or.comm
    refine ⟨kept.symm, fun proposalId => ?_, fun key => ?_⟩
    · rw [grown, Finset.mem_insert, seen.ids, eq_comm]
    · rw [grown, Finset.mem_insert, seen.semantics, eq_comm]

/-- **The deduplication keeps the first of what clashes.** -/
theorem validateAndDeduplicate_unique (candidates : List (ActionCandidate R)) :
    (validateAndDeduplicate candidates).1 = keepFirst SameProposal candidates := by
  have seen : SeenKept (candidates.foldl deduplicateNext {}) candidates := by
    induction candidates using List.reverseRecOn with
    | nil => exact ⟨rfl, fun _ => by simp, fun _ => by simp⟩
    | append_singleton earlier last ih =>
      rw [List.foldl_append]
      exact ih.next last
  exact seen.unique

/-! ### The front -/

theorem dominates_irrefl (vector : OutcomeVector R) : ¬ dominates vector vector = true :=
  exceeds_irrefl _

theorem dominates_trans {first second third : OutcomeVector R}
    (upper : dominates first second = true) (lower : dominates second third = true) :
    dominates first third = true :=
  exceeds_trans (show (objectives first).length = (objectives second).length from rfl) upper lower

theorem paretoPrune_ne_nil {candidates : List (ActionCandidate R)} (nonempty : candidates ≠ []) :
    paretoPrune candidates ≠ [] := by
  refine undominated_ne_nil (fun candidate : ActionCandidate R => ?_) ?_ nonempty
  · exact dominates_irrefl candidate.prediction
  · exact fun _ _ _ upper lower => dominates_trans upper lower

/-! ### The selection -/

/-- The candidate passes every authorization check. -/
def Authorized (context : ControllerContext R) (candidate : ActionCandidate R) : Prop :=
  authorizationReasons candidate context = []

variable (sha256 : String → String) (context : ControllerContext R)

/-- What is selected was kept and is authorized. -/
theorem authorized_of_selected {candidate : ActionCandidate R}
    (selected : (select sha256 context).selected = some candidate) :
    candidate ∈ keepFirst SameProposal context.candidates ∧ Authorized context candidate := by
  have survivor : candidate ∈ paretoPrune ((validateAndDeduplicate context.candidates).1.filter
      fun candidate => authorizationReasons candidate context = []) :=
    mem_of_minBy (show minBy lexicographicKey _ = some candidate from selected)
  have listed := (mem_undominated.mp survivor).1
  rw [List.mem_filter, decide_eq_true_eq] at listed
  rw [← validateAndDeduplicate_unique]
  exact listed

/-- **Something is selected exactly when something that was kept is authorized.** -/
theorem selected_isSome_iff : (select sha256 context).selected.isSome ↔
    ∃ candidate ∈ keepFirst SameProposal context.candidates, Authorized context candidate := by
  constructor
  · intro isSome
    obtain ⟨candidate, selected⟩ := Option.isSome_iff_exists.mp isSome
    exact ⟨candidate, authorized_of_selected sha256 context selected⟩
  · rintro ⟨candidate, kept, authorized⟩
    have listed : candidate ∈ (validateAndDeduplicate context.candidates).1.filter fun candidate =>
        authorizationReasons candidate context = [] := by
      rw [List.mem_filter, decide_eq_true_eq, validateAndDeduplicate_unique]
      exact ⟨kept, authorized⟩
    rw [Option.isSome_iff_ne_none]
    intro none
    exact paretoPrune_ne_nil (List.ne_nil_of_mem listed) (minBy_eq_none.mp none)

/-- Something is selected exactly when a candidate of the context is authorized, and what is selected
is such a candidate. -/
structure SelectsAuthorized : Prop where
  exactly : (select sha256 context).selected.isSome ↔
    ∃ candidate ∈ context.candidates, Authorized context candidate
  authorized : ∀ candidate, (select sha256 context).selected = some candidate →
    candidate ∈ context.candidates ∧ Authorized context candidate

/-- An authorized candidate clashes with none that was kept before it. -/
def AuthorizedFirst : Prop :=
  ∃ early candidate late, context.candidates = early ++ candidate :: late ∧
    Authorized context candidate ∧
    ∀ kept ∈ keepFirst SameProposal early, ¬ SameProposal kept candidate

/-- **Selection finds an authorized candidate exactly where none is there, or one of them clashes
with no candidate that was kept before it.** -/
theorem selects_iff : SelectsAuthorized sha256 context ↔
    ((∃ candidate ∈ context.candidates, Authorized context candidate) →
      AuthorizedFirst context) := by
  have first : AuthorizedFirst context ↔
      ∃ candidate ∈ keepFirst SameProposal context.candidates, Authorized context candidate := by
    constructor
    · rintro ⟨early, candidate, late, split, authorized, free⟩
      exact ⟨candidate, mem_keepFirst_iff.mpr ⟨early, late, split, free⟩, authorized⟩
    · rintro ⟨candidate, kept, authorized⟩
      obtain ⟨early, late, split, free⟩ := mem_keepFirst_iff.mp kept
      exact ⟨early, candidate, late, split, authorized, free⟩
  rw [first, ← selected_isSome_iff sha256 context]
  constructor
  · exact fun selects => selects.exactly.mpr
  · intro finds
    refine ⟨⟨fun isSome => ?_, finds⟩, fun candidate selected => ?_⟩
    · obtain ⟨candidate, kept, authorized⟩ := (selected_isSome_iff sha256 context).mp isSome
      exact ⟨candidate, mem_of_mem_keepFirst kept, authorized⟩
    · obtain ⟨kept, authorized⟩ := authorized_of_selected sha256 context selected
      exact ⟨mem_of_mem_keepFirst kept, authorized⟩

end Controller

namespace Sample

theorem outcome_valid : ({} : OutcomeVectorData ℚ).violation = none := by decide +kernel

theorem free : (0 : ℚ) ≤ 0 := le_refl 0

/-- Asking, at a price. -/
def asking (proposalId : String) (named : proposalId ≠ "") (estimatedCost : ℚ)
    (priced : 0 ≤ estimatedCost) : ActionCandidate ℚ where
  proposal := {
    proposalId, estimatedCost
    taskId := "task"
    actionType := .ask
    rationale := "ask the user"
    valid := by simp [CognitiveProposalData.violation, named, priced] }
  source := .rule
  prediction := { valid := outcome_valid }
  valid := by norm_num [ActionCandidateData.violation]

/-- The same question twice, beyond the budget first. -/
def askingTwice : ControllerContext ℚ where
  taskId := "task"
  riskClass := .high
  candidates := [asking "expensive" (by decide) 2 (by decide +kernel),
    asking "cheap" (by decide) 0 free]
  availableBudget := 1
  deadlineRemainingMs := 100
  valid := by decide +kernel

end Sample

/-- **The deduplication hides an authorized candidate** behind one that costs too much. -/
theorem duplicate_hides_authorized : ¬ SelectsAuthorized id Sample.askingTwice := by
  intro selects
  have nothing : (select id Sample.askingTwice).selected.isSome = false := by decide +kernel
  have cheap : Authorized Sample.askingTwice (Sample.asking "cheap" (by decide) 0 (by decide +kernel)) := by
    show authorizationReasons _ _ = []
    decide +kernel
  have found := selects.exactly.mpr ⟨_, by simp [Sample.askingTwice], cheap⟩
  rw [nothing] at found
  cases found

end Dnc.Control
