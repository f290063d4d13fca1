/-
**What is selected where no two candidates clash.**

Candidates with different identifiers and different meanings all pass the deduplication. Then

* `mem_paretoSurvivors`: the surviving identifiers are those of the authorized candidates that no
  authorized candidate dominates;
* `rejected_of_not_onFront`: every other candidate is among the rejections, with a reason;
* `select_reordered`: the key of the final choice ends in the identifier, so the same candidate is
  selected from the candidates in any order.
-/

import Dnc.Control.Controller

namespace Dnc.Control

open PyLib Cognition Capabilities Logic

section Front

variable {R : Type} [PyFloat R] (sha256 : String → String) (context : ControllerContext R)

/-- The candidates have different identifiers and different meanings. -/
structure Distinct (candidates : List (ActionCandidate R)) : Prop where
  ids : (candidates.map fun candidate => candidate.proposal.proposalId).Nodup
  semantics : (candidates.map semanticKey).Nodup

/-- The candidate is of the context and authorized, and no authorized one dominates it. -/
structure OnFront (candidate : ActionCandidate R) : Prop where
  listed : candidate ∈ context.candidates
  authorized : Authorized context candidate
  undominated : ∀ other ∈ context.candidates, Authorized context other →
    ¬ dominates other.prediction candidate.prediction = true

/-- The context with its candidates in another order, or with others. -/
def withCandidates (candidates : List (ActionCandidate R)) : ControllerContext R :=
  { context with candidates, valid := context.valid }

/-- **The law of the selection.** -/
structure SelectsFromFront : Prop where
  /-- Something is selected if anything is authorized, and it is on the front. -/
  finds : (∃ candidate ∈ context.candidates, Authorized context candidate) →
    (select sha256 context).selected.isSome
  selected : ∀ candidate, (select sha256 context).selected = some candidate →
    OnFront context candidate
  /-- The surviving identifiers are those of the front. -/
  survivors : ∀ proposalId, proposalId ∈ (select sha256 context).paretoSurvivors ↔
    ∃ candidate, OnFront context candidate ∧ candidate.proposal.proposalId = proposalId
  /-- What is not on the front is rejected, with a reason. -/
  rejected : ∀ candidate ∈ context.candidates, ¬ OnFront context candidate →
    ∃ rejection ∈ (select sha256 context).rejections,
      rejection.proposalId = candidate.proposal.proposalId ∧ rejection.reasonCodes ≠ []
  /-- The order of the candidates does not matter. -/
  reordered : ∀ candidates, context.candidates.Perm candidates →
    (select sha256 (withCandidates context candidates)).selected = (select sha256 context).selected

variable {context}

theorem Distinct.perm {candidates others : List (ActionCandidate R)} (distinct : Distinct candidates)
    (perm : candidates.Perm others) : Distinct others where
  ids := (perm.map _).nodup_iff.mp distinct.ids
  semantics := (perm.map _).nodup_iff.mp distinct.semantics

/-- **All of them are kept.** -/
theorem Distinct.kept {candidates : List (ActionCandidate R)} (distinct : Distinct candidates) :
    (validateAndDeduplicate candidates).1 = candidates := by
  rw [validateAndDeduplicate_unique]
  refine keepFirst_of_pairwise ?_
  have ids := List.pairwise_map.mp distinct.ids
  have semantics := List.pairwise_map.mp distinct.semantics
  exact (ids.and semantics).imp fun apart clash => clash.elim apart.1 apart.2

/-- Candidates of one identifier are one candidate. -/
theorem Distinct.eq_of_proposalId {candidates : List (ActionCandidate R)}
    (distinct : Distinct candidates) {first second : ActionCandidate R} (isFirst : first ∈ candidates)
    (isSecond : second ∈ candidates)
    (same : first.proposal.proposalId = second.proposal.proposalId) : first = second :=
  List.inj_on_of_nodup_map distinct.ids isFirst isSecond same

variable (context)

/-- The candidates that pass the checks. -/
def authorizedOf (candidates : List (ActionCandidate R)) : List (ActionCandidate R) :=
  candidates.filter fun candidate => authorizationReasons candidate context = []

variable {context}

theorem mem_authorizedOf {candidates : List (ActionCandidate R)} {candidate : ActionCandidate R} :
    candidate ∈ authorizedOf context candidates ↔
      candidate ∈ candidates ∧ Authorized context candidate := by
  rw [authorizedOf, List.mem_filter, decide_eq_true_eq]
  rfl

/-- The front is what is left of the authorized candidates. -/
theorem mem_front {candidate : ActionCandidate R} :
    candidate ∈ paretoPrune (authorizedOf context context.candidates) ↔ OnFront context candidate := by
  rw [paretoPrune, mem_undominated, mem_authorizedOf]
  constructor
  · rintro ⟨⟨listed, authorized⟩, undominated⟩
    exact ⟨listed, authorized, fun other member passes =>
      undominated other (mem_authorizedOf.mpr ⟨member, passes⟩)⟩
  · rintro ⟨listed, authorized, undominated⟩
    refine ⟨⟨listed, authorized⟩, fun other member => ?_⟩
    obtain ⟨otherListed, passes⟩ := mem_authorizedOf.mp member
    exact undominated other otherListed passes

variable (distinct : Distinct context.candidates)
include distinct

theorem selected_eq : (select sha256 context).selected =
    minBy lexicographicKey (paretoPrune (authorizedOf context context.candidates)) := by
  show minBy lexicographicKey (paretoPrune
    ((validateAndDeduplicate context.candidates).1.filter _)) = _
  rw [distinct.kept]
  rfl

/-- **The surviving identifiers are those of the front.** -/
theorem mem_paretoSurvivors {proposalId : String} :
    proposalId ∈ (select sha256 context).paretoSurvivors ↔
      ∃ candidate, OnFront context candidate ∧ candidate.proposal.proposalId = proposalId := by
  have survivors : (select sha256 context).paretoSurvivors =
      (paretoPrune (authorizedOf context context.candidates)).map
        fun candidate => candidate.proposal.proposalId := by
    show (paretoPrune ((validateAndDeduplicate context.candidates).1.filter _)).map _ = _
    rw [distinct.kept]
    rfl
  rw [survivors, List.mem_map]
  exact exists_congr fun candidate => and_congr_left' mem_front

/-- **What is not on the front is rejected, with a reason.** -/
theorem rejected_of_not_onFront {candidate : ActionCandidate R}
    (listed : candidate ∈ context.candidates) (beaten : ¬ OnFront context candidate) :
    ∃ rejection ∈ (select sha256 context).rejections,
      rejection.proposalId = candidate.proposal.proposalId ∧ rejection.reasonCodes ≠ [] := by
  have kept : candidate ∈ (validateAndDeduplicate context.candidates).1 := by
    rw [distinct.kept]
    exact listed
  by_cases authorized : Authorized context candidate
  · have dominated : candidate.proposal.proposalId ∉ (select sha256 context).paretoSurvivors := by
      rw [mem_paretoSurvivors sha256 distinct]
      rintro ⟨other, onFront, same⟩
      exact beaten (distinct.eq_of_proposalId onFront.listed listed same ▸ onFront)
    refine ⟨⟨candidate.proposal.proposalId, ["PARETO_DOMINATED"]⟩, ?_, rfl, List.cons_ne_nil _ _⟩
    refine List.mem_append_right _ (List.mem_map.mpr ⟨candidate, ?_, rfl⟩)
    rw [List.mem_filter, decide_eq_true_eq, List.mem_filter, decide_eq_true_eq]
    exact ⟨⟨kept, authorized⟩, dominated⟩
  · refine ⟨⟨candidate.proposal.proposalId, authorizationReasons candidate context⟩, ?_, rfl,
      authorized⟩
    refine List.mem_append_left _ (List.mem_append_right _ (List.mem_map.mpr ⟨candidate, ?_, rfl⟩))
    rw [List.mem_filter, decide_eq_true_eq]
    exact ⟨kept, authorized⟩

/-- **The order of the candidates does not matter.** -/
theorem select_reordered {candidates : List (ActionCandidate R)}
    (perm : context.candidates.Perm candidates) :
    (select sha256 (withCandidates context candidates)).selected =
      (select sha256 context).selected := by
  have fronts : (paretoPrune (authorizedOf context context.candidates)).Perm
      (paretoPrune (authorizedOf context candidates)) := undominated_perm (perm.filter _)
  have other : (select sha256 (withCandidates context candidates)).selected =
      minBy lexicographicKey (paretoPrune (authorizedOf context candidates)) :=
    have others : Distinct (withCandidates context candidates).candidates := distinct.perm perm
    selected_eq sha256 others
  rw [other, selected_eq sha256 distinct]
  refine (minBy_eq_of_perm fronts fun first isFirst second isSecond same => ?_).symm
  -- the key ends in the identifier
  have ids : first.proposal.proposalId = second.proposal.proposalId := by
    simp only [lexicographicKey, EmbeddingLike.apply_eq_iff_eq, Prod.mk.injEq] at same
    exact same.2.2.2.2.2.2.2.2.2
  exact distinct.eq_of_proposalId (mem_front.mp isFirst).listed (mem_front.mp isSecond).listed ids

omit distinct in
/-- **Selection from the Pareto front**, where no two candidates clash. -/
theorem selectsFromFront (sha256 : String → String) (context : ControllerContext R)
    (distinct : Distinct context.candidates) : SelectsFromFront sha256 context where
  finds := by
    rintro ⟨candidate, listed, authorized⟩
    rw [selected_eq sha256 distinct, Option.isSome_iff_ne_none]
    have some := List.ne_nil_of_mem (mem_authorizedOf.mpr ⟨listed, authorized⟩)
    exact fun none => paretoPrune_ne_nil some (minBy_eq_none.mp none)
  selected candidate chosen := by
    rw [selected_eq sha256 distinct] at chosen
    exact mem_front.mp (mem_of_minBy chosen)
  survivors _ := mem_paretoSurvivors sha256 distinct
  rejected _ listed beaten := rejected_of_not_onFront sha256 distinct listed beaten
  reordered _ perm := select_reordered sha256 distinct perm

end Front

/-- The same question at two prices is one candidate; a question and an abstention are two. -/
def Sample.askingOrAbstaining : ControllerContext ℚ where
  taskId := "task"
  riskClass := .high
  candidates := [Sample.asking "ask" (by decide) 0 Sample.free, {
    proposal := {
      proposalId := "abstain"
      taskId := "task"
      actionType := .abstain
      rationale := "leave it"
      estimatedCost := 0
      valid := by simp [CognitiveProposalData.violation] }
    source := .rule
    prediction := { valid := Sample.outcome_valid }
    valid := by norm_num [ActionCandidateData.violation] }]
  availableBudget := 1
  deadlineRemainingMs := 100
  valid := by decide +kernel

theorem askingOrAbstaining_front : SelectsFromFront id Sample.askingOrAbstaining :=
  selectsFromFront id Sample.askingOrAbstaining ⟨by decide +kernel, by decide +kernel⟩

end Dnc.Control
