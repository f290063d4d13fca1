/-
**All or nothing, or not.**

A call of `verify_and_commit` that does not return `True` leaves the update in the live dictionaries:
it is written before the checks, and what compensates a failed check is a rollback to the version
before the current one, which is not where the call started.

* `commitsWhole_iff`: a call is all or nothing exactly when it stops before it writes, or its checks
  accept the update, or there is nothing to undo (the update changes nothing, and no version below
  the current one is stored where a check rejects it).
* `ownSuite_raises`: the suite of `dnc.observability.evaluation` subtracts the metric vectors as
  lists, so with it no check accepts.
-/

import Dnc.Learning.Protocol

namespace Dnc.Learning

open PyLib Logic

section Commits

variable {V R E : Type} [PyFloat R]

/-- **All or nothing**: a call that returns `True` commits the contents overlaid with the update as
the next version, and any other leaves contents, version and stored versions as they were. -/
structure AllOrNothing (env : LearningEnv R) (protocol : LearningVerificationProtocol V R)
    (arguments : VerifyArguments V R E) (log : ProvenanceLog) : Prop where
  all : (protocol.verifyAndCommit env arguments log).1 = .ok true →
    let contents : KbContents V := fun field =>
      overlaid (protocol.kb.live field) (arguments.candidateUpdate field).entries
    (protocol.verifyAndCommit env arguments log).2.1.kb.history =
      { version := protocol.kb.kbVersion + 1
        live := contents
        stored := Function.update protocol.kb.history.stored (protocol.kb.kbVersion + 1)
          (some contents) }
  nothing : (protocol.verifyAndCommit env arguments log).1 ≠ .ok true →
    (protocol.verifyAndCommit env arguments log).2.1.kb.history = protocol.kb.history

/-- What is written of the update changes nothing, and where a check rejects it there is no version
to roll back to. -/
def NothingToUndo (env : LearningEnv R) (protocol : LearningVerificationProtocol V R)
    (arguments : VerifyArguments V R E) : Prop :=
  overlay arguments.candidateUpdate protocol.kb.live = protocol.kb.live ∧
    (Rejected env protocol.driftChecker arguments →
      protocol.kb.kbVersion - 1 ∉ protocol.kb.versions)

/-- The call stops before it writes, or accepts the update, or has nothing to undo. -/
def CommitsWhole (env : LearningEnv R) (protocol : LearningVerificationProtocol V R)
    (arguments : VerifyArguments V R E) : Prop :=
  arguments.leBatch = [] ∨ (protocol.circuitBreaker.canCommit arguments.nowMs).1 = false ∨
    Accepted env protocol.driftChecker arguments ∨ NothingToUndo env protocol arguments

/-- A well formed update is written whole. -/
theorem overlay_of_wellFormed {update : CandidateUpdate V} (wellFormed : update.WellFormed)
    (contents : KbContents V) :
    overlay update contents = fun field => overlaid (contents field) (update field).entries := by
  have whole : update.reached updateOrder = updateOrder := by
    unfold updateOrder
    rw [reached_cons _ (wellFormed _), reached_cons _ (wellFormed _), reached_cons _ (wellFormed _)]
    rfl
  funext field
  rw [overlay, overlayOf, whole, if_pos (mem_updateOrder field)]

theorem not_mem_versions_iff {kb : KnowledgeBase V} {version : Int} :
    version ∉ kb.versions ↔ kb.history.stored version = none := by
  rw [mem_versions_iff, Option.eq_none_iff_forall_not_mem]
  exact not_exists

/-- A call that returns `True` has written the whole update. -/
theorem committed_of_true {env : LearningEnv R} {checker : DriftChecker R}
    {arguments : VerifyArguments V R E} {before after : KbHistory V} {result : Except PyError Bool}
    (ends : VerifyEnd env checker arguments before result after) (returned : result = .ok true) :
    overlay arguments.candidateUpdate before.live =
      fun field => overlaid (before.live field) (arguments.candidateUpdate field).entries := by
  cases ends with
  | accepted accepted => exact overlay_of_wellFormed accepted.1 before.live
  | rejected | raised => cases returned

theorem Rejected.not_accepted {env : LearningEnv R} {checker : DriftChecker R}
    {arguments : VerifyArguments V R E} (rejected : Rejected env checker arguments) :
    ¬ Accepted env checker arguments := by
  intro accepted
  rcases rejected.2 with degraded | ⟨-, violations, some, found⟩
  · cases degraded.symm.trans accepted.2.1
  · exact some (Except.ok.inj (found.symm.trans accepted.2.2))

theorem error_ne_true (error : PyError) : (Except.error error : Except PyError Bool) ≠ .ok true := by
  intro same
  cases same

/-- **All or nothing, at the end of a permitted verification.** -/
theorem end_iff {env : LearningEnv R} {checker : DriftChecker R}
    {arguments : VerifyArguments V R E} {before after : KbHistory V} {result : Except PyError Bool}
    (ends : VerifyEnd env checker arguments before result after) :
    ((result = .ok true → after = historyStep
        { before with live := overlay arguments.candidateUpdate before.live } .commit) ∧
      (result ≠ .ok true → after = before)) ↔
      Accepted env checker arguments ∨
        overlay arguments.candidateUpdate before.live = before.live ∧
          (Rejected env checker arguments → before.stored (before.version - 1) = none) := by
  cases ends with
  | accepted accepted =>
    exact iff_of_true ⟨fun _ => rfl, fun other => absurd rfl other⟩ (Or.inl accepted)
  | @raised error unaccepted unrejected =>
    rw [or_iff_right unaccepted, and_iff_left fun rejected => absurd rejected unrejected,
      and_iff_right fun same => absurd same (error_ne_true error)]
    constructor
    · exact fun same => congrArg KbHistory.live (same (error_ne_true error))
    · intro same _
      rw [same]
  | @rejected error rejected =>
    rw [or_iff_right rejected.not_accepted,
      and_iff_right fun same => absurd same (error_ne_true error)]
    cases stored : before.stored (before.version - 1) with
    | none =>
      simp only [historyStep, stored]
      constructor
      · exact fun same => ⟨congrArg KbHistory.live (same (error_ne_true error)), fun _ => trivial⟩
      · rintro ⟨same, -⟩ -
        rw [same]
    | some contents =>
      -- the rollback moves the version
      simp only [historyStep, stored]
      refine iff_of_false (fun same => ?_) fun both => Option.some_ne_none _ (both.2 rejected)
      have moved : before.version - 1 = before.version :=
        congrArg KbHistory.version (same (error_ne_true error))
      omega

/-- **A call is all or nothing exactly when it commits whole.** -/
theorem commitsWhole_iff (env : LearningEnv R) (protocol : LearningVerificationProtocol V R)
    (arguments : VerifyArguments V R E) (log : ProvenanceLog) :
    AllOrNothing env protocol arguments log ↔ CommitsWhole env protocol arguments := by
  unfold CommitsWhole
  by_cases empty : arguments.leBatch = []
  · have stopped : protocol.verifyAndCommit env arguments log = (.error (.learningWithoutEvents
        "candidate_update requires at least one learning event"), protocol, log) := by
      unfold LearningVerificationProtocol.verifyAndCommit
      rw [empty]
      rfl
    exact iff_of_true ⟨by rw [stopped]; exact nofun, by rw [stopped]; exact fun _ => rfl⟩
      (Or.inl empty)
  · rw [or_iff_right empty]
    have started : arguments.leBatch.isEmpty = false := List.isEmpty_eq_false_iff.mpr empty
    cases permitted : (protocol.circuitBreaker.canCommit arguments.nowMs).1 with
    | false =>
      have returned : (protocol.verifyAndCommit env arguments log).1 = .ok false ∧
          (protocol.verifyAndCommit env arguments log).2.1.kb = protocol.kb := by
        simp [LearningVerificationProtocol.verifyAndCommit, started, permitted]
      refine iff_of_true ⟨?_, fun _ => congrArg _ returned.2⟩ (Or.inl rfl)
      rw [returned.1]
      exact nofun
    | true =>
      have returned : (protocol.verifyAndCommit env arguments log).1 =
            (verifyPermitted env protocol.driftChecker arguments protocol.kb).1 ∧
          (protocol.verifyAndCommit env arguments log).2.1.kb =
            (verifyPermitted env protocol.driftChecker arguments protocol.kb).2 := by
        simp [LearningVerificationProtocol.verifyAndCommit, started, permitted]
      have ends : VerifyEnd env protocol.driftChecker arguments protocol.kb.history _ _ :=
        (verifyPermitted_ends protocol.separated).2
      rw [← returned.1, ← returned.2] at ends
      rw [or_iff_right Bool.true_eq_false.mp, NothingToUndo, not_mem_versions_iff]
      refine Iff.trans ?_ (end_iff ends)
      constructor
      · intro whole
        refine ⟨fun accepted => ?_, whole.nothing⟩
        rw [whole.all accepted, committed_of_true ends accepted]
        rfl
      · rintro ⟨all, nothing⟩
        refine ⟨fun accepted => ?_, nothing⟩
        rw [all accepted, committed_of_true ends accepted]
        rfl

/-! ### The suite of the repository -/

/-- The suite subtracts one list from another. -/
theorem ownSuite_raises (tolerance : R) :
    EvaluationSuite tolerance (currentMetricValues : MetricValues R) currentMetricValues =
      .error (.typeError "unsupported operand type(s) for -: 'list' and 'list'") := rfl

end Commits

/-! ### An update that outlives its rejection -/

namespace Sample

/-- A new protocol. -/
def protocol : LearningVerificationProtocol Int Rat where
  kb := .new
  separated := KnowledgeBase.separated_new
  driftChecker := {}
  circuitBreaker := { suspensionUntil := 0 }

/-- `verify_and_commit([event], {"KB_costs": {"cost": 1}}, EvaluationSuite(), log)`. -/
def arguments : VerifyArguments Int Rat Unit where
  leBatch := [()]
  candidateUpdate
    | .kbCosts => .items (Dict.ofItems [("cost", 1)])
    | _ => .absent
  evaluationSuite := EvaluationSuite 0.05
  driftBound := 0.1
  degradationTolerance := 0.05
  nowMs := 0

end Sample

/-- A new protocol keeps the update of a call that raises. -/
theorem update_survives : ¬ ∀ (env : LearningEnv Rat) (protocol : LearningVerificationProtocol Int Rat)
    (arguments : VerifyArguments Int Rat Unit) (log : ProvenanceLog),
    AllOrNothing env protocol arguments log := by
  intro always
  let env : LearningEnv Rat := ⟨0, fun _ => "", fun _ => "", ⟨fun _ => "", fun _ =>
    ⟨false, 0, [0], none, FloatLit.isFloat_zero⟩, id⟩⟩
  rcases (commitsWhole_iff env Sample.protocol Sample.arguments ⟨"run", [], "", ∅, ∅⟩).mp
    (always _ _ _ _) with empty | suspended | accepted | undone
  · cases empty
  · cases suspended
  · cases (ownSuite_raises (0.05 : Rat)).symm.trans accepted.2.1
  · have costs := congrFun undone.1 .kbCosts
    revert costs
    decide

end Dnc.Learning
