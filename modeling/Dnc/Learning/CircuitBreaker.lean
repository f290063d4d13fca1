/-
**Rollbacks and the circuit breaker.**

`RollbackCircuitBreaker` is meant to suspend learning for an hour once more than three rollbacks
fell within an hour. `verify_and_commit` rolls back without `record_rollback`, so the breaker of a
protocol is never suspended.

A run is a list of calls, each with the drift checker it finds, for executions are recorded between
the calls. `rolledBack_iff` says from the inputs which calls roll back, and
`breakerHolds_iff` that the breaker does what it is for exactly in the runs in which there is nothing
for it to do.
-/

import Dnc.Learning.Commits
import Dnc.Logic.Run

namespace Dnc.Learning

open PyLib Logic

/-! ### The breaker by itself -/

/-- `RollbackCircuitBreaker.MAX_ROLLBACKS`. -/
def maxRollbacks : Nat := 3

section Breaker

variable {R : Type} [PyFloat R]

/-- `RollbackCircuitBreaker.WINDOW_DURATION_MS`. -/
def windowDurationMs : R := ((3600000 : Int) : R)

namespace RollbackCircuitBreaker

/-- `RollbackCircuitBreaker()`. -/
def new : RollbackCircuitBreaker R where
  suspensionUntil := 0.0

end RollbackCircuitBreaker

end Breaker

/-! ### Runs of the protocol -/

section Runs

variable (V R E : Type)

/-- A call of `verify_and_commit` in a run, with the drift checker as the call finds it. -/
structure VerifyCall where
  driftChecker : DriftChecker R
  arguments : VerifyArguments V R E

/-- The protocol and the provenance log that its calls append to. -/
abbrev Learner := LearningVerificationProtocol V R × ProvenanceLog

variable {V R E} [PyFloat R] (env : LearningEnv R)

/-- A protocol that has made no call yet, over a knowledge base. -/
def LearningVerificationProtocol.opened (kb : KnowledgeBase V) (separated : kb.Separated) :
    LearningVerificationProtocol V R where
  kb
  separated
  driftChecker := {}
  circuitBreaker := .new

/-- One call: what it returns or raises, and what it leaves. -/
def verifyOutcome (learner : Learner V R) (call : VerifyCall V R E) :
    Except PyError Bool × Learner V R :=
  { learner.1 with driftChecker := call.driftChecker }.verifyAndCommit env call.arguments learner.2

def verifyStep (learner : Learner V R) (call : VerifyCall V R E) : Learner V R :=
  (verifyOutcome env learner call).2

/-- The call moved the knowledge base to the version before. -/
def RolledBack (entry : Learner V R × VerifyCall V R E) : Prop :=
  (verifyStep env entry.1 entry.2).1.kb.kbVersion = entry.1.1.kb.kbVersion - 1

instance : DecidablePred (RolledBack (V := V) (E := E) env) :=
  fun _ => inferInstanceAs (Decidable (_ = _))

/-- The call was made within the hour before a time. -/
def WithinWindow (nowMs : R) (entry : Learner V R × VerifyCall V R E) : Prop :=
  nowMs - windowDurationMs < entry.2.arguments.nowMs

instance (nowMs : R) : DecidablePred (WithinWindow (V := V) (E := E) nowMs) :=
  fun _ => inferInstanceAs (Decidable (_ < _))

/-- The call is refused and reported. -/
structure Refused (learner : Learner V R) (call : VerifyCall V R E) : Prop where
  returns : (verifyOutcome env learner call).1 = .ok false
  contents : (verifyStep env learner call).1.kb.live = learner.1.kb.live
  version : (verifyStep env learner call).1.kb.kbVersion = learner.1.kb.kbVersion
  reported : (verifyStep env learner call).2 =
    RollbackCircuitBreaker.emitCircuitBreakEvent env learner.2

/-- **The rollback circuit breaker**: a call that more than `MAX_ROLLBACKS` rollbacks of the run
precede within the hour is refused. -/
def BreakerHolds (start : Learner V R) (calls : List (VerifyCall V R E)) : Prop :=
  ∀ before call after, calls = before ++ call :: after →
    maxRollbacks < (trace (verifyStep env) start before).countP (fun entry =>
        RolledBack env entry ∧ WithinWindow call.arguments.nowMs entry) →
      Refused env (run (verifyStep env) start before) call

/-! ### Which calls roll back -/

instance (update : CandidateUpdate V) : Decidable update.WellFormed :=
  decidable_of_iff (∀ field ∈ updateOrder, (update field).wellFormed = true)
    ⟨fun all field => all field (mem_updateOrder field), fun all field _ => all field⟩

/-- Something drifts too far. -/
def Drifts (checker : DriftChecker R) (driftBound : R) : Prop :=
  ∃ violations, violations ≠ [] ∧
    checker.violations env [0.5, 0.5, 0.5] driftBound checker.representativeSample = .ok violations

instance (checker : DriftChecker R) (driftBound : R) : Decidable (Drifts env checker driftBound) :=
  match found : checker.violations env [0.5, 0.5, 0.5] driftBound checker.representativeSample with
  | .ok (first :: rest) => isTrue ⟨first :: rest, List.cons_ne_nil _ _, found⟩
  | .ok [] => isFalse fun ⟨_, nonempty, other⟩ =>
      nonempty (Except.ok.inj (other.symm.trans found))
  | .error _ => isFalse fun ⟨_, _, other⟩ => nomatch other.symm.trans found

instance (checker : DriftChecker R) (arguments : VerifyArguments V R E) :
    Decidable (Rejected env checker arguments) :=
  inferInstanceAs (Decidable (arguments.candidateUpdate.WellFormed ∧
    (arguments.evaluationSuite currentMetricValues currentMetricValues = .ok false ∨
      arguments.evaluationSuite currentMetricValues currentMetricValues = .ok true ∧
        Drifts env checker arguments.driftBound)))

/-- The call has events and a check rejects its update, where the version before the current one is
stored. -/
def RollsBack (entry : Learner V R × VerifyCall V R E) : Prop :=
  entry.2.arguments.leBatch ≠ [] ∧ Rejected env entry.2.driftChecker entry.2.arguments ∧
    entry.1.1.kb.kbVersion - 1 ∈ entry.1.1.kb.versions

instance : DecidablePred (RollsBack (V := V) (E := E) env) :=
  fun _ => inferInstanceAs (Decidable (_ ∧ _ ∧ _))

variable {env}

theorem canCommit_unsuspended {breaker : RollbackCircuitBreaker R}
    (unsuspended : breaker.suspended = false) (nowMs : R) :
    breaker.canCommit nowMs = (true, breaker) := by
  simp [RollbackCircuitBreaker.canCommit, unsuspended]
  rw [← unsuspended]

/-- How a permitted verification moves the version. -/
theorem end_version_iff {checker : DriftChecker R} {arguments : VerifyArguments V R E}
    {before after : KbHistory V} {result : Except PyError Bool}
    (ends : VerifyEnd env checker arguments before result after) :
    result ≠ .ok false ∧ (after.version = before.version - 1 ↔
      Rejected env checker arguments ∧ before.stored (before.version - 1) ≠ none) := by
  cases ends with
  | accepted accepted =>
    refine ⟨nofun, iff_of_false (fun moved => ?_) fun both => both.1.not_accepted accepted⟩
    have advanced : before.version + 1 = before.version - 1 := moved
    omega
  | raised unaccepted unrejected =>
    refine ⟨nofun, iff_of_false (fun moved => ?_) fun both => unrejected both.1⟩
    have stayed : before.version = before.version - 1 := moved
    omega
  | rejected rejected =>
    refine ⟨nofun, Iff.trans ?_ (and_iff_right rejected).symm⟩
    cases stored : before.stored (before.version - 1) with
    | none =>
      simp only [historyStep, stored]
      refine iff_of_false (fun moved => ?_) (fun found => found rfl)
      omega
    | some contents =>
      simp only [historyStep, stored]
      exact iff_of_true trivial (Option.some_ne_none contents)

/-- **A call while the breaker is not suspended**: it leaves the breaker so, it does not return
`False`, and it rolls back by its inputs. -/
theorem verifyOutcome_unsuspended {learner : Learner V R}
    (unsuspended : learner.1.circuitBreaker.suspended = false) (call : VerifyCall V R E) :
    (verifyStep env learner call).1.circuitBreaker.suspended = false ∧
      (verifyOutcome env learner call).1 ≠ .ok false ∧
        (RolledBack env (learner, call) ↔ RollsBack env (learner, call)) := by
  by_cases empty : call.arguments.leBatch = []
  · have raised : verifyOutcome env learner call = (.error (.learningWithoutEvents
        "candidate_update requires at least one learning event"),
        { learner.1 with driftChecker := call.driftChecker }, learner.2) := by
      unfold verifyOutcome LearningVerificationProtocol.verifyAndCommit
      rw [empty]
      rfl
    rw [RolledBack, verifyStep, raised]
    refine ⟨unsuspended, nofun, iff_of_false (fun moved => ?_) fun rolls => rolls.1 empty⟩
    have stayed : learner.1.kb.kbVersion = learner.1.kb.kbVersion - 1 := moved
    omega
  · have started : call.arguments.leBatch.isEmpty = false := List.isEmpty_eq_false_iff.mpr empty
    have permitted := canCommit_unsuspended unsuspended call.arguments.nowMs
    have left : (verifyStep env learner call).1.circuitBreaker = learner.1.circuitBreaker ∧
        (verifyOutcome env learner call).1 =
          (verifyPermitted env call.driftChecker call.arguments learner.1.kb).1 ∧
        (verifyStep env learner call).1.kb =
          (verifyPermitted env call.driftChecker call.arguments learner.1.kb).2 := by
      simp [verifyStep, verifyOutcome, LearningVerificationProtocol.verifyAndCommit, started,
        permitted]
    have ends : VerifyEnd env call.driftChecker call.arguments learner.1.kb.history _ _ :=
      (verifyPermitted_ends learner.1.separated).2
    rw [← left.2.1, ← left.2.2] at ends
    obtain ⟨returned, moved⟩ := end_version_iff ends
    refine ⟨left.1 ▸ unsuspended, returned, moved.trans ?_⟩
    rw [RollsBack, and_iff_right empty, ne_eq, ← not_mem_versions_iff, not_not]
    rfl

variable {start : Learner V R}

/-- The breaker of a run is never suspended. -/
theorem run_unsuspended (unsuspended : start.1.circuitBreaker.suspended = false)
    (calls : List (VerifyCall V R E)) :
    (run (verifyStep env) start calls).1.circuitBreaker.suspended = false :=
  run_invariant (P := fun learner : Learner V R => learner.1.circuitBreaker.suspended = false)
    (fun _ call unsuspended => (verifyOutcome_unsuspended unsuspended call).1) unsuspended calls

/-- In a run a call rolls back exactly when its inputs say so. -/
theorem rolledBack_iff (unsuspended : start.1.circuitBreaker.suspended = false)
    {calls : List (VerifyCall V R E)} {entry : Learner V R × VerifyCall V R E}
    (member : entry ∈ trace (verifyStep env) start calls) :
    RolledBack env entry ↔ RollsBack env entry := by
  obtain ⟨before, after, split, state⟩ := mem_trace _ member
  have found : entry.1.1.circuitBreaker.suspended = false :=
    state ▸ run_unsuspended unsuspended before
  exact (verifyOutcome_unsuspended found entry.2).2.2

variable (env start) in
/-- More than `MAX_ROLLBACKS` earlier calls of the run roll back within the hour before a time. -/
def RollbacksExceed (before : List (VerifyCall V R E)) (nowMs : R) : Prop :=
  maxRollbacks < (trace (verifyStep env) start before).countP fun entry =>
    RollsBack env entry ∧ WithinWindow nowMs entry

/-- **No call is refused**, so a call after too many rollbacks breaks the law of the breaker. -/
theorem breakerHolds_iff_of_unsuspended (unsuspended : start.1.circuitBreaker.suspended = false)
    (calls : List (VerifyCall V R E)) :
    BreakerHolds env start calls ↔ ∀ before call after, calls = before ++ call :: after →
      ¬ RollbacksExceed env start before call.arguments.nowMs := by
  unfold BreakerHolds RollbacksExceed
  refine forall_congr' fun before => forall_congr' fun call => forall_congr' fun after =>
    forall_congr' fun _ => ?_
  have counted : (trace (verifyStep env) start before).countP (fun entry =>
        RolledBack env entry ∧ WithinWindow call.arguments.nowMs entry) =
      (trace (verifyStep env) start before).countP fun entry =>
        RollsBack env entry ∧ WithinWindow call.arguments.nowMs entry := by
    refine List.countP_congr fun entry member => ?_
    rw [decide_eq_true_eq, decide_eq_true_eq, rolledBack_iff unsuspended member]
  have unrefused : ¬ Refused env (run (verifyStep env) start before) call := fun refused =>
    (verifyOutcome_unsuspended (run_unsuspended unsuspended before) call).2.1 refused.returns
  rw [counted, imp_iff_not unrefused]

variable (env) in
/-- **The breaker holds exactly in the runs without too many rollbacks.** From a protocol that has
made no call yet, whatever the clock does: the law holds in a run exactly when no call of the run
comes within an hour of more than `MAX_ROLLBACKS` earlier calls that have events and an update that
a check rejects, and find the version before the current one stored. -/
theorem breakerHolds_iff (kb : KnowledgeBase V) (separated : kb.Separated) (log : ProvenanceLog)
    (calls : List (VerifyCall V R E)) :
    BreakerHolds env (.opened kb separated, log) calls ↔
      ∀ before call after, calls = before ++ call :: after →
        ¬ RollbacksExceed env (.opened kb separated, log) before call.arguments.nowMs := by
  have unsuspended :
      (LearningVerificationProtocol.opened (R := R) kb separated).circuitBreaker.suspended = false :=
    rfl
  exact breakerHolds_iff_of_unsuspended unsuspended calls

end Runs

/-! ### A fifth update after four rollbacks -/

namespace Sample

/-- A call whose update is empty, with the verdict of the suite on it. -/
def verdict (within : Bool) : VerifyCall Int Rat Unit where
  driftChecker := {}
  arguments := {
    leBatch := [()]
    candidateUpdate := fun _ => .absent
    evaluationSuite := fun _ _ => .ok within
    driftBound := 0.1
    degradationTolerance := 0.05
    nowMs := 0 }

/-- Five updates that are committed, then four that degrade the metrics. -/
def rollbacks : List (VerifyCall Int Rat Unit) :=
  List.replicate 5 (verdict true) ++ List.replicate 4 (verdict false)

def learningEnv : LearningEnv Rat :=
  ⟨0, fun _ => "", fun _ => "", ⟨fun _ => "", fun _ => ⟨false, 0, [0], none, FloatLit.isFloat_zero⟩, id⟩⟩

end Sample

/-- The law for these calls and one more. -/
theorem breakerHolds_iff_rollbacks :
    BreakerHolds Sample.learningEnv
        (.opened .new KnowledgeBase.separated_new, ⟨"run", [], "", ∅, ∅⟩)
        (Sample.rollbacks ++ [Sample.verdict true]) ↔
      ∀ before call after, Sample.rollbacks ++ [Sample.verdict true] = before ++ call :: after →
        ¬ RollbacksExceed Sample.learningEnv
          (.opened .new KnowledgeBase.separated_new, ⟨"run", [], "", ∅, ∅⟩) before
          call.arguments.nowMs :=
  breakerHolds_iff Sample.learningEnv .new KnowledgeBase.separated_new ⟨"run", [], "", ∅, ∅⟩ _

/-- After four rollbacks at one time the next update is verified and committed. -/
theorem unrecorded_rollbacks : ¬ ∀ (env : LearningEnv Rat) (kb : KnowledgeBase Int)
    (separated : kb.Separated) (log : ProvenanceLog) (calls : List (VerifyCall Int Rat Unit)),
    calls.Pairwise (fun first second => first.arguments.nowMs ≤ second.arguments.nowMs) →
      BreakerHolds env (.opened kb separated, log) calls := by
  intro always
  have exceeded : RollbacksExceed Sample.learningEnv
      (.opened .new KnowledgeBase.separated_new, ⟨"run", [], "", ∅, ∅⟩) Sample.rollbacks 0 := by
    unfold RollbacksExceed
    decide +kernel
  have held := always Sample.learningEnv .new KnowledgeBase.separated_new ⟨"run", [], "", ∅, ∅⟩
    (Sample.rollbacks ++ [Sample.verdict true]) (by decide)
  exact (breakerHolds_iff_of_unsuspended rfl _).mp held Sample.rollbacks (Sample.verdict true) [] rfl
    exceeded

end Dnc.Learning
