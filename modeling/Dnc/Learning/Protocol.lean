/-
**The learning verification protocol.**

`dnc.learning.continual.LearningVerificationProtocol`: the drift checker and the circuit breaker as
far as a commit reads them, and `verify_and_commit`. The candidate update is written into the live
dictionaries before the metrics are compared; a comparison that fails is compensated by a rollback
to the version before the current one.

An update is a dictionary of anything, so its three parts may be missing or of a type without
`items`, at which the writing stops. The evaluation suite is any function of the metric values, and
`EvaluationSuite` the one of `dnc.observability.evaluation`. `float("inf")`, the clock and the texts
of floats come from outside (`LearningEnv`).
-/

import Dnc.Learning.Versions
import Dnc.Logic.Statements
import Dnc.Observability.Provenance
import Dnc.PyLib.Number

namespace Dnc.Learning

open PyLib Logic

/-! ### Metrics -/

section Metrics

variable (R : Type)

/-- A value among the metrics: a number, or a list of numbers. -/
inductive MetricValue where
  | number (value : R)
  | vector (values : List R)
deriving DecidableEq

abbrev MetricValues := Dict String (MetricValue R)

structure ExecutionRecord where
  executionId : String
  taskClass : String
  metricVector : List R
  timestamp : R

/-- What the protocol takes from outside: `float("inf")`, the text of `tolerance * 100`, the text of
a list of violations, and the provenance environment. -/
structure LearningEnv where
  inf : R
  percentText : R → String
  violationsText : List (Nat × R) → String
  provenance : ProvenanceEnv

variable {R} [PyFloat R]

/-- `LearningVerificationProtocol._get_current_metric_values`. -/
def currentMetricValues : MetricValues R :=
  Dict.ofItems [("metric_vector", .vector [0.5, 0.5, 0.5])]

/-- `abs(value)`. -/
def pyAbs (value : R) : R := if value < ((0 : Int) : R) then -value else value

/-- One metric in `EvaluationSuite.degradation_within_tolerance`. -/
def withinTolerance (tolerance : R) (baseline updated : MetricValue R) : Except PyError Bool :=
  match baseline, updated with
  | .number before, .number after =>
    if before = ((0 : Int) : R) then .ok (after = ((0 : Int) : R))
    else .ok (pyAbs (after - before) / pyAbs before ≤ tolerance)
  | .number before, .vector _ =>
    if before = ((0 : Int) : R) then .ok false
    else .error (.typeError "unsupported operand type(s) for -: 'list' and 'float'")
  | .vector _, .number _ =>
    .error (.typeError "unsupported operand type(s) for -: 'float' and 'list'")
  | .vector _, .vector _ =>
    .error (.typeError "unsupported operand type(s) for -: 'list' and 'list'")

/-- `EvaluationSuite.degradation_within_tolerance` over the metrics left. -/
def metricsWithin (tolerance : R) (updated : MetricValues R) :
    List (String × MetricValue R) → Except PyError Bool
  | [] => .ok true
  | metric :: rest => do
    if ← withinTolerance tolerance metric.2 ((updated.get? metric.1).getD metric.2) then
      metricsWithin tolerance updated rest
    else .ok false

/-- `EvaluationSuite.degradation_within_tolerance`. -/
def EvaluationSuite (tolerance : R) (baseline updated : MetricValues R) : Except PyError Bool :=
  metricsWithin tolerance updated baseline.entries

end Metrics

/-! ### The drift checker and the circuit breaker -/

section Checks

variable (R : Type)

structure DriftChecker where
  history : List (ExecutionRecord R) := []
  representativeSample : List Nat := []

structure RollbackCircuitBreaker where
  rollbackTimes : List R := []
  suspended : Bool := false
  suspensionUntil : R

variable {R} [PyFloat R] (env : LearningEnv R)

/-- `max(abs(p[k] - q[k]) for k in range(len(p)))`. -/
def maximumDifference : List R → List R → Except PyError R
  | first :: firsts, second :: seconds =>
    .ok ((firsts.zip seconds).foldl (fun greatest pair => max greatest (pyAbs (pair.1 - pair.2)))
      (pyAbs (first - second)))
  | _, _ => .error (.valueError "max() iterable argument is empty")

namespace DriftChecker

/-- `DriftChecker.compute_drift`. -/
def computeDrift (checker : DriftChecker R) (pId : Nat) (vector : List R) : Except PyError R :=
  match checker.history[pId]? with
  | none => .ok 0.0
  | some record =>
    if record.metricVector.length ≠ vector.length then .ok env.inf
    else maximumDifference record.metricVector vector

/-- The violations that `DriftChecker.is_within_drift_bound` finds in the sample left. -/
def violations (checker : DriftChecker R) (vector : List R) (driftBound : R) :
    List Nat → Except PyError (List (Nat × R))
  | [] => .ok []
  | index :: rest => do
    let drift ← checker.computeDrift env index vector
    let others ← checker.violations vector driftBound rest
    .ok (if driftBound < drift then (index, drift) :: others else others)

end DriftChecker

namespace RollbackCircuitBreaker

/-- `RollbackCircuitBreaker.can_commit` at a reading of the clock. -/
def canCommit (breaker : RollbackCircuitBreaker R) (nowMs : R) : Bool × RollbackCircuitBreaker R :=
  let suspended := breaker.suspended && !decide (breaker.suspensionUntil < nowMs)
  (!suspended, { breaker with suspended })

/-- `RollbackCircuitBreaker.emit_circuit_break_event`. -/
def emitCircuitBreakEvent (log : ProvenanceLog) : ProvenanceLog :=
  (log.append env.provenance "KB_ROLLBACK" none none
    [("type", .str "ROLLBACK_FREQUENCY_CIRCUIT_BREAKER"), ("window_duration_ms", .int 3600000),
      ("max_rollbacks", .int 3)]).2

end RollbackCircuitBreaker

end Checks

/-! ### The update -/

section Update

variable {V : Type}

variable (V) in
/-- What a candidate update has under the name of a dictionary. -/
inductive UpdatePart where
  | absent
  | items (entries : Dict String V)
  | other (typeName : String)

variable (V) in
/-- The parts of a candidate update that `_apply_update` reads. -/
abbrev CandidateUpdate := KbField → UpdatePart V

/-- The order of `_apply_update`. -/
def updateOrder : List KbField := [.kbModules, .kbPlans, .kbCosts]

/-- `for key, value in entries: d[key] = value`. -/
def assignAll (kb : KnowledgeBase V) (field : KbField) (entries : List (String × V)) :
    KnowledgeBase V :=
  entries.foldl (fun kb entry => kb.assign field entry.1 entry.2) kb

/-- The loop of `_apply_update` over one part. -/
def applyPart (update : CandidateUpdate V) (field : KbField) (kb : KnowledgeBase V) :
    Except PyError (KnowledgeBase V) :=
  match update field with
  | .absent => .ok kb
  | .items entries => .ok (assignAll kb field entries.entries)
  | .other typeName => .error (.attributeError s!"'{typeName}' object has no attribute 'items'")

/-- `LearningVerificationProtocol._apply_update`: what it raises, and the knowledge base it
leaves. -/
def applyUpdate (update : CandidateUpdate V) (kb : KnowledgeBase V) :
    Except PyError Unit × KnowledgeBase V :=
  block (updateOrder.map (applyPart update)) kb

/-! ### What an update writes -/

/-- The part has `items`, if it is there. -/
def UpdatePart.wellFormed : UpdatePart V → Bool
  | .other _ => false
  | _ => true

/-- The entries of a part. -/
def UpdatePart.entries : UpdatePart V → List (String × V)
  | .items entries => entries.entries
  | _ => []

/-- All the parts have `items`. -/
def CandidateUpdate.WellFormed (update : CandidateUpdate V) : Prop :=
  ∀ field, (update field).wellFormed = true

/-- `d[key] = value` for all the entries. -/
def overlaid (dict : Dict String V) (entries : List (String × V)) : Dict String V :=
  entries.foldl (fun dict entry => dict.set entry.1 entry.2) dict

/-- The parts that the writing goes through. -/
def CandidateUpdate.reached (update : CandidateUpdate V) (fields : List KbField) : List KbField :=
  fields.takeWhile fun field => (update field).wellFormed

theorem reached_cons {update : CandidateUpdate V} {field : KbField} (rest : List KbField)
    (wellFormed : (update field).wellFormed = true) :
    update.reached (field :: rest) = field :: update.reached rest :=
  List.takeWhile_cons_of_pos (p := fun field => (update field).wellFormed) wellFormed

theorem reached_cons_malformed {update : CandidateUpdate V} {field : KbField} (rest : List KbField)
    (malformed : ¬ (update field).wellFormed = true) : update.reached (field :: rest) = [] :=
  List.takeWhile_cons_of_neg (p := fun field => (update field).wellFormed) malformed

/-- The contents overlaid with the parts of an update that the writing goes through. -/
def overlayOf (fields : List KbField) (update : CandidateUpdate V) (contents : KbContents V) :
    KbContents V := fun field =>
  if field ∈ update.reached fields then
    overlaid (contents field) (update field).entries
  else contents field

/-- The contents overlaid with an update; of a malformed one only with what comes before the part
without `items`. -/
def overlay (update : CandidateUpdate V) (contents : KbContents V) : KbContents V :=
  overlayOf updateOrder update contents

theorem separated_assignAll {kb : KnowledgeBase V} (separated : kb.Separated) (field : KbField)
    (entries : List (String × V)) : (assignAll kb field entries).Separated := by
  induction entries generalizing kb with
  | nil => exact separated
  | cons entry rest ih => exact ih (separated.assign field entry.1 entry.2)

theorem history_assignAll {kb : KnowledgeBase V} (separated : kb.Separated) (field : KbField)
    (entries : List (String × V)) :
    (assignAll kb field entries).history = { kb.history with
      live := Function.update kb.live field (overlaid (kb.live field) entries) } := by
  induction entries generalizing kb with
  | nil =>
    have same : Function.update kb.live field (kb.live field) = kb.live :=
      Function.update_eq_self field kb.live
    show kb.history = _
    rw [overlaid, List.foldl_nil, same]
    rfl
  | cons entry rest ih =>
    have next := ih (separated.assign field entry.1 entry.2)
    have live : (kb.assign field entry.1 entry.2).live =
        Function.update kb.live field ((kb.live field).set entry.1 entry.2) :=
      congrArg KbHistory.live (kb.history_assign separated field entry.1 entry.2)
    rw [kb.history_assign separated] at next
    show (assignAll (kb.assign field entry.1 entry.2) field rest).history = _
    rw [next, live, Function.update_self, Function.update_idem]
    rfl

theorem separated_applyPart {update : CandidateUpdate V} {field : KbField}
    {kb next : KnowledgeBase V} (separated : kb.Separated)
    (applied : applyPart update field kb = .ok next) : next.Separated := by
  unfold applyPart at applied
  cases part : update field with
  | absent =>
    rw [part] at applied
    cases applied
    exact separated
  | items entries =>
    rw [part] at applied
    cases applied
    exact separated_assignAll separated field entries.entries
  | other typeName =>
    rw [part] at applied
    cases applied

theorem history_applyPart {update : CandidateUpdate V} {field : KbField}
    {kb next : KnowledgeBase V} (separated : kb.Separated)
    (applied : applyPart update field kb = .ok next) :
    next.history = { kb.history with
      live := Function.update kb.live field (overlaid (kb.live field) (update field).entries) } := by
  unfold applyPart at applied
  cases part : update field with
  | absent =>
    rw [part] at applied
    cases applied
    exact history_assignAll separated field []
  | items entries =>
    rw [part] at applied
    cases applied
    exact history_assignAll separated field entries.entries
  | other typeName =>
    rw [part] at applied
    cases applied

/-- A part is written exactly when it has `items`. -/
theorem applyPart_eq_ok_iff {update : CandidateUpdate V} {field : KbField} {kb : KnowledgeBase V} :
    (∃ next, applyPart update field kb = .ok next) ↔ (update field).wellFormed = true := by
  unfold applyPart
  cases update field with
  | absent => exact iff_of_true ⟨kb, rfl⟩ rfl
  | items entries => exact iff_of_true ⟨_, rfl⟩ rfl
  | other typeName => exact iff_of_false (fun ⟨_, impossible⟩ => nomatch impossible) nofun

theorem overlayOf_cons {update : CandidateUpdate V} {field : KbField} {rest : List KbField}
    (wellFormed : (update field).wellFormed = true) (fresh : field ∉ rest)
    (contents : KbContents V) :
    overlayOf (field :: rest) update contents = overlayOf rest update
      (Function.update contents field (overlaid (contents field) (update field).entries)) := by
  funext other
  unfold overlayOf
  rw [reached_cons rest wellFormed]
  by_cases same : other = field
  · subst same
    have unreached : other ∉ update.reached rest :=
      fun member => fresh (List.takeWhile_subset _ member)
    rw [if_pos List.mem_cons_self, if_neg unreached, Function.update_self]
  · rw [Function.update_of_ne same]
    simp only [List.mem_cons, same, false_or]

/-- **What the writing of an update leaves**, part by part. -/
theorem block_applyPart (update : CandidateUpdate V) {fields : List KbField}
    (distinct : fields.Nodup) {kb : KnowledgeBase V} (separated : kb.Separated) :
    (block (fields.map (applyPart update)) kb).2.Separated ∧
      (block (fields.map (applyPart update)) kb).2.history =
        { kb.history with live := overlayOf fields update kb.live } ∧
      ((block (fields.map (applyPart update)) kb).1 = .ok () ↔
        ∀ field ∈ fields, (update field).wellFormed = true) := by
  induction fields generalizing kb with
  | nil => exact ⟨separated, rfl, iff_of_true rfl fun _ member => absurd member List.not_mem_nil⟩
  | cons field rest ih =>
    rw [List.nodup_cons] at distinct
    rw [List.map_cons]
    cases applied : applyPart update field kb with
    | error error =>
      have malformed : ¬ (update field).wellFormed = true := fun wellFormed => by
        obtain ⟨next, impossible⟩ := applyPart_eq_ok_iff.mpr wellFormed
        cases applied.symm.trans impossible
      have unwritten : overlayOf (field :: rest) update kb.live = kb.live := by
        funext other
        rw [overlayOf, reached_cons_malformed rest malformed, if_neg List.not_mem_nil]
      rw [block, applied, unwritten]
      refine ⟨separated, rfl, iff_of_false (fun same => ?_) fun all => ?_⟩
      · cases same
      · exact malformed (all field List.mem_cons_self)
    | ok next =>
      have wellFormed := applyPart_eq_ok_iff.mp ⟨next, applied⟩
      have written := history_applyPart separated applied
      have live : next.live = _ := congrArg KbHistory.live written
      obtain ⟨apart, history, returns⟩ := ih distinct.2 (separated_applyPart separated applied)
      rw [block_cons_ok applied]
      refine ⟨apart, ?_, returns.trans ?_⟩
      · rw [history, written, live, overlayOf_cons wellFormed distinct.1]
      · rw [List.forall_mem_cons, and_iff_right wellFormed]

theorem mem_updateOrder (field : KbField) : field ∈ updateOrder := by
  cases field <;> decide

/-- **What `_apply_update` leaves.** -/
theorem applyUpdate_leaves (update : CandidateUpdate V) {kb : KnowledgeBase V}
    (separated : kb.Separated) :
    (applyUpdate update kb).2.Separated ∧
      (applyUpdate update kb).2.history =
        { kb.history with live := overlay update kb.live } ∧
      ((applyUpdate update kb).1 = .ok () ↔ update.WellFormed) := by
  have distinct : updateOrder.Nodup := by decide
  obtain ⟨apart, history, returns⟩ := block_applyPart update distinct separated
  refine ⟨apart, history, returns.trans ⟨fun all field => all field (mem_updateOrder field), ?_⟩⟩
  exact fun wellFormed field _ => wellFormed field

end Update

/-! ### Verification -/

section Protocol

variable (V R : Type)

/-- The protocol, with a knowledge base whose dictionaries are separate objects. -/
structure LearningVerificationProtocol where
  kb : KnowledgeBase V
  separated : kb.Separated
  driftChecker : DriftChecker R
  circuitBreaker : RollbackCircuitBreaker R

/-- The arguments of `verify_and_commit`, with the time at which it runs; nothing of an event is
read. -/
structure VerifyArguments (E : Type) where
  leBatch : List E
  candidateUpdate : CandidateUpdate V
  evaluationSuite : MetricValues R → MetricValues R → Except PyError Bool
  driftBound : R
  degradationTolerance : R
  nowMs : R

variable {V R} [PyFloat R] {E : Type} (env : LearningEnv R)

/-- A check that failed: the rollback to the previous version, then the exception. -/
def compensate (kb : KnowledgeBase V) (failure : PyError) : Except PyError Bool × KnowledgeBase V :=
  match kb.rollbackTo (kb.kbVersion - 1) with
  | .error error => (.error error, kb)
  | .ok back => (.error failure, back)

/-- `verify_and_commit` once the circuit breaker has permitted it: its result, and the knowledge
base it leaves. -/
def verifyPermitted (checker : DriftChecker R) (arguments : VerifyArguments V R E)
    (kb : KnowledgeBase V) : Except PyError Bool × KnowledgeBase V :=
  match applyUpdate arguments.candidateUpdate kb with
  | (.error error, written) => (.error error, written)
  | (.ok (), written) =>
    match arguments.evaluationSuite currentMetricValues currentMetricValues with
    | .error error => (.error error, written)
    | .ok false => compensate written (.catastrophicForgettingDetected
        s!"Metric degradation exceeds {env.percentText arguments.degradationTolerance}%")
    | .ok true =>
      match checker.violations env [0.5, 0.5, 0.5] arguments.driftBound
          checker.representativeSample with
      | .error error => (.error error, written)
      | .ok [] => (.ok true, written.commit.2)
      | .ok violations => compensate written (.driftBoundExceeded
          s!"Drift bound exceeded: {env.violationsText violations}")

/-! ### How a verification ends -/

variable (checker : DriftChecker R) (arguments : VerifyArguments V R E)

/-- The update is well formed, the suite accepts and nothing drifts too far. -/
def Accepted : Prop :=
  arguments.candidateUpdate.WellFormed ∧
    arguments.evaluationSuite currentMetricValues currentMetricValues = .ok true ∧
    checker.violations env [0.5, 0.5, 0.5] arguments.driftBound checker.representativeSample = .ok []

/-- The update is well formed, and the suite rejects it or something drifts too far. -/
def Rejected : Prop :=
  arguments.candidateUpdate.WellFormed ∧
    (arguments.evaluationSuite currentMetricValues currentMetricValues = .ok false ∨
      arguments.evaluationSuite currentMetricValues currentMetricValues = .ok true ∧
        ∃ violations, violations ≠ [] ∧
          checker.violations env [0.5, 0.5, 0.5] arguments.driftBound
            checker.representativeSample = .ok violations)

/-- **How a permitted verification ends**: the result, and what it leaves of the history. -/
inductive VerifyEnd (history : KbHistory V) : Except PyError Bool → KbHistory V → Prop
  | accepted (accepted : Accepted env checker arguments) :
      VerifyEnd history (.ok true)
        (historyStep { history with live := overlay arguments.candidateUpdate history.live } .commit)
  | rejected {error : PyError} (rejected : Rejected env checker arguments) :
      VerifyEnd history (.error error)
        (historyStep { history with live := overlay arguments.candidateUpdate history.live }
          (.rollbackTo (history.version - 1)))
  | raised {error : PyError} (unaccepted : ¬ Accepted env checker arguments)
      (unrejected : ¬ Rejected env checker arguments) :
      VerifyEnd history (.error error)
        { history with live := overlay arguments.candidateUpdate history.live }

variable {env checker arguments}

theorem compensate_leaves {kb : KnowledgeBase V} (separated : kb.Separated) (failure : PyError) :
    (compensate kb failure).2.Separated ∧ (∃ error, (compensate kb failure).1 = .error error) ∧
      (compensate kb failure).2.history =
        historyStep kb.history (.rollbackTo (kb.history.version - 1)) := by
  have stepped : (compensate kb failure).2 = kbStep kb (.rollbackTo (kb.kbVersion - 1)) := by
    cases returned : kb.rollbackTo (kb.kbVersion - 1) with
    | error error => simp only [compensate, kbStep, returned]
    | ok back => simp only [compensate, kbStep, returned]
  rw [stepped]
  refine ⟨kbStep_separated separated _, ?_, kbStep_refines separated _⟩
  unfold compensate
  cases kb.rollbackTo (kb.kbVersion - 1) with
  | error error => exact ⟨error, rfl⟩
  | ok back => exact ⟨failure, rfl⟩

theorem verifyPermitted_ends {kb : KnowledgeBase V} (separated : kb.Separated) :
    (verifyPermitted env checker arguments kb).2.Separated ∧
      VerifyEnd env checker arguments kb.history (verifyPermitted env checker arguments kb).1
        (verifyPermitted env checker arguments kb).2.history := by
  obtain ⟨apart, history, returns⟩ := applyUpdate_leaves arguments.candidateUpdate separated
  unfold verifyPermitted
  generalize applyUpdate arguments.candidateUpdate kb = outcome at apart history returns ⊢
  obtain ⟨raised, written⟩ := outcome
  dsimp only at apart history returns ⊢
  -- a check that fails is compensated
  have compensated : ∀ failure, Rejected env checker arguments →
      (compensate written failure).2.Separated ∧
        VerifyEnd env checker arguments kb.history (compensate written failure).1
          (compensate written failure).2.history := by
    intro failure rejected
    obtain ⟨apart, ⟨error, result⟩, left⟩ := compensate_leaves apart failure
    refine ⟨apart, ?_⟩
    rw [result, left, history]
    exact .rejected rejected
  cases raised with
  | error error =>
    have malformed : ¬ arguments.candidateUpdate.WellFormed := fun wellFormed =>
      nomatch returns.mpr wellFormed
    refine ⟨apart, ?_⟩
    dsimp only
    rw [history]
    exact .raised (fun accepted => malformed accepted.1) fun rejected => malformed rejected.1
  | ok =>
    have wellFormed := returns.mp rfl
    cases evaluated : arguments.evaluationSuite currentMetricValues currentMetricValues with
    | error error =>
      refine ⟨apart, ?_⟩
      rw [history]
      refine .raised (fun accepted => nomatch evaluated.symm.trans accepted.2.1) fun rejected => ?_
      rcases rejected.2 with degraded | drifted
      · cases evaluated.symm.trans degraded
      · cases evaluated.symm.trans drifted.1
    | ok within =>
      cases within with
      | false => exact compensated _ ⟨wellFormed, Or.inl evaluated⟩
      | true =>
        cases drift : checker.violations env [0.5, 0.5, 0.5] arguments.driftBound
            checker.representativeSample with
        | error error =>
          refine ⟨apart, ?_⟩
          rw [history]
          refine .raised (fun accepted => nomatch drift.symm.trans accepted.2.2) fun rejected => ?_
          rcases rejected.2 with degraded | ⟨-, violations, -, found⟩
          · cases evaluated.symm.trans degraded
          · cases drift.symm.trans found
        | ok violations =>
          cases violations with
          | nil =>
            refine ⟨apart.commit, ?_⟩
            rw [written.history_commit apart, history]
            exact .accepted ⟨wellFormed, evaluated, drift⟩
          | cons first rest =>
            exact compensated _
              ⟨wellFormed, Or.inr ⟨evaluated, first :: rest, List.cons_ne_nil _ _, drift⟩⟩

/-! ### The call -/

variable (env) in
/-- `LearningVerificationProtocol.verify_and_commit`: what it returns or raises, and the protocol and
the log that it leaves. -/
def LearningVerificationProtocol.verifyAndCommit (protocol : LearningVerificationProtocol V R)
    (arguments : VerifyArguments V R E) (log : ProvenanceLog) :
    Except PyError Bool × LearningVerificationProtocol V R × ProvenanceLog :=
  if arguments.leBatch.isEmpty then
    (.error (.learningWithoutEvents "candidate_update requires at least one learning event"),
      protocol, log)
  else
    let (permitted, circuitBreaker) := protocol.circuitBreaker.canCommit arguments.nowMs
    if permitted then
      let outcome := verifyPermitted env protocol.driftChecker arguments protocol.kb
      (outcome.1, { protocol with
        circuitBreaker
        kb := outcome.2
        separated := (verifyPermitted_ends protocol.separated).1 }, log)
    else
      (.ok false, { protocol with circuitBreaker },
        RollbackCircuitBreaker.emitCircuitBreakEvent env log)

end Protocol

end Dnc.Learning
