/-
**Pilot promotion and general-availability governance.**

`dnc.pilot.governance.PilotProgram`: a rollout stage, a ledger of evidence (observations, exercises,
readiness) and the approvals given for it. A call that raises leaves the program as it was.

`Change` says what each call that returns has found and has done; `Pilot/Rollout.lean` and
`Pilot/Approvals.lean` read their laws off it. The fingerprints are SHA-256 digests of compact JSON;
the digest, the JSON of a measurement and `int(x)` come from outside (`PilotEnv`).
-/

import Dnc.Logic.Run
import Dnc.Logic.Sequence
import Dnc.Pilot.Contracts
import Dnc.PyLib.Dict
import Dnc.PyLib.Sorted

namespace Dnc.Pilot

open PyLib Logic

/-- What the program takes from outside: `hashlib.sha256(…).hexdigest()`, the JSON value of a
measurement, and `int(x)` of one. -/
structure PilotEnv (R : Type) where
  sha256 : String → String
  number : R → Json
  truncate : R → Int

structure PilotProgram (R : Type) [FloatOps R] where
  workflow : WorkflowProfile
  criteria : PilotCriteria R
  stage : RolloutStage := .offlineReplay
  observations : List (OutcomeObservation R) := []
  exercises : Dict ExerciseKind ExerciseRecord := ∅
  readiness : Option OperationalReadiness := none
  approvals : Dict ApprovalRole Approval := ∅

/-- The reason, where the criterion fails. -/
def note (fails : Prop) [Decidable fails] (reason : String) : List String :=
  if fails then [reason] else []

theorem note_eq_nil {fails : Prop} [Decidable fails] {reason : String} :
    note fails reason = [] ↔ ¬ fails := by
  unfold note
  by_cases applies : fails
  · rw [if_pos applies]
    exact iff_of_false (List.cons_ne_nil _ _) (not_not.mpr applies)
  · rw [if_neg applies]
    exact iff_of_true rfl applies

/-! ### Measurements -/

section Measurements

variable {R : Type} [FloatOps R]

/-- `sum(f(item) for item in items) / len(items)`. -/
def mean {α : Type} (f : α → R) (items : List α) : R :=
  pySum (items.map f) / ((items.length : Int) : R)

/-- `sum(item.failed for item in items) / len(items)`. -/
def failureRate (items : List (OutcomeObservation R)) : R :=
  ((items.countP fun item => item.failed : Int) : R) / ((items.length : Int) : R)

/-- `max(days) - min(days) + 1`. -/
def duration (first : OutcomeObservation R) (rest : List (OutcomeObservation R)) : Int :=
  rest.foldl (fun latest item => max latest item.day) first.day -
    rest.foldl (fun earliest item => min earliest item.day) first.day + 1

/-- `max(0, int(0.95 * count + 0.999999) - 1)`. -/
def p95Index (env : PilotEnv R) (count : Nat) : Nat :=
  (max 0 (env.truncate (0.95 * ((count : Int) : R) + 0.999999) - 1)).toNat

/-- `sorted(values)`; with a NaN among the values their order is left to the algorithm. -/
def sortedFloats (values : List R) : List R :=
  values.insertionSort fun first second => ¬ second < first

/-- The latency at the index, in the order of latencies. -/
def p95Latency (env : PilotEnv R) (items : List (OutcomeObservation R)) : Except PyError R :=
  match (sortedFloats (items.map fun item => item.latencyMs))[p95Index env items.length]? with
  | none => .error (.indexError "list index out of range")
  | some latency => .ok latency

end Measurements

namespace PilotProgram

variable {R : Type} [FloatOps R] (env : PilotEnv R)

/-- `_digest`. -/
def digest (value : Json) : String := env.sha256 (Json.dumpsWith .compact value)

/-- `PilotProgram.snapshot(include_approvals=False)` without its stage. -/
def evidence (program : PilotProgram R) : Json :=
  .obj [("workflow", program.workflow.json),
    ("criteria", program.criteria.json env.number),
    ("observations", .arr (program.observations.map fun item => item.json env.number)),
    ("exercises", .arr ((sortBy (fun entry => PyEnum.value entry.1) program.exercises.entries).map
      fun entry => entry.2.json)),
    ("readiness", optionalJson OperationalReadiness.json program.readiness)]

/-- `PilotProgram.workflow_fingerprint`. -/
def workflowFingerprint (program : PilotProgram R) : String := digest env program.workflow.json

/-- `PilotProgram.evidence_fingerprint`. -/
def evidenceFingerprint (program : PilotProgram R) : String := digest env (program.evidence env)

/-! ### Evidence -/

/-- `PilotProgram.record_outcome`. -/
def recordOutcome (program : PilotProgram R) (observation : OutcomeObservation R) :
    Except PyError (PilotProgram R) :=
  if observation.stage ≠ program.stage then
    .error (.valueError "outcome stage must match the active rollout stage")
  else if ∃ item ∈ program.observations, item.observationId = observation.observationId then
    .error (.valueError "observation_id must be unique")
  else
    .ok { program with observations := program.observations ++ [observation], approvals := ∅ }

/-- `PilotProgram.record_exercise`. -/
def recordExercise (program : PilotProgram R) (record : ExerciseRecord) :
    Except PyError (PilotProgram R) :=
  if isBlank record.exercisedBy = true ∨ isBlank record.evidenceUri = true then
    .error (.valueError "exercise owner and evidence are required")
  else .ok { program with exercises := program.exercises.set record.kind record, approvals := ∅ }

/-- `PilotProgram.set_operational_readiness`. -/
def setOperationalReadiness (program : PilotProgram R) (readiness : OperationalReadiness) :
    Except PyError (PilotProgram R) :=
  if readiness.complete = false then
    .error (.valueError "all operational readiness fields are required")
  else .ok { program with readiness := some readiness, approvals := ∅ }

/-! ### Stages -/

/-- The transitions of `PilotProgram.promote`. -/
def transition : RolloutStage → Option RolloutStage
  | .offlineReplay => some .shadow
  | .shadow => some .limitedCanary
  | .limitedCanary | .generalAvailability => none

/-- The observations of the active stage. -/
def current (program : PilotProgram R) : List (OutcomeObservation R) :=
  program.observations.filter fun item => item.stage = program.stage

/-- `PilotProgram.promote`. -/
def promote (program : PilotProgram R) (target : RolloutStage) : Except PyError (PilotProgram R) :=
  if transition program.stage ≠ some target then
    .error (.valueError "rollout stages must advance offline, shadow, then canary")
  else if program.current = [] ∨ ∃ item ∈ program.current, item.failed = true then
    .error (.valueError "stage promotion requires successful evidence in the active stage")
  else .ok { program with stage := target, approvals := ∅ }

/-- `PilotProgram.rollback`. -/
def rollback (program : PilotProgram R) : PilotProgram R :=
  { program with stage := .shadow, approvals := ∅ }

/-! ### Approval and review -/

/-- The approval that `PilotProgram.approve` stores. -/
def approval (program : PilotProgram R) (role : ApprovalRole) (approver : String)
    (approved : Bool) : Approval where
  role := role
  approver := approver
  workflowFingerprint := program.workflowFingerprint env
  evidenceFingerprint := program.evidenceFingerprint env
  approved := approved

/-- `PilotProgram.approve`. -/
def approve (program : PilotProgram R) (role : ApprovalRole) (approver : String)
    (approved : Bool) : Except PyError (PilotProgram R) :=
  if isBlank approver = true then .error (.valueError "approver identity is required")
  else if ∃ item ∈ program.approvals.values, item.approver = approver ∧ item.role ≠ role then
    .error (.valueError "required approval roles must have independent approvers")
  else
    .ok { program with
      approvals := program.approvals.set role (program.approval env role approver approved) }

/-- The external observations of the canary stage. -/
def externalCanary (program : PilotProgram R) : List (OutcomeObservation R) :=
  (program.observations.filter fun item => item.stage = .limitedCanary).filter
    fun item => item.external

/-- `PilotProgram._evidence_failures`. -/
def evidenceFailures (program : PilotProgram R) : Except PyError (List String) :=
  if program.stage ≠ .limitedCanary ∧ program.stage ≠ .generalAvailability then
    .ok ["pilot has not reached limited canary"]
  else
    let criteria := program.criteria
    let few := note ((program.externalCanary.length : Int) < criteria.minimumObservations)
      "insufficient external canary observations"
    match program.externalCanary with
    | [] => .ok few
    | first :: rest => do
      let external := first :: rest
      let latency ← p95Latency env external
      .ok (few ++
        note (duration first rest < criteria.minimumDurationDays)
          "canary evidence is not sustained for the required duration" ++
        note (criteria.maximumFailureRate < failureRate external)
          "canary failure rate exceeds criterion" ++
        note (mean (fun item => item.businessValue) external < criteria.minimumBusinessValue)
          "business value does not exceed the declared threshold" ++
        note (criteria.maximumP95LatencyMs < latency) "p95 latency exceeds SLO" ++
        note (criteria.maximumCostPerCase < mean (fun item => item.cost) external)
          "mean cost exceeds criterion" ++
        note (criteria.requireDelayedOutcomes = true ∧
            ∃ item ∈ external, item.delayedOutcome.isNone = true)
          "delayed business outcomes are incomplete" ++
        note (criteria.requireOperatorFeedback = true ∧
            ∃ item ∈ external, isBlank (item.operatorFeedback.getD "") = true)
          "operator feedback is incomplete" ++
        note (∃ kind ∈ PyEnum.members (α := ExerciseKind),
            ¬ ∃ record ∈ program.exercises.get? kind, record.passed = true)
          "required incident/change/rollback/recovery exercises are incomplete" ++
        note (¬ ∃ readiness ∈ program.readiness, readiness.complete = true)
          "operational readiness package is incomplete")

/-- What the review finds against the approval of a role. -/
def approvalFailures (program : PilotProgram R) (role : ApprovalRole) : List String :=
  match program.approvals.get? role with
  | none => [s!"missing {PyEnum.value role} approval"]
  | some approval =>
    if approval.approved = false then [s!"{PyEnum.value role} approval denied"]
    else
      note (approval.workflowFingerprint ≠ program.workflowFingerprint env ∨
        approval.evidenceFingerprint ≠ program.evidenceFingerprint env)
        s!"stale {PyEnum.value role} approval"

/-- `PilotProgram.review_general_availability`. -/
def reviewGeneralAvailability (program : PilotProgram R) :
    Except PyError (GAReview × PilotProgram R) := do
  let failures ← program.evidenceFailures env
  let roles := sortBy (fun role => PyEnum.value role) (PyEnum.members (α := ApprovalRole))
  let reasons := failures ++ roles.flatMap (program.approvalFailures env)
  let review : GAReview :=
    { approved := reasons.isEmpty
      reasons := reasons
      workflowFingerprint := program.workflowFingerprint env
      evidenceFingerprint := program.evidenceFingerprint env
      qualifiedDomain := program.workflow.domain }
  .ok (review, if reasons = [] then { program with stage := .generalAvailability } else program)

end PilotProgram

/-! ### Calls -/

section Calls

variable {R : Type} [FloatOps R]

/-- The calls on a program. -/
inductive PilotCall (R : Type) [FloatOps R] where
  | recordOutcome (observation : OutcomeObservation R)
  | recordExercise (record : ExerciseRecord)
  | setOperationalReadiness (readiness : OperationalReadiness)
  | promote (target : RolloutStage)
  | rollback
  | approve (role : ApprovalRole) (approver : String) (approved : Bool)
  | reviewGeneralAvailability

namespace PilotProgram

variable (env : PilotEnv R)

/-- The program that a call leaves. -/
def call (program : PilotProgram R) : PilotCall R → Except PyError (PilotProgram R)
  | .recordOutcome observation => program.recordOutcome observation
  | .recordExercise record => program.recordExercise record
  | .setOperationalReadiness readiness => program.setOperationalReadiness readiness
  | .promote target => program.promote target
  | .rollback => .ok program.rollback
  | .approve role approver approved => program.approve env role approver approved
  | .reviewGeneralAvailability => (program.reviewGeneralAvailability env).map Prod.snd

/-- A call as a step: one that raises leaves the program as it was. -/
def step (program : PilotProgram R) (call : PilotCall R) : PilotProgram R :=
  match program.call env call with
  | .ok next => next
  | .error _ => program

variable {env} in
theorem step_of_ok {program next : PilotProgram R} {call : PilotCall R}
    (returned : program.call env call = .ok next) : program.step env call = next := by
  unfold step
  rw [returned]

variable {env} in
theorem step_of_error {program : PilotProgram R} {call : PilotCall R} {error : PyError}
    (raised : program.call env call = .error error) : program.step env call = program := by
  unfold step
  rw [raised]

/-- **What a call that returns has found, and what it has done.** -/
inductive Change (program : PilotProgram R) : PilotCall R → PilotProgram R → Prop
  | observed {observation : OutcomeObservation R} :
      Change program (.recordOutcome observation)
        { program with observations := program.observations ++ [observation], approvals := ∅ }
  | exercised {record : ExerciseRecord} :
      Change program (.recordExercise record)
        { program with exercises := program.exercises.set record.kind record, approvals := ∅ }
  | readied {readiness : OperationalReadiness} :
      Change program (.setOperationalReadiness readiness)
        { program with readiness := some readiness, approvals := ∅ }
  | promoted {target : RolloutStage} (next : transition program.stage = some target)
      (evidence : program.current ≠ []) (passed : ∀ item ∈ program.current, item.failed = false) :
      Change program (.promote target) { program with stage := target, approvals := ∅ }
  | rolledBack : Change program .rollback { program with stage := .shadow, approvals := ∅ }
  | approved {role : ApprovalRole} {approver : String} {approved : Bool}
      (independent : ∀ item ∈ program.approvals.values, item.approver = approver →
        item.role = role) :
      Change program (.approve role approver approved)
        { program with
          approvals := program.approvals.set role (program.approval env role approver approved) }
  | refused : Change program .reviewGeneralAvailability program
  | released (clear : program.evidenceFailures env = .ok [])
      (held : ∀ role, program.approvalFailures env role = []) :
      Change program .reviewGeneralAvailability
        { program with stage := .generalAvailability }

variable {env}

/-- Without failures the program has reached the canary stage. -/
theorem stage_of_clear {program : PilotProgram R}
    (clear : program.evidenceFailures env = .ok []) :
    program.stage = .limitedCanary ∨ program.stage = .generalAvailability := by
  unfold evidenceFailures at clear
  by_contra early
  rw [not_or] at early
  rw [if_pos early] at clear
  cases clear

/-- A review that returns approves, on evidence without failures, or leaves the program alone. -/
theorem review_eq_ok {program next : PilotProgram R} {review : GAReview}
    (returned : program.reviewGeneralAvailability env = .ok (review, next)) :
    (review.approved = false ∧ next = program) ∨
      review.approved = true ∧ next = { program with stage := .generalAvailability } ∧
        program.evidenceFailures env = .ok [] ∧
        ∀ role, program.approvalFailures env role = [] := by
  obtain ⟨failures, found, rest⟩ := bind_eq_ok.mp returned
  cases rest
  by_cases clear : failures ++
      (sortBy (fun role => PyEnum.value role) (PyEnum.members (α := ApprovalRole))).flatMap
        (program.approvalFailures env) = []
  · obtain ⟨rfl, none⟩ := List.append_eq_nil_iff.mp clear
    refine Or.inr ⟨by rw [clear]; rfl, if_pos clear, found, fun role => ?_⟩
    exact List.flatMap_eq_nil_iff.mp none role (mem_sortBy.mpr (PyEnum.complete role))
  · exact Or.inl ⟨by rw [List.isEmpty_eq_false_iff]; exact clear, if_neg clear⟩

theorem change_of_call {program next : PilotProgram R} {call : PilotCall R}
    (returned : program.call env call = .ok next) : Change env program call next := by
  cases call with
  | recordOutcome observation =>
    change program.recordOutcome observation = _ at returned
    unfold recordOutcome at returned
    split_ifs at returned
    cases returned
    exact .observed
  | recordExercise record =>
    change program.recordExercise record = _ at returned
    unfold recordExercise at returned
    split_ifs at returned
    cases returned
    exact .exercised
  | setOperationalReadiness readiness =>
    change program.setOperationalReadiness readiness = _ at returned
    unfold setOperationalReadiness at returned
    split_ifs at returned
    cases returned
    exact .readied
  | promote target =>
    change program.promote target = _ at returned
    unfold promote at returned
    split_ifs at returned with unordered unproven
    rw [not_or, not_exists] at unproven
    cases returned
    refine .promoted (not_not.mp unordered) unproven.1 fun item member => ?_
    exact Bool.eq_false_iff.mpr fun failed => unproven.2 item ⟨member, failed⟩
  | rollback =>
    cases returned
    exact .rolledBack
  | approve role approver approved =>
    change program.approve env role approver approved = _ at returned
    unfold approve at returned
    split_ifs at returned with blank shared
    cases returned
    refine .approved fun item member same => ?_
    exact not_not.mp fun other => shared ⟨item, member, same, other⟩
  | reviewGeneralAvailability =>
    obtain ⟨⟨review, after⟩, reviewed, rfl⟩ := map_eq_ok.mp returned
    rcases review_eq_ok reviewed with ⟨-, rfl⟩ | ⟨-, rfl, clear, held⟩
    · exact .refused
    · exact .released clear held

end PilotProgram

end Calls

end Dnc.Pilot
