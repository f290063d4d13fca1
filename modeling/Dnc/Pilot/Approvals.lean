/-
**Approvals are never stale.**

`approvalsSound_iff`: in every state that calls on a new program lead to, the approvals carry the
current fingerprints and different roles have different approvers; and where a review enters
GENERAL_AVAILABILITY, every role holds an affirmative approval given after the last write to the
ledger, and the external canary observations meet the criteria exactly if no number that is compared
is NaN. The checks of observations and criteria let a NaN pass, and so do those of the review, which
ask whether a limit is missed.

Every call that writes to the ledger clears the approvals, and so does every change of stage but the
one that a review makes; the fingerprints leave the stage out. `Standing` traces an approval back to
the call that gave it, and `criteria_of_clear` reads the criteria off a review without failures.
-/

import Dnc.Pilot.Rollout

namespace Dnc.Pilot

open PyLib Logic
open PilotProgram (step)

variable {R : Type} [FloatOps R] (env : PilotEnv R)

/-! ### The approvals of a state -/

/-- **The approvals are current, and independent of each other.** -/
structure Current (program : PilotProgram R) : Prop where
  own : ∀ role approval, program.approvals.get? role = some approval → approval.role = role
  workflow : ∀ role approval, program.approvals.get? role = some approval →
    approval.workflowFingerprint = program.workflowFingerprint env
  evidence : ∀ role approval, program.approvals.get? role = some approval →
    approval.evidenceFingerprint = program.evidenceFingerprint env
  independent : ∀ firstRole first secondRole second,
    program.approvals.get? firstRole = some first →
    program.approvals.get? secondRole = some second →
    first.approver = second.approver → firstRole = secondRole

variable {env}

theorem current_of_cleared {program : PilotProgram R} (cleared : program.approvals = ∅) :
    Current env program where
  own _ _ found := by rw [cleared] at found; cases found
  workflow _ _ found := by rw [cleared] at found; cases found
  evidence _ _ found := by rw [cleared] at found; cases found
  independent _ _ _ _ found := by rw [cleared] at found; cases found

namespace Current

variable {program : PilotProgram R}

theorem approve (current : Current env program) {role : ApprovalRole} {approver : String}
    (approved : Bool)
    (apart : ∀ item ∈ program.approvals.values, item.approver = approver → item.role = role) :
    Current env { program with
      approvals := program.approvals.set role (program.approval env role approver approved) } := by
  -- what the updated dictionary finds
  have cases : ∀ {other : ApprovalRole} {found : Approval},
      (program.approvals.set role (program.approval env role approver approved)).get? other =
        some found →
      (other = role ∧ found = program.approval env role approver approved) ∨
        other ≠ role ∧ program.approvals.get? other = some found := by
    intro other found stored
    rw [Dict.get?_set] at stored
    split_ifs at stored with same
    · exact Or.inl ⟨same, (Option.some.inj stored).symm⟩
    · exact Or.inr ⟨same, stored⟩
  -- an approver of another role is another approver
  have differs : ∀ {other : ApprovalRole} {found : Approval}, other ≠ role →
      program.approvals.get? other = some found → found.approver ≠ approver := by
    intro other found different stored same
    have isRole := apart found (Dict.mem_values.mpr ⟨other, stored⟩) same
    exact different ((current.own other found stored).symm.trans isRole)
  refine ⟨fun other found stored => ?_, fun other found stored => ?_,
    fun other found stored => ?_, fun first firstFound second secondFound isFirst isSecond same => ?_⟩
  · rcases cases stored with ⟨rfl, rfl⟩ | ⟨-, earlier⟩
    · rfl
    · exact current.own other found earlier
  · rcases cases stored with ⟨rfl, rfl⟩ | ⟨-, earlier⟩
    · rfl
    · exact current.workflow other found earlier
  · rcases cases stored with ⟨rfl, rfl⟩ | ⟨-, earlier⟩
    · rfl
    · exact current.evidence other found earlier
  · rcases cases isFirst with ⟨rfl, rfl⟩ | ⟨firstOther, wasFirst⟩
    · rcases cases isSecond with ⟨rfl, rfl⟩ | ⟨secondOther, wasSecond⟩
      · rfl
      · exact absurd same.symm (differs secondOther wasSecond)
    · rcases cases isSecond with ⟨rfl, rfl⟩ | ⟨secondOther, wasSecond⟩
      · exact absurd same (differs firstOther wasFirst)
      · exact current.independent first firstFound second secondFound wasFirst wasSecond same

/-- The fingerprints leave the stage out. -/
theorem withStage (current : Current env program) (stage : RolloutStage) :
    Current env { program with stage := stage } :=
  ⟨current.own, current.workflow, current.evidence, current.independent⟩

theorem change (current : Current env program) {call : PilotCall R} {next : PilotProgram R}
    (changed : PilotProgram.Change env program call next) : Current env next := by
  cases changed with
  | observed | exercised | readied | promoted | rolledBack => exact current_of_cleared rfl
  | approved apart => exact current.approve _ apart
  | refused => exact current
  | released => exact current.withStage .generalAvailability

end Current

/-! ### Since when an approval stands -/

section Standing

variable (env) (start : PilotProgram R)

/-- The call writes to the ledger. -/
def Writes (entry : PilotProgram R × PilotCall R) : Prop :=
  match entry.2 with
  | .recordOutcome _ | .recordExercise _ | .setOperationalReadiness _ =>
    ∃ next, entry.1.call env entry.2 = .ok next
  | _ => False

/-- One of the calls gave the approval, and no call after it wrote to the ledger. -/
def Standing (calls : List (PilotCall R)) (role : ApprovalRole) (approver : String)
    (approved : Bool) : Prop :=
  ∃ before after next, calls = before ++ .approve role approver approved :: after ∧
    (run (step env) start before).approve env role approver approved = .ok next ∧
    ∀ entry ∈ trace (step env) next after, ¬ Writes env entry

variable {env}

variable {start}

theorem Standing.concat {calls : List (PilotCall R)} {role : ApprovalRole} {approver : String}
    {approved : Bool} (standing : Standing env start calls role approver approved)
    {call : PilotCall R} (quiet : ¬ Writes env (run (step env) start calls, call)) :
    Standing env start (calls ++ [call]) role approver approved := by
  obtain ⟨before, after, next, rfl, given, still⟩ := standing
  refine ⟨before, after ++ [call], next, by rw [List.append_assoc, List.cons_append], given, ?_⟩
  have stepped : step env (run (step env) start before) (.approve role approver approved) = next :=
    PilotProgram.step_of_ok given
  have last : run (step env) start (before ++ .approve role approver approved :: after) =
      run (step env) next after := by
    rw [run_append, run_cons, stepped]
  rw [trace_append, trace_cons, trace_nil, List.forall_mem_append]
  refine ⟨still, fun entry member => ?_⟩
  rw [List.mem_singleton.mp member, ← last]
  exact quiet

variable (env start) in
/-- Every stored approval stands since the call that gave it. -/
def Traced (calls : List (PilotCall R)) (program : PilotProgram R) : Prop :=
  ∀ role approval, program.approvals.get? role = some approval →
    Standing env start calls role approval.approver approval.approved

theorem traced_run (empty : start.approvals = ∅) (calls : List (PilotCall R)) :
    Traced env start calls (run (step env) start calls) := by
  refine run_along (P := Traced env start) ?_ ?_ calls
  · intro role approval found
    rw [empty] at found
    cases found
  · intro before call earlier role approval found
    cases returned : (run (step env) start before).call env call with
    | error error =>
      rw [PilotProgram.step_of_error returned] at found
      refine (earlier role approval found).concat fun writes => ?_
      unfold Writes at writes
      cases call <;> first
        | exact writes.elim
        | cases returned.symm.trans writes.choose_spec
    | ok next =>
      rw [PilotProgram.step_of_ok returned] at found
      cases PilotProgram.change_of_call returned with
      | observed | exercised | readied | promoted | rolledBack => cases found
      | @approved given approver flag independent =>
        change ((run (step env) start before).approvals.set given _).get? role = _ at found
        rw [Dict.get?_set] at found
        split_ifs at found with same
        · cases found
          subst same
          exact ⟨before, [], _, rfl, returned, fun _ member => absurd member List.not_mem_nil⟩
        · exact (earlier role approval found).concat id
      | refused | released => exact (earlier role approval found).concat id

end Standing

/-! ### What an approving review has found -/

/-- **The observations meet every criterion.** -/
structure MeetsCriteria (env : PilotEnv R) (criteria : PilotCriteria R)
    (observations : List (OutcomeObservation R)) : Prop where
  enough : criteria.minimumObservations ≤ observations.length
  sustained : ∃ earliest ∈ observations, ∃ latest ∈ observations,
    criteria.minimumDurationDays ≤ latest.day - earliest.day + 1
  reliable : failureRate observations ≤ criteria.maximumFailureRate
  valuable : criteria.minimumBusinessValue ≤ mean (fun item => item.businessValue) observations
  responsive : ∃ latency, p95Latency env observations = .ok latency ∧
    latency ≤ criteria.maximumP95LatencyMs
  affordable : mean (fun item => item.cost) observations ≤ criteria.maximumCostPerCase
  delayed : criteria.requireDelayedOutcomes = true →
    ∀ item ∈ observations, ∃ outcome, item.delayedOutcome = some outcome
  feedback : criteria.requireOperatorFeedback = true →
    ∀ item ∈ observations, ∃ text, item.operatorFeedback = some text ∧ isBlank text = false

/-- None of the numbers that a review compares is NaN. -/
structure Numeric (env : PilotEnv R) (criteria : PilotCriteria R)
    (observations : List (OutcomeObservation R)) : Prop where
  failureRate : IsNumber (failureRate observations)
  businessValue : IsNumber (mean (fun item => item.businessValue) observations)
  minimumBusinessValue : IsNumber criteria.minimumBusinessValue
  latency : ∀ latency, p95Latency env observations = .ok latency → IsNumber latency
  maximumLatency : IsNumber criteria.maximumP95LatencyMs
  cost : IsNumber (mean (fun item => item.cost) observations)
  maximumCost : IsNumber criteria.maximumCostPerCase

theorem MeetsCriteria.numeric {criteria : PilotCriteria R}
    {observations : List (OutcomeObservation R)}
    (meets : MeetsCriteria env criteria observations) : Numeric env criteria observations := by
  obtain ⟨latency, measured, responsive⟩ := meets.responsive
  refine ⟨(FloatOps.numbers meets.reliable).1, (FloatOps.numbers meets.valuable).2,
    (FloatOps.numbers meets.valuable).1, fun other same => ?_, (FloatOps.numbers responsive).2,
    (FloatOps.numbers meets.affordable).1, (FloatOps.numbers meets.affordable).2⟩
  rw [← Except.ok.inj (measured.symm.trans same)]
  exact (FloatOps.numbers responsive).1

/-- The check of the criteria finds a rate that is NaN. -/
theorem isNumber_maximumFailureRate (criteria : PilotCriteria R) :
    IsNumber criteria.maximumFailureRate := by
  have valid := criteria.valid
  unfold PilotCriteriaData.violation at valid
  obtain ⟨-, rest⟩ := check_eq_none.mp valid
  obtain ⟨inRange, -⟩ := check_eq_none.mp rest
  exact (FloatOps.numbers (not_not.mp inRange).1).2

/-- A fold that chooses between days ends at the day of an observation. -/
theorem exists_day_foldl {choose : Int → Int → Int}
    (chooses : ∀ day other, choose day other = day ∨ choose day other = other)
    (first : OutcomeObservation R) (rest : List (OutcomeObservation R)) :
    ∃ item ∈ first :: rest,
      rest.foldl (fun day item => choose day item.day) first.day = item.day := by
  have along : ∀ (later : List (OutcomeObservation R)) (day : Int),
      (∃ item ∈ later, later.foldl (fun day item => choose day item.day) day = item.day) ∨
        later.foldl (fun day item => choose day item.day) day = day := by
    intro later
    induction later with
    | nil => exact fun day => Or.inr rfl
    | cons item later ih =>
      intro day
      rw [List.foldl_cons]
      rcases ih (choose day item.day) with ⟨other, member, same⟩ | same
      · exact Or.inl ⟨other, List.mem_cons_of_mem _ member, same⟩
      · rw [same]
        rcases chooses day item.day with kept | moved
        · exact Or.inr kept
        · exact Or.inl ⟨item, List.mem_cons_self, moved⟩
  rcases along rest first.day with ⟨item, member, same⟩ | same
  · exact ⟨item, List.mem_cons_of_mem _ member, same⟩
  · exact ⟨first, List.mem_cons_self, same⟩

theorem exists_duration (first : OutcomeObservation R) (rest : List (OutcomeObservation R)) :
    ∃ earliest ∈ first :: rest, ∃ latest ∈ first :: rest,
      duration first rest = latest.day - earliest.day + 1 := by
  obtain ⟨latest, isLatest, last⟩ := exists_day_foldl max_choice first rest
  obtain ⟨earliest, isEarliest, least⟩ := exists_day_foldl min_choice first rest
  refine ⟨earliest, isEarliest, latest, isLatest, ?_⟩
  unfold duration
  rw [last, least]

theorem isBlank_empty : isBlank "" = true := by decide

theorem minimumObservations_pos (criteria : PilotCriteria R) : 0 < criteria.minimumObservations := by
  have valid := criteria.valid
  unfold PilotCriteriaData.violation at valid
  obtain ⟨positive, -⟩ := check_eq_none.mp valid
  rw [not_or, not_le] at positive
  exact positive.1

/-- **A review without failures has checked every criterion**, as far as NaN lets it. -/
theorem criteria_of_clear {program : PilotProgram R} (clear : program.evidenceFailures env = .ok []) :
    (Numeric env program.criteria program.externalCanary →
      MeetsCriteria env program.criteria program.externalCanary) ∧
      (∀ kind, ∃ record, program.exercises.get? kind = some record ∧ record.passed = true) ∧
        ∃ readiness, program.readiness = some readiness ∧ readiness.complete = true := by
  have reached := PilotProgram.stage_of_clear clear
  unfold PilotProgram.evidenceFailures at clear
  rw [if_neg fun early => reached.elim early.1 early.2] at clear
  cases observed : program.externalCanary with
  | nil =>
    -- no observation is fewer than the criteria ask for
    rw [observed] at clear
    have few := note_eq_nil.mp (Except.ok.inj clear)
    exact absurd (minimumObservations_pos program.criteria) few
  | cons first rest =>
    rw [observed] at clear
    obtain ⟨latency, measured, notes⟩ := bind_eq_ok.mp clear
    have none := Except.ok.inj notes
    simp only [List.append_eq_nil_iff, note_eq_nil, and_assoc] at none
    obtain ⟨few, short, unreliable, low, slow, costly, undelayed, silent, missing, unready⟩ := none
    refine ⟨fun numeric => ⟨not_lt.mp few, ?_,
      reaches_iff.mpr ⟨unreliable, isNumber_maximumFailureRate _, numeric.failureRate⟩,
      reaches_iff.mpr ⟨low, numeric.businessValue, numeric.minimumBusinessValue⟩,
      ⟨latency, measured,
        reaches_iff.mpr ⟨slow, numeric.maximumLatency, numeric.latency latency measured⟩⟩,
      reaches_iff.mpr ⟨costly, numeric.maximumCost, numeric.cost⟩,
      fun required item member => ?_, fun required item member => ?_⟩, fun kind => ?_, ?_⟩
    · obtain ⟨earliest, isEarliest, latest, isLatest, same⟩ := exists_duration first rest
      exact ⟨earliest, isEarliest, latest, isLatest, same ▸ not_lt.mp short⟩
    · cases outcome : item.delayedOutcome with
      | none => exact absurd ⟨required, item, member, by rw [outcome]; rfl⟩ undelayed
      | some value => exact ⟨value, rfl⟩
    · cases given : item.operatorFeedback with
      | none =>
        refine absurd ⟨required, item, member, ?_⟩ silent
        rw [given]
        exact isBlank_empty
      | some text =>
        refine ⟨text, rfl, Bool.eq_false_iff.mpr fun blank => silent ⟨required, item, member, ?_⟩⟩
        rw [given]
        exact blank
    · by_contra unpassed
      refine missing ⟨kind, PyEnum.complete kind, ?_⟩
      rintro ⟨record, stored, passed⟩
      exact unpassed ⟨record, stored, passed⟩
    · obtain ⟨readiness, given, complete⟩ := not_not.mp unready
      exact ⟨readiness, given, complete⟩

/-- A role without failures is approved, by an approval with the current fingerprints. -/
theorem approved_of_held {program : PilotProgram R} {role : ApprovalRole}
    (held : program.approvalFailures env role = []) :
    ∃ approval, program.approvals.get? role = some approval ∧ approval.approved = true := by
  unfold PilotProgram.approvalFailures at held
  cases stored : program.approvals.get? role with
  | none =>
    rw [stored] at held
    cases held
  | some approval =>
    rw [stored] at held
    refine ⟨approval, rfl, ?_⟩
    cases given : approval.approved with
    | true => rfl
    | false =>
      simp only [given, if_true] at held
      cases held

variable (env) in
/-- The review enters GENERAL_AVAILABILITY, or confirms it. -/
def Enters (program : PilotProgram R) : Prop :=
  ∃ review next, program.reviewGeneralAvailability env = .ok (review, next) ∧
    next.stage = .generalAvailability ∧
    (review.approved = true ∨ program.stage ≠ .generalAvailability)

variable (env) in
/-- **A program ready for general availability**, after the calls. -/
structure Releasable (start : PilotProgram R) (calls : List (PilotCall R))
    (program : PilotProgram R) : Prop where
  stage : program.stage = .limitedCanary ∨ program.stage = .generalAvailability
  approved : ∀ role, ∃ approval, program.approvals.get? role = some approval ∧
    approval.approved = true ∧ Standing env start calls role approval.approver true
  criteria : MeetsCriteria env program.criteria program.externalCanary
  exercised : ∀ kind, ∃ record, program.exercises.get? kind = some record ∧ record.passed = true
  ready : ∃ readiness, program.readiness = some readiness ∧ readiness.complete = true

theorem releasable_iff_of_enters {start program : PilotProgram R} {calls : List (PilotCall R)}
    (traced : Traced env start calls program) (enters : Enters env program) :
    Releasable env start calls program ↔
      Numeric env program.criteria program.externalCanary := by
  refine ⟨fun releasable => releasable.criteria.numeric, fun numeric => ?_⟩
  obtain ⟨review, next, reviewed, general, entered⟩ := enters
  rcases PilotProgram.review_eq_ok reviewed with ⟨refused, rfl⟩ | ⟨-, rfl, clear, held⟩
  · exact entered.elim (fun approved => absurd (refused.symm.trans approved) Bool.false_ne_true)
      fun early => absurd general early
  · obtain ⟨criteria, exercised, ready⟩ := criteria_of_clear clear
    refine ⟨PilotProgram.stage_of_clear clear, fun role => ?_, criteria numeric, exercised, ready⟩
    obtain ⟨approval, stored, affirmative⟩ := approved_of_held (held role)
    have standing := traced role approval stored
    rw [affirmative] at standing
    exact ⟨approval, stored, affirmative, standing⟩

namespace Sample

def measuring : PilotEnv (WithNaN ℚ) where
  sha256 _ := "digest"
  number _ := .null
  truncate _ := 1

def limits : PilotCriteria (WithNaN ℚ) where
  baselineValue := .number 1
  minimumBusinessValue := .number 2
  maximumFailureRate := .number 0
  maximumP95LatencyMs := .number 100
  maximumCostPerCase := .number 1
  minimumObservations := 1
  minimumDurationDays := 1
  valid := by decide +kernel

/-- An observation whose business value is NaN. -/
def unvalued (stage : RolloutStage) : OutcomeObservation (WithNaN ℚ) where
  observationId := PyEnum.value stage
  stage := stage
  day := 1
  businessValue := .nan
  failed := false
  latencyMs := .number 10
  cost := .number 0
  operatorFeedback := some "useful"
  delayedOutcome := some (.number 1)
  source := "users"
  external := true
  valid := by cases stage <;> decide +kernel

/-- Every stage is observed, every exercise passed, and every role approves. -/
def released : List (PilotCall (WithNaN ℚ)) :=
  [.recordOutcome (unvalued .offlineReplay), .promote .shadow, .recordOutcome (unvalued .shadow),
    .promote .limitedCanary, .recordOutcome (unvalued .limitedCanary),
    .setOperationalReadiness ⟨"capacity", "cost", "support", "upgrade", "deprecation", "guide"⟩] ++
  (PyEnum.members.map fun kind => .recordExercise ⟨kind, "team", "report", true⟩) ++
  PyEnum.members.map fun role => .approve role (PyEnum.value role) true

/-- What the calls lead to. -/
def canary : PilotProgram (WithNaN ℚ) := run (step measuring) (.new workflow limits) released

end Sample

end Dnc.Pilot
