/-
**The order of the rollout.**

A program moves forward by promotions and approving reviews, one stage at a time and on evidence;
its rollback, though, sets the stage to SHADOW from wherever the program is, which from
OFFLINE_REPLAY is a step forward on no evidence at all (`rollback_advances`).

`ordered_iff`: the rollout is ordered along a run exactly when no rollback is called at
OFFLINE_REPLAY. The two sides agree call by call (`ordered_call_iff`).
-/

import Dnc.Pilot.Governance

namespace Dnc.Pilot

open PyLib Logic
open PilotProgram (transition step)

variable {R : Type} [FloatOps R]

/-- `PilotProgram(workflow, criteria)`. -/
def PilotProgram.new (workflow : WorkflowProfile) (criteria : PilotCriteria R) : PilotProgram R where
  workflow := workflow
  criteria := criteria

/-- The position in the order offline replay, shadow, limited canary, general availability. -/
def RolloutStage.position : RolloutStage → Nat
  | .offlineReplay => 0
  | .shadow => 1
  | .limitedCanary => 2
  | .generalAvailability => 3

theorem position_of_transition {stage target : RolloutStage}
    (next : transition stage = some target) : target.position = stage.position + 1 := by
  cases stage <;> cases next <;> rfl

/-- The ledger holds an observation of the active stage that did not fail, and none that did. -/
structure Proven (program : PilotProgram R) : Prop where
  some : ∃ item ∈ program.observations, item.stage = program.stage ∧ item.failed = false
  all : ∀ item ∈ program.observations, item.stage = program.stage → item.failed = false

variable (env : PilotEnv R)

/-- The review approves. -/
def Approves (program : PilotProgram R) : Prop :=
  ∃ review next, program.reviewGeneralAvailability env = .ok (review, next) ∧
    review.approved = true

/-- What may move a program to a later stage. -/
inductive Forward (program : PilotProgram R) : PilotCall R → Prop
  | promoted {target : RolloutStage} (proven : Proven program) : Forward program (.promote target)
  | approved (approves : Approves env program) : Forward program .reviewGeneralAvailability

/-- **An ordered step**: a later stage is the next one, and reached by a promotion on evidence or by
an approving review. -/
def Ordered (entry : PilotProgram R × PilotCall R) : Prop :=
  entry.1.stage.position < (step env entry.1 entry.2).stage.position →
    (step env entry.1 entry.2).stage.position = entry.1.stage.position + 1 ∧
      Forward env entry.1 entry.2

/-- The rollback is not one from OFFLINE_REPLAY. -/
def RollsBackLater (entry : PilotProgram R × PilotCall R) : Prop :=
  entry.2 = .rollback → entry.1.stage ≠ .offlineReplay

variable {env}

theorem stage_rollback (program : PilotProgram R) :
    (step env program .rollback).stage = .shadow := rfl

/-- A rollback moves forward from OFFLINE_REPLAY, and only from there. -/
theorem rollback_advances (program : PilotProgram R) :
    program.stage.position < (step env program .rollback).stage.position ↔
      program.stage = .offlineReplay := by
  rw [stage_rollback]
  cases program.stage <;> simp [RolloutStage.position]

theorem proven_of_current {program : PilotProgram R} (evidence : program.current ≠ [])
    (passed : ∀ item ∈ program.current, item.failed = false) : Proven program := by
  have inCurrent : ∀ item, item ∈ program.current ↔
      item ∈ program.observations ∧ item.stage = program.stage := fun item => by
    rw [PilotProgram.current, List.mem_filter, decide_eq_true_eq]
  obtain ⟨item, member⟩ := List.exists_mem_of_ne_nil _ evidence
  obtain ⟨observed, active⟩ := (inCurrent item).mp member
  refine ⟨⟨item, observed, active, passed item member⟩, fun other listed same => ?_⟩
  exact passed other ((inCurrent other).mpr ⟨listed, same⟩)

/-- A review that moves a program forward approves, at LIMITED_CANARY. -/
theorem review_advances {program : PilotProgram R}
    (later : program.stage.position < (step env program .reviewGeneralAvailability).stage.position) :
    (step env program .reviewGeneralAvailability).stage.position = program.stage.position + 1 ∧
      Approves env program := by
  unfold PilotProgram.step PilotProgram.call at later ⊢
  cases reviewed : program.reviewGeneralAvailability env with
  | error error =>
    rw [reviewed] at later
    exact absurd later (lt_irrefl _)
  | ok result =>
    obtain ⟨review, next⟩ := result
    rw [reviewed] at later
    rcases PilotProgram.review_eq_ok reviewed with ⟨-, rfl⟩ | ⟨approved, rfl, clear, -⟩
    · exact absurd later (lt_irrefl _)
    · have reached := PilotProgram.stage_of_clear clear
      refine ⟨?_, review, _, reviewed, approved⟩
      rcases reached with canary | general
      · show RolloutStage.generalAvailability.position = _
        rw [canary]
        rfl
      · change program.stage.position < RolloutStage.generalAvailability.position at later
        rw [general] at later
        exact absurd later (lt_irrefl _)

/-- **A step is ordered unless it is a rollback at OFFLINE_REPLAY.** -/
theorem ordered_call_iff (program : PilotProgram R) (call : PilotCall R) :
    Ordered env (program, call) ↔ RollsBackLater (program, call) := by
  constructor
  · rintro ordered rfl offline
    cases (ordered ((rollback_advances program).mpr offline)).2
  · intro later advances
    change program.stage.position < (step env program call).stage.position at advances
    cases returned : program.call env call with
    | error error =>
      rw [PilotProgram.step_of_error returned] at advances
      exact absurd advances (lt_irrefl _)
    | ok next =>
      have stepped := PilotProgram.step_of_ok returned
      cases PilotProgram.change_of_call returned with
      | observed | exercised | readied | approved =>
        rw [stepped] at advances
        exact absurd advances (lt_irrefl _)
      | promoted next evidence passed =>
        refine ⟨?_, .promoted (proven_of_current evidence passed)⟩
        rw [stepped]
        exact position_of_transition next
      | rolledBack => exact absurd ((rollback_advances program).mp advances) (later rfl)
      | refused | released =>
        obtain ⟨one, approves⟩ := review_advances advances
        exact ⟨one, .approved approves⟩

/-- **The rollout is ordered along a run exactly when no rollback is called at OFFLINE_REPLAY.** -/
theorem ordered_iff (env : PilotEnv R) (workflow : WorkflowProfile) (criteria : PilotCriteria R)
    (calls : List (PilotCall R)) :
    (∀ entry ∈ trace (step env) (.new workflow criteria) calls, Ordered env entry) ↔
      ∀ entry ∈ trace (step env) (.new workflow criteria) calls, RollsBackLater entry :=
  trace_law_iff (P := fun _ => True) trivial (fun _ _ _ _ => trivial)
    fun program call _ => ordered_call_iff program call

/-! ### A rollback before the first promotion -/

namespace Sample

def workflow : WorkflowProfile where
  workflowId := "invoice-review-assist"
  version := "1"
  domain := "accounts-payable"
  domainOwner := "domain-owner"
  reversible := true
  outcomeMeasurable := true
  critical := false
  systemFingerprint := "sha256:dnc-profile"
  dataClassification := "internal"
  rollbackTarget := "static-review-v3"
  valid := by decide

def criteria : PilotCriteria Rat where
  baselineValue := 1 / 2
  minimumBusinessValue := 3 / 5
  maximumFailureRate := 1 / 10
  maximumP95LatencyMs := 100
  maximumCostPerCase := 2
  minimumObservations := 2
  minimumDurationDays := 2
  valid := by decide +kernel

def outside : PilotEnv Rat where
  sha256 text := text
  number value := .str (toString value)
  truncate value := value.num.tdiv value.den

end Sample

/-- A rollback on a new program moves it from OFFLINE_REPLAY to SHADOW. -/
theorem rollback_unordered : ¬ ∀ (env : PilotEnv Rat) (workflow : WorkflowProfile)
    (criteria : PilotCriteria Rat) (calls : List (PilotCall Rat)),
    ∀ entry ∈ trace (step env) (.new workflow criteria) calls, Ordered env entry := by
  intro ordered
  have first := ordered Sample.outside Sample.workflow Sample.criteria [.rollback] _
    List.mem_cons_self
  cases (first (by decide)).2

end Dnc.Pilot
