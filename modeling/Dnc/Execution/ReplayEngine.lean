/-
**The replay engine.**

`dnc.execution.replay_engine`, with the records of `dnc.execution.execution_trace` that it reads. The
engine takes a runtime through the records of a trace: it decides on the recorded observation,
compares the decision with the recorded one, and acts on its own decision.

`record.decision.decision` is the field `decision` here. What the standard library does with the
text of a timestamp, and the clock, are a `ReplayEnv`.
-/

import Dnc.Kernel.Contracts
import Dnc.Runtime.Runtime

namespace Dnc.Runtime

open PyLib

/-! ### Traces -/

inductive TerminationReason where
  | allModulesComplete | terminateDecision | resourceExhausted | unrecoverableFailure
  | externalSignal | incomplete
deriving DecidableEq

structure ObservationRecord where
  rawSignals : List PyData
  timestamp : String

/-- The value of the key `recorded_output` of the metadata is there where the key is. -/
structure ModuleInvocationRecord (α : Type) where
  moduleInstanceId : String
  moduleType : String
  recordedOutput : Option (Value α)

structure ExecutionRecord (α : Type) where
  stepIndex : Nat
  observation : ObservationRecord
  decision : String
  moduleInvocations : List (ModuleInvocationRecord α)

structure ExecutionTrace (α : Type) where
  traceId : String
  executionRecord : List (ExecutionRecord α)
  terminationReason : Option TerminationReason

/-! ### Configuration and result -/

structure ReplayConfig where
  stopOnDeviation : Bool := true
  maxSteps : Option Nat := none
  useRecordedProviderResponses : Bool := true
  useRecordedTimestamps : Bool := true
  requiredGrade : Option ReproducibilityGrade := none

structure ReplayEnv (R : Type) where
  /-- `float(text)`, where it does not raise `ValueError`. -/
  parseFloat : String → Option R
  /-- The time at which the observation of a record is made. -/
  clock : Nat → R

structure ReplayStepResult where
  stepIndex : Nat
  matched : Bool
  deviationReason : Option String
  recordedDecision : String
  replayDecision : String

structure ReplayResult where
  traceId : String
  replayedSteps : Nat
  totalSteps : Nat
  allMatched : Bool
  stepResults : List ReplayStepResult
  deviations : List String
  replayedModuleSequence : List String
  terminationReason : Option TerminationReason
  reproducibilityGrade : ReproducibilityGrade
  verifiedReexecution : Bool
  evidence : List String

/-- `ReplayResult.is_identical`. -/
def ReplayResult.isIdentical (result : ReplayResult) : Bool :=
  result.verifiedReexecution && result.allMatched && result.deviations.isEmpty

/-- `decision.name`. -/
def Decision.name : Decision → String
  | .proceed => "CONTINUE"
  | .replan => "REPLAN"
  | .idle => "IDLE"
  | .pause => "PAUSE"
  | .rollback => "ROLLBACK"
  | .terminate => "TERMINATE"

theorem Decision.name_injective : Function.Injective Decision.name := by
  intro first second
  cases first <;> cases second <;> decide

/-! ### The engine -/

namespace ReplayEngine

variable {R α π ω : Type}

/-- `ReplayEngine.verify_trace_integrity`. -/
def verifyTraceIntegrity (trace : ExecutionTrace α) : Bool :=
  trace.traceId != "" && !trace.executionRecord.isEmpty

/-- `ReplayEngine._recorded_response_map`. -/
def recordedResponseMap (trace : ExecutionTrace α) : Dict String (Value α) :=
  (trace.executionRecord.flatMap ExecutionRecord.moduleInvocations).foldl
    (fun responses invocation =>
      match invocation.recordedOutput with
      | some output => responses.set invocation.moduleType output
      | none => responses)
    ∅

/-- `ReplayEngine._require_grade`. -/
def requireGrade (config : ReplayConfig) (achieved : ReproducibilityGrade) : Except Raised Unit :=
  match config.requiredGrade with
  | none => .ok ()
  | some required =>
    if PyEnum.rank achieved < PyEnum.rank required then
      .error (.python (.valueError (s!"replay achieved {PyEnum.value achieved}, " ++
        s!"below required {PyEnum.value required}")))
    else .ok ()

/-- `ReplayEngine.replay_step`. -/
def replayStep (record : ExecutionRecord α) : ReplayStepResult where
  stepIndex := record.stepIndex
  matched := true
  deviationReason := none
  recordedDecision := record.decision
  replayDecision := record.decision

/-- The dispatch function `lambda mid: response_map[str(mid.type_id)]`. -/
def respond (responses : Dict String (Value α)) : DispatchFn α ω := fun world node =>
  match responses.get? node.typeId with
  | some output => (.ok output, world)
  | none => (.error (.python (.keyError node.typeId)), world)

/-- The session with the recorded responses in place of its modules. -/
def bindResponses (session : Session R α π ω) (responses : Dict String (Value α)) :
    Session R α π ω :=
  { session with
    runtime.moduleDispatchFn := some (respond responses)
    runtime.providerMode := .dev }

/-- The observation that is made of a record. -/
def observationOf (env : ReplayEnv R) (config : ReplayConfig) (index : Nat)
    (record : ExecutionRecord α) : Observation R :=
  let timestamp : Option R :=
    if config.useRecordedTimestamps && record.observation.timestamp != "" then
      env.parseFloat record.observation.timestamp
    else none
  ⟨record.observation.rawSignals, timestamp.getD (env.clock index)⟩

/-- The lists that the loop of `replay` fills. -/
structure Replayed where
  stepResults : List ReplayStepResult := []
  deviations : List String := []
  moduleSequence : List String := []

/-- A decision is compared with the recorded one. -/
def compare (replayed : Replayed) (index : Nat) (recorded fresh : String) : Replayed :=
  let matched := fresh == recorded
  let reason := s!"decision mismatch: recorded={recorded}, replay={fresh}"
  { replayed with
    stepResults := replayed.stepResults ++
      [⟨index, matched, if matched then none else some reason, recorded, fresh⟩]
    deviations :=
      if matched then replayed.deviations
      else replayed.deviations ++ [s!"Step {index}: {reason}"] }

/-- `max_steps` in `replay`. -/
def stepBound (config : ReplayConfig) (totalSteps : Nat) : Nat :=
  match config.maxSteps with
  | none => totalSteps
  | some maxSteps => min totalSteps maxSteps

/-- The responses that a replay uses: the given ones, or those of the trace. -/
def responsesOf (trace : ExecutionTrace α) (responseMap : Dict String (Value α)) :
    Dict String (Value α) :=
  if responseMap.length = 0 then recordedResponseMap trace else responseMap

/-- The grade of a replay on a runtime. -/
def achievedGrade (config : ReplayConfig) (responses : Dict String (Value α)) : ReproducibilityGrade :=
  if config.useRecordedProviderResponses ∧ responses.length ≠ 0 then .r3RecordedExternals
  else .r2DeterministicCore

/-- The checks of a replay on a runtime. -/
def checkReplay (config : ReplayConfig) (trace : ExecutionTrace α)
    (responses : Dict String (Value α)) : Except Raised Unit := do
  if verifyTraceIntegrity trace = false then
    throw (.python (.valueError "Trace missing required fields for replay"))
  if config.useRecordedProviderResponses ∧ responses.length = 0 then
    throw (.python (.valueError "Trace has no recorded provider/module responses"))
  requireGrade config (achievedGrade config responses)

variable [PyFloat R] (interpreter : Interpreter α) (env : ReplayEnv R) (config : ReplayConfig)

/-- The loop of `replay`, at a record. -/
def replayFrom (bound index : Nat) (session : Session R α π ω) (replayed : Replayed) :
    List (ExecutionRecord α) → Except Raised Replayed × Session R α π ω
  | [] => (.ok replayed, session)
  | record :: rest =>
    if bound ≤ index then (.ok replayed, session)
    else
      match session.decide (observationOf env config index record) with
      | (.error raised, session) => (.error raised, session)
      | (.ok fresh, session) =>
        let compared := compare replayed index record.decision fresh.name
        if fresh.name ≠ record.decision ∧ config.stopOnDeviation then (.ok compared, session)
        else
          match session.act interpreter fresh with
          | (.error raised, session) => (.error raised, session)
          | (.ok dispatched, session) =>
            let acted := { compared with
              moduleSequence := compared.moduleSequence ++ dispatched.map ModuleInstanceID.typeId }
            let session :=
              if fresh.name = "TERMINATE" then { session with runtime.state := .terminated }
              else session
            if session.runtime.state = .terminated then (.ok acted, session)
            else replayFrom bound (index + 1) session acted rest

/-- `ReplayEngine.replay`, with the session that it leaves. -/
def replay (trace : ExecutionTrace α) (responseMap : Dict String (Value α)) :
    Option (Session R α π ω) → Except Raised ReplayResult × Option (Session R α π ω)
  | none =>
    (do
      if verifyTraceIntegrity trace = false then
        throw (.python (.valueError "Trace missing required fields for replay"))
      requireGrade config .r1ManifestOnly
      let stepResults := trace.executionRecord.map replayStep
      return {
        traceId := trace.traceId
        replayedSteps := stepResults.length
        totalSteps := stepResults.length
        allMatched := true
        stepResults := stepResults
        deviations := []
        replayedModuleSequence := []
        terminationReason := trace.terminationReason
        reproducibilityGrade := .r1ManifestOnly
        verifiedReexecution := false
        evidence := ["TRACE_INSPECTION_ONLY"] }, none)
  | some session =>
    let responses := responsesOf trace responseMap
    let grade := achievedGrade config responses
    match checkReplay config trace responses with
    | .error raised => (.error raised, some session)
    | .ok () =>
      let totalSteps := trace.executionRecord.length
      match replayFrom interpreter env config (stepBound config totalSteps) 0
          (bindResponses session responses) {} trace.executionRecord with
      | (.error raised, session) => (.error raised, some session)
      | (.ok replayed, session) =>
        (.ok {
          traceId := trace.traceId
          replayedSteps := replayed.stepResults.length
          totalSteps := totalSteps
          allMatched := replayed.stepResults.all ReplayStepResult.matched
          stepResults := replayed.stepResults
          deviations := replayed.deviations
          replayedModuleSequence := replayed.moduleSequence
          terminationReason := trace.terminationReason
          reproducibilityGrade := grade
          verifiedReexecution := true
          evidence := ["FRESH_RUNTIME_REEXECUTION",
            if grade = .r3RecordedExternals then "RECORDED_RESPONSES"
            else "DETERMINISTIC_CORE_ONLY"] }, some session)

end ReplayEngine

end Dnc.Runtime
