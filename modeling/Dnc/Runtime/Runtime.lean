/-
**The runtime.**

`dnc.runtime.runtime.Runtime`: the control loop over an execution state. A `Session` is the runtime,
the state it works on, and the world that dispatch functions and providers act on. A call returns or
raises, and leaves a session in both cases: an exception in the middle of a loop leaves what the
loop has done so far.

The clock and the latency figures are not modelled; no decision reads them. The trace that a runtime
records is in `Dnc.Runtime.Recording`.
-/

import Dnc.Execution.DecisionPolicy
import Dnc.Planner.Pipeline

namespace Dnc.Runtime

open PyLib

/-! ### The parts of a runtime -/

inductive ProviderMode where
  | dev | prod
deriving DecidableEq

/-- `ExecutionState2`. -/
inductive RuntimeState where
  | init | running | idle | terminated | failed
deriving DecidableEq

/-- `runtime.Decision`; `proceed` is CONTINUE. -/
inductive Decision where
  | proceed | replan | idle | pause | rollback | terminate
deriving DecidableEq

inductive AssessmentKind where
  | outcomeMet | outcomeDegraded | outcomeFailed
deriving DecidableEq

/-- `Observation`. -/
structure Observation (R : Type) where
  signals : List PyData
  timestamp : R

theorem default_replans_valid : 1 ≤ (3 : Int) ∧ (3 : Int) ≤ 10 := by decide

/-- The fields of `LatencyConfig` that decisions read, with the check of `validate` on them. -/
structure LatencyConfig where
  maxReplansPerExecution : Int := 3
  maxAsyncPending : Int := 50
  valid : 1 ≤ maxReplansPerExecution ∧ maxReplansPerExecution ≤ 10 := by decide

/-- `CostBudget`. -/
structure CostBudget (R : Type) where
  totalBudget : R
  consumed : R

/-- `CostForecaster`. -/
structure CostForecaster (R : Type) where
  stepCosts : List R
  replanThreshold : R

structure Runtime (R α π ω : Type) where
  config : LatencyConfig
  registry : ModuleRegistry R
  costBudget : CostBudget R
  costForecaster : CostForecaster R
  triggeredStages : List R
  state : RuntimeState
  replanCount : Nat
  criticalSection : Bool
  asyncPending : Finset ModuleInstanceID
  pendingSignals : List PyData
  moduleDispatchFn : Option (DispatchFn α ω)
  currentGraph : Option (ExecutionGraph R)
  providerMode : ProviderMode
  providers : List (ExecutionProvider α ω)
  nodeCapabilities : Dict ModuleInstanceID ExecutionCapability
  decisionPolicy : DecisionPolicy R α π
  policyState : π

structure Session (R α π ω : Type) where
  runtime : Runtime R α π ω
  es : ExecutionState R α
  world : ω

section Costs

variable {R : Type} [PyFloat R]

/-- `CostBudget.remaining`. -/
def CostBudget.remaining (budget : CostBudget R) : R := budget.totalBudget - budget.consumed

/-- `CostForecaster.avg_step_cost`. -/
def CostForecaster.avgStepCost (forecaster : CostForecaster R) : R :=
  if forecaster.stepCosts = [] then 0.0
  else forecaster.stepCosts.foldl (· + ·) ((0 : Int) : R) / ((forecaster.stepCosts.length : Int) : R)

/-- `CostForecaster.should_trigger_replan`. -/
def CostForecaster.shouldTriggerReplan (forecaster : CostForecaster R) (budget : CostBudget R) :
    Bool :=
  let average := forecaster.avgStepCost
  if average ≤ ((0 : Int) : R) then false
  else decide (budget.remaining / average < forecaster.replanThreshold * budget.totalBudget)

end Costs

section Runtime

variable {R α π ω : Type} [PyFloat R]

/-- `Runtime(config, initial_budget, decision_policy)`. -/
def Runtime.new (config : LatencyConfig) (initialBudget : R) (decisionPolicy : DecisionPolicy R α π)
    (policyState : π) : Runtime R α π ω where
  config := config
  registry := {}
  costBudget := ⟨initialBudget, 0.0⟩
  costForecaster := ⟨[], 0.2⟩
  triggeredStages := []
  state := .init
  replanCount := 0
  criticalSection := false
  asyncPending := ∅
  pendingSignals := []
  moduleDispatchFn := none
  currentGraph := none
  providerMode := .dev
  providers := []
  nodeCapabilities := ∅
  decisionPolicy := decisionPolicy
  policyState := policyState

/-- `Runtime._backpressure_active`. -/
def Runtime.backpressureActive (runtime : Runtime R α π ω) : Bool :=
  decide (runtime.config.maxAsyncPending ≤ runtime.asyncPending.card)

namespace Session

variable (interpreter : Interpreter α)

/-- `Runtime.initiate` on a fresh execution state, which has the given identifier. -/
def initiate (session : Session R α π ω) (taskDescription : String) (seed : Int)
    (executionId : String) : Except Raised Unit × Session R α π ω :=
  let es : ExecutionState R α := { ExecutionState.new executionId with
    rngState := seed
    M := session.runtime.registry.snapshot
    budgetRemaining := session.runtime.costBudget.remaining }
  let running := { session with runtime.state := .running, es := es }
  match plan interpreter taskDescription session.runtime.registry
      session.runtime.costBudget.remaining with
  | .error raised => (.error raised, running)
  | .ok (.error _) => (.ok (), { running with runtime.state := .failed })
  | .ok (.ok graph) =>
    let planned := { running with runtime.currentGraph := some graph }
    match Scheduler.setGraph graph.getVertices graph.edges with
    | .error raised => (.error raised, planned)
    | .ok sched =>
      let scheduled := { planned with es.G := some sched }
      let (registered, memory) := scheduled.es.W.registerAll graph.getVertices
      let session := { scheduled with es.W := memory }
      match registered with
      | .error raised => (.error raised, session)
      | .ok () =>
        match session.es.checkInvariants with
        | some raised => (.error raised, session)
        | none => (.ok (), session)

/-- `Runtime.register_module`. -/
def registerModule (session : Session R α π ω) (contract : ModuleContract R) :
    Except Raised Unit × Session R α π ω :=
  match session.runtime.registry.register contract with
  | .ok registry => (.ok (), { session with runtime.registry := registry })
  | .error raised => (.error raised, session)

/-- `Runtime.observe` at the given time. -/
def observe (session : Session R α π ω) (timestamp : R) : Observation R :=
  ⟨session.runtime.pendingSignals, timestamp⟩

/-- The decision of a policy as one of the runtime. -/
def mapDecision : PolicyDecision → Decision
  | .proceed => .proceed
  | .replan => .replan
  | .pause => .pause
  | .terminate => .terminate
  | .rollback => .rollback

/-- The decision when the policy goes on. -/
def decideToProceed (session : Session R α π ω) (observation : Observation R) :
    Except Raised Decision :=
  if observation.signals.isEmpty then
    match session.es.G with
    | none => .ok .terminate
    | some sched => do
      let runnable ← sched.getRunnable session.es.W
      return if runnable.isEmpty then .terminate else .proceed
  else .ok .proceed

/-- `Runtime.decide`. -/
def decide (session : Session R α π ω) (observation : Observation R) :
    Except Raised Decision × Session R α π ω :=
  if session.runtime.state ≠ .running then (.ok .terminate, session)
  else
    let policy := session.runtime.decisionPolicy
    let prepared := policy.setCriticalSection session.runtime.policyState
      session.runtime.criticalSection
    let (policyDecision, policyState) :=
      policy.decide prepared ⟨observation.signals, observation.timestamp, false⟩ session.es
    let session := { session with runtime.policyState := policyState }
    if session.runtime.costForecaster.shouldTriggerReplan session.runtime.costBudget then
      (.ok .replan, session)
    else if session.runtime.config.maxReplansPerExecution ≤ session.runtime.replanCount then
      (.ok .terminate, session)
    else if mapDecision policyDecision ≠ .proceed then (.ok (mapDecision policyDecision), session)
    else (session.decideToProceed observation, session)

/-! ### Dispatch -/

/-- The result of a node in PROD mode. -/
def provideResult (session : Session R α π ω) (node : ModuleInstanceID) :
    Except Raised (Option (Value α)) × Session R α π ω :=
  let bound : Option (ExecutionCapability × ExecutionProvider α ω) := do
    let capability ← session.runtime.nodeCapabilities.get? node
    let provider ← session.runtime.providers.find? fun provider => provider.supports capability
    return (capability, provider)
  match bound with
  | none => (.error (.noProviderBound node), session)
  | some (capability, provider) =>
    match session.es.W.get? node with
    | none => (.error (.notInWorkingMemory node), session)
    | some buffer =>
      let (answer, world) := provider.execute session.world capability (interpreter.str buffer.input)
      let session := { session with world := world }
      match answer with
      | .error raised => (.error raised, session)
      | .ok result =>
        if result.isSuccess then (.ok (some result.output), session)
        else
          let text := (result.error.filter fun text => text ≠ "").getD "provider execution failed"
          (.error (.runtimeError text), session)

/-- The result of a node; nothing where no dispatch function is set. -/
def dispatchResult (session : Session R α π ω) (node : ModuleInstanceID) :
    Except Raised (Option (Value α)) × Session R α π ω :=
  match session.runtime.providerMode with
  | .prod => provideResult interpreter session node
  | .dev =>
    match session.runtime.moduleDispatchFn with
    | none => (.ok none, session)
    | some dispatch =>
      let (answer, world) := dispatch session.world node
      (answer.map some, { session with world := world })

/-- The end of the body of the loop in `act`: the result is stored and the step counted. -/
def storeResult (session : Session R α π ω) (node : ModuleInstanceID) (result : Value α) :
    Except Raised Unit × Session R α π ω :=
  match session.es.W.get? node with
  | none => (.error (.notInWorkingMemory node), session)
  | some buffer =>
    let session := { session with es.W := session.es.W.set node (.completed buffer.input result) }
    match session.es.checkInvariants with
    | some raised => (.error raised, session)
    | none => (.ok (), { session with es := session.es.advanceStep })

/-- The loop over the runnable nodes in `act`. -/
def dispatchAll (session : Session R α π ω) (dispatched : List ModuleInstanceID) :
    List ModuleInstanceID → Except Raised (List ModuleInstanceID) × Session R α π ω
  | [] => (.ok dispatched, session)
  | node :: rest =>
    if session.runtime.backpressureActive then (.ok dispatched, session)
    else
      match dispatchResult interpreter session node with
      | (.error raised, session) => (.error raised, session)
      | (.ok none, session) => dispatchAll session dispatched rest
      | (.ok (some result), session) =>
        match storeResult session node result with
        | (.error raised, session) => (.error raised, session)
        | (.ok (), session) => dispatchAll session (dispatched ++ [node]) rest

/-! ### Replanning and rollback -/

/-- `Runtime._rollback_to_checkpoint`. -/
def rollbackToCheckpoint (session : Session R α π ω) : Bool × Session R α π ω :=
  match latestCheckpoint session.es.C with
  | none => (false, session)
  | some checkpoint =>
    let restored : ExecutionState R α := .fromDict checkpoint.esSnapshot
    (true, { session with es := restored })

/-- The guards of `_execute_replan` let the call through. -/
def replanAllowed (session : Session R α π ω) : Bool :=
  !session.runtime.criticalSection &&
    Decidable.decide (¬ session.runtime.config.maxReplansPerExecution ≤ session.runtime.replanCount) &&
      session.es.G.isSome

/-- The PRE_REPLAN checkpoint is added. -/
def takeCheckpoint (session : Session R α π ω) : Except Raised Unit × Session R α π ω :=
  let checkpoint := (Checkpoint.take session.es.stepIndex session.es.executionId session.es.toDict
    "PRE_REPLAN").validate
  match addCheckpoint session.es.C checkpoint with
  | .error raised => (.error raised, session)
  | .ok record => (.ok (), { session with es.C := record })

/-- The end of `_execute_replan`: the planned graph replaces the current one. -/
def installGraph (session : Session R α π ω) (gOld gNew : ExecutionGraph R) :
    Except Raised (List ModuleInstanceID) × Session R α π ω :=
  let newOnly := interpreter.setOrder (computeGraphDiff gOld gNew session.es).newOnly
  match Scheduler.setGraph gNew.getVertices gNew.edges with
  | .error raised => (.error raised, session)
  | .ok sched =>
    let (registered, memory) := session.es.W.registerAll newOnly
    let session := { session with
      runtime.currentGraph := some gNew, es.G := some sched, es.W := memory }
    match registered with
    | .error raised => (.error raised, session)
    | .ok () => (.ok newOnly, { session with
        runtime.triggeredStages := [], es := session.es.advanceStep })

/-- `Runtime._execute_replan`. -/
def executeReplan (session : Session R α π ω) :
    Except Raised (List ModuleInstanceID) × Session R α π ω :=
  if session.replanAllowed = false then (.ok [], session)
  else
    let counted := { session with runtime.replanCount := session.runtime.replanCount + 1 }
    match counted.takeCheckpoint with
    | (.error raised, session) => (.error raised, session)
    | (.ok (), session) =>
      match plan interpreter "replan" session.runtime.registry session.runtime.costBudget.remaining with
      | .error raised => (.error raised, session)
      | .ok (.error _) => (.ok [], session)
      | .ok (.ok gNew) =>
        match session.runtime.currentGraph with
        | none =>
          (.error (.python (.attributeError "'NoneType' object has no attribute 'get_vertices'")),
            session)
        | some gOld => installGraph interpreter session gOld gNew

/-! ### The control loop -/

/-- `Runtime.act`. -/
def act (session : Session R α π ω) :
    Decision → Except Raised (List ModuleInstanceID) × Session R α π ω
  | .terminate | .idle | .pause => (.ok [], session)
  | .rollback => (.ok [], session.rollbackToCheckpoint.2)
  | .replan => executeReplan interpreter session
  | .proceed =>
    match session.es.G with
    | none => (.ok [], session)
    | some sched =>
      match sched.getRunnable session.es.W with
      | .error raised => (.error raised, session)
      | .ok runnable => dispatchAll interpreter session [] runnable

/-- `Runtime.assess`. -/
def assess (session : Session R α π ω) (dispatched : List ModuleInstanceID) : AssessmentKind :=
  if dispatched.all fun node => session.es.W.isComplete node then .outcomeMet else .outcomeDegraded

/-- The state of the runtime at the end of `step`. -/
def settle (session : Session R α π ω) : Decision → Session R α π ω
  | .terminate => { session with runtime.state := .terminated }
  | .pause => { session with runtime.state := .idle }
  | _ => session

/-- What an iteration of the loop has done. -/
structure Iteration where
  decision : Decision
  dispatched : List ModuleInstanceID
  assessment : AssessmentKind

/-- `Runtime.step` at the given time. -/
def step (session : Session R α π ω) (timestamp : R) :
    Except Raised Iteration × Session R α π ω :=
  match session.decide (session.observe timestamp) with
  | (.error raised, session) => (.error raised, session)
  | (.ok decision, session) =>
    match act interpreter session decision with
    | (.error raised, session) => (.error raised, session)
    | (.ok dispatched, session) =>
      (.ok ⟨decision, dispatched, session.assess dispatched⟩, session.settle decision)

/-- `Runtime.resume`. -/
def resume (session : Session R α π ω) : Session R α π ω :=
  if session.runtime.state = .idle then { session with runtime.state := .running } else session

end Session

/-! ### Runs -/

/-- What a caller does with a runtime and its execution state. `act` is a decision of the caller's
own. -/
inductive SessionCall (R : Type) where
  | step (timestamp : R)
  | registerModule (contract : ModuleContract R)
  | act (decision : Decision)
  | resume

/-- The session after a call, whether it returns or raises. -/
def sessionStep (interpreter : Interpreter α) (session : Session R α π ω) :
    SessionCall R → Session R α π ω
  | .step timestamp => (session.step interpreter timestamp).2
  | .registerModule contract => (session.registerModule contract).2
  | .act decision => (session.act interpreter decision).2
  | .resume => session.resume

end Runtime

end Dnc.Runtime
