/-
**The calls of the dispatch function.**

`act` reports the nodes that it has dispatched where it returns; where it raises it reports nothing,
and the dispatch function has been called all the same. `stepDispatches` lists every call that an
iteration makes, with the session that the call finds. `called_step`: in DEV mode these are all
calls, so the world that an iteration leaves is the one that they make of the world it found.
-/

import Dnc.Runtime.Loop

namespace Dnc.Runtime

open PyLib

namespace Session

variable {R α π ω : Type} [PyFloat R]

section Dispatches

variable (interpreter : Interpreter α)

/-- The calls of the dispatch function in the loop over the runnable nodes, each with the session
that it finds. -/
def loopDispatches (session : Session R α π ω) :
    List ModuleInstanceID → List (Session R α π ω × ModuleInstanceID)
  | [] => []
  | node :: rest =>
    if session.runtime.backpressureActive then []
    else
      match dispatchResult interpreter session node with
      | (.error _, _) => [(session, node)]
      | (.ok none, session) => loopDispatches session rest
      | (.ok (some result), after) =>
        (session, node) ::
          match storeResult after node result with
          | (.error _, _) => []
          | (.ok (), last) => loopDispatches last rest

/-- The calls of the dispatch function in `act`. -/
def actDispatches (session : Session R α π ω) :
    Decision → List (Session R α π ω × ModuleInstanceID)
  | .proceed =>
    match session.es.G with
    | none => []
    | some sched =>
      match sched.getRunnable session.es.W with
      | .error _ => []
      | .ok runnable => loopDispatches interpreter session runnable
  | _ => []

/-- The calls of the dispatch function in `step`. -/
def stepDispatches (session : Session R α π ω) (timestamp : R) :
    List (Session R α π ω × ModuleInstanceID) :=
  match session.decide (session.observe timestamp) with
  | (.error _, _) => []
  | (.ok decision, session) => actDispatches interpreter session decision

end Dispatches

variable {interpreter : Interpreter α} {session : Session R α π ω}

/-! ### What the calls leave -/

/-- DEV mode with this dispatch function. -/
structure DispatchesBy (dispatch : DispatchFn α ω) (session : Session R α π ω) : Prop where
  mode : session.runtime.providerMode = .dev
  function : session.runtime.moduleDispatchFn = some dispatch

/-- The world after these calls of the dispatch function. -/
def worldAfter (dispatch : DispatchFn α ω) (world : ω)
    (calls : List (Session R α π ω × ModuleInstanceID)) : ω :=
  calls.foldl (fun world call => (dispatch world call.2).2) world

/-- The mode and the dispatch function are the same, and so is the world. -/
structure SameWorld (session next : Session R α π ω) : Prop where
  mode : next.runtime.providerMode = session.runtime.providerMode
  function : next.runtime.moduleDispatchFn = session.runtime.moduleDispatchFn
  world : next.world = session.world

variable {dispatch : DispatchFn α ω}

omit [PyFloat R] in
theorem SameWorld.dispatchesBy {next : Session R α π ω} (same : SameWorld session next)
    (devMode : DispatchesBy dispatch session) : DispatchesBy dispatch next :=
  ⟨same.mode.trans devMode.mode, same.function.trans devMode.function⟩

omit [PyFloat R] in
theorem SameWorld.trans {second third : Session R α π ω} (first : SameWorld session second)
    (later : SameWorld second third) : SameWorld session third :=
  ⟨later.mode.trans first.mode, later.function.trans first.function, later.world.trans first.world⟩

theorem sameWorld_decide (session : Session R α π ω) (observation : Observation R) :
    SameWorld session (session.decide observation).2 := by
  have kept := session.decide_keeps observation
  constructor
  · rw [kept.runtime]
  · rw [kept.runtime]
  · exact kept.world

variable (interpreter) in
/-- Only going on calls the dispatch function. -/
theorem sameWorld_act (session : Session R α π ω) {decision : Decision}
    (other : decision ≠ .proceed) : SameWorld session (act interpreter session decision).2 := by
  cases decision with
  | terminate => exact ⟨rfl, rfl, rfl⟩
  | idle => exact ⟨rfl, rfl, rfl⟩
  | pause => exact ⟨rfl, rfl, rfl⟩
  | proceed => exact absurd rfl other
  | rollback =>
    show SameWorld session session.rollbackToCheckpoint.2
    rw [session.rollbackToCheckpoint_eq]
    exact ⟨rfl, rfl, rfl⟩
  | replan =>
    have taken : SameWorld session session.checkpointed := by
      obtain ⟨record, checkpoint, taken, -, -⟩ := session.checkpointed_eq
      rw [taken]
      exact ⟨rfl, rfl, rfl⟩
    apply executeReplan_rule interpreter (P := SameWorld session)
    · exact fun _ => ⟨rfl, rfl, rfl⟩
    · exact fun _ => taken
    · intro _ gOld gNew _
      refine taken.trans ?_
      unfold installGraph
      dsimp only
      split
      · exact ⟨rfl, rfl, rfl⟩
      · split <;> exact ⟨rfl, rfl, rfl⟩

variable (interpreter) in
omit [PyFloat R] in
/-- The loop over the runnable nodes makes the calls that are listed, and no others. -/
theorem world_dispatchAll (devMode : DispatchesBy dispatch session)
    (done nodes : List ModuleInstanceID) :
    (dispatchAll interpreter session done nodes).2.world =
      worldAfter dispatch session.world (loopDispatches interpreter session nodes) := by
  induction nodes generalizing session done with
  | nil => rfl
  | cons node rest ih =>
    have result : dispatchResult interpreter session node =
        ((dispatch session.world node).1.map some,
          { session with world := (dispatch session.world node).2 }) := by
      unfold dispatchResult
      rw [devMode.mode, devMode.function]
    unfold dispatchAll loopDispatches
    split_ifs with pressed
    · rfl
    · rw [result]
      cases answer : (dispatch session.world node).1 with
      | error raised => rfl
      | ok value =>
        have stored := (storeResult_keeps
          { session with world := (dispatch session.world node).2 } node value).runtime
        have sameWorld : (storeResult { session with world := (dispatch session.world node).2 } node
            value).2.world = (dispatch session.world node).2 := by
          unfold storeResult
          split
          · rfl
          · dsimp only
            split <;> rfl
        show (match storeResult { session with world := (dispatch session.world node).2 } node value
          with
          | (.error raised, session) => (Except.error raised, session)
          | (.ok (), session) => dispatchAll interpreter session (done ++ [node]) rest).2.world = _
        dsimp only [Except.map]
        cases storing : storeResult { session with world := (dispatch session.world node).2 } node
            value with
        | mk returned last =>
          rw [storing] at stored sameWorld
          cases returned with
          | error raised => exact sameWorld
          | ok _ =>
            have lastDevMode : DispatchesBy dispatch last :=
              ⟨(congrArg Runtime.providerMode stored).trans devMode.mode,
                (congrArg Runtime.moduleDispatchFn stored).trans devMode.function⟩
            show (dispatchAll interpreter last (done ++ [node]) rest).2.world =
              worldAfter dispatch (dispatch session.world node).2 _
            rw [ih lastDevMode, sameWorld]

/-- The mode stays, and the world is the one that the listed calls leave. -/
structure Called (dispatch : DispatchFn α ω) (session : Session R α π ω)
    (calls : List (Session R α π ω × ModuleInstanceID)) (next : Session R α π ω) : Prop where
  devMode : DispatchesBy dispatch next
  world : next.world = worldAfter dispatch session.world calls

omit [PyFloat R] in
theorem SameWorld.called {next : Session R α π ω} (same : SameWorld session next)
    (devMode : DispatchesBy dispatch session) : Called dispatch session [] next :=
  ⟨same.dispatchesBy devMode, same.world⟩

variable (interpreter) in
/-- The calls of what is done about a decision. -/
theorem called_act (devMode : DispatchesBy dispatch session) (decision : Decision) :
    Called dispatch session (actDispatches interpreter session decision)
      (act interpreter session decision).2 := by
  by_cases proceeds : decision = .proceed
  · subst proceeds
    have kept := (act_proceed_keeps interpreter session).runtime
    refine ⟨⟨(congrArg Runtime.providerMode kept).trans devMode.mode,
      (congrArg Runtime.moduleDispatchFn kept).trans devMode.function⟩, ?_⟩
    unfold act actDispatches
    cases session.es.G with
    | none => rfl
    | some sched =>
      dsimp only
      cases sched.getRunnable session.es.W with
      | error raised => rfl
      | ok runnable => exact world_dispatchAll interpreter devMode [] runnable
  · have none : actDispatches interpreter session decision = [] := by
      cases decision with
      | proceed => exact absurd rfl proceeds
      | replan | idle | pause | rollback | terminate => rfl
    rw [none]
    exact (sameWorld_act interpreter session proceeds).called devMode

variable (interpreter) in
/-- **The calls of an iteration.** -/
theorem called_step (devMode : DispatchesBy dispatch session) (timestamp : R) :
    Called dispatch session (stepDispatches interpreter session timestamp)
      (session.step interpreter timestamp).2 := by
  have decided := session.sameWorld_decide (session.observe timestamp)
  apply step_rule interpreter (P := Called dispatch session
    (stepDispatches interpreter session timestamp))
  · intro raised failed
    unfold stepDispatches
    cases deciding : session.decide (session.observe timestamp) with
    | mk decision after =>
      rw [deciding] at decided failed
      obtain rfl : decision = .error raised := failed
      exact decided.called devMode
  · intro decision chosen
    unfold stepDispatches
    cases deciding : session.decide (session.observe timestamp) with
    | mk answer after =>
      rw [deciding] at decided chosen
      obtain rfl : answer = .ok decision := chosen
      have acted := called_act interpreter (decided.dispatchesBy devMode) decision
      exact ⟨acted.devMode, acted.world.trans (congrArg (worldAfter dispatch · _) decided.world)⟩
  · intro next decision called
    cases decision <;> exact ⟨⟨called.devMode.mode, called.devMode.function⟩, called.world⟩

end Session

end Dnc.Runtime
