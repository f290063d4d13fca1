/-
**What a call of the control loop leaves alone.**

A decision changes the state of the policy only (`decide_keeps`); a dispatch changes buffers, the
step index and the world (`dispatchAll_keeps`). What a checkpoint is taken of, and what it restores,
is in `takeCheckpoint_eq` and `rollbackToCheckpoint_eq`. `executeReplan_rule` and `step_rule` list
the ways in which a replan and an iteration end.
-/

import Dnc.Runtime.Runtime

namespace Dnc.Runtime

open PyLib

namespace Session

variable {R α π ω : Type} [PyFloat R] {interpreter : Interpreter α}

/-! ### Decisions and dispatches -/

/-- Only the state of the policy differs. -/
structure SameButPolicy (session next : Session R α π ω) : Prop where
  es : next.es = session.es
  world : next.world = session.world
  runtime : next.runtime = { session.runtime with policyState := next.runtime.policyState }

/-- Only buffers, the step index and the world differ. -/
structure SameButBuffers (session next : Session R α π ω) : Prop where
  runtime : next.runtime = session.runtime
  C : next.es.C = session.es.C
  G : next.es.G = session.es.G
  budgetRemaining : next.es.budgetRemaining = session.es.budgetRemaining

theorem decide_keeps (session : Session R α π ω) (observation : Observation R) :
    SameButPolicy session (session.decide observation).2 := by
  unfold decide
  dsimp only
  split_ifs <;> exact ⟨rfl, rfl, rfl⟩

/-- Only a running session decides to go on. -/
theorem running_of_decide {session : Session R α π ω} {observation : Observation R}
    {decision : Decision} (decided : (session.decide observation).1 = .ok decision)
    (goesOn : decision ≠ .terminate) : session.runtime.state = .running := by
  by_contra stopped
  unfold decide at decided
  rw [if_pos stopped] at decided
  exact goesOn (Except.ok.inj decided).symm

/-- A running session without a reason of its own to replan or to end follows its policy. -/
theorem decide_follows {session : Session R α π ω} {observation : Observation R}
    {policyDecision : PolicyDecision} {policyState : π}
    (running : session.runtime.state = .running)
    (affordable : session.runtime.costForecaster.shouldTriggerReplan session.runtime.costBudget = false)
    (replans : session.runtime.replanCount < session.runtime.config.maxReplansPerExecution)
    (decided : session.runtime.decisionPolicy.decide
      (session.runtime.decisionPolicy.setCriticalSection session.runtime.policyState
        session.runtime.criticalSection)
      ⟨observation.signals, observation.timestamp, false⟩ session.es =
        (policyDecision, policyState)) :
    session.decide observation =
      if mapDecision policyDecision ≠ .proceed then
        (.ok (mapDecision policyDecision), { session with runtime.policyState := policyState })
      else ({ session with runtime.policyState := policyState }.decideToProceed observation,
        { session with runtime.policyState := policyState }) := by
  unfold decide
  rw [if_neg (not_not.mpr running)]
  simp only [decided, affordable, Bool.false_eq_true, if_false, if_neg (not_le.mpr replans)]

omit [PyFloat R] in
theorem SameButBuffers.refl (session : Session R α π ω) : SameButBuffers session session :=
  ⟨rfl, rfl, rfl, rfl⟩

omit [PyFloat R] in
theorem SameButBuffers.trans {first second third : Session R α π ω}
    (left : SameButBuffers first second) (right : SameButBuffers second third) :
    SameButBuffers first third where
  runtime := right.runtime.trans left.runtime
  C := right.C.trans left.C
  G := right.G.trans left.G
  budgetRemaining := right.budgetRemaining.trans left.budgetRemaining

variable (interpreter) in
omit [PyFloat R] in
/-- A dispatch function or a provider changes the world only. -/
theorem dispatchResult_keeps (session : Session R α π ω) (node : ModuleInstanceID) :
    ∃ world, (dispatchResult interpreter session node).2 = { session with world := world } := by
  unfold dispatchResult
  split
  · unfold provideResult
    dsimp only
    split
    · exact ⟨_, rfl⟩
    · split
      · exact ⟨_, rfl⟩
      · split
        · exact ⟨_, rfl⟩
        · split_ifs <;> exact ⟨_, rfl⟩
  · split <;> exact ⟨_, rfl⟩

omit [PyFloat R] in
theorem storeResult_keeps (session : Session R α π ω) (node : ModuleInstanceID) (result : Value α) :
    SameButBuffers session (storeResult session node result).2 := by
  unfold storeResult
  split
  · exact SameButBuffers.refl session
  · dsimp only
    split <;> exact ⟨rfl, rfl, rfl, rfl⟩

variable (interpreter) in
omit [PyFloat R] in
theorem dispatchAll_keeps (session : Session R α π ω) (dispatched nodes : List ModuleInstanceID) :
    SameButBuffers session (dispatchAll interpreter session dispatched nodes).2 := by
  induction nodes generalizing session dispatched with
  | nil => exact SameButBuffers.refl session
  | cons node rest ih =>
    unfold dispatchAll
    split_ifs
    · exact SameButBuffers.refl session
    · obtain ⟨world, called⟩ := dispatchResult_keeps interpreter session node
      cases result : dispatchResult interpreter session node with
      | mk answer after =>
        rw [result] at called
        have kept : SameButBuffers session after := by
          obtain rfl : after = { session with world := world } := called
          exact ⟨rfl, rfl, rfl, rfl⟩
        cases answer with
        | error raised => exact kept
        | ok output =>
          cases output with
          | none => exact kept.trans (ih after dispatched)
          | some value =>
            have stored := storeResult_keeps after node value
            dsimp only
            cases storing : storeResult after node value with
            | mk done last =>
              rw [storing] at stored
              cases done with
              | error raised => exact kept.trans stored
              | ok _ => exact (kept.trans stored).trans (ih last (dispatched ++ [node]))

/-! ### Checkpoints -/

omit [PyFloat R] in
/-- **The checkpoint that is added is the latest one, and holds the state.** -/
theorem takeCheckpoint_eq (session : Session R α π ω) :
    ∃ record checkpoint, session.takeCheckpoint = (.ok (), { session with es.C := record }) ∧
      latestCheckpoint record = some checkpoint ∧ checkpoint.esSnapshot = session.es.toDict := by
  obtain ⟨record, added⟩ := addCheckpoint_validate session.es.C (Checkpoint.take
    session.es.stepIndex session.es.executionId session.es.toDict "PRE_REPLAN")
  refine ⟨record, _, ?_, latest_addCheckpoint added, Checkpoint.esSnapshot_validate _⟩
  unfold takeCheckpoint
  dsimp only
  rw [added]

theorem rollbackToCheckpoint_eq (session : Session R α π ω) :
    session.rollbackToCheckpoint.2 = { session with
      es := ((latestCheckpoint session.es.C).map fun checkpoint =>
        .fromDict checkpoint.esSnapshot).getD session.es } := by
  unfold rollbackToCheckpoint
  cases latestCheckpoint session.es.C <;> rfl

/-! ### Replanning -/

/-- The session in which `_execute_replan` plans: the replan is counted and the checkpoint taken. -/
def checkpointed (session : Session R α π ω) : Session R α π ω :=
  ({ session with runtime.replanCount := session.runtime.replanCount + 1 } :
    Session R α π ω).takeCheckpoint.2

/-- The plan that `_execute_replan` asks for. -/
def newPlan (interpreter : Interpreter α) (session : Session R α π ω) :
    Except Raised (Except (PlanFailure R) (ExecutionGraph R)) :=
  plan interpreter "replan" session.runtime.registry session.runtime.costBudget.remaining

omit [PyFloat R] in
theorem checkpointed_eq (session : Session R α π ω) :
    ∃ record checkpoint,
      session.checkpointed = { session with
        runtime.replanCount := session.runtime.replanCount + 1, es.C := record } ∧
      latestCheckpoint record = some checkpoint ∧ checkpoint.esSnapshot = session.es.toDict := by
  obtain ⟨record, checkpoint, taken, latest, snapshot⟩ := takeCheckpoint_eq
    { session with runtime.replanCount := session.runtime.replanCount + 1 }
  refine ⟨record, checkpoint, ?_, latest, snapshot⟩
  unfold checkpointed
  rw [taken]

variable (interpreter) in
theorem executeReplan_blocked {session : Session R α π ω} (blocked : session.replanAllowed = false) :
    executeReplan interpreter session = (.ok [], session) := by
  unfold executeReplan
  rw [if_pos blocked]

variable (interpreter) in
/-- **A replan that the guards let through.** -/
theorem executeReplan_allowed {session : Session R α π ω} (allowed : session.replanAllowed = true) :
    executeReplan interpreter session =
      match newPlan interpreter session with
      | .error raised => (.error raised, session.checkpointed)
      | .ok (.error _) => (.ok [], session.checkpointed)
      | .ok (.ok gNew) =>
        match session.runtime.currentGraph with
        | none =>
          (.error (.python (.attributeError "'NoneType' object has no attribute 'get_vertices'")),
            session.checkpointed)
        | some gOld => installGraph interpreter session.checkpointed gOld gNew := by
  obtain ⟨record, checkpoint, taken, -, -⟩ := takeCheckpoint_eq
    { session with runtime.replanCount := session.runtime.replanCount + 1 }
  unfold executeReplan checkpointed
  rw [if_neg (by rw [allowed]; exact Bool.noConfusion)]
  dsimp only
  rw [taken]
  rfl

/-- What the installation of a graph leaves alone. -/
structure SameButGraph (session next : Session R α π ω) (gNew : ExecutionGraph R) : Prop where
  C : next.es.C = session.es.C
  state : next.runtime.state = session.runtime.state
  graph : next.runtime.currentGraph = session.runtime.currentGraph ∨
    next.runtime.currentGraph = some gNew

variable (interpreter) in
omit [PyFloat R] in
theorem installGraph_keeps (session : Session R α π ω) (gOld gNew : ExecutionGraph R) :
    SameButGraph session (installGraph interpreter session gOld gNew).2 gNew := by
  unfold installGraph
  dsimp only
  cases Scheduler.setGraph gNew.getVertices gNew.edges with
  | error raised => exact ⟨rfl, rfl, Or.inl rfl⟩
  | ok sched =>
    dsimp only
    split <;> exact ⟨rfl, rfl, Or.inr rfl⟩

variable (interpreter) in
/-- **The ways in which a replan ends**: at its guards, behind its checkpoint, or with a graph. -/
theorem executeReplan_rule {P : Session R α π ω → Prop} {session : Session R α π ω}
    (blocked : session.replanAllowed = false → P session)
    (stopped : session.replanAllowed = true → P session.checkpointed)
    (installed : session.replanAllowed = true → ∀ gOld gNew,
      session.runtime.currentGraph = some gOld →
        P (installGraph interpreter session.checkpointed gOld gNew).2) :
    P (executeReplan interpreter session).2 := by
  cases allowed : session.replanAllowed with
  | false =>
    rw [executeReplan_blocked interpreter allowed]
    exact blocked allowed
  | true =>
    rw [executeReplan_allowed interpreter allowed]
    cases newPlan interpreter session with
    | error raised => exact stopped allowed
    | ok verdict =>
      cases verdict with
      | error reason => exact stopped allowed
      | ok gNew =>
        cases current : session.runtime.currentGraph with
        | none => exact stopped allowed
        | some gOld => exact installed allowed gOld gNew current

/-! ### Actions and iterations -/

variable (interpreter) in
/-- Going on dispatches nodes, and does nothing else. -/
theorem act_proceed_keeps (session : Session R α π ω) :
    SameButBuffers session (act interpreter session .proceed).2 := by
  unfold act
  cases session.es.G with
  | none => exact SameButBuffers.refl session
  | some sched =>
    dsimp only
    cases sched.getRunnable session.es.W with
    | error raised => exact SameButBuffers.refl session
    | ok runnable => exact dispatchAll_keeps interpreter session [] runnable

variable (interpreter) in
/-- What is done about a decision leaves the state of the runtime alone. -/
theorem act_state (session : Session R α π ω) (decision : Decision) :
    (act interpreter session decision).2.runtime.state = session.runtime.state := by
  cases decision with
  | terminate => rfl
  | idle => rfl
  | pause => rfl
  | proceed => exact congrArg Runtime.state (act_proceed_keeps interpreter session).runtime
  | rollback =>
    show session.rollbackToCheckpoint.2.runtime.state = _
    rw [session.rollbackToCheckpoint_eq]
  | replan =>
    have counted : session.checkpointed.runtime.state = session.runtime.state := by
      obtain ⟨record, checkpoint, taken, -, -⟩ := session.checkpointed_eq
      rw [taken]
    apply executeReplan_rule interpreter (P := fun next => next.runtime.state = session.runtime.state)
    · exact fun _ => rfl
    · exact fun _ => counted
    · exact fun _ gOld gNew _ => (installGraph_keeps interpreter _ gOld gNew).state.trans counted

variable (interpreter) in
/-- **An iteration decides, acts and settles.** -/
theorem step_rule {P : Session R α π ω → Prop} {session : Session R α π ω} {timestamp : R}
    (raises : ∀ raised, (session.decide (session.observe timestamp)).1 = .error raised →
      P (session.decide (session.observe timestamp)).2)
    (acted : ∀ decision, (session.decide (session.observe timestamp)).1 = .ok decision →
      P (act interpreter (session.decide (session.observe timestamp)).2 decision).2)
    (settled : ∀ next decision, P next → P (next.settle decision)) :
    P (session.step interpreter timestamp).2 := by
  unfold step
  cases deciding : session.decide (session.observe timestamp) with
  | mk decision after =>
    rw [deciding] at raises acted
    cases decision with
    | error raised => exact raises raised rfl
    | ok decision =>
      have action := acted decision rfl
      dsimp only at action ⊢
      cases acting : act interpreter after decision with
      | mk dispatched last =>
        rw [acting] at action
        cases dispatched with
        | error raised => exact action
        | ok dispatched => exact settled last decision action

end Session

end Dnc.Runtime
