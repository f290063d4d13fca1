/-
**Replans that complete.**

`_execute_replan` installs the new graph before it registers the nodes that are new to it. What is
new is found by comparing with the current graph only, while working memory keeps the nodes of
earlier graphs: a node that a plan drops and a later one brings back is registered twice, and the
registration raises with the new graph in place.

`replanAtomic_iff`: in a session that the calls of a caller can reach, a replan leaves the execution
state as it was or completes exactly when a guard stops it, or the planner has a graph whose nodes
in working memory are all nodes of the current graph. A plan that fails leaves its checkpoint behind,
and nothing else.
-/

import Dnc.Logic.Run
import Dnc.Runtime.Loop

namespace Dnc.Runtime

open PyLib Logic

namespace Session

variable {R α π ω : Type} [PyFloat R] {interpreter : Interpreter α}

/-! ### The statement -/

/-- The replan has put a graph in place: scheduler, current graph and working memory are of one
graph, and no buffer has changed. -/
def ReplanCompletes (interpreter : Interpreter α) (session next : Session R α π ω) : Prop :=
  ∃ gNew sched, newPlan interpreter session = .ok (.ok gNew) ∧
    next.runtime.currentGraph = some gNew ∧
    next.es.G = some sched ∧ Scheduler.setGraph gNew.getVertices gNew.edges = .ok sched ∧
    (∀ node ∈ gNew.getVertices, node ∈ next.es.W) ∧
    ∀ node ∈ session.es.W, next.es.W.get? node = session.es.W.get? node

/-- `_execute_replan` returns, and completes or leaves the execution state, its scheduler included,
and the current graph as they were, up to `same`. -/
def ReplanAtomic (interpreter : Interpreter α) (session : Session R α π ω)
    (same : ExecutionState R α → ExecutionState R α → Prop) : Prop :=
  ∃ dispatched next, executeReplan interpreter session = (.ok dispatched, next) ∧
    (same session.es next.es ∧ next.runtime.currentGraph = session.runtime.currentGraph ∨
      ReplanCompletes interpreter session next)

/-- Equal but for the checkpoint record. -/
def SameButRecord (first second : ExecutionState R α) : Prop :=
  { second with C := first.C } = first

/-- The planner has a graph, and its nodes that are in working memory are nodes of the current
graph. -/
def NewNodesFresh (interpreter : Interpreter α) (session : Session R α π ω) : Prop :=
  ∃ gNew, newPlan interpreter session = .ok (.ok gNew) ∧
    ∀ node ∈ gNew.getVertices, node ∈ session.es.W →
      ∃ gOld, session.runtime.currentGraph = some gOld ∧ node ∈ gOld.getVertices

/-- The planner has no graph. -/
def PlanFails (interpreter : Interpreter α) (session : Session R α π ω) : Prop :=
  ∃ reason, newPlan interpreter session = .ok (.error reason)

/-! ### The installation of a graph -/

/-- The nodes that are registered. -/
theorem mem_setOrder {elements : List ModuleInstanceID} {node : ModuleInstanceID} :
    node ∈ interpreter.setOrder elements ↔ node ∈ elements :=
  (interpreter.setOrder_perm elements).mem_iff

variable (interpreter) in
omit [PyFloat R] in
/-- Where nothing is registered twice, the graph is put in place. -/
theorem installGraph_completes {session : Session R α π ω} {gOld gNew : ExecutionGraph R}
    {sched : Scheduler} (built : Scheduler.setGraph gNew.getVertices gNew.edges = .ok sched)
    (fresh : ∀ node ∈ gNew.getVertices, node ∈ session.es.W → node ∈ gOld.getVertices) :
    ∃ dispatched next, installGraph interpreter session gOld gNew = (.ok dispatched, next) ∧
      next.runtime.currentGraph = some gNew ∧ next.es.G = some sched ∧
      (∀ node ∈ gNew.getVertices, node ∈ next.es.W) ∧
      ∀ node ∈ session.es.W, next.es.W.get? node = session.es.W.get? node := by
  have distinct : (interpreter.setOrder (computeGraphDiff gOld gNew session.es).newOnly).Nodup :=
    (interpreter.setOrder_perm _).nodup_iff.mpr (newOnly_nodup gOld gNew session.es)
  have isNew : ∀ node ∈ interpreter.setOrder (computeGraphDiff gOld gNew session.es).newOnly,
      node ∉ session.es.W := by
    intro node member old
    obtain ⟨planned, unlisted | absent⟩ := mem_newOnly.mp (mem_setOrder.mp member)
    · exact unlisted (fresh node planned old)
    · exact absent old
  obtain ⟨memory, registered, members, kept⟩ := WorkingMemory.registerAll_of_new distinct isNew
  refine ⟨interpreter.setOrder (computeGraphDiff gOld gNew session.es).newOnly, { session with
    runtime.currentGraph := some gNew, es.G := some sched, es.W := memory,
    runtime.triggeredStages := [], es.stepIndex := session.es.stepIndex + 1 }, ?_, rfl, rfl, ?_,
    kept⟩
  · unfold installGraph
    rw [built]
    dsimp only
    rw [registered]
    rfl
  · intro node planned
    refine (members node).mpr ?_
    by_cases old : node ∈ session.es.W
    · exact Or.inr old
    · exact Or.inl (mem_setOrder.mpr (mem_newOnly.mpr ⟨planned, Or.inr old⟩))

variable (interpreter) in
omit [PyFloat R] in
/-- A node that is in working memory and not in the current graph makes the registration raise. -/
theorem installGraph_raises {session : Session R α π ω} {gOld gNew : ExecutionGraph R}
    {sched : Scheduler} (built : Scheduler.setGraph gNew.getVertices gNew.edges = .ok sched)
    {node : ModuleInstanceID} (planned : node ∈ gNew.getVertices) (old : node ∈ session.es.W)
    (dropped : node ∉ gOld.getVertices) :
    ∃ raised next, installGraph interpreter session gOld gNew = (.error raised, next) := by
  have member : node ∈ interpreter.setOrder (computeGraphDiff gOld gNew session.es).newOnly :=
    mem_setOrder.mpr (mem_newOnly.mpr ⟨planned, Or.inl dropped⟩)
  obtain ⟨raised, memory, registered⟩ := WorkingMemory.registerAll_of_old member old
  refine ⟨raised, { session with
    runtime.currentGraph := some gNew, es.G := some sched, es.W := memory }, ?_⟩
  unfold installGraph
  rw [built]
  dsimp only
  rw [registered]

/-! ### One replan -/

/-- Where there is a scheduler there is a current graph; without one there is no checkpoint. -/
def Grounded (session : Session R α π ω) : Prop :=
  session.runtime.currentGraph = none → session.es.G = none ∧ session.es.C = []

omit [PyFloat R] in
/-- The record that a checkpoint was added to is another one. -/
theorem checkpointed_record_ne (session : Session R α π ω) :
    session.checkpointed.es.C ≠ session.es.C := by
  obtain ⟨record, checkpoint, taken, latest, snapshot⟩ := session.checkpointed_eq
  rw [taken]
  rintro (same : record = session.es.C)
  have inside : checkpoint ∈ session.es.C := same ▸ List.mem_of_getLast? latest
  have own : checkpoint.esSnapshot.C = session.es.C := by
    rw [snapshot]
    rfl
  exact checkpoint.not_mem_own_record (own ▸ inside)

omit [PyFloat R] in
theorem sameButRecord_checkpointed (session : Session R α π ω) :
    SameButRecord session.es session.checkpointed.es := by
  obtain ⟨record, checkpoint, taken, -, -⟩ := session.checkpointed_eq
  rw [taken]
  rfl

omit [PyFloat R] in
theorem checkpointed_graph (session : Session R α π ω) :
    session.checkpointed.runtime.currentGraph = session.runtime.currentGraph := by
  obtain ⟨record, checkpoint, taken, -, -⟩ := session.checkpointed_eq
  rw [taken]

omit [PyFloat R] in
theorem checkpointed_memory (session : Session R α π ω) :
    session.checkpointed.es.W = session.es.W := by
  obtain ⟨record, checkpoint, taken, -, -⟩ := session.checkpointed_eq
  rw [taken]

omit [PyFloat R] in
/-- A scheduler and with it a current graph are there behind the guards. -/
theorem Grounded.currentGraph {session : Session R α π ω} (grounded : session.Grounded)
    (allowed : session.replanAllowed = true) : ∃ gOld, session.runtime.currentGraph = some gOld := by
  cases current : session.runtime.currentGraph with
  | some gOld => exact ⟨gOld, rfl⟩
  | none =>
    unfold replanAllowed at allowed
    rw [(grounded current).1, Option.isSome_none, Bool.and_false] at allowed
    cases allowed

section Allowed

variable {session : Session R α π ω} {same : ExecutionState R α → ExecutionState R α → Prop}

/-- A planner that raises ends the replan. -/
theorem not_replanAtomic_of_raised (allowed : session.replanAllowed = true) {raised : Raised}
    (planned : newPlan interpreter session = .error raised) :
    ¬ ReplanAtomic interpreter session same := by
  have replans := executeReplan_allowed interpreter allowed
  rw [planned] at replans
  rintro ⟨dispatched, next, returns, -⟩
  rw [replans] at returns
  cases returns

/-- Behind a plan that fails, the checkpoint is what has to be the same. -/
theorem replanAtomic_of_failed (allowed : session.replanAllowed = true) {reason : PlanFailure R}
    (planned : newPlan interpreter session = .ok (.error reason)) :
    ReplanAtomic interpreter session same ↔ same session.es session.checkpointed.es := by
  have replans := executeReplan_allowed interpreter allowed
  rw [planned] at replans
  constructor
  · rintro ⟨dispatched, next, returns, ⟨unchanged, -⟩ | ⟨gNew, sched, found, -⟩⟩
    · obtain ⟨-, rfl⟩ := Prod.mk.inj (replans.symm.trans returns)
      exact unchanged
    · rw [planned] at found
      cases found
  · intro unchanged
    exact ⟨[], session.checkpointed, replans, Or.inl ⟨unchanged, session.checkpointed_graph⟩⟩

/-- A new graph is installed exactly when its nodes are new, or of the graph before. -/
theorem replanAtomic_of_planned (allowed : session.replanAllowed = true)
    {gOld gNew : ExecutionGraph R} (current : session.runtime.currentGraph = some gOld)
    (planned : newPlan interpreter session = .ok (.ok gNew)) :
    ReplanAtomic interpreter session same ↔
      ∀ node ∈ gNew.getVertices, node ∈ session.es.W → node ∈ gOld.getVertices := by
  have replans := executeReplan_allowed interpreter allowed
  rw [planned] at replans
  obtain ⟨sched, built⟩ := setGraph_of_plan planned
  rw [current] at replans
  have replaced : executeReplan interpreter session =
      installGraph interpreter session.checkpointed gOld gNew := replans
  by_cases fresh : ∀ node ∈ gNew.getVertices, node ∈ session.es.W → node ∈ gOld.getVertices
  · refine iff_of_true ?_ fresh
    rw [← session.checkpointed_memory] at fresh
    obtain ⟨dispatched, next, installed, graph, scheduled, registered, kept⟩ :=
      installGraph_completes interpreter built fresh
    refine ⟨dispatched, next, replaced.trans installed, Or.inr
      ⟨gNew, sched, planned, graph, scheduled, built, registered, ?_⟩⟩
    rw [session.checkpointed_memory] at kept
    exact kept
  · refine iff_of_false ?_ fresh
    push Not at fresh
    obtain ⟨node, listed, old, dropped⟩ := fresh
    rintro ⟨dispatched, next, returns, -⟩
    rw [← session.checkpointed_memory] at old
    obtain ⟨raised, last, installed⟩ := installGraph_raises interpreter built listed old dropped
    rw [replaced, installed] at returns
    cases returns

/-- **What one replan does**, behind the guards. -/
theorem replanAtomic_of_allowed (grounded : session.Grounded)
    (allowed : session.replanAllowed = true) :
    ReplanAtomic interpreter session same ↔
      NewNodesFresh interpreter session ∨
        PlanFails interpreter session ∧ same session.es session.checkpointed.es := by
  obtain ⟨gOld, current⟩ := grounded.currentGraph allowed
  unfold NewNodesFresh PlanFails
  cases planned : newPlan interpreter session with
  | error raised => simp [not_replanAtomic_of_raised allowed planned]
  | ok verdict =>
    cases verdict with
    | error reason => simp [replanAtomic_of_failed allowed planned]
    | ok gNew => simp [replanAtomic_of_planned allowed current planned, current]

end Allowed

variable (interpreter) in
/-- **One replan**, read with and without its checkpoint. -/
theorem replanAtomic_iff_of_grounded {session : Session R α π ω} (grounded : session.Grounded) :
    (ReplanAtomic interpreter session Eq ↔
        session.replanAllowed = false ∨ NewNodesFresh interpreter session) ∧
      (ReplanAtomic interpreter session SameButRecord ↔
        session.replanAllowed = false ∨ NewNodesFresh interpreter session ∨
          PlanFails interpreter session) := by
  cases allowed : session.replanAllowed with
  | false =>
    have blocked := executeReplan_blocked interpreter allowed
    exact ⟨iff_of_true ⟨[], session, blocked, Or.inl ⟨rfl, rfl⟩⟩ (Or.inl rfl),
      iff_of_true ⟨[], session, blocked, Or.inl ⟨rfl, rfl⟩⟩ (Or.inl rfl)⟩
  | true =>
    rw [replanAtomic_of_allowed grounded allowed, replanAtomic_of_allowed grounded allowed]
    simp only [Bool.true_eq_false, false_or]
    constructor
    · apply or_iff_left
      rintro ⟨-, same⟩
      exact session.checkpointed_record_ne (congrArg ExecutionState.C same).symm
    · apply or_congr_right
      exact and_iff_left session.sameButRecord_checkpointed

/-! ### Reachable sessions -/

section Reachable

omit [PyFloat R] in
theorem Grounded.of_same {session next : Session R α π ω} (grounded : session.Grounded)
    (graph : next.runtime.currentGraph = session.runtime.currentGraph)
    (G : next.es.G = session.es.G) (C : next.es.C = session.es.C) : next.Grounded := by
  intro absent
  rw [G, C]
  exact grounded (graph ▸ absent)

omit [PyFloat R] in
theorem Grounded.of_graph {session : Session R α π ω} {graph : ExecutionGraph R}
    (current : session.runtime.currentGraph = some graph) : session.Grounded := by
  intro absent
  rw [current] at absent
  cases absent

theorem executeReplan_grounded {session : Session R α π ω} (grounded : session.Grounded) :
    (executeReplan interpreter session).2.Grounded := by
  apply executeReplan_rule interpreter (P := Grounded)
  · exact fun _ => grounded
  · intro allowed
    obtain ⟨gOld, current⟩ := grounded.currentGraph allowed
    exact Grounded.of_graph (session.checkpointed_graph.trans current)
  · intro allowed gOld gNew current
    rcases (installGraph_keeps interpreter session.checkpointed gOld gNew).graph with old | new
    · exact Grounded.of_graph (old.trans (session.checkpointed_graph.trans current))
    · exact Grounded.of_graph new

variable (interpreter) in
theorem act_grounded {session : Session R α π ω} (grounded : session.Grounded)
    (decision : Decision) : (act interpreter session decision).2.Grounded := by
  cases decision with
  | terminate => exact grounded
  | idle => exact grounded
  | pause => exact grounded
  | replan => exact executeReplan_grounded grounded
  | rollback =>
    intro absent
    have restored := session.rollbackToCheckpoint_eq
    have none : session.runtime.currentGraph = none := by
      have same := congrArg (fun next => next.runtime.currentGraph) restored
      exact same.symm.trans absent
    show session.rollbackToCheckpoint.2.es.G = _ ∧ session.rollbackToCheckpoint.2.es.C = _
    rw [restored, (grounded none).2]
    exact grounded none
  | proceed =>
    have kept := act_proceed_keeps interpreter session
    exact grounded.of_same (congrArg Runtime.currentGraph kept.runtime) kept.G kept.C

theorem step_grounded {session : Session R α π ω} (grounded : session.Grounded) (timestamp : R) :
    (session.step interpreter timestamp).2.Grounded := by
  have kept := session.decide_keeps (session.observe timestamp)
  have graph : (session.decide (session.observe timestamp)).2.runtime.currentGraph =
      session.runtime.currentGraph := by
    rw [kept.runtime]
  have decided : (session.decide (session.observe timestamp)).2.Grounded :=
    grounded.of_same graph (congrArg ExecutionState.G kept.es) (congrArg ExecutionState.C kept.es)
  apply step_rule interpreter (P := Grounded)
  · exact fun _ _ => decided
  · exact fun decision _ => act_grounded interpreter decided decision
  · intro next decision settled
    cases decision <;> exact settled

/-- A call keeps what the statement needs. -/
theorem sessionStep_grounded {session : Session R α π ω} (grounded : session.Grounded)
    (call : SessionCall R) : (sessionStep interpreter session call).Grounded := by
  cases call with
  | step timestamp => exact step_grounded grounded timestamp
  | act decision => exact act_grounded interpreter grounded decision
  | registerModule contract =>
    unfold sessionStep registerModule
    dsimp only
    split <;> exact grounded
  | resume =>
    unfold sessionStep resume
    dsimp only
    split_ifs <;> exact grounded

/-- `initiate` starts with a graph, or without scheduler and checkpoints. -/
theorem initiate_grounded (session : Session R α π ω) (taskDescription : String) (seed : Int)
    (executionId : String) :
    (initiate interpreter session taskDescription seed executionId).2.Grounded := by
  unfold initiate
  dsimp only
  split
  · exact fun _ => ⟨rfl, rfl⟩
  · exact fun _ => ⟨rfl, rfl⟩
  · rename_i graph planned
    split
    · exact Grounded.of_graph rfl
    · split
      · exact Grounded.of_graph rfl
      · split <;> exact Grounded.of_graph rfl

end Reachable

/-- **When a replan of a reachable session completes or changes nothing.** -/
theorem replanAtomic_iff (interpreter : Interpreter α) (fresh : Session R α π ω)
    (taskDescription : String) (seed : Int) (executionId : String) (calls : List (SessionCall R)) :
    let session := run (sessionStep interpreter)
      (initiate interpreter fresh taskDescription seed executionId).2 calls
    (ReplanAtomic interpreter session Eq ↔
        session.replanAllowed = false ∨ NewNodesFresh interpreter session) ∧
      (ReplanAtomic interpreter session SameButRecord ↔
        session.replanAllowed = false ∨ NewNodesFresh interpreter session ∨
          PlanFails interpreter session) := by
  intro session
  have grounded : session.Grounded :=
    run_invariant (P := Grounded) (fun session call before => sessionStep_grounded before call)
      (initiate_grounded fresh taskDescription seed executionId) calls
  exact replanAtomic_iff_of_grounded interpreter grounded

end Session

/-! ### A node that comes back -/

namespace Sample

/-- Texts are lower case, and sets are iterated in the order of their lists. -/
def interpreter : Interpreter Unit where
  str := fun _ => ""
  lower := id
  setOrder := id
  setOrder_perm := List.Perm.refl

def module (name contractHash : String) (costWeight : ℚ) : ModuleContract ℚ where
  moduleTypeId := ⟨name, contractHash⟩
  outputSignature := "object"
  costWeight := costWeight

/-- `Runtime()` with one module. -/
def fresh : Session ℚ Unit (RulePolicy ℚ) Unit where
  runtime := { Runtime.new ⟨3, 50, default_replans_valid⟩ 100 rulePolicy (.new 3) with
    registry := ⟨.ofItems [(⟨"A", "v1"⟩, module "A" "v1" 1)]⟩ }
  es := .new "execution"
  world := ()

/-- The first version of `A` is replaced by `X`, and a second version of `A` is registered. -/
def returning : Session ℚ Unit (RulePolicy ℚ) Unit :=
  run (sessionStep interpreter) (fresh.initiate interpreter "task" 0 "execution").2
    [.registerModule (module "X" "v1" 3), .act .replan, .registerModule (module "A" "v2" 5)]

end Sample

/-- The instance `A` of the new plan is in working memory and not in the current graph, so that its
registration raises. -/
theorem returning_node_raises :
    ¬ Session.ReplanAtomic Sample.interpreter Sample.returning Eq ∧
      ¬ Session.ReplanAtomic Sample.interpreter Sample.returning Session.SameButRecord := by
  have current : Sample.returning.runtime.currentGraph.map ExecutionGraph.getVertices =
      some [ModuleInstanceID.ofCounter "X" 0] := by
    decide +kernel
  have grounded : Sample.returning.Grounded := by
    intro absent
    rw [absent] at current
    cases current
  have allowed : Sample.returning.replanAllowed = true := by decide +kernel
  have old : ModuleInstanceID.ofCounter "A" 0 ∈ Sample.returning.es.W := by decide +kernel
  have planned : (Session.newPlan Sample.interpreter Sample.returning).map (fun verdict =>
      verdict.toOption.map ExecutionGraph.getVertices) =
        .ok (some [ModuleInstanceID.ofCounter "A" 0]) := by
    decide +kernel
  have stale : ¬ Session.NewNodesFresh Sample.interpreter Sample.returning := by
    rintro ⟨gNew, found, fresh⟩
    rw [found] at planned
    have vertices : gNew.getVertices = [ModuleInstanceID.ofCounter "A" 0] :=
      Option.some.inj (Except.ok.inj planned)
    obtain ⟨gOld, isCurrent, listed⟩ := fresh _ (vertices ▸ List.mem_singleton_self _) old
    rw [isCurrent, Option.map_some, Option.some_inj] at current
    rw [current] at listed
    revert listed
    decide
  have plans : ¬ Session.PlanFails Sample.interpreter Sample.returning := by
    rintro ⟨reason, found⟩
    rw [found] at planned
    cases planned
  obtain ⟨strict, lenient⟩ :=
    Session.replanAtomic_iff_of_grounded Sample.interpreter grounded
  rw [strict, lenient, allowed]
  simp [stale, plans]

end Dnc.Runtime
