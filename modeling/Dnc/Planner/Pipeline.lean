/-
**The planner.**

`dnc.planner.pipeline`: a description is analysed into sub-goals, each sub-goal is given the module
that scores best within the budget, and the modules are chained into a graph, which is validated. An
instance is named by its type and the position of its sub-goal, so that the same role is the same
instance in every plan.

The block of `GraphBuilder.build` that looks at the execution state has no effect and is left out.
-/

import Dnc.PyLib.Text
import Dnc.State.ExecutionState

namespace Dnc.Runtime

open PyLib

/-- `text.split()`. -/
def splitWords (text : String) : List String :=
  ((text.toList.splitOnP isSpace).filter fun word => word ≠ []).map String.ofList

/-! ### Plans -/

structure SubGoal where
  goalId : String
  description : String
  requiredCapabilities : Finset String

structure VertexAssignment (R : Type) where
  instanceId : ModuleInstanceID
  typeId : ModuleTypeID
  costEstimate : R
  preferenceScore : R

structure ExecutionGraph (R : Type) where
  vertices : List (VertexAssignment R)
  edges : List (ModuleInstanceID × ModuleInstanceID)
  costWeights : Dict ModuleInstanceID R

/-- A text of `PlanningResult.fail`. -/
inductive PlanFailure (R : Type) where
  | incomplete
  | cycle
  | budgetExceeded (totalCost resourceBudget : R)

section Planner

variable {R α : Type} [PyFloat R]

/-- `ExecutionGraph.get_vertices`. -/
def ExecutionGraph.getVertices (graph : ExecutionGraph R) : List ModuleInstanceID :=
  graph.vertices.map fun vertex => vertex.instanceId

/-- `ExecutionGraph.total_cost`. -/
def ExecutionGraph.totalCost (graph : ExecutionGraph R) : R :=
  let vertexCost := graph.vertices.foldl
    (fun cost vertex => cost + (graph.costWeights.get? vertex.instanceId).getD 1.0) ((0 : Int) : R)
  vertexCost + ((graph.edges.length : Int) : R) * 0.1

/-- `TaskAnalyzer.analyze`. -/
def analyze (interpreter : Interpreter α) (taskDescription : String)
    (registry : ModuleRegistry R) : List SubGoal :=
  let known := (splitWords (interpreter.lower taskDescription)).filter fun token =>
    decide (∃ contract ∈ registry.listAll, token ∈ contract.capabilities)
  if known = [] then [⟨"goal_default", taskDescription, ∅⟩]
  else known.zipIdx.map fun (token, index) => ⟨s!"goal_{index}", s!"achieve_{token}", {token}⟩

/-- The inner loop of `ModuleSelector.select`: the first contract of the best score. -/
def bestContract (goal : SubGoal) (remainingBudget : R) (contracts : List (ModuleContract R)) :
    Option (ModuleContract R) :=
  (contracts.foldl (fun (best : Option (ModuleContract R) × R) contract =>
    let matching := goal.requiredCapabilities ∩ contract.capabilities
    if goal.requiredCapabilities ≠ ∅ ∧ matching = ∅ then best
    else
      let score := contract.costWeight + 0.1 * ((matching.card : Int) : R)
      if best.2 < score ∧ contract.costWeight ≤ remainingBudget then (some contract, score)
      else best) (none, -1.0)).1

/-- `ModuleSelector.select`. -/
def select : List SubGoal → ModuleRegistry R → R → List (SubGoal × Option (ModuleContract R))
  | [], _, _ => []
  | goal :: rest, registry, remainingBudget =>
    match bestContract goal remainingBudget registry.listAll with
    | some contract =>
      (goal, some contract) :: select rest registry (remainingBudget - contract.costWeight)
    | none => (goal, none) :: select rest registry remainingBudget

/-- The selected modules with their instances. -/
def placeModules (selections : List (SubGoal × Option (ModuleContract R))) :
    List (SubGoal × ModuleContract R × ModuleInstanceID) :=
  selections.zipIdx.filterMap fun ((goal, contract), index) =>
    contract.map fun contract =>
      (goal, contract, .ofCounter contract.moduleTypeId.name index)

/-- `GraphBuilder.build`. -/
def build (selections : List (SubGoal × Option (ModuleContract R))) : ExecutionGraph R :=
  let placed := placeModules selections
  let instanceMap : Dict String ModuleInstanceID :=
    .ofItems (placed.map fun (goal, _, instanceId) => (goal.goalId, instanceId))
  { vertices := placed.map fun (_, contract, instanceId) => {
      instanceId := instanceId
      typeId := contract.moduleTypeId
      costEstimate := contract.costWeight
      preferenceScore := 1.0 }
    costWeights := .ofItems (placed.map fun (_, contract, instanceId) =>
      (instanceId, contract.costWeight))
    edges := (selections.zip selections.tail).filterMap fun (previous, current) =>
      if current.2.isNone then none
      else do
        let upstream ← instanceMap.get? previous.1.goalId
        let downstream ← instanceMap.get? current.1.goalId
        return (upstream, downstream) }

/-- `GraphValidator.validate`. -/
def validatePlan (graph : ExecutionGraph R) (resourceBudget : R) :
    Except Raised (Option (PlanFailure R)) :=
  if graph.vertices.isEmpty then .ok (some .incomplete)
  else match Scheduler.setGraph graph.getVertices graph.edges with
    | .error (.dagCycle _) => .ok (some .cycle)
    | .error raised => .error raised
    | .ok _ =>
      if resourceBudget < graph.totalCost then
        .ok (some (.budgetExceeded graph.totalCost resourceBudget))
      else .ok none

/-- `Planner.plan`: the graph, or the reason why there is none. -/
def plan (interpreter : Interpreter α) (taskDescription : String) (registry : ModuleRegistry R)
    (resourceBudget : R) : Except Raised (Except (PlanFailure R) (ExecutionGraph R)) := do
  let subGoals := analyze interpreter taskDescription registry
  let graph := build (select subGoals registry resourceBudget)
  match ← validatePlan graph resourceBudget with
  | some reason => return .error reason
  | none => return .ok graph

/-- The sets RETAINED, RETIRED_EARLY and NEW of `Planner.compute_graph_diff`. -/
structure GraphDiff where
  retained : List ModuleInstanceID
  retiredEarly : List ModuleInstanceID
  newOnly : List ModuleInstanceID

/-- `Planner.compute_graph_diff`. -/
def computeGraphDiff (gOld gNew : ExecutionGraph R) (es : ExecutionState R α) : GraphDiff :=
  let oldIds := gOld.getVertices.dedup
  let newIds := gNew.getVertices.dedup
  let common := oldIds.filter fun instanceId => decide (instanceId ∈ newIds)
  { retained := common.filter fun instanceId => decide (instanceId ∈ es.W)
    retiredEarly := oldIds.filter fun instanceId => decide (instanceId ∉ newIds)
    newOnly := newIds.filter (fun instanceId => decide (instanceId ∉ oldIds)) ++
      common.filter fun instanceId => decide (instanceId ∉ es.W) }

/-! ### What the functions guarantee -/

theorem setGraph_of_validatePlan {graph : ExecutionGraph R} {resourceBudget : R}
    (checked : validatePlan graph resourceBudget = .ok none) :
    ∃ sched, Scheduler.setGraph graph.getVertices graph.edges = .ok sched := by
  unfold validatePlan at checked
  by_cases empty : graph.vertices.isEmpty = true
  · rw [if_pos empty] at checked
    cases checked
  · rw [if_neg empty] at checked
    cases built : Scheduler.setGraph graph.getVertices graph.edges with
    | ok sched => exact ⟨sched, rfl⟩
    | error raised =>
      rw [built] at checked
      cases raised <;> cases checked

/-- A plan is what the phases build, and has passed the validation. -/
theorem eq_build_of_plan {interpreter : Interpreter α} {taskDescription : String}
    {registry : ModuleRegistry R} {resourceBudget : R} {graph : ExecutionGraph R}
    (planned : plan interpreter taskDescription registry resourceBudget = .ok (.ok graph)) :
    graph = build (select (analyze interpreter taskDescription registry) registry resourceBudget) ∧
      validatePlan graph resourceBudget = .ok none := by
  unfold plan at planned
  dsimp only at planned
  cases checked : validatePlan (build (select (analyze interpreter taskDescription registry) registry
      resourceBudget)) resourceBudget with
  | error raised =>
    rw [checked] at planned
    cases planned
  | ok verdict =>
    rw [checked] at planned
    cases verdict with
    | some reason => cases planned
    | none =>
      cases planned
      exact ⟨rfl, checked⟩

/-- A plan has been accepted by a scheduler. -/
theorem setGraph_of_plan {interpreter : Interpreter α} {taskDescription : String}
    {registry : ModuleRegistry R} {resourceBudget : R} {graph : ExecutionGraph R}
    (planned : plan interpreter taskDescription registry resourceBudget = .ok (.ok graph)) :
    ∃ sched, Scheduler.setGraph graph.getVertices graph.edges = .ok sched :=
  setGraph_of_validatePlan (eq_build_of_plan planned).2

theorem length_select (goals : List SubGoal) (registry : ModuleRegistry R) (remainingBudget : R) :
    (select goals registry remainingBudget).length = goals.length := by
  induction goals generalizing remainingBudget with
  | nil => rfl
  | cons goal rest ih =>
    unfold select
    split <;> rw [List.length_cons, List.length_cons, ih]

omit [PyFloat R] in
/-- There is a sub-goal for every known word, or the default one. -/
theorem length_analyze_le (interpreter : Interpreter α) {taskDescription : String}
    (registry : ModuleRegistry R)
    (words : (splitWords (interpreter.lower taskDescription)).length ≤ 1) :
    (analyze interpreter taskDescription registry).length ≤ 1 := by
  unfold analyze
  dsimp only
  split_ifs
  · exact le_rfl
  · rw [List.length_map, List.length_zipIdx]
    exact (List.length_filter_le _ _).trans words

/-- **A task of one word has a plan without edges.** -/
theorem edges_of_plan_word {interpreter : Interpreter α} {taskDescription : String}
    {registry : ModuleRegistry R} {resourceBudget : R} {graph : ExecutionGraph R}
    (words : (splitWords (interpreter.lower taskDescription)).length ≤ 1)
    (planned : plan interpreter taskDescription registry resourceBudget = .ok (.ok graph)) :
    graph.edges = [] := by
  have short : (select (analyze interpreter taskDescription registry) registry
      resourceBudget).length ≤ 1 := by
    rw [length_select]
    exact length_analyze_le interpreter registry words
  have last : (select (analyze interpreter taskDescription registry) registry
      resourceBudget).tail = [] := by
    apply List.eq_nil_of_length_eq_zero
    rw [List.length_tail]
    omega
  rw [(eq_build_of_plan planned).1]
  unfold build
  dsimp only
  rw [last, List.zip_nil_right]
  rfl

omit [PyFloat R] in
theorem mem_newOnly {gOld gNew : ExecutionGraph R} {es : ExecutionState R α}
    {instanceId : ModuleInstanceID} :
    instanceId ∈ (computeGraphDiff gOld gNew es).newOnly ↔
      instanceId ∈ gNew.getVertices ∧
        (instanceId ∉ gOld.getVertices ∨ instanceId ∉ es.W) := by
  simp only [computeGraphDiff, List.mem_append, List.mem_filter, List.mem_dedup, decide_eq_true_eq]
  tauto

omit [PyFloat R] in
theorem newOnly_nodup (gOld gNew : ExecutionGraph R) (es : ExecutionState R α) :
    (computeGraphDiff gOld gNew es).newOnly.Nodup := by
  unfold computeGraphDiff
  rw [List.nodup_append]
  refine ⟨(List.nodup_dedup _).filter _, ((List.nodup_dedup _).filter _).filter _, ?_⟩
  rintro instanceId isNew _ missing rfl
  have common := List.mem_of_mem_filter missing
  exact of_decide_eq_true (List.mem_filter.mp isNew).2 (List.mem_of_mem_filter common)

end Planner

end Dnc.Runtime
