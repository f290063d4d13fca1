/-
**The mutation engine.**

`dnc.mutation.engine.MutationEngine`: `applyOperation` runs one operation on a graph and returns
what the source returns, together with the graph as the call leaves it. A failing call can leave a
changed graph behind: `REMOVE_UNIT` removes the unit before it sorts the retired identifiers, which
raises on a list of mixed type. `rollback` replays an undo log, last recorded inverse first.

`MutationStep` says once what a successful operation does, with its guards and the inverse it
records; `applyOperation_success` reads it off. The facts about runs of operations rest on it and
never unfold the engine.

`dnc.mutation.undo`: applying an operation records the operation that undoes it, with the data the
undoing needs. `popAll` hands the log back, last recorded first, and empties it.
-/

import Dnc.Ir.Graph
import Dnc.Ir.Operations

namespace Dnc

open PyLib

/-- `InverseOperation`: one constructor for each `op_name`, with its parameters. -/
inductive InverseOperation where
  | removeUnit (unitId : UnitID)
  | restoreUnit (unit : ComputationalUnit) (edges : List Edge)
  | disconnectUnits (source target : UnitID) (edgeType : EdgeType) (sourcePort targetPort : Json)
  | restoreEdges (edges : List Edge)
  | rewireEdge (oldSource oldTarget newSource newTarget : UnitID)
deriving DecidableEq

structure UndoLog where
  log : List InverseOperation := []
deriving DecidableEq

namespace UndoLog

/-- `UndoLog.push`. -/
def push (undoLog : UndoLog) (inverse : InverseOperation) : UndoLog :=
  ⟨undoLog.log ++ [inverse]⟩

/-- `UndoLog.pop_all`: the items, last first; the log is left empty. -/
def popAll (undoLog : UndoLog) : List InverseOperation × UndoLog :=
  (undoLog.log.reverse, {})

/-- `for inv in op_undo.pop_all(): ctx.undo_log.push(inv)`. -/
def transfer (undoLog operationUndo : UndoLog) : UndoLog :=
  operationUndo.popAll.1.foldl push undoLog

@[simp] theorem push_log (undoLog : UndoLog) (inverse : InverseOperation) :
    (undoLog.push inverse).log = undoLog.log ++ [inverse] := rfl

end UndoLog

/-! ### The operations, with their parameters read -/

/-- An operation whose parameters have been read. -/
inductive Mutation where
  | addUnit (unit : ComputationalUnit)
  | removeUnit (unitId : UnitID)
  | connectUnits (edge : Edge)
  | disconnectUnits (source target : UnitID) (edgeType : Option EdgeType)
      (sourcePort targetPort : Json)
  | rewireEdge (oldSource oldTarget newSource newTarget : UnitID)
  | unsupported (opType : OperationType)
deriving DecidableEq

/-- The reads `operation.parameters[…]` and `operation.parameters.get(…)` of `apply_operation`. -/
def IROperation.mutation (operation : IROperation) : Option Mutation :=
  let parameters := operation.parameters
  match operation.opType with
  | .addUnit => parameters.unit.map .addUnit
  | .removeUnit => parameters.unitId.map .removeUnit
  | .connectUnits => do
    let source ← parameters.source
    let target ← parameters.target
    let edgeType ← parameters.edgeType
    return .connectUnits {
      source, target, edgeType
      metadata := parameters.metadata.getD (.obj [])
      sourcePort := parameters.sourcePort.getD .null
      targetPort := parameters.targetPort.getD .null }
  | .disconnectUnits => do
    let source ← parameters.source
    let target ← parameters.target
    return .disconnectUnits source target parameters.edgeType
      (parameters.sourcePort.getD .null) (parameters.targetPort.getD .null)
  | .rewireEdge => do
    let oldSource ← parameters.oldSource
    let oldTarget ← parameters.oldTarget
    let newSource ← parameters.newSource
    let newTarget ← parameters.newTarget
    return .rewireEdge oldSource oldTarget newSource newTarget
  | opType => some (.unsupported opType)

/-! ### Applying -/

/-- What `apply_operation` returns, and the graph as it leaves it. -/
structure ApplyResult where
  success : Bool
  warnings : List String
  undoLog : UndoLog
  graph : StructuralGraph

/-- `return False, warnings, undo_log`. -/
def ApplyResult.failed (graph : StructuralGraph) (warning : String) : ApplyResult :=
  ⟨false, [warning], {}, graph⟩

/-- The success path: the inverse is pushed and the version advanced. -/
def ApplyResult.applied (graph : StructuralGraph) (inverse : InverseOperation) : ApplyResult :=
  ⟨true, [], UndoLog.push {} inverse, { graph with version := graph.version.nextSequence }⟩

/-- `graph.metadata.get("retired_unit_ids", [])`. -/
def StructuralGraph.retiredUnitIds (graph : StructuralGraph) : Json :=
  (graph.metadata.lookup "retired_unit_ids").getD (.arr [])

/-- `set(graph.metadata.get("retired_unit_ids", []))`. -/
def StructuralGraph.retired (graph : StructuralGraph) : Except PyError PySet :=
  PySet.ofValue graph.retiredUnitIds

/-- `sorted(retired | {uid})`, the list `REMOVE_UNIT` writes. -/
def StructuralGraph.retiredWith (graph : StructuralGraph) (uid : String) :
    Except PyError (List Json) := do
  let retired ← graph.retired
  let extended ← retired.add (.str uid)
  extended.sorted

def applyAddUnit (graph : StructuralGraph) (unit : ComputationalUnit) : ApplyResult :=
  match graph.retired with
  | .error error => .failed graph error.message
  | .ok retired =>
    if retired.contains (.str unit.unitId.value) then
      .failed graph s!"Identity Violation: Retired UnitID {unit.unitId} cannot be reused."
    else
      match graph.addUnit unit with
      | .error error => .failed graph error.message
      | .ok next => .applied next (.removeUnit unit.unitId)

def applyRemoveUnit (graph : StructuralGraph) (unitId : UnitID) : ApplyResult :=
  match graph.units.get? unitId.value with
  | none => .failed graph s!"Unit {unitId} not found for removal."
  | some removedUnit =>
    let incidentEdges := graph.edges.filter (Edge.touches unitId.value)
    match graph.removeUnit unitId with
    | .error error => .failed graph error.message
    | .ok removed =>
      -- from here on the unit is gone, also when the call fails
      match removed.retiredWith unitId.value with
      | .error error => .failed removed error.message
      | .ok retired =>
        .applied (removed.setMetadata "retired_unit_ids" (.arr retired))
          (.restoreUnit removedUnit incidentEdges)

def applyConnectUnits (graph : StructuralGraph) (edge : Edge) : ApplyResult :=
  .applied (graph.addEdge edge)
    (.disconnectUnits edge.source edge.target edge.edgeType edge.sourcePort edge.targetPort)

def applyDisconnectUnits (graph : StructuralGraph) (source target : UnitID)
    (edgeType : Option EdgeType) (sourcePort targetPort : Json) : ApplyResult :=
  let selects := Edge.selected source target edgeType sourcePort targetPort
  .applied (graph.removeEdge source target edgeType sourcePort targetPort)
    (.restoreEdges (graph.edges.filter selects))

/-- `e.source.value == source.value and e.target.value == target.value`. -/
def Edge.joins (source target : UnitID) (edge : Edge) : Bool :=
  edge.source.value == source.value && edge.target.value == target.value

/-- `replace(e, source=source, target=target)`. -/
def Edge.moved (source target : UnitID) (edge : Edge) : Edge := { edge with source, target }

/-- The first edge between two units, moved; nothing if there is none. -/
def rewireFirst (oldSource oldTarget newSource newTarget : UnitID) :
    List Edge → Option (List Edge)
  | [] => none
  | edge :: rest =>
    if edge.joins oldSource oldTarget then some (edge.moved newSource newTarget :: rest)
    else (rewireFirst oldSource oldTarget newSource newTarget rest).map (edge :: ·)

def applyRewireEdge (graph : StructuralGraph) (oldSource oldTarget newSource newTarget : UnitID) :
    ApplyResult :=
  match rewireFirst oldSource oldTarget newSource newTarget graph.edges with
  | none => .failed graph "Edge to rewire not found."
  | some edges =>
    .applied { graph with edges } (.rewireEdge newSource newTarget oldSource oldTarget)

/-- The branches of `apply_operation`. -/
def applyMutation (graph : StructuralGraph) : Mutation → ApplyResult
  | .addUnit unit => applyAddUnit graph unit
  | .removeUnit unitId => applyRemoveUnit graph unitId
  | .connectUnits edge => applyConnectUnits graph edge
  | .disconnectUnits source target edgeType sourcePort targetPort =>
    applyDisconnectUnits graph source target edgeType sourcePort targetPort
  | .rewireEdge oldSource oldTarget newSource newTarget =>
    applyRewireEdge graph oldSource oldTarget newSource newTarget
  | .unsupported opType => .failed graph s!"Unsupported operation type {PyEnum.display opType}"

/-- `MutationEngine.apply_operation`. -/
def applyOperation (graph : StructuralGraph) (operation : IROperation) : ApplyResult :=
  match operation.mutation with
  | none => .failed graph "Operation parameters invalid."
  | some mutation => applyMutation graph mutation

/-! ### Rolling back -/

/-- The body of the loop of `rollback`. -/
def applyInverse (graph : StructuralGraph) : InverseOperation → Except PyError StructuralGraph
  | .removeUnit unitId => graph.removeUnit unitId
  | .restoreUnit unit edges => do
    let restored ← graph.addUnit unit
    return edges.foldl StructuralGraph.addEdge restored
  | .disconnectUnits source target edgeType sourcePort targetPort =>
    .ok (graph.removeEdge source target (some edgeType) sourcePort targetPort)
  | .restoreEdges edges => .ok (edges.foldl StructuralGraph.addEdge graph)
  | .rewireEdge oldSource oldTarget newSource newTarget =>
    .ok { graph with
      edges := (rewireFirst oldSource oldTarget newSource newTarget graph.edges).getD graph.edges }

/-- The loop of `rollback` over the inverses; an exception leaves the graph as it is then. -/
def applyInverses (graph : StructuralGraph) :
    List InverseOperation → StructuralGraph × Option PyError
  | [] => (graph, none)
  | inverse :: rest =>
    match applyInverse graph inverse with
    | .error error => (graph, some error)
    | .ok next => applyInverses next rest

/-- `MutationEngine.rollback`: the graph it leaves and the exception it raises, if any. -/
def rollback (graph : StructuralGraph) (undoLog : UndoLog) : StructuralGraph × Option PyError :=
  match applyInverses graph undoLog.popAll.1 with
  | (rolled, none) => ({ rolled with version := rolled.version.nextSequence }, none)
  | (rolled, some error) => (rolled, some error)

/-! ### What a successful operation does -/

/-- **A successful mutation**: its guards, the graph it makes (before the version advances) and
the inverse it records. -/
inductive MutationStep (graph : StructuralGraph) :
    Mutation → StructuralGraph → InverseOperation → Prop
  | addUnit {unit : ComputationalUnit} {retired : PySet}
      (known : graph.retired = .ok retired)
      (permitted : retired.contains (.str unit.unitId.value) = false)
      (fresh : unit.unitId.value ∉ graph.units) :
      MutationStep graph (.addUnit unit)
        { graph with units := graph.units.set unit.unitId.value unit } (.removeUnit unit.unitId)
  | removeUnit {unitId : UnitID} {unit : ComputationalUnit} {retired : List Json}
      (found : graph.units.get? unitId.value = some unit)
      (extended : graph.retiredWith unitId.value = .ok retired) :
      MutationStep graph (.removeUnit unitId)
        { graph with
          units := graph.units.erase unitId.value
          edges := graph.edges.filter fun edge => !edge.touches unitId.value
          metadata := setItem graph.metadata "retired_unit_ids" (.arr retired) }
        (.restoreUnit unit (graph.edges.filter (Edge.touches unitId.value)))
  | connectUnits (edge : Edge) :
      MutationStep graph (.connectUnits edge) { graph with edges := graph.edges ++ [edge] }
        (.disconnectUnits edge.source edge.target edge.edgeType edge.sourcePort edge.targetPort)
  | disconnectUnits (source target : UnitID) (edgeType : Option EdgeType)
      (sourcePort targetPort : Json) :
      MutationStep graph (.disconnectUnits source target edgeType sourcePort targetPort)
        { graph with
          edges := graph.edges.filter fun edge =>
            !edge.selected source target edgeType sourcePort targetPort }
        (.restoreEdges
          (graph.edges.filter (Edge.selected source target edgeType sourcePort targetPort)))
  | rewireEdge {oldSource oldTarget newSource newTarget : UnitID} {edges : List Edge}
      (found : rewireFirst oldSource oldTarget newSource newTarget graph.edges = some edges) :
      MutationStep graph (.rewireEdge oldSource oldTarget newSource newTarget)
        { graph with edges } (.rewireEdge newSource newTarget oldSource oldTarget)

theorem applyMutation_success {graph : StructuralGraph} {mutation : Mutation}
    (success : (applyMutation graph mutation).success = true) :
    ∃ next inverse, MutationStep graph mutation next inverse ∧
      applyMutation graph mutation = .applied next inverse := by
  cases mutation with
  | addUnit unit =>
    simp only [applyMutation, applyAddUnit] at success ⊢
    split at success
    · exact absurd success (by simp [ApplyResult.failed])
    · rename_i retired known
      split_ifs at success with reused
      · exact absurd success (by simp [ApplyResult.failed])
      · rw [if_neg reused]
        split at success
        · exact absurd success (by simp [ApplyResult.failed])
        · rename_i next added
          obtain ⟨fresh, same⟩ := StructuralGraph.addUnit_eq_ok added
          rw [same]
          exact ⟨_, _, .addUnit known (by simpa using reused) fresh, rfl⟩
  | removeUnit unitId =>
    simp only [applyMutation, applyRemoveUnit] at success ⊢
    split at success
    · exact absurd success (by simp [ApplyResult.failed])
    · rename_i unit found
      split at success
      · exact absurd success (by simp [ApplyResult.failed])
      · rename_i removed done
        obtain ⟨_, same⟩ := StructuralGraph.removeUnit_eq_ok done
        split at success
        · exact absurd success (by simp [ApplyResult.failed])
        · rename_i retired extended
          subst same
          exact ⟨_, _, .removeUnit found extended, rfl⟩
  | connectUnits edge => exact ⟨_, _, .connectUnits edge, rfl⟩
  | disconnectUnits source target edgeType sourcePort targetPort =>
    exact ⟨_, _, .disconnectUnits source target edgeType sourcePort targetPort, rfl⟩
  | rewireEdge oldSource oldTarget newSource newTarget =>
    simp only [applyMutation, applyRewireEdge] at success ⊢
    split at success
    · exact absurd success (by simp [ApplyResult.failed])
    · rename_i edges found
      exact ⟨_, _, .rewireEdge found, rfl⟩
  | unsupported opType => exact absurd success (by simp [applyMutation, ApplyResult.failed])

/-- **What a successful `apply_operation` did.** -/
theorem applyOperation_success {graph : StructuralGraph} {operation : IROperation}
    (success : (applyOperation graph operation).success = true) :
    ∃ mutation next inverse, operation.mutation = some mutation ∧
      MutationStep graph mutation next inverse ∧
      applyOperation graph operation = .applied next inverse := by
  unfold applyOperation at success ⊢
  cases read : operation.mutation with
  | none => simp [read, ApplyResult.failed] at success
  | some mutation =>
    rw [read] at success
    obtain ⟨next, inverse, step, same⟩ := applyMutation_success success
    exact ⟨mutation, next, inverse, rfl, step, same⟩

end Dnc
