/-
**What rolling back restores.**

The undo log exists "to enable exact rollback". It does where every step of the run is *reversible*,
a condition on the graph the step finds (`Reversible`):

* `ADD_UNIT`: no edge is incident to the new identifier yet. The inverse removes the unit with its
  incident edges, dangling ones from before included.
* `REMOVE_UNIT`: the unit is stored under its own identifier, and the retired identifiers in
  metadata are already what the step writes. The inverse leaves metadata alone.
* `CONNECT_UNITS`: no edge matches the new one. The inverse removes every edge that does.
* `DISCONNECT_UNITS`: always.
* `REWIRE_EDGE`: the endpoints stay, or the edges at the new endpoints equal the moved one. The
  inverse moves back the first edge it finds there.

`MutationStep.undoes` shows for each kind of step that its inverse undoes it, from any graph with
the same contents: units up to order, edges as a multiset, metadata. `rollback_restores` is the
result for runs, by the compensation rule `Logic.Chain.undoAll`.
-/

import Dnc.Logic.Compensation
import Dnc.Mutation.Engine

namespace Dnc

open PyLib

/-- The condition, on the graph before the step, under which the inverse undoes it. -/
def Reversible (graph : StructuralGraph) : Mutation → Prop
  | .addUnit unit => ∀ edge ∈ graph.edges, edge.touches unit.unitId.value = false
  | .removeUnit unitId =>
    (∀ unit, graph.units.get? unitId.value = some unit → unit.unitId.value = unitId.value) ∧
      ∃ items, graph.retiredWith unitId.value = .ok items ∧
        graph.metadata.lookup "retired_unit_ids" = some (.arr items)
  | .connectUnits edge => ∀ other ∈ graph.edges,
    other.selected edge.source edge.target (some edge.edgeType) edge.sourcePort edge.targetPort =
      false
  | .rewireEdge oldSource oldTarget newSource newTarget =>
    (oldSource = newSource ∧ oldTarget = newTarget) ∨
      ∀ edge ∈ graph.edges, edge.joins newSource newTarget = true →
        (graph.edges.find? (Edge.joins oldSource oldTarget)).map (Edge.moved newSource newTarget) =
          some edge
  | _ => True

/-- The units as a map, the edges as a multiset, and the metadata agree. -/
structure SameContents (first second : StructuralGraph) : Prop where
  units : ∀ uid, first.units.get? uid = second.units.get? uid
  edges : first.edges.Perm second.edges
  metadata : first.metadata = second.metadata

theorem SameContents.refl (graph : StructuralGraph) : SameContents graph graph :=
  ⟨fun _ => rfl, List.Perm.refl _, rfl⟩

theorem mem_of_sameContents {first second : StructuralGraph} (same : SameContents first second)
    {uid : String} : uid ∈ first.units ↔ uid ∈ second.units := by
  rw [Dict.mem_iff_get?, Dict.mem_iff_get?, same.units]

/-! ### Edges -/

@[simp] theorem foldl_addEdge (edges : List Edge) (graph : StructuralGraph) :
    edges.foldl StructuralGraph.addEdge graph = { graph with edges := graph.edges ++ edges } := by
  induction edges generalizing graph with
  | nil => rw [List.foldl_nil, List.append_nil]
  | cons edge rest ih =>
    rw [List.foldl_cons, ih]
    simp [StructuralGraph.addEdge]

/-- What a rewiring does: the first edge between the old endpoints is moved in its place. -/
theorem rewireFirst_eq_some {oldSource oldTarget newSource newTarget : UnitID}
    {edges moved : List Edge}
    (found : rewireFirst oldSource oldTarget newSource newTarget edges = some moved) :
    ∃ before edge after, edges = before ++ edge :: after ∧ edge.joins oldSource oldTarget = true ∧
      edges.find? (Edge.joins oldSource oldTarget) = some edge ∧
      moved = before ++ edge.moved newSource newTarget :: after := by
  induction edges generalizing moved with
  | nil => simp [rewireFirst] at found
  | cons first rest ih =>
    unfold rewireFirst at found
    by_cases here : first.joins oldSource oldTarget = true
    · rw [if_pos here, Option.some.injEq] at found
      exact ⟨[], first, rest, rfl, here, List.find?_cons_of_pos here, found.symm⟩
    · rw [if_neg here, Option.map_eq_some_iff] at found
      obtain ⟨later, foundLater, same⟩ := found
      obtain ⟨before, edge, after, split, joins, find, movedLater⟩ := ih foundLater
      refine ⟨first :: before, edge, after, by rw [split]; rfl, joins, ?_, ?_⟩
      · rw [List.find?_cons_of_neg here, find]
      · rw [← same, movedLater]
        rfl

/-- An edge between the old endpoints is there to be rewired. -/
theorem exists_rewireFirst (newSource newTarget : UnitID) {oldSource oldTarget : UnitID}
    {edges : List Edge} {edge : Edge} (member : edge ∈ edges)
    (joins : edge.joins oldSource oldTarget = true) :
    ∃ moved, rewireFirst oldSource oldTarget newSource newTarget edges = some moved := by
  induction edges with
  | nil => exact absurd member List.not_mem_nil
  | cons first rest ih =>
    unfold rewireFirst
    by_cases here : first.joins oldSource oldTarget = true
    · exact ⟨_, if_pos here⟩
    · rcases List.mem_cons.mp member with same | later
      · exact absurd (same ▸ joins) here
      · obtain ⟨moved, found⟩ := ih later
        exact ⟨first :: moved, by rw [if_neg here, found]; rfl⟩

theorem Edge.joins_iff {source target : UnitID} {edge : Edge} :
    edge.joins source target = true ↔ edge.source = source ∧ edge.target = target := by
  unfold Edge.joins
  rw [Bool.and_eq_true, beq_iff_eq, beq_iff_eq, UnitID.value_injective.eq_iff,
    UnitID.value_injective.eq_iff]

/-- Moving an edge and moving it back changes nothing. -/
theorem Edge.moved_moved (newSource newTarget : UnitID) {source target : UnitID} {edge : Edge}
    (joins : edge.joins source target = true) :
    (edge.moved newSource newTarget).moved source target = edge := by
  obtain ⟨sourceSame, targetSame⟩ := Edge.joins_iff.mp joins
  rw [← sourceSame, ← targetSame]
  rfl

theorem Edge.moved_joins (source target : UnitID) (edge : Edge) :
    (edge.moved source target).joins source target = true :=
  Edge.joins_iff.mpr ⟨rfl, rfl⟩

/-- An edge is selected by its own endpoints, type and ports. -/
theorem Edge.selected_self (edge : Edge) :
    edge.selected edge.source edge.target (some edge.edgeType) edge.sourcePort edge.targetPort =
      true := by
  simp [Edge.selected]

/-! ### Each inverse undoes its step -/

theorem undoes_addUnit {graph : StructuralGraph} {unit : ComputationalUnit}
    (fresh : unit.unitId.value ∉ graph.units)
    (isolated : ∀ edge ∈ graph.edges, edge.touches unit.unitId.value = false) :
    Logic.Undoes applyInverse SameContents (.removeUnit unit.unitId) graph
      { graph with units := graph.units.set unit.unitId.value unit } := by
  intro state same
  have present : unit.unitId.value ∈ state.units :=
    (mem_of_sameContents same).mp (Dict.mem_set.mpr (Or.inl rfl))
  refine ⟨_, if_pos present, ⟨fun uid => ?_, ?_, same.metadata⟩⟩
  · show _ = (state.units.erase unit.unitId.value).get? uid
    rw [Dict.get?_erase]
    by_cases here : uid = unit.unitId.value
    · rw [if_pos here, here]
      exact Dict.get?_eq_none.mpr fresh
    · rw [if_neg here, ← same.units]
      exact (Dict.get?_set_of_ne _ here _).symm
  · have kept : graph.edges.filter (fun edge => !edge.touches unit.unitId.value) = graph.edges :=
      List.filter_eq_self.mpr fun edge member => by rw [isolated edge member]; rfl
    have filtered := same.edges.filter fun edge => !edge.touches unit.unitId.value
    exact (List.Perm.of_eq kept.symm).trans filtered

theorem undoes_removeUnit {graph : StructuralGraph} {unitId : UnitID} {unit : ComputationalUnit}
    {items : List Json} (found : graph.units.get? unitId.value = some unit)
    (named : unit.unitId.value = unitId.value)
    (written : graph.metadata.lookup "retired_unit_ids" = some (.arr items)) :
    Logic.Undoes applyInverse SameContents
      (.restoreUnit unit (graph.edges.filter (Edge.touches unitId.value))) graph
      { graph with
        units := graph.units.erase unitId.value
        edges := graph.edges.filter fun edge => !edge.touches unitId.value
        metadata := setItem graph.metadata "retired_unit_ids" (.arr items) } := by
  intro state same
  have absent : unit.unitId.value ∉ state.units := by
    rw [named, ← mem_of_sameContents same]
    exact fun present => (Dict.mem_erase.mp present).1 rfl
  have restored : applyInverse state
      (.restoreUnit unit (graph.edges.filter (Edge.touches unitId.value))) =
      .ok { state with
        units := state.units.set unit.unitId.value unit
        edges := state.edges ++ graph.edges.filter (Edge.touches unitId.value) } := by
    simp only [applyInverse, StructuralGraph.addUnit, if_neg absent, foldl_addEdge]
    rfl
  refine ⟨_, restored, ⟨fun uid => ?_, ?_, ?_⟩⟩
  · show _ = (state.units.set unit.unitId.value unit).get? uid
    rw [named, Dict.get?_set]
    by_cases here : uid = unitId.value
    · rw [if_pos here, here, found]
    · rw [if_neg here, ← same.units]
      exact (Dict.get?_erase_of_ne _ here).symm
  · show graph.edges.Perm (state.edges ++ graph.edges.filter (Edge.touches unitId.value))
    have swap := List.filter_append_perm (Edge.touches unitId.value) graph.edges
    refine (swap.symm.trans List.perm_append_comm).trans ?_
    exact List.Perm.append same.edges (List.Perm.refl _)
  · rw [← same.metadata]
    exact (setItem_of_lookup written).symm

theorem undoes_connectUnits {graph : StructuralGraph} {edge : Edge}
    (unmatched : ∀ other ∈ graph.edges, other.selected edge.source edge.target
      (some edge.edgeType) edge.sourcePort edge.targetPort = false) :
    Logic.Undoes applyInverse SameContents
      (.disconnectUnits edge.source edge.target edge.edgeType edge.sourcePort edge.targetPort) graph
      { graph with edges := graph.edges ++ [edge] } := by
  intro state same
  refine ⟨_, rfl, ⟨same.units, ?_, same.metadata⟩⟩
  have kept : (graph.edges ++ [edge]).filter (fun other => !other.selected edge.source edge.target
      (some edge.edgeType) edge.sourcePort edge.targetPort) = graph.edges := by
    rw [List.filter_append, List.filter_eq_self.mpr fun other member => by
      rw [unmatched other member]; rfl]
    simp [Edge.selected_self]
  exact (List.Perm.of_eq kept.symm).trans (same.edges.filter _)

theorem undoes_disconnectUnits (graph : StructuralGraph) (source target : UnitID)
    (edgeType : Option EdgeType) (sourcePort targetPort : Json) :
    Logic.Undoes applyInverse SameContents
      (.restoreEdges
        (graph.edges.filter (Edge.selected source target edgeType sourcePort targetPort))) graph
      { graph with
        edges := graph.edges.filter fun edge =>
          !edge.selected source target edgeType sourcePort targetPort } := by
  intro state same
  have restored : applyInverse state (.restoreEdges
      (graph.edges.filter (Edge.selected source target edgeType sourcePort targetPort))) =
      .ok { state with edges := state.edges ++
        graph.edges.filter (Edge.selected source target edgeType sourcePort targetPort) } :=
    congrArg Except.ok (foldl_addEdge _ _)
  refine ⟨_, restored, ⟨same.units, ?_, same.metadata⟩⟩
  have swap := List.filter_append_perm
    (Edge.selected source target edgeType sourcePort targetPort) graph.edges
  refine (swap.symm.trans List.perm_append_comm).trans ?_
  exact List.Perm.append same.edges (List.Perm.refl _)

theorem undoes_rewireEdge {graph : StructuralGraph} {oldSource oldTarget newSource newTarget : UnitID}
    {edges : List Edge}
    (found : rewireFirst oldSource oldTarget newSource newTarget graph.edges = some edges)
    (reversible : Reversible graph (.rewireEdge oldSource oldTarget newSource newTarget)) :
    Logic.Undoes applyInverse SameContents (.rewireEdge newSource newTarget oldSource oldTarget)
      graph { graph with edges } := by
  intro state same
  obtain ⟨before, edge, after, split, joins, first, moved⟩ := rewireFirst_eq_some found
  have inState : edge.moved newSource newTarget ∈ state.edges := by
    refine same.edges.mem_iff.mp ?_
    show _ ∈ edges
    rw [moved]
    exact List.mem_append_right _ List.mem_cons_self
  obtain ⟨back, rewired⟩ := exists_rewireFirst oldSource oldTarget inState
    (Edge.moved_joins _ _ _)
  obtain ⟨left, other, right, stateSplit, otherJoins, _, movedBack⟩ := rewireFirst_eq_some rewired
  have perm : (before ++ edge.moved newSource newTarget :: after).Perm
      (left ++ other :: right) := by
    rw [← moved, ← stateSplit]
    exact same.edges
  refine ⟨{ state with edges := back }, ?_, ⟨same.units, ?_, same.metadata⟩⟩
  · simp only [applyInverse, rewired, Option.getD_some]
  · show graph.edges.Perm back
    rw [movedBack]
    rcases reversible with ⟨sourceSame, targetSame⟩ | unique
    · -- the endpoints stay: neither move changes an edge
      subst sourceSame targetSame
      have edgeSame : edge.moved oldSource oldTarget = edge := by
        rw [← Edge.moved_moved oldSource oldTarget joins]
        rfl
      have otherSame : other.moved oldSource oldTarget = other := by
        rw [← Edge.moved_moved oldSource oldTarget otherJoins]
        rfl
      rw [otherSame, split]
      rw [edgeSame] at perm
      exact perm
    · -- the edge moved back equals the one that was moved
      have otherSame : other = edge.moved newSource newTarget := by
        have member : other ∈ before ++ edge.moved newSource newTarget :: after :=
          perm.mem_iff.mpr (List.mem_append_right _ List.mem_cons_self)
        have fromGraph : ∀ rest : Edge, rest ∈ graph.edges →
            rest.joins newSource newTarget = true → rest = edge.moved newSource newTarget := by
          intro rest member joined
          have same := unique rest member joined
          rw [first, Option.map_some, Option.some.injEq] at same
          exact same.symm
        rcases List.mem_append.mp member with inBefore | inRest
        · exact fromGraph other (split ▸ List.mem_append_left _ inBefore) otherJoins
        · rcases List.mem_cons.mp inRest with here | inAfter
          · exact here
          · exact fromGraph other
              (split ▸ List.mem_append_right _ (List.mem_cons_of_mem _ inAfter)) otherJoins
      rw [otherSame, Edge.moved_moved newSource newTarget joins, split]
      rw [otherSame] at perm
      have rest : (before ++ after).Perm (left ++ right) :=
        (List.perm_cons _).mp
          ((List.perm_middle.symm.trans perm).trans List.perm_middle)
      exact (List.perm_middle.trans (rest.cons edge)).trans List.perm_middle.symm

/-- **The inverse of a reversible step undoes it.** -/
theorem MutationStep.undoes {graph next : StructuralGraph} {mutation : Mutation}
    {inverse : InverseOperation} (step : MutationStep graph mutation next inverse)
    (reversible : Reversible graph mutation) :
    Logic.Undoes applyInverse SameContents inverse graph next := by
  cases step with
  | addUnit known permitted fresh => exact undoes_addUnit fresh reversible
  | removeUnit found extended =>
    obtain ⟨named, items, again, written⟩ := reversible
    obtain rfl := Except.ok.inj (extended.symm.trans again)
    exact undoes_removeUnit found (named _ found) written
  | connectUnits edge => exact undoes_connectUnits reversible
  | disconnectUnits source target edgeType sourcePort targetPort =>
    exact undoes_disconnectUnits graph source target edgeType sourcePort targetPort
  | rewireEdge found => exact undoes_rewireEdge found reversible

/-! ### Runs -/

/-- One operation applied successfully, its inverses collected in the log. -/
def applyLogged (state : StructuralGraph × UndoLog) (operation : IROperation) :
    Option (StructuralGraph × UndoLog) :=
  let result := applyOperation state.1 operation
  if result.success then some (result.graph, state.2.transfer result.undoLog) else none

/-- Every operation is reversible on the graph that the ones before it made. -/
def ReversibleRun : StructuralGraph → List IROperation → Prop
  | _, [] => True
  | graph, operation :: rest =>
    (∀ mutation, operation.mutation = some mutation → Reversible graph mutation) ∧
      ReversibleRun (applyOperation graph operation).graph rest

theorem applyLogged_eq_some {graph : StructuralGraph} {undoLog : UndoLog} {operation : IROperation}
    {next : StructuralGraph × UndoLog}
    (applied : applyLogged (graph, undoLog) operation = some next) :
    ∃ mutation made inverse, operation.mutation = some mutation ∧
      MutationStep graph mutation made inverse ∧
      (applyOperation graph operation).graph = { made with version := made.version.nextSequence } ∧
      next = ({ made with version := made.version.nextSequence }, undoLog.push inverse) := by
  simp only [applyLogged] at applied
  split_ifs at applied with success
  obtain ⟨mutation, made, inverse, read, step, same⟩ := applyOperation_success success
  rw [same] at applied ⊢
  exact ⟨mutation, made, inverse, read, step, rfl, (Option.some.inj applied).symm⟩

/-- A reversible run is a chain of steps that its log undoes. -/
theorem chain_of_run {operations : List IROperation} {graph : StructuralGraph} {undoLog : UndoLog}
    {last : StructuralGraph × UndoLog} (reversible : ReversibleRun graph operations)
    (ran : operations.foldlM applyLogged (graph, undoLog) = some last) :
    ∃ inverses, last.2.log = undoLog.log ++ inverses ∧
      Logic.Chain applyInverse SameContents graph inverses last.1 := by
  induction operations generalizing graph undoLog with
  | nil =>
    obtain rfl := Option.some.inj ran
    exact ⟨[], (List.append_nil _).symm, .nil _⟩
  | cons operation rest ih =>
    rw [List.foldlM_cons, Option.bind_eq_bind, Option.bind_eq_some_iff] at ran
    obtain ⟨next, applied, later⟩ := ran
    obtain ⟨mutation, made, inverse, read, step, result, rfl⟩ := applyLogged_eq_some applied
    obtain ⟨here, rests⟩ := reversible
    rw [result] at rests
    obtain ⟨inverses, log, chain⟩ := ih rests later
    refine ⟨inverse :: inverses, ?_, .cons (fun state same => ?_) chain⟩
    · rw [log, UndoLog.push_log, List.append_assoc, List.singleton_append]
    · exact step.undoes (here mutation read) state ⟨same.units, same.edges, same.metadata⟩

theorem applyInverses_of_undoAll {inverses : List InverseOperation}
    {graph restored : StructuralGraph}
    (undone : inverses.foldlM applyInverse graph = .ok restored) :
    applyInverses graph inverses = (restored, none) := by
  induction inverses generalizing graph with
  | nil =>
    obtain rfl := Except.ok.inj undone
    rfl
  | cons inverse rest ih =>
    rw [List.foldlM_cons] at undone
    unfold applyInverses
    cases stepped : applyInverse graph inverse with
    | error error => simp [stepped, bind, Except.bind] at undone
    | ok next =>
      rw [stepped] at undone
      exact ih undone

/-- **Rolling back a reversible run restores the contents of the graph**, without an exception. -/
theorem rollback_restores {graph final : StructuralGraph} {undoLog : UndoLog}
    {operations : List IROperation} (reversible : ReversibleRun graph operations)
    (ran : operations.foldlM applyLogged (graph, {}) = some (final, undoLog)) :
    (rollback final undoLog).2 = none ∧ SameContents graph (rollback final undoLog).1 := by
  obtain ⟨inverses, log, chain⟩ := chain_of_run reversible ran
  have whole : undoLog.log = inverses := log
  obtain ⟨restored, undone, same⟩ := chain.undoAll (SameContents.refl _)
  have rolled : applyInverses final undoLog.popAll.1 = (restored, none) := by
    show applyInverses final undoLog.log.reverse = _
    rw [whole]
    exact applyInverses_of_undoAll undone
  unfold rollback
  rw [rolled]
  exact ⟨rfl, same.units, same.edges, same.metadata⟩

/-- The rule on a run that connects two units the other way round. -/
theorem rollback_restores_connect :
    (rollback (applyOperation Sample.graph (Sample.connect Sample.unitB Sample.unitA)).graph
        ⟨[.disconnectUnits Sample.unitB Sample.unitA .data .null .null]⟩).2 = none ∧
      SameContents Sample.graph
        (rollback (applyOperation Sample.graph (Sample.connect Sample.unitB Sample.unitA)).graph
          ⟨[.disconnectUnits Sample.unitB Sample.unitA .data .null .null]⟩).1 := by
  have reversible : ReversibleRun Sample.graph [Sample.connect Sample.unitB Sample.unitA] := by
    refine ⟨fun mutation read => ?_, trivial⟩
    obtain rfl := Option.some.inj read
    show ∀ other ∈ [Sample.edge], _
    decide
  exact rollback_restores reversible rfl

/-- Connecting two connected units again and rolling back loses the edge there was. -/
theorem rollback_drops_parallel_edge :
    ∃ final undoLog,
      [Sample.connect Sample.unitA Sample.unitB].foldlM applyLogged (Sample.graph, {}) =
        some (final, undoLog) ∧
      (rollback final undoLog).1.edges = [] ∧
      ¬ SameContents Sample.graph (rollback final undoLog).1 := by
  refine ⟨_, _, rfl, by decide, fun same => ?_⟩
  exact absurd same.edges.length_eq (by decide)

end Dnc
