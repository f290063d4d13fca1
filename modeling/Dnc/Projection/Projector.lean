/-
**The projector.**

`dnc.projection.projector.StructuralProjector.project` and, of `dnc.ir.graph`,
`project_to_executable_dag`. Both look for cycles of the data, control and dependency edges, one by
in-degrees (`Logic.Parallel`) and the other by a depth-first search (`Logic.DepthFirst`).

* `executionTables_spec`: the tables hold the targets of every unit and count the edges into it.
* `cycle_detectors_agree`: on a valid graph the search reports a cycle, and the visits miss a unit,
  exactly where the edges have a cycle.

`dict(metadata)` copies an object, and makes entries of a list of pairs; metadata of any other kind
raises.
-/

import Dnc.Ir.Canonical
import Dnc.Ir.ExecutionContext
import Dnc.Logic.DepthFirst
import Dnc.Logic.Parallel

namespace Dnc

open PyLib Logic Relation

/-! ### `dict(value)` -/

/-- `entries[key] = value`, where keys are compared as Python compares them. -/
def setEntry : List (Json × Json) → Json → Json → List (Json × Json)
  | [], key, value => [(key, value)]
  | entry :: rest, key, value =>
    if Json.pyEq entry.1 key then (entry.1, value) :: rest else entry :: setEntry rest key value

/-- One element of a sequence of pairs, at its index. -/
def addPair (entries : List (Json × Json)) (indexed : Json × Nat) :
    Except PyError (List (Json × Json)) :=
  match indexed.1.iterate with
  | .error _ => .error (.typeError
      s!"cannot convert dictionary update sequence element #{indexed.2} to a sequence")
  | .ok [key, value] =>
    if key.hashable = false then .error (.typeError s!"unhashable type: '{key.typeName}'")
    else .ok (setEntry entries key value)
  | .ok parts => .error (.valueError
      (s!"dictionary update sequence element #{indexed.2} has length {parts.length}; " ++
        "2 is required"))

/-- `dict(value)`, as a list of entries. -/
def entriesOf : Json → Except PyError (List (Json × Json))
  | .obj fields => .ok (fields.map fun field => (.str field.1, field.2))
  | value => do
    let items ← value.iterate
    items.zipIdx.foldlM addPair []

/-! ### The executable graph -/

structure ExecutableNode where
  unitId : UnitID
  name : String
  metadata : List (Json × Json)
  idempotency : IdempotencyContract
  sideEffects : SideEffectContract
  placement : PlacementContract
  security : SecurityContract

structure ExecutableEdge where
  source : UnitID
  target : UnitID
  edgeType : String
  metadata : List (Json × Json)
  sourcePort : Json
  targetPort : Json

structure ExecutableDAG where
  graphId : GraphID
  sourceVersion : GraphVersion
  nodes : Dict String ExecutableNode := ∅
  edges : List ExecutableEdge := []
  topologicalOrder : List UnitID
  metadata : JsonObject

/-- The node of a unit. -/
def ComputationalUnit.executable (unit : ComputationalUnit) : Except PyError ExecutableNode := do
  let metadata ← entriesOf unit.metadata
  return {
    unitId := unit.unitId
    name := unit.name
    metadata := metadata
    idempotency := unit.contract.idempotency
    sideEffects := unit.contract.sideEffects
    placement := unit.contract.placement
    security := unit.contract.security }

def Edge.executable (edge : Edge) : Except PyError ExecutableEdge := do
  let metadata ← entriesOf edge.metadata
  return {
    source := edge.source
    target := edge.target
    edgeType := PyEnum.value edge.edgeType
    metadata := metadata
    sourcePort := edge.sourcePort
    targetPort := edge.targetPort }

/-! ### The order of the units -/

/-- `e.edge_type in (EdgeType.DATA, EdgeType.CONTROL, EdgeType.DEPENDENCY)`. -/
def Edge.executes (edge : Edge) : Bool :=
  edge.edgeType == .data || edge.edgeType == .control || edge.edgeType == .dependency

/-- `adj` and `in_degree`. -/
structure ExecutionTables where
  adj : Dict String (List String)
  inDegree : Dict String Int

namespace ExecutionTables

def targets (tables : ExecutionTables) (uid : String) : List String := (tables.adj.get? uid).getD []

def degree (tables : ExecutionTables) (uid : String) : Int := (tables.inDegree.get? uid).getD 0

/-- The body of the loop over the edges. -/
def addEdge (tables : ExecutionTables) (edge : Edge) : ExecutionTables :=
  if edge.executes ∧ edge.source.value ∈ tables.adj ∧ edge.target.value ∈ tables.inDegree then {
    adj := tables.adj.set edge.source.value (tables.targets edge.source.value ++ [edge.target.value])
    inDegree := tables.inDegree.set edge.target.value (tables.degree edge.target.value + 1) }
  else tables

end ExecutionTables

namespace StructuralGraph

def executionTables (graph : StructuralGraph) : ExecutionTables :=
  graph.edges.foldl ExecutionTables.addEdge {
    adj := graph.units.mapValues fun _ => []
    inDegree := graph.units.mapValues fun _ => 0 }

/-- `sorted(adj.get(u, []))`. -/
def sortedTargets (graph : StructuralGraph) (uid : String) : List String :=
  sortBy id (graph.executionTables.targets uid)

/-- The identifiers in the order of their visits. -/
def kahnVisits (graph : StructuralGraph) : List String :=
  kahn graph.sortedTargets graph.units.length graph.executionTables.degree
    (sortBy id (graph.executionTables.inDegree.keys.filter fun uid =>
      graph.executionTables.degree uid = 0))

/-- `graph.units[uid].unit_id`, for keys of the units. -/
def unitIds (graph : StructuralGraph) (uids : List String) : List UnitID :=
  uids.filterMap fun uid => (graph.units.get? uid).map ComputationalUnit.unitId

def fallbackWarning : String :=
  "Structural graph contains cycles in execution edges; topological sort linearized via " ++
    "fallback order."

/-- `topo_order` and `warnings`. -/
def linearize (graph : StructuralGraph) : List UnitID × List String :=
  let order := graph.unitIds graph.kahnVisits
  if order.length ≠ graph.units.length then
    let remaining := sortBy id (graph.units.keys.filter fun uid =>
      (graph.units.get? uid).any fun unit => unit.unitId ∉ order)
    (order ++ graph.unitIds remaining, [fallbackWarning])
  else (order, [])

end StructuralGraph

/-! ### Projection -/

/-- `repr(result.errors)`. -/
def ValidationResult.errorsRepr (result : ValidationResult) : String :=
  "[" ++ ", ".intercalate (result.errors.map ValidationError.repr) ++ "]"

/-- The checks of `project` before it builds anything. -/
def checkProjectable (graph : StructuralGraph) (context : Option ExecutionContext) :
    Except PyError Unit := do
  let result ← validateGraph graph
  if result.isValid = false then
    .error (.valueError s!"Cannot project invalid Structural Graph: {result.errorsRepr}")
  else
    let requiresContext := graph.units.entries.any fun entry =>
      entry.2.contract.requiresExecutionContext
    match context with
    | none =>
      if requiresContext = true then
        .error (.valueError "Cannot project governed graph without an ExecutionContext")
      else .ok ()
    | some context =>
      let result := validateExecutionContext graph context
      if result.isValid = false then
        .error (.valueError
          s!"ExecutionContext does not satisfy Structural Graph: {result.errorsRepr}")
      else .ok ()

/-- `StructuralProjector.project`. -/
def project (graph : StructuralGraph) (context : Option ExecutionContext) :
    Except PyError (ExecutableDAG × List String) := do
  checkProjectable graph context
  let (topologicalOrder, warnings) := graph.linearize
  let nodes ← (sortBy Prod.fst graph.units.entries).mapM fun entry =>
    entry.2.executable.map fun node => (entry.1, node)
  let sortedEdges ← sortEdges graph.edges
  let edges ← sortedEdges.mapM Edge.executable
  return ({
    graphId := graph.graphId
    sourceVersion := graph.version
    nodes := .ofItems nodes
    edges := edges
    topologicalOrder := topologicalOrder
    metadata := graph.metadata }, warnings)

/-! ### The depth-first search -/

namespace StructuralGraph

/-- The body of the loop over the edges in `project_to_executable_dag`. -/
def addTarget (adj : Dict String (List String)) (edge : Edge) :
    Except PyError (Dict String (List String)) :=
  if edge.executes then
    match adj.get? edge.source.value with
    | some targets => .ok (adj.set edge.source.value (targets ++ [edge.target.value]))
    | none => .error (.keyError edge.source.value)
  else .ok adj

def executionAdjacency (graph : StructuralGraph) : Except PyError (Dict String (List String)) :=
  graph.edges.foldlM addTarget (graph.units.mapValues fun _ => [])

def cycleWarnings (hasCycle : Bool) : List String :=
  if hasCycle then
    ["Structural Graph contains cycles in execution edges; executable projection pruned or " ++
      "linearized."]
  else []

/-- `StructuralGraph.project_to_executable_dag`; `none` if a unit of recursion depth for every unit
of the graph were not enough. -/
def projectToExecutableDag (graph : StructuralGraph) :
    Except PyError (Option (StructuralGraph × List String)) := do
  let adj ← graph.executionAdjacency
  let found := searchRoots (fun uid => (adj.get? uid).getD []) graph.units.length graph.units.keys
    ⟨[], []⟩
  return found.map fun hasCycle => (graph, cycleWarnings hasCycle)

end StructuralGraph

/-! ### The tables -/

/-- The edges that count: of an execution type, between units. -/
def executionEdges (units : Dict String ComputationalUnit) (edges : List Edge) : List Edge :=
  edges.filter fun edge =>
    edge.executes && (decide (edge.source.value ∈ units) && decide (edge.target.value ∈ units))

/-- **What the tables hold** after some edges. -/
structure ExecutionTables.Holds (tables : ExecutionTables) (units : Dict String ComputationalUnit)
    (edges : List Edge) : Prop where
  adjKeys : ∀ uid, uid ∈ tables.adj ↔ uid ∈ units
  degreeKeys : ∀ uid, uid ∈ tables.inDegree ↔ uid ∈ units
  targets : ∀ uid, tables.targets uid =
    ((executionEdges units edges).filter fun edge => edge.source.value = uid).map
      fun edge => edge.target.value
  degree : ∀ uid, tables.degree uid =
    (executionEdges units edges).countP fun edge => edge.target.value = uid

section Tables

variable {graph : StructuralGraph} {units : Dict String ComputationalUnit} {edges : List Edge}

theorem mem_mapValues {β : Type} (value : β) (uid : String) :
    (uid ∈ units.mapValues fun _ => value) ↔ uid ∈ units := by
  rw [Dict.mem_iff_get?, Dict.mem_iff_get?, Dict.get?_mapValues]
  simp

theorem ExecutionTables.Holds.addEdge {tables : ExecutionTables} (holds : tables.Holds units edges)
    (edge : Edge) : (tables.addEdge edge).Holds units (edges ++ [edge]) := by
  have split : executionEdges units (edges ++ [edge]) =
      executionEdges units edges ++ executionEdges units [edge] := List.filter_append ..
  have known : edge.executes ∧ edge.source.value ∈ tables.adj ∧
      edge.target.value ∈ tables.inDegree ↔
        edge.executes ∧ edge.source.value ∈ units ∧ edge.target.value ∈ units := by
    rw [holds.adjKeys, holds.degreeKeys]
  unfold ExecutionTables.addEdge
  by_cases counts : edge.executes ∧ edge.source.value ∈ units ∧ edge.target.value ∈ units
  · have kept : executionEdges units [edge] = [edge] := by
      simp [executionEdges, counts]
    rw [if_pos (known.mpr counts)]
    constructor
    · intro uid
      rw [Dict.mem_set, holds.adjKeys]
      exact or_iff_right_of_imp fun same => same ▸ counts.2.1
    · intro uid
      rw [Dict.mem_set, holds.degreeKeys]
      exact or_iff_right_of_imp fun same => same ▸ counts.2.2
    · intro uid
      rw [split, kept, List.filter_append, List.map_append, ← holds.targets]
      rw [ExecutionTables.targets, Dict.get?_set]
      by_cases here : uid = edge.source.value
      · simp [here]
      · simp [here, Ne.symm here, ExecutionTables.targets]
    · intro uid
      rw [split, kept, List.countP_append, Nat.cast_add, ← holds.degree]
      rw [ExecutionTables.degree, Dict.get?_set]
      by_cases here : uid = edge.target.value
      · simp [here]
      · simp [here, Ne.symm here, ExecutionTables.degree]
  · have dropped : executionEdges units [edge] = [] := by
      simpa [executionEdges] using counts
    rw [if_neg (mt known.mp counts)]
    refine ⟨holds.adjKeys, holds.degreeKeys, fun uid => ?_, fun uid => ?_⟩
    · rw [split, dropped, List.append_nil, holds.targets]
    · rw [split, dropped, List.append_nil, holds.degree]

/-- **The tables of a graph.** -/
theorem executionTables_spec (graph : StructuralGraph) :
    graph.executionTables.Holds graph.units graph.edges := by
  have along : ∀ (rest : List Edge) (tables : ExecutionTables) (edges : List Edge),
      tables.Holds graph.units edges →
      (rest.foldl ExecutionTables.addEdge tables).Holds graph.units (edges ++ rest) := by
    intro rest
    induction rest with
    | nil =>
      intro tables edges holds
      rwa [List.append_nil]
    | cons edge later ih =>
      intro tables edges holds
      have next := ih (tables.addEdge edge) (edges ++ [edge]) (holds.addEdge edge)
      rwa [List.append_assoc] at next
  refine along graph.edges _ [] ⟨mem_mapValues [], mem_mapValues 0, fun uid => ?_, fun uid => ?_⟩
  · rw [ExecutionTables.targets, Dict.get?_mapValues]
    cases graph.units.get? uid <;> rfl
  · rw [ExecutionTables.degree, Dict.get?_mapValues]
    cases graph.units.get? uid <;> rfl

end Tables

/-! ### The visits -/

/-- An execution edge from one unit to another. -/
def StructuralGraph.ExecutionEdge (graph : StructuralGraph) (first second : String) : Prop :=
  ∃ edge ∈ graph.edges, edge.executes = true ∧ edge.source.value = first ∧
    edge.target.value = second

/-- The data, control and dependency edges contain a directed cycle. -/
def StructuralGraph.Cyclic (graph : StructuralGraph) : Prop :=
  ∃ uid, TransGen graph.ExecutionEdge uid uid

/-- The identifiers of the units in order. -/
def StructuralGraph.sortedUids (graph : StructuralGraph) : List String := sortBy id graph.units.keys

section Visits

variable {graph : StructuralGraph}

theorem sortBy_id_eq_of_perm {first second : List String} (perm : first.Perm second) :
    sortBy id first = sortBy id second :=
  sortBy_eq_of_perm perm fun _ _ _ _ same => same

theorem sortBy_id_filter (xs : List String) (p : String → Bool) :
    sortBy id (xs.filter p) = (sortBy id xs).filter p := by
  have sorted : ((sortBy id xs).filter p).Pairwise fun first second => id first ≤ id second :=
    (sortBy_pairwise id xs).filter p
  rw [← sortBy_of_pairwise sorted]
  exact sortBy_id_eq_of_perm ((sortBy_perm id xs).symm.filter p)

theorem mem_sortedUids {uid : String} : uid ∈ graph.sortedUids ↔ uid ∈ graph.units := mem_sortBy

theorem sortedUids_nodup (graph : StructuralGraph) : graph.sortedUids.Nodup :=
  (sortBy_perm id _).nodup_iff.mpr graph.units.nodup

/-- The degrees are those of the identifiers of the units. -/
theorem inDegree_keys_perm (graph : StructuralGraph) :
    graph.executionTables.inDegree.keys.Perm graph.units.keys := by
  have keys : graph.executionTables.inDegree.keys.Nodup := graph.executionTables.inDegree.nodup
  have uids : graph.units.keys.Nodup := graph.units.nodup
  rw [List.perm_ext_iff_of_nodup keys uids]
  exact fun uid => (executionTables_spec graph).degreeKeys uid

theorem kahnVisits_eq (graph : StructuralGraph) :
    graph.kahnVisits =
      kahnOrder graph.sortedUids graph.sortedTargets graph.executionTables.degree := by
  have lengths : graph.sortedUids.length = graph.units.length :=
    (sortBy_perm id graph.units.keys).length_eq.trans (List.length_map Prod.fst)
  have keys : sortBy id graph.executionTables.inDegree.keys = graph.sortedUids :=
    sortBy_id_eq_of_perm (inDegree_keys_perm graph)
  unfold StructuralGraph.kahnVisits kahnOrder
  rw [sortBy_id_filter, keys, lengths]

theorem mem_sortedTargets {first second : String} :
    second ∈ graph.sortedTargets first ↔
      ∃ edge ∈ executionEdges graph.units graph.edges,
        edge.source.value = first ∧ edge.target.value = second := by
  unfold StructuralGraph.sortedTargets
  rw [mem_sortBy, (executionTables_spec graph).targets, List.mem_map]
  simp only [List.mem_filter, decide_eq_true_eq, and_assoc]

theorem mem_executionEdges {units : Dict String ComputationalUnit} {edges : List Edge}
    {edge : Edge} : edge ∈ executionEdges units edges ↔
      edge ∈ edges ∧ edge.executes = true ∧ edge.source.value ∈ units ∧
        edge.target.value ∈ units := by
  unfold executionEdges
  rw [List.mem_filter, Bool.and_eq_true, Bool.and_eq_true, decide_eq_true_eq, decide_eq_true_eq]

theorem sortedTargets_finite (graph : StructuralGraph) :
    FiniteGraph graph.sortedUids (simpleSucc graph.sortedTargets) where
  distinct := sortedUids_nodup graph
  simple := fun uid _ => List.nodup_dedup _
  closed := by
    intro uid _ next target
    obtain ⟨edge, counts, -, rfl⟩ := mem_sortedTargets.mp (List.mem_dedup.mp target)
    exact mem_sortedUids.mpr (mem_executionEdges.mp counts).2.2.2

/-- Every edge leaves one node: counted by the nodes that they leave, they are counted once. -/
theorem sum_countP_source {nodes : List String} (distinct : nodes.Nodup) (q : Edge → Bool) :
    ∀ {edges : List Edge}, (∀ edge ∈ edges, edge.source.value ∈ nodes) →
      (nodes.map fun uid => (edges.filter fun edge => edge.source.value = uid).countP q).sum =
        edges.countP q
  | [], _ => by simp
  | edge :: rest, within => by
    rw [List.forall_mem_cons] at within
    have later := sum_countP_source distinct q within.2
    have split := List.perm_cons_erase within.1
    have others : ((nodes.erase edge.source.value).map fun uid =>
        ((edge :: rest).filter fun edge => edge.source.value = uid).countP q) =
          (nodes.erase edge.source.value).map fun uid =>
            (rest.filter fun edge => edge.source.value = uid).countP q := by
      apply List.map_congr_left
      intro uid inRest
      have apart : edge.source.value ≠ uid := by
        rintro rfl
        exact distinct.not_mem_erase inRest
      rw [List.filter_cons_of_neg (by simpa using apart)]
    rw [(split.map _).sum_eq, List.map_cons, List.sum_cons] at later ⊢
    rw [others, List.filter_cons_of_pos (by simp), List.countP_cons, List.countP_cons, ← later]
    omega

/-- The in-degrees count the edges that the targets list. -/
theorem degree_eq_pendingEdges (graph : StructuralGraph) (uid : String) :
    graph.executionTables.degree uid =
      pendingEdges graph.sortedUids graph.sortedTargets [] uid := by
  have listed : ∀ source, (graph.sortedTargets source).count uid =
      ((executionEdges graph.units graph.edges).filter fun edge =>
        edge.source.value = source).countP fun edge => edge.target.value = uid := by
    intro source
    unfold StructuralGraph.sortedTargets
    rw [(sortBy_perm id _).count_eq, (executionTables_spec graph).targets, List.count,
      List.countP_map]
    exact List.countP_congr fun edge _ => by simp
  have within : ∀ edge ∈ executionEdges graph.units graph.edges,
      edge.source.value ∈ graph.sortedUids :=
    fun edge counts => mem_sortedUids.mpr (mem_executionEdges.mp counts).2.2.1
  have once := sum_countP_source (sortedUids_nodup graph) (fun edge => edge.target.value = uid) within
  rw [(executionTables_spec graph).degree, ← once]
  unfold pendingEdges
  simp only [listed, List.not_mem_nil, if_false]

section Valid

variable (valid : Valid graph)

include valid

/-- The edges of a valid graph are between its units. -/
theorem executionEdge_iff {first second : String} :
    Logic.Edge graph.sortedUids graph.sortedTargets first second ↔
      graph.ExecutionEdge first second := by
  have sound := edgesSound_of_valid valid
  unfold Logic.Edge StructuralGraph.ExecutionEdge
  rw [mem_sortedTargets, mem_sortedUids]
  constructor
  · rintro ⟨-, edge, counts, source, target⟩
    obtain ⟨member, executes, -⟩ := mem_executionEdges.mp counts
    exact ⟨edge, member, executes, source, target⟩
  · rintro ⟨edge, member, executes, rfl, rfl⟩
    have present := sound.present edge member
    exact ⟨present.1, edge, mem_executionEdges.mpr ⟨member, executes, present⟩, rfl, rfl⟩

theorem executionEdge_eq : Logic.Edge graph.sortedUids graph.sortedTargets =
    graph.ExecutionEdge := by
  funext first second
  exact propext (executionEdge_iff valid)

/-- **The visits miss a unit exactly where there is a cycle.** -/
theorem kahnVisits_complete_iff :
    graph.kahnVisits.length = graph.units.length ↔ ¬ graph.Cyclic := by
  have lengths : graph.sortedUids.length = graph.units.length :=
    (sortBy_perm id graph.units.keys).length_eq.trans (List.length_map Prod.fst)
  rw [kahnVisits_eq, ← lengths, parallel_complete_iff (sortedTargets_finite graph)
    fun uid _ => degree_eq_pendingEdges graph uid, executionEdge_eq valid]
  exact not_exists.symm

/-- **Without a cycle the visits are a topological order.** -/
theorem kahnVisits_topological (acyclic : ¬ graph.Cyclic) :
    TopologicalOrder graph.sortedUids graph.ExecutionEdge graph.kahnVisits := by
  rw [← executionEdge_eq valid, kahnVisits_eq]
  refine parallel_topological (sortedTargets_finite graph)
    (fun uid _ => degree_eq_pendingEdges graph uid) ?_
  rw [executionEdge_eq valid]
  exact not_exists.mp acyclic

end Valid

/-- No unit is visited twice, and only units are. -/
theorem kahnVisits_visits (graph : StructuralGraph) :
    graph.kahnVisits.Nodup ∧ graph.kahnVisits ⊆ graph.sortedUids := by
  rw [kahnVisits_eq]
  exact parallel_visits (sortedTargets_finite graph) fun uid _ => degree_eq_pendingEdges graph uid

end Visits

/-! ### Two cycle detectors -/

section Search

variable {graph : StructuralGraph}

/-- The loop over edges whose sources have a list. -/
theorem addTarget_spec {edges : List Edge} {adj : Dict String (List String)}
    (known : ∀ edge ∈ edges, edge.source.value ∈ adj) :
    ∃ last, edges.foldlM StructuralGraph.addTarget adj = .ok last ∧
      ∀ first second, second ∈ (last.get? first).getD [] ↔
        second ∈ (adj.get? first).getD [] ∨ ∃ edge ∈ edges, edge.executes = true ∧
          edge.source.value = first ∧ edge.target.value = second := by
  induction edges generalizing adj with
  | nil => exact ⟨adj, rfl, fun first second => by simp⟩
  | cons edge rest ih =>
    rw [List.forall_mem_cons] at known
    rw [List.foldlM_cons, StructuralGraph.addTarget]
    by_cases executes : edge.executes = true
    · obtain ⟨targets, found⟩ := Dict.mem_iff_get?.mp known.1
      obtain ⟨last, ran, members⟩ :=
        @ih (adj.set edge.source.value (targets ++ [edge.target.value]))
          fun other member => Dict.mem_set.mpr (Or.inr (known.2 other member))
      refine ⟨last, ?_, fun first second => ?_⟩
      · rw [if_pos executes, found]
        exact ran
      · rw [members, Dict.get?_set, List.exists_mem_cons_iff]
        by_cases here : first = edge.source.value
        · subst here
          rw [if_pos rfl, found, Option.getD_some, Option.getD_some, List.mem_append,
            List.mem_singleton, or_assoc, eq_comm (a := second)]
          simp [executes]
        · simp [here, Ne.symm here]
    · obtain ⟨last, ran, members⟩ := ih known.2
      refine ⟨last, ?_, fun first second => ?_⟩
      · rw [if_neg executes]
        exact ran
      · rw [members, List.exists_mem_cons_iff]
        simp [executes]

/-- The lists of the search are those of the edges between units, if no source is missing. -/
theorem executionAdjacency_spec (present : ∀ edge ∈ graph.edges, edge.source.value ∈ graph.units) :
    ∃ adj, graph.executionAdjacency = .ok adj ∧ ∀ first second,
      second ∈ (adj.get? first).getD [] ↔ graph.ExecutionEdge first second := by
  obtain ⟨adj, built, members⟩ := @addTarget_spec graph.edges (graph.units.mapValues fun _ => [])
    fun edge member => (mem_mapValues [] _).mpr (present edge member)
  refine ⟨adj, built, fun first second => ?_⟩
  have empty : ((graph.units.mapValues fun _ => ([] : List String)).get? first).getD [] = [] := by
    rw [Dict.get?_mapValues]
    cases graph.units.get? first <;> rfl
  rw [members, empty]
  simp [StructuralGraph.ExecutionEdge]

/-- **The depth-first search returns, and warns exactly where there is a cycle.** -/
theorem projectToExecutableDag_spec (valid : Valid graph) :
    ∃ warnings, graph.projectToExecutableDag = .ok (some (graph, warnings)) ∧
      (warnings ≠ [] ↔ graph.Cyclic) := by
  have sound := edgesSound_of_valid valid
  obtain ⟨adj, built, members⟩ :=
    executionAdjacency_spec fun edge member => (sound.present edge member).1
  have edges : (fun first second => second ∈ (adj.get? first).getD []) = graph.ExecutionEdge := by
    funext first second
    exact propext (members first second)
  have closed : ∀ uid ∈ graph.units.keys, ∀ next ∈ (adj.get? uid).getD [],
      next ∈ graph.units.keys := by
    intro uid _ next target
    obtain ⟨edge, member, -, -, rfl⟩ := (members uid next).mp target
    exact (sound.present edge member).2
  have enough : graph.units.keys.length ≤ graph.units.length := (List.length_map Prod.fst).le
  obtain ⟨found, ran, cycle⟩ := searchRoots_iff closed enough
  have cyclic : found = true ↔ graph.Cyclic := by
    rw [cycle, edges]
    refine ⟨fun ⟨uid, _, loop⟩ => ⟨uid, loop⟩, fun ⟨uid, loop⟩ => ⟨uid, ?_, loop⟩⟩
    obtain ⟨next, ⟨edge, member, -, rfl, -⟩, -⟩ := TransGen.head'_iff.mp loop
    exact (sound.present edge member).1
  refine ⟨StructuralGraph.cycleWarnings found, ?_, ?_⟩
  · unfold StructuralGraph.projectToExecutableDag
    rw [built]
    show Except.ok (Option.map _ (searchRoots _ _ _ _)) = _
    rw [ran]
    rfl
  · rw [← cyclic]
    unfold StructuralGraph.cycleWarnings
    cases found <;> simp

/-- **Both detectors report the cycles of the execution edges**, self loops and parallel edges
included. -/
theorem cycle_detectors_agree (valid : Valid graph) :
    (∃ warnings, graph.projectToExecutableDag = .ok (some (graph, warnings)) ∧
        (warnings ≠ [] ↔ graph.kahnVisits.length ≠ graph.units.length)) ∧
      (graph.kahnVisits.length ≠ graph.units.length ↔ graph.Cyclic) := by
  have missed : graph.kahnVisits.length ≠ graph.units.length ↔ graph.Cyclic := by
    rw [ne_eq, kahnVisits_complete_iff valid, not_not]
  obtain ⟨warnings, ran, warned⟩ := projectToExecutableDag_spec valid
  exact ⟨⟨warnings, ran, warned.trans missed.symm⟩, missed⟩

end Search

namespace Sample

/-- The two units, each depending on the other, with a parallel edge. -/
def looping : StructuralGraph :=
  { graph with edges := [edge, { edge with edgeType := .control },
    { source := unitB, target := unitA, edgeType := .dependency }] }

end Sample

/-- The detectors on two units that depend on each other. -/
theorem cycle_detectors_agree_looping :
    ∃ warnings, Sample.looping.projectToExecutableDag = .ok (some (Sample.looping, warnings)) ∧
      warnings ≠ [] ∧ Sample.looping.Cyclic := by
  have valid : Valid Sample.looping := ⟨⟨true, [], []⟩, rfl, rfl⟩
  obtain ⟨⟨warnings, ran, warned⟩, missed⟩ := cycle_detectors_agree valid
  have left : Sample.looping.kahnVisits.length ≠ Sample.looping.units.length := by decide
  exact ⟨warnings, ran, warned.mpr left, missed.mp left⟩

end Dnc
