/-
**What a projection is.**

* `project_returns_iff`: a graph is projected exactly where it is admitted and `dict` accepts the
  metadata of its units and edges.
* `projected_of_project`: every unit has its place in the order, every edge that executes goes
  forward unless there is a warning of a cycle, and nodes and edges are those of the graph.
* `project_reordered`: the order in which units and edges were inserted makes no difference.
* `projection_faithful_iff` puts them together.
-/

import Dnc.Projection.Projector
import Dnc.Registry.Graphs

namespace Dnc

open PyLib Logic Registry

/-! ### When there is a projection -/

/-- `dict(value)` does not raise. -/
def Convertible (value : Json) : Prop := ∃ entries, entriesOf value = .ok entries

/-- Every free-form dictionary of the units and edges is one, or can be made one. -/
structure StructuralGraph.MetadataConverts (graph : StructuralGraph) : Prop where
  units : ∀ uid unit, graph.units.get? uid = some unit → Convertible unit.metadata
  edges : ∀ edge ∈ graph.edges, Convertible edge.metadata

section Returns

variable {graph : StructuralGraph} {context : Option ExecutionContext}

theorem checkProjectable_eq_ok : checkProjectable graph context = .ok () ↔ Admitted graph context := by
  rw [← admitGraph_eq_ok]
  unfold checkProjectable admitGraph
  rw [bind_eq_ok, bind_eq_ok]
  cases context with
  | none => simp only [guard_eq_ok]
  | some given =>
    simp only [guard_eq_ok, admitContext]

theorem returns_iff {ε α β : Type} {action : Except ε α} {build : α → β} :
    (∃ result, (action >>= fun value => .ok (build value)) = .ok result) ↔
      ∃ value, action = .ok value := by
  constructor
  · rintro ⟨result, ran⟩
    obtain ⟨value, returned, -⟩ := bind_eq_ok.mp ran
    exact ⟨value, returned⟩
  · rintro ⟨value, returned⟩
    exact ⟨_, bind_eq_ok.mpr ⟨value, returned, rfl⟩⟩

theorem executable_unit_returns {unit : ComputationalUnit} :
    (∃ node, unit.executable = .ok node) ↔ Convertible unit.metadata :=
  returns_iff

theorem executable_edge_returns {edge : Edge} :
    (∃ made, edge.executable = .ok made) ↔ Convertible edge.metadata :=
  returns_iff

/-- A loop that returns has returned for every element. -/
theorem mapM_returns_iff {α β ε : Type} {f : α → Except ε β} {items : List α} :
    (∃ results, items.mapM f = .ok results) ↔ ∀ item ∈ items, ∃ result, f item = .ok result := by
  refine ⟨?_, mapM_total⟩
  rintro ⟨results, ran⟩ item member
  have each := mapM_eq_ok.mp ran
  obtain ⟨index, bound, rfl⟩ := List.mem_iff_getElem.mp member
  exact ⟨_, each.get bound (each.length_eq ▸ bound)⟩

/-- The entries of the nodes. -/
def nodeEntries (graph : StructuralGraph) : Except PyError (List (String × ExecutableNode)) :=
  (sortBy Prod.fst graph.units.entries).mapM fun entry =>
    entry.2.executable.map fun node => (entry.1, node)

theorem nodeEntries_returns :
    (∃ nodes, nodeEntries graph = .ok nodes) ↔
      ∀ uid unit, graph.units.get? uid = some unit → Convertible unit.metadata := by
  unfold nodeEntries
  rw [mapM_returns_iff]
  constructor
  · intro each uid unit stored
    obtain ⟨node, made⟩ := each (uid, unit) (mem_sortBy.mpr (Dict.mem_entries.mpr stored))
    obtain ⟨value, executable, -⟩ := map_eq_ok.mp made
    exact executable_unit_returns.mp ⟨value, executable⟩
  · rintro all ⟨uid, unit⟩ member
    have stored := Dict.mem_entries.mp (mem_sortBy.mp member)
    obtain ⟨value, executable⟩ := executable_unit_returns.mpr (all uid unit stored)
    exact ⟨_, map_eq_ok.mpr ⟨value, executable, rfl⟩⟩

/-- What `project` has built when it returns. -/
theorem project_eq_ok {dag : ExecutableDAG} {warnings : List String} :
    project graph context = .ok (dag, warnings) ↔
      Admitted graph context ∧ ∃ nodes edges, nodeEntries graph = .ok nodes ∧
        (sortBy Edge.keyTexts graph.edges).mapM Edge.executable = .ok edges ∧
        dag = {
          graphId := graph.graphId
          sourceVersion := graph.version
          nodes := .ofItems nodes
          edges := edges
          topologicalOrder := graph.linearize.1
          metadata := graph.metadata } ∧
        warnings = graph.linearize.2 := by
  constructor
  · intro ran
    obtain ⟨_, checked, ran⟩ := bind_eq_ok.mp ran
    have admitted := checkProjectable_eq_ok.mp checked
    obtain ⟨nodes, made, ran⟩ := bind_eq_ok.mp ran
    obtain ⟨sorted, sorts, ran⟩ := bind_eq_ok.mp ran
    rw [sortEdges_of_named (edgesSound_of_valid admitted.valid).portsNamed] at sorts
    obtain rfl := Except.ok.inj sorts
    obtain ⟨edges, each, same⟩ := bind_eq_ok.mp ran
    cases same
    exact ⟨admitted, nodes, edges, made, each, rfl, rfl⟩
  · rintro ⟨admitted, nodes, edges, made, each, rfl, rfl⟩
    have sorts := sortEdges_of_named (edgesSound_of_valid admitted.valid).portsNamed
    exact bind_eq_ok.mpr ⟨(), checkProjectable_eq_ok.mpr admitted, bind_eq_ok.mpr ⟨nodes, made,
      bind_eq_ok.mpr ⟨_, sorts, bind_eq_ok.mpr ⟨edges, each, rfl⟩⟩⟩⟩

/-- **What is projected**: every admitted graph with such metadata, and no other. -/
theorem project_returns_iff :
    (∃ result, project graph context = .ok result) ↔
      Admitted graph context ∧ graph.MetadataConverts := by
  have edgesReturn : (∃ edges, (sortBy Edge.keyTexts graph.edges).mapM Edge.executable = .ok edges) ↔
      ∀ edge ∈ graph.edges, Convertible edge.metadata := by
    rw [mapM_returns_iff]
    simp only [mem_sortBy, executable_edge_returns]
  constructor
  · rintro ⟨⟨dag, warnings⟩, ran⟩
    obtain ⟨admitted, nodes, edges, made, each, -⟩ := project_eq_ok.mp ran
    exact ⟨admitted, nodeEntries_returns.mp ⟨nodes, made⟩, edgesReturn.mp ⟨edges, each⟩⟩
  · rintro ⟨admitted, converts⟩
    obtain ⟨nodes, made⟩ := nodeEntries_returns.mpr converts.units
    obtain ⟨edges, each⟩ := edgesReturn.mpr converts.edges
    exact ⟨(_, _), project_eq_ok.mpr ⟨admitted, nodes, edges, made, each, rfl, rfl⟩⟩

end Returns

/-! ### The order of the units -/

/-- The place of an element is that of its image. -/
theorem idxOf_map_of_injective {α β : Type} [DecidableEq α] [DecidableEq β] {f : α → β}
    (injective : Function.Injective f) (xs : List α) (x : α) :
    (xs.map f).idxOf (f x) = xs.idxOf x := by
  induction xs with
  | nil => rfl
  | cons first rest ih =>
    rw [List.map_cons]
    by_cases here : first = x
    · rw [here, List.idxOf_cons_self, List.idxOf_cons_self]
    · have apart : f first ≠ f x := fun same => here (injective same)
      rw [List.idxOf_cons_ne rest here, List.idxOf_cons_ne _ apart, ih]

theorem kahnVisits_known {graph : StructuralGraph} :
    ∀ uid ∈ graph.kahnVisits, uid ∈ graph.units := fun _ visited =>
  mem_sortedUids.mp ((kahnVisits_visits graph).2 visited)

section Order

variable {graph : StructuralGraph} (keys : graph.KeysMatch)

include keys

/-- The identifiers of units are the keys that they are stored under. -/
theorem unitIds_value {uids : List String} (known : ∀ uid ∈ uids, uid ∈ graph.units) :
    (graph.unitIds uids).map UnitID.value = uids := by
  induction uids with
  | nil => rfl
  | cons uid rest ih =>
    rw [List.forall_mem_cons] at known
    obtain ⟨unit, stored⟩ := Dict.mem_iff_get?.mp known.1
    have later := ih known.2
    unfold StructuralGraph.unitIds at later ⊢
    rw [List.filterMap_cons_some (by rw [stored]; rfl), List.map_cons, later,
      keys uid unit stored]

theorem mem_unitIds {uids : List String} (known : ∀ uid ∈ uids, uid ∈ graph.units)
    {unitId : UnitID} : unitId ∈ graph.unitIds uids ↔ unitId.value ∈ uids := by
  rw [← unitIds_value keys known, List.mem_map_of_injective UnitID.value_injective,
    unitIds_value keys known]

theorem values_unitId : (graph.units.values.map ComputationalUnit.unitId).map UnitID.value =
    graph.units.keys := by
  unfold Dict.values Dict.keys
  rw [List.map_map, List.map_map]
  apply List.map_congr_left
  rintro ⟨uid, unit⟩ member
  exact keys uid unit (Dict.mem_entries.mp member)

/-- The units that the visits have missed. -/
theorem remaining_eq :
    (graph.units.keys.filter fun uid => (graph.units.get? uid).any fun unit =>
        decide (unit.unitId ∉ graph.unitIds graph.kahnVisits)) =
      graph.units.keys.filter fun uid => decide (uid ∉ graph.kahnVisits) := by
  apply List.filter_congr
  intro uid listed
  obtain ⟨unit, stored⟩ := Dict.mem_iff_get?.mp listed
  rw [stored, Option.any_some, decide_eq_decide, mem_unitIds keys kahnVisits_known,
    keys uid unit stored]

/-- What is made of the visits. -/
theorem linearize_eq : graph.linearize =
    if graph.kahnVisits.length ≠ graph.units.length then
      (graph.unitIds graph.kahnVisits ++ graph.unitIds
        (sortBy id (graph.units.keys.filter fun uid => decide (uid ∉ graph.kahnVisits))),
        [StructuralGraph.fallbackWarning])
    else (graph.unitIds graph.kahnVisits, []) := by
  have lengths : (graph.unitIds graph.kahnVisits).length = graph.kahnVisits.length := by
    rw [← List.length_map UnitID.value, unitIds_value keys kahnVisits_known]
  rw [← lengths, ← remaining_eq keys]
  rfl

/-- **The order is a permutation of the identifiers**, whether or not there is a cycle. -/
theorem linearize_perm :
    graph.linearize.1.Perm (graph.units.values.map ComputationalUnit.unitId) := by
  rw [← List.map_perm_map_iff UnitID.value_injective, values_unitId keys, linearize_eq keys]
  have visited := unitIds_value keys kahnVisits_known
  obtain ⟨distinct, within⟩ := kahnVisits_visits graph
  have uids : graph.units.keys.Nodup := graph.units.nodup
  split_ifs with missed
  · have left : ∀ uid ∈ sortBy id (graph.units.keys.filter fun uid =>
        decide (uid ∉ graph.kahnVisits)), uid ∈ graph.units :=
      fun uid member => List.mem_of_mem_filter (mem_sortBy.mp member)
    have sorted := sortBy_perm id (graph.units.keys.filter fun uid =>
      decide (uid ∉ graph.kahnVisits))
    have apart : (graph.kahnVisits ++ graph.units.keys.filter fun uid =>
        decide (uid ∉ graph.kahnVisits)).Nodup := by
      refine List.nodup_append.mpr ⟨distinct, uids.filter _, ?_⟩
      rintro uid old _ new rfl
      exact of_decide_eq_true (List.mem_filter.mp new).2 old
    rw [List.map_append, visited, unitIds_value keys left]
    refine (sorted.append_left _).trans ((List.perm_ext_iff_of_nodup apart uids).mpr fun uid => ?_)
    rw [List.mem_append, List.mem_filter, decide_eq_true_eq]
    constructor
    · rintro (old | new)
      · exact kahnVisits_known uid old
      · exact new.1
    · intro member
      by_cases old : uid ∈ graph.kahnVisits
      · exact Or.inl old
      · exact Or.inr ⟨member, old⟩
  · have complete : graph.units.keys.length ≤ graph.kahnVisits.length := by
      rw [not_not.mp missed]
      exact (List.length_map Prod.fst).le
    have subset : graph.kahnVisits ⊆ graph.units.keys := fun uid member =>
      kahnVisits_known uid member
    rw [visited]
    exact (distinct.subperm subset).perm_of_length_le complete

/-- **There is a warning exactly where there is a cycle.** -/
theorem linearize_warns (valid : Valid graph) : graph.linearize.2 ≠ [] ↔ graph.Cyclic := by
  have complete := kahnVisits_complete_iff valid
  rw [linearize_eq keys]
  split_ifs with missed
  · exact iff_of_true (List.cons_ne_nil _ _) (not_not.mp fun none => missed (complete.mpr none))
  · exact iff_of_false (fun some => some rfl) (complete.mp (not_not.mp missed))

/-- **Without a cycle every edge that executes goes forward.** -/
theorem linearize_forward (valid : Valid graph) (acyclic : ¬ graph.Cyclic) {edge : Edge}
    (member : edge ∈ graph.edges) (executes : edge.executes = true) :
    graph.linearize.1.idxOf edge.source < graph.linearize.1.idxOf edge.target := by
  have complete := (kahnVisits_complete_iff valid).mpr acyclic
  have order := (kahnVisits_topological valid acyclic).forward edge.source.value edge.target.value
    ⟨edge, member, executes, rfl, rfl⟩
  rw [linearize_eq keys, if_neg (not_not.mpr complete),
    ← idxOf_map_of_injective UnitID.value_injective,
    ← idxOf_map_of_injective UnitID.value_injective, unitIds_value keys kahnVisits_known]
  exact order

end Order

/-! ### The order of insertion -/

/-- The same units and edges, inserted in another order. -/
structure StructuralGraph.Reordered (graph other : StructuralGraph) : Prop where
  graphId : other.graphId = graph.graphId
  version : other.version = graph.version
  metadata : other.metadata = graph.metadata
  units : other.units.entries.Perm graph.units.entries
  edges : other.edges.Perm graph.edges

section Reordered

variable {graph other : StructuralGraph} (reordered : graph.Reordered other)

include reordered

theorem StructuralGraph.Reordered.get? (uid : String) :
    other.units.get? uid = graph.units.get? uid := by
  apply Option.ext
  intro unit
  show other.units.get? uid = some unit ↔ graph.units.get? uid = some unit
  rw [← Dict.mem_entries, ← Dict.mem_entries, reordered.units.mem_iff]

theorem StructuralGraph.Reordered.mem_iff (uid : String) :
    uid ∈ other.units ↔ uid ∈ graph.units := by
  rw [Dict.mem_iff_get?, Dict.mem_iff_get?, reordered.get?]

theorem StructuralGraph.Reordered.keys : other.units.keys.Perm graph.units.keys :=
  reordered.units.map Prod.fst

theorem StructuralGraph.Reordered.length : other.units.length = graph.units.length :=
  reordered.units.length_eq

theorem StructuralGraph.Reordered.content : graph.content = other.content := by
  have edges : (graph.edges.map Edge.content : Multiset Edge) = other.edges.map Edge.content :=
    Quot.sound (reordered.edges.symm.map _)
  unfold StructuralGraph.content
  simp only [reordered.graphId, reordered.version, reordered.metadata, reordered.get?, edges]

theorem executionEdges_reordered : (executionEdges other.units other.edges).Perm
    (executionEdges graph.units graph.edges) := by
  have same : executionEdges other.units other.edges = executionEdges graph.units other.edges := by
    apply List.filter_congr
    intro edge _
    rw [decide_eq_decide.mpr (reordered.mem_iff edge.source.value),
      decide_eq_decide.mpr (reordered.mem_iff edge.target.value)]
  rw [same]
  exact reordered.edges.filter _

theorem kahnVisits_reordered : other.kahnVisits = graph.kahnVisits := by
  have edges := executionEdges_reordered reordered
  have uids : other.sortedUids = graph.sortedUids := sortBy_id_eq_of_perm reordered.keys
  have targets : other.sortedTargets = graph.sortedTargets := by
    funext uid
    apply sortBy_id_eq_of_perm
    rw [(executionTables_spec other).targets, (executionTables_spec graph).targets]
    exact (edges.filter _).map _
  have degree : other.executionTables.degree = graph.executionTables.degree := by
    funext uid
    rw [(executionTables_spec other).degree, (executionTables_spec graph).degree,
      edges.countP_eq]
  rw [kahnVisits_eq, kahnVisits_eq, uids, targets, degree]

theorem linearize_reordered (keys : graph.KeysMatch) : other.linearize = graph.linearize := by
  have keysOther : other.KeysMatch := fun uid unit stored =>
    keys uid unit (reordered.get? uid ▸ stored)
  have ids : other.unitIds = graph.unitIds := by
    funext uids
    unfold StructuralGraph.unitIds
    simp only [reordered.get?]
  have missed : ∀ uids : List String,
      sortBy id (other.units.keys.filter fun uid => decide (uid ∉ uids)) =
        sortBy id (graph.units.keys.filter fun uid => decide (uid ∉ uids)) :=
    fun uids => sortBy_id_eq_of_perm (reordered.keys.filter _)
  rw [linearize_eq keysOther, linearize_eq keys, kahnVisits_reordered reordered,
    reordered.length, ids, missed]

/-- **The order of insertion makes no difference.** -/
theorem project_reordered {context : Option ExecutionContext} {dag : ExecutableDAG}
    {warnings : List String} (keys : graph.KeysMatch)
    (ran : project graph context = .ok (dag, warnings)) :
    project other context = .ok (dag, warnings) := by
  obtain ⟨admitted, nodes, edges, made, each, rfl, rfl⟩ := project_eq_ok.mp ran
  have nodesSame : nodeEntries other = nodeEntries graph := by
    unfold nodeEntries
    rw [sortBy_eq_of_perm reordered.units fun first inFirst second inSecond same =>
      List.inj_on_of_nodup_map other.units.nodup inFirst inSecond same]
  have edgesSame : sortBy Edge.keyTexts other.edges = sortBy Edge.keyTexts graph.edges :=
    (sortBy_eq_of_perm reordered.edges.symm fun first inFirst second inSecond same =>
      keyTexts_injective (edgesSound_of_valid admitted.valid) inFirst inSecond same).symm
  refine project_eq_ok.mpr ⟨admitted.of_content reordered.content, nodes, edges,
    nodesSame.trans made, edgesSame ▸ each, ?_, ?_⟩
  · rw [reordered.graphId, reordered.version, reordered.metadata,
      linearize_reordered reordered keys]
  · rw [linearize_reordered reordered keys]

end Reordered

/-! ### The projection -/

/-- **What a projection owes to its graph.** -/
structure Projected (graph : StructuralGraph) (dag : ExecutableDAG) (warnings : List String) :
    Prop where
  order : dag.topologicalOrder.Perm (graph.units.values.map ComputationalUnit.unitId)
  acyclic : ¬ graph.Cyclic → warnings = [] ∧ ∀ edge ∈ graph.edges, edge.executes = true →
    dag.topologicalOrder.idxOf edge.source < dag.topologicalOrder.idxOf edge.target
  cyclic : graph.Cyclic → warnings ≠ []
  nodeKeys : dag.nodes.keys.Perm graph.units.keys
  nodes : ∀ uid unit, graph.units.get? uid = some unit →
    ∃ node, dag.nodes.get? uid = some node ∧ unit.executable = .ok node
  edges : ∃ edges, edges.Perm graph.edges ∧
    List.Forall₂ (fun edge made => edge.executable = .ok made) edges dag.edges

section Projection

variable {graph : StructuralGraph}

/-- The entries of the nodes are those of the units, in the order of their keys. -/
theorem nodeEntries_spec {nodes : List (String × ExecutableNode)}
    (made : nodeEntries graph = .ok nodes) :
    (Dict.ofItems nodes).keys.Perm graph.units.keys ∧
      ∀ uid unit, graph.units.get? uid = some unit →
        ∃ node, (Dict.ofItems nodes).get? uid = some node ∧ unit.executable = .ok node := by
  have each := mapM_eq_ok.mp made
  have names : nodes.map Prod.fst = (sortBy Prod.fst graph.units.entries).map Prod.fst := by
    symm
    refine List.forall₂_eq_eq_eq ▸ List.forall₂_map_left_iff.mpr (List.forall₂_map_right_iff.mpr
      (each.imp fun entry item same => ?_))
    obtain ⟨node, -, rfl⟩ := map_eq_ok.mp same
    rfl
  have perm := (sortBy_perm Prod.fst graph.units.entries).map Prod.fst
  have distinct : (nodes.map Prod.fst).Nodup := by
    rw [names]
    exact perm.nodup_iff.mpr graph.units.nodup
  have stored : (Dict.ofItems nodes).entries = nodes := Dict.entries_ofItems distinct
  constructor
  · unfold Dict.keys
    rw [stored, names]
    exact perm
  · intro uid unit found
    have member : (uid, unit) ∈ sortBy Prod.fst graph.units.entries :=
      mem_sortBy.mpr (Dict.mem_entries.mpr found)
    obtain ⟨index, bound, here⟩ := List.mem_iff_getElem.mp member
    have boundNodes := each.length_eq ▸ bound
    have same := each.get bound boundNodes
    rw [List.get_eq_getElem, here] at same
    obtain ⟨node, executable, item⟩ := map_eq_ok.mp same
    refine ⟨node, ?_, executable⟩
    rw [← Dict.mem_entries, stored, item]
    exact List.getElem_mem boundNodes

theorem projected_of_project {context : Option ExecutionContext} {dag : ExecutableDAG}
    {warnings : List String} (keys : graph.KeysMatch)
    (ran : project graph context = .ok (dag, warnings)) : Projected graph dag warnings := by
  obtain ⟨admitted, nodes, edges, made, each, rfl, rfl⟩ := project_eq_ok.mp ran
  have warns := linearize_warns keys admitted.valid
  obtain ⟨nodeKeys, stored⟩ := nodeEntries_spec made
  constructor
  · exact linearize_perm keys
  · refine fun acyclic => ⟨?_, fun edge member executes => ?_⟩
    · exact not_not.mp fun some => acyclic (warns.mp some)
    · exact linearize_forward keys admitted.valid acyclic member executes
  · exact warns.mpr
  · exact nodeKeys
  · exact stored
  · exact ⟨_, sortBy_perm _ _, mapM_eq_ok.mp each⟩

/-- **A valid graph is projected faithfully, and alike for every order of insertion, exactly where
`dict` accepts the metadata of its units and edges.** -/
theorem projection_faithful_iff {context : Option ExecutionContext} (keys : graph.KeysMatch)
    (admitted : Admitted graph context) :
    (∃ dag warnings, project graph context = .ok (dag, warnings) ∧
        Projected graph dag warnings ∧
        ∀ other, graph.Reordered other → project other context = .ok (dag, warnings)) ↔
      graph.MetadataConverts := by
  constructor
  · rintro ⟨dag, warnings, ran, -⟩
    exact (project_returns_iff.mp ⟨_, ran⟩).2
  · intro converts
    obtain ⟨⟨dag, warnings⟩, ran⟩ := project_returns_iff.mpr ⟨admitted, converts⟩
    exact ⟨dag, warnings, ran, projected_of_project keys ran,
      fun other reordered => project_reordered reordered keys ran⟩

end Projection

namespace Sample

theorem admitted_graph : Admitted graph none :=
  ⟨⟨⟨true, [], []⟩, rfl, rfl⟩, nofun, fun _ => by
    rintro ⟨uid, unit, stored, requires⟩
    obtain ⟨unitId, rfl, rfl⟩ := stored_in_graph stored
    cases requires⟩

theorem metadataConverts_graph : graph.MetadataConverts where
  units uid unit stored := by
    obtain ⟨unitId, rfl, rfl⟩ := stored_in_graph stored
    exact ⟨[], rfl⟩
  edges := List.forall_mem_singleton.mpr ⟨[], rfl⟩

/-- One unit, whose document has the metadata `null`. -/
def unannotated : StructuralGraph where
  graphId := ⟨"graph", graph_normalized⟩
  units := Dict.set ∅ "unit_a" { unitNamed unitA with metadata := .null }

theorem stored_in_unannotated {uid : String} {unit : ComputationalUnit}
    (stored : unannotated.units.get? uid = some unit) :
    uid = "unit_a" ∧ unit = { unitNamed unitA with metadata := .null } := by
  have listed : (uid, unit) ∈ [("unit_a", { unitNamed unitA with metadata := .null })] :=
    Dict.mem_entries.mpr stored
  exact Prod.mk.inj (List.mem_singleton.mp listed)

theorem keysMatch_unannotated : unannotated.KeysMatch := by
  intro uid unit stored
  obtain ⟨rfl, rfl⟩ := stored_in_unannotated stored
  rfl

theorem admitted_unannotated : Admitted unannotated none :=
  ⟨⟨⟨true, [], []⟩, rfl, rfl⟩, nofun, fun _ => by
    rintro ⟨uid, unit, stored, requires⟩
    obtain ⟨rfl, rfl⟩ := stored_in_unannotated stored
    cases requires⟩

end Sample

/-- The sample graph is projected. -/
theorem projection_faithful_sample :
    ∃ dag warnings, project Sample.graph none = .ok (dag, warnings) ∧
      Projected Sample.graph dag warnings ∧
      ∀ other, Sample.graph.Reordered other → project other none = .ok (dag, warnings) :=
  (projection_faithful_iff Sample.documented_graph.keys Sample.admitted_graph).mpr
    Sample.metadataConverts_graph

/-- An admitted graph on whose metadata `dict` raises. -/
theorem unannotated_not_projected :
    Sample.unannotated.KeysMatch ∧ Admitted Sample.unannotated none ∧
      project Sample.unannotated none =
        .error (.typeError "'NoneType' object is not iterable") :=
  ⟨Sample.keysMatch_unannotated, Sample.admitted_unannotated, rfl⟩

end Dnc
