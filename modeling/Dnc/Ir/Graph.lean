/-
**The structural graph.**

`dnc.ir.graph`: units by identifier, a list of edges and free-form metadata. The graph is an
authoring representation: edges may dangle and may repeat, and `DNCIRValidator` alone reports it.
The operations below are the ones mutations are made of, each with what it does to the lookups of
the unit map.
-/

import Dnc.Ir.Unit

namespace Dnc

open PyLib

inductive EdgeType where
  | data | control | state | dependency | resource
deriving DecidableEq, Repr

instance : PyEnum EdgeType where
  name := "EdgeType"
  members := [.data, .control, .state, .dependency, .resource]
  value
    | .data => "DATA"
    | .control => "CONTROL"
    | .state => "STATE"
    | .dependency => "DEPENDENCY"
    | .resource => "RESOURCE"

structure Edge where
  source : UnitID
  target : UnitID
  edgeType : EdgeType
  metadata : Json := .obj []
  sourcePort : Json := .null
  targetPort : Json := .null
deriving DecidableEq

structure StructuralGraph where
  graphId : GraphID
  version : GraphVersion := {}
  units : Dict String ComputationalUnit := ∅
  edges : List Edge := []
  metadata : JsonObject := []
deriving DecidableEq

/-- `e.source.value == uid or e.target.value == uid`. -/
def Edge.touches (uid : String) (edge : Edge) : Bool :=
  edge.source.value == uid || edge.target.value == uid

/-- The test of `remove_edge` and of `DISCONNECT_UNITS`: the endpoints, and the type and ports
where they are given. -/
def Edge.selected (source target : UnitID) (edgeType : Option EdgeType)
    (sourcePort targetPort : Json) (edge : Edge) : Bool :=
  (edge.source.value == source.value && edge.target.value == target.value) &&
    (match edgeType with
      | none => true
      | some edgeType => edge.edgeType == edgeType) &&
    (sourcePort == .null || Json.pyEq edge.sourcePort sourcePort) &&
    (targetPort == .null || Json.pyEq edge.targetPort targetPort)

namespace StructuralGraph

/-- `StructuralGraph.add_unit`. -/
def addUnit (graph : StructuralGraph) (unit : ComputationalUnit) :
    Except PyError StructuralGraph :=
  if unit.unitId.value ∈ graph.units then
    .error (.valueError s!"UnitID {unit.unitId} already exists in graph.")
  else .ok { graph with units := graph.units.set unit.unitId.value unit }

/-- `StructuralGraph.remove_unit`. -/
def removeUnit (graph : StructuralGraph) (unitId : UnitID) : Except PyError StructuralGraph :=
  if unitId.value ∈ graph.units then
    .ok { graph with
      units := graph.units.erase unitId.value
      edges := graph.edges.filter fun edge => !edge.touches unitId.value }
  else .error (.keyError s!"UnitID {unitId} not found in graph.")

/-- `StructuralGraph.add_edge`. -/
def addEdge (graph : StructuralGraph) (edge : Edge) : StructuralGraph :=
  { graph with edges := graph.edges ++ [edge] }

/-- `StructuralGraph.remove_edge`. -/
def removeEdge (graph : StructuralGraph) (source target : UnitID) (edgeType : Option EdgeType)
    (sourcePort targetPort : Json) : StructuralGraph :=
  { graph with
    edges := graph.edges.filter fun edge =>
      !edge.selected source target edgeType sourcePort targetPort }

/-- `graph.metadata[key] = value`. -/
def setMetadata (graph : StructuralGraph) (key : String) (value : Json) : StructuralGraph :=
  { graph with metadata := setItem graph.metadata key value }

/-- The dictionary holds every unit under its own identifier. -/
def KeysMatch (graph : StructuralGraph) : Prop :=
  ∀ uid unit, graph.units.get? uid = some unit → unit.unitId.value = uid

theorem addUnit_eq_ok {graph next : StructuralGraph} {unit : ComputationalUnit}
    (added : graph.addUnit unit = .ok next) :
    unit.unitId.value ∉ graph.units ∧
      next = { graph with units := graph.units.set unit.unitId.value unit } := by
  unfold addUnit at added
  split_ifs at added with present
  cases added
  exact ⟨present, rfl⟩

theorem removeUnit_eq_ok {graph next : StructuralGraph} {unitId : UnitID}
    (removed : graph.removeUnit unitId = .ok next) :
    unitId.value ∈ graph.units ∧
      next = { graph with
        units := graph.units.erase unitId.value
        edges := graph.edges.filter fun edge => !edge.touches unitId.value } := by
  unfold removeUnit at removed
  split_ifs at removed with present
  cases removed
  exact ⟨present, rfl⟩

theorem KeysMatch.set {graph : StructuralGraph} (keys : graph.KeysMatch)
    (unit : ComputationalUnit) :
    KeysMatch { graph with units := graph.units.set unit.unitId.value unit } := by
  intro uid stored found
  have lookup : (graph.units.set unit.unitId.value unit).get? uid = some stored := found
  rw [Dict.get?_set] at lookup
  split_ifs at lookup with same
  · cases lookup
    exact same.symm
  · exact keys uid stored lookup

end StructuralGraph

/-! ### A small graph, for examples -/

namespace Sample

def unitA : UnitID := ⟨"unit_a", by decide⟩

def unitB : UnitID := ⟨"unit_b", by decide⟩

def unitNamed (unitId : UnitID) : ComputationalUnit where
  unitId := unitId
  name := unitId.value
  «structure» := .primitive
  visibility := .inspectable
  lifecycle := .base

def edge : Edge := { source := unitA, target := unitB, edgeType := .data }

theorem graph_normalized : isNormalized "graph" = true := by decide

/-- Two units and an edge. -/
def graph : StructuralGraph where
  graphId := ⟨"graph", graph_normalized⟩
  units := Dict.set (Dict.set ∅ "unit_a" (unitNamed unitA)) "unit_b" (unitNamed unitB)
  edges := [edge]

theorem stored_in_graph {uid : String} {unit : ComputationalUnit}
    (stored : graph.units.get? uid = some unit) :
    ∃ unitId : UnitID, uid = unitId.value ∧ unit = unitNamed unitId := by
  have listed : (uid, unit) ∈ [("unit_a", unitNamed unitA), ("unit_b", unitNamed unitB)] :=
    Dict.mem_entries.mpr stored
  rcases List.mem_pair.mp listed with same | same
  · exact ⟨unitA, congrArg Prod.fst same, congrArg Prod.snd same⟩
  · exact ⟨unitB, congrArg Prod.fst same, congrArg Prod.snd same⟩

end Sample

end Dnc
