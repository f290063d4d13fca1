/-
**What a graph says.**

Two graphs are equal as values when they differ only in what Python's equality does not see: the
order in which a dictionary was filled, the order of a set, and, as the graph's edges are a
multiset, the order in which edges were added. `content` forgets exactly these: free-form values
are put in key order, sets become multisets, the units become a map from identifiers and the edges
a multiset. Two graphs have the same content when every field of every unit, port, contract,
constraint and edge is the same.
-/

import Dnc.Ir.Graph
import Mathlib.Data.Multiset.Basic

namespace Dnc

open PyLib

/-- What a unit says. -/
structure UnitContent where
  unitId : UnitID
  name : String
  «structure» : StructureDimension
  visibility : VisibilityDimension
  lifecycle : LifecycleDimension
  inputSchema : Json
  outputSchema : Json
  preconditions : Json
  postconditions : Json
  resourceLimits : Json
  ports : List (PortData × Json)
  idempotency : IdempotencyContract
  sideEffects : SideEffectContract
  placement : PlacementContract
  security : SecurityContract
  allowedMutations : Multiset Json
  maxChildren : Json
  isImmutable : Json
  constraints : List Constraint
  metadata : Json
  subUnits : List UnitID

/-- The port without its schema, and the schema in key order. -/
def PortContract.content (port : PortContract) : PortData × Json :=
  ({ port.toPortData with schema := [] }, (Json.obj port.schema).sortKeys)

def Constraint.content (constraint : Constraint) : Constraint where
  constraintId := constraint.constraintId.sortKeys
  tier := constraint.tier
  expression := constraint.expression.sortKeys
  description := constraint.description.sortKeys

def ComputationalUnit.content (unit : ComputationalUnit) : UnitContent where
  unitId := unit.unitId
  name := unit.name
  «structure» := unit.«structure»
  visibility := unit.visibility
  lifecycle := unit.lifecycle
  inputSchema := unit.contract.inputSchema.sortKeys
  outputSchema := unit.contract.outputSchema.sortKeys
  preconditions := unit.contract.preconditions.sortKeys
  postconditions := unit.contract.postconditions.sortKeys
  resourceLimits := unit.contract.resourceLimits.sortKeys
  ports := unit.contract.ports.map PortContract.content
  idempotency := unit.contract.idempotency
  sideEffects := unit.contract.sideEffects
  placement := unit.contract.placement
  security := unit.contract.security
  allowedMutations := unit.mutationContract.allowedMutations.elems
  maxChildren := unit.mutationContract.maxChildren.sortKeys
  isImmutable := unit.mutationContract.isImmutable.sortKeys
  constraints := unit.constraints.map Constraint.content
  metadata := unit.metadata.sortKeys
  subUnits := unit.subUnits

def Edge.content (edge : Edge) : Edge :=
  { edge with
    metadata := edge.metadata.sortKeys
    sourcePort := edge.sourcePort.sortKeys
    targetPort := edge.targetPort.sortKeys }

/-- What a graph says. -/
structure GraphContent where
  graphId : GraphID
  version : GraphVersion
  units : String → Option UnitContent
  edges : Multiset Edge
  metadata : Json

def StructuralGraph.content (graph : StructuralGraph) : GraphContent where
  graphId := graph.graphId
  version := graph.version
  units uid := (graph.units.get? uid).map ComputationalUnit.content
  edges := graph.edges.map Edge.content
  metadata := (Json.obj graph.metadata).sortKeys

end Dnc
