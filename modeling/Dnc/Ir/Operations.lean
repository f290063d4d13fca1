/-
**The operation vocabulary.**

`dnc.ir.operations`: an operation names its type and carries a dictionary of parameters. A
parameter may be missing; one that is present has the type the engine declares for it.
-/

import Dnc.Ir.Graph

namespace Dnc

open PyLib

inductive OperationType where
  | addUnit | removeUnit | connectUnits | disconnectUnits | rewireEdge | specializeUnit
  | despecializeUnit | composeUnits | decomposeUnit | updateContract
deriving DecidableEq, Repr

instance : PyEnum OperationType where
  name := "OperationType"
  members := [.addUnit, .removeUnit, .connectUnits, .disconnectUnits, .rewireEdge,
    .specializeUnit, .despecializeUnit, .composeUnits, .decomposeUnit, .updateContract]
  value
    | .addUnit => "ADD_UNIT"
    | .removeUnit => "REMOVE_UNIT"
    | .connectUnits => "CONNECT_UNITS"
    | .disconnectUnits => "DISCONNECT_UNITS"
    | .rewireEdge => "REWIRE_EDGE"
    | .specializeUnit => "SPECIALIZE_UNIT"
    | .despecializeUnit => "DESPECIALIZE_UNIT"
    | .composeUnits => "COMPOSE_UNITS"
    | .decomposeUnit => "DECOMPOSE_UNIT"
    | .updateContract => "UPDATE_CONTRACT"

/-- The keys of `IROperation.parameters` that a mutation reads or the generator writes. -/
structure Parameters where
  unit : Option ComputationalUnit := none
  unitId : Option UnitID := none
  source : Option UnitID := none
  target : Option UnitID := none
  edgeType : Option EdgeType := none
  metadata : Option Json := none
  sourcePort : Option Json := none
  targetPort : Option Json := none
  oldSource : Option UnitID := none
  oldTarget : Option UnitID := none
  newSource : Option UnitID := none
  newTarget : Option UnitID := none
  specializationContext : Option String := none
  units : Option (List UnitID) := none
  compositeName : Option String := none
deriving DecidableEq

structure IROperation where
  opType : OperationType
  parameters : Parameters := {}
  rationale : String := ""
deriving DecidableEq

/-- `IROperation.validate`. -/
def IROperation.validate (operation : IROperation) : Bool :=
  let parameters := operation.parameters
  match operation.opType with
  | .addUnit => parameters.unit.isSome
  | .removeUnit => parameters.unitId.isSome
  | .connectUnits =>
    parameters.source.isSome && parameters.target.isSome && parameters.edgeType.isSome
  | .disconnectUnits => parameters.source.isSome && parameters.target.isSome
  | .rewireEdge =>
    parameters.oldSource.isSome && parameters.oldTarget.isSome && parameters.newSource.isSome &&
      parameters.newTarget.isSome
  | _ => true

/-! ### Operations, for examples -/

namespace Sample

def add (unitId : UnitID) : IROperation where
  opType := .addUnit
  parameters := { unit := unitNamed unitId }

def remove (unitId : UnitID) : IROperation where
  opType := .removeUnit
  parameters := { unitId := unitId }

def connect (source target : UnitID) : IROperation where
  opType := .connectUnits
  parameters := { source := source, target := target, edgeType := some .data }

end Sample

end Dnc
