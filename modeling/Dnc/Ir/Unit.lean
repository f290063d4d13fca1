/-
**Computational units.**

`dnc.ir.unit`: the three dimensions of a unit, its contract, its mutation contract and its
constraints. A field the source leaves free-form (a schema, a precondition list, metadata, the
expression of a constraint) is any JSON value here: nothing checks it when the unit is built.

`dnc.ir.identity`: an identifier is a normalized non-empty string, checked when it is built
(`_validate_identity`), so the types below carry the check as a field. A graph version is four
non-negative integers, of which transactions advance the last (`nextSequence`).
-/

import Dnc.Ir.Contracts
import Dnc.PyLib.Text
import Dnc.PyLib.Value

namespace Dnc

open PyLib

/-- `_validate_identity(value, name)`, returning the string it has checked. -/
def validateIdentity (value : Json) (name : String) :
    Except PyError {text : String // isNormalized text = true} :=
  match value with
  | .str text =>
    if normalized : isNormalized text = true then .ok ⟨text, normalized⟩
    else .error (.valueError s!"{name} MUST be a normalized non-empty string")
  | _ => .error (.valueError s!"{name} MUST be a normalized non-empty string")

theorem validateIdentity_str {text : String} (normalized : isNormalized text = true)
    (name : String) : validateIdentity (.str text) name = .ok ⟨text, normalized⟩ := by
  simp only [validateIdentity, dif_pos normalized]

structure UnitID where
  value : String
  normalized : isNormalized value = true
deriving DecidableEq

instance : ToString UnitID := ⟨UnitID.value⟩

/-- `UnitID(value)`. -/
def UnitID.ofJson (value : Json) : Except PyError UnitID :=
  (validateIdentity value "UnitID").map fun text => ⟨text.1, text.2⟩

structure GraphID where
  value : String
  normalized : isNormalized value = true
deriving DecidableEq

instance : ToString GraphID := ⟨GraphID.value⟩

/-- `GraphID(value)`. -/
def GraphID.ofJson (value : Json) : Except PyError GraphID :=
  (validateIdentity value "GraphID").map fun text => ⟨text.1, text.2⟩

structure TransactionID where
  value : String
  normalized : isNormalized value = true
deriving DecidableEq

instance : ToString TransactionID := ⟨TransactionID.value⟩

@[simp] theorem UnitID.ofJson_value (unitId : UnitID) :
    UnitID.ofJson (.str unitId.value) = .ok unitId := by
  rw [UnitID.ofJson, validateIdentity_str unitId.normalized]
  rfl

@[simp] theorem GraphID.ofJson_value (graphId : GraphID) :
    GraphID.ofJson (.str graphId.value) = .ok graphId := by
  rw [GraphID.ofJson, validateIdentity_str graphId.normalized]
  rfl

/-- The identifier that a text builds has this text. -/
theorem UnitID.value_of_ofJson {text : String} {unitId : UnitID}
    (built : UnitID.ofJson (.str text) = .ok unitId) : unitId.value = text := by
  unfold UnitID.ofJson validateIdentity at built
  dsimp only at built
  split_ifs at built
  · obtain rfl := Except.ok.inj built
    rfl
  · cases built

theorem UnitID.value_injective : Function.Injective UnitID.value := by
  rintro ⟨first, _⟩ ⟨second, _⟩ same
  cases same
  rfl

theorem GraphID.value_injective : Function.Injective GraphID.value := by
  rintro ⟨first, _⟩ ⟨second, _⟩ same
  cases same
  rfl

structure GraphVersion where
  major : Nat := 1
  minor : Nat := 0
  patch : Nat := 0
  sequence : Nat := 0
deriving DecidableEq, Repr

instance : ToString GraphVersion :=
  ⟨fun version => s!"v{version.major}.{version.minor}.{version.patch}-{version.sequence}"⟩

/-- `GraphVersion.next_sequence`. -/
def GraphVersion.nextSequence (version : GraphVersion) : GraphVersion :=
  { version with sequence := version.sequence + 1 }

/-- A version `count` steps on. -/
def GraphVersion.advance (version : GraphVersion) (count : Nat) : GraphVersion :=
  { version with sequence := version.sequence + count }

theorem GraphVersion.advance_advance (version : GraphVersion) (first second : Nat) :
    (version.advance first).advance second = version.advance (first + second) := by
  unfold GraphVersion.advance
  rw [Nat.add_assoc]

inductive StructureDimension where
  | primitive | composite
deriving DecidableEq, Repr

instance : PyEnum StructureDimension where
  name := "StructureDimension"
  members := [.primitive, .composite]
  value
    | .primitive => "PRIMITIVE"
    | .composite => "COMPOSITE"

inductive VisibilityDimension where
  | opaqueView | inspectable
deriving DecidableEq, Repr

instance : PyEnum VisibilityDimension where
  name := "VisibilityDimension"
  members := [.opaqueView, .inspectable]
  value
    | .opaqueView => "OPAQUE"
    | .inspectable => "INSPECTABLE"

inductive LifecycleDimension where
  | base | specialized
deriving DecidableEq, Repr

instance : PyEnum LifecycleDimension where
  name := "LifecycleDimension"
  members := [.base, .specialized]
  value
    | .base => "BASE"
    | .specialized => "SPECIALIZED"

inductive EnforcementTier where
  | invariant | constraint | policy
deriving DecidableEq, Repr

instance : PyEnum EnforcementTier where
  name := "EnforcementTier"
  members := [.invariant, .constraint, .policy]
  value
    | .invariant => "INVARIANT"
    | .constraint => "CONSTRAINT"
    | .policy => "POLICY"

structure UnitContract where
  inputSchema : Json := .obj []
  outputSchema : Json := .obj []
  preconditions : Json := .arr []
  postconditions : Json := .arr []
  resourceLimits : Json := .obj []
  ports : List PortContract := []
  idempotency : IdempotencyContract := ⟨{}, IdempotencyData.default_valid⟩
  sideEffects : SideEffectContract := ⟨{}, SideEffectData.default_valid⟩
  placement : PlacementContract := ⟨{}, PlacementData.default_valid⟩
  security : SecurityContract := ⟨{}, SecurityData.default_valid⟩
deriving DecidableEq

/-- `UnitContract.port`. -/
def UnitContract.port (contract : UnitContract) (portId : Json) : Option PortContract :=
  contract.ports.find? fun port => Json.pyEq (.str port.portId) portId

/-- `UnitContract.validate_ports`; every port is a `PortContract` by its type. -/
def UnitContract.validatePorts (contract : UnitContract) : Bool :=
  decide (contract.ports.map fun port => port.portId).Nodup

/-- The name `port` finds a port under is the port's own. -/
theorem UnitContract.port_eq_some {contract : UnitContract} {portId : Json} {port : PortContract}
    (found : contract.port portId = some port) :
    portId = .str port.portId ∧ port ∈ contract.ports := by
  unfold UnitContract.port at found
  have same := List.find?_some found
  exact ⟨Json.pyEq_str.mp same, List.mem_of_find?_eq_some found⟩

/-- The mutations that are allowed by default. -/
def defaultMutations : List Json :=
  [.str "ADD", .str "REMOVE", .str "CONNECT", .str "DISCONNECT", .str "REWIRE"]

theorem defaultMutations_hashable : ∀ elem ∈ defaultMutations, elem.hashable = true := by decide

theorem defaultMutations_distinct : (defaultMutations.map Json.pyNormal).Nodup := by
  simp [defaultMutations]

structure MutationContract where
  allowedMutations : PySet :=
    ⟨defaultMutations, defaultMutations_hashable, defaultMutations_distinct⟩
  maxChildren : Json := .int 100
  isImmutable : Json := .bool false
deriving DecidableEq

structure Constraint where
  constraintId : Json
  tier : EnforcementTier
  expression : Json
  description : Json
deriving DecidableEq

structure ComputationalUnit where
  unitId : UnitID
  name : String
  «structure» : StructureDimension
  visibility : VisibilityDimension
  lifecycle : LifecycleDimension
  contract : UnitContract := {}
  mutationContract : MutationContract := {}
  constraints : List Constraint := []
  metadata : Json := .obj []
  subUnits : List UnitID := []
deriving DecidableEq

/-- `ComputationalUnit.validate_dimensions`. -/
def ComputationalUnit.validateDimensions (unit : ComputationalUnit) : Bool :=
  if unit.«structure» = .primitive ∧ unit.subUnits.length > 0 then false else true

end Dnc
