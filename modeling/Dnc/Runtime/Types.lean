/-
**The data types of the runtime.**

`dnc.runtime.types`, and of `dnc.execution.execution_provider` what the runtime calls. A UUID is
identified with what it is generated from: a name, or a random number. Two instances are then the
same exactly when type and counter are.

User values, and the floats of costs and budgets, are type parameters. What the interpreter decides
without the program having a say is an `Interpreter`: the text of a value, the lower case of a
string, and the order in which a set of instances is iterated.
-/

import Dnc.PyLib.Dict
import Dnc.PyLib.Number
import Dnc.PyLib.Sorted
import Dnc.PyLib.Value

namespace Dnc.Runtime

open PyLib

/-! ### Identifiers -/

inductive Uuid where
  | named (name : String)
  | random (number : Nat)
deriving DecidableEq

structure ModuleInstanceID where
  typeId : String
  uuid : Uuid
deriving DecidableEq

/-- `ModuleInstanceID(type_id, instance_counter)`. -/
def ModuleInstanceID.ofCounter (typeId : String) (instanceCounter : Nat) : ModuleInstanceID :=
  ⟨typeId, .named s!"dnc:{typeId}:{instanceCounter}"⟩

structure ModuleTypeID where
  name : String
  contractHash : String
deriving DecidableEq

/-! ### Values and buffers -/

/-- A value: one of the two markers, or a value of the user. -/
inductive Value (α : Type) where
  | unbound
  | pending
  | proper (content : α)
deriving DecidableEq

/-- Neither UNBOUND nor PENDING. -/
def Value.isProper {α : Type} : Value α → Bool
  | proper _ => true
  | _ => false

structure Buffer (α : Type) where
  input : Value α
  output : Value α
  metadata : Dict String (Value α)
deriving DecidableEq

/-- `Buffer.unbound_input`. -/
def Buffer.unboundInput {α : Type} : Buffer α := ⟨.unbound, .unbound, ∅⟩

/-- `Buffer.completed` without metadata. -/
def Buffer.completed {α : Type} (inputValue outputValue : Value α) : Buffer α :=
  ⟨inputValue, outputValue, ∅⟩

/-! ### Exceptions -/

/-- An exception that the runtime or the code it calls raises. A text that names an instance or a
type is given by what it names. -/
inductive Raised where
  | alreadyRegistered (instanceId : ModuleInstanceID)
  | notInWorkingMemory (instanceId : ModuleInstanceID)
  | typeAlreadyRegistered (typeId : ModuleTypeID)
  | unknownNode (upstream downstream : ModuleInstanceID)
  | dagCycle (message : String)
  | invariantViolation (message : String)
  | invalidCheckpoint (stepIndex : Nat)
  | noProviderBound (instanceId : ModuleInstanceID)
  | runtimeError (message : String)
  | python (error : PyError)
deriving DecidableEq

/-! ### Module contracts -/

/-- Signatures are given by their displayed types. -/
structure ModuleContract (R : Type) where
  moduleTypeId : ModuleTypeID
  outputSignature : String
  inputSignature : Dict String String := ∅
  capabilities : Finset String := ∅
  costWeight : R

/-- `ModuleRegistry`. -/
structure ModuleRegistry (R : Type) where
  contracts : Dict ModuleTypeID (ModuleContract R) := ∅

/-- An entry of `ModuleRegistry.snapshot`. -/
structure ModuleSnapshot (R : Type) where
  typeId : ModuleTypeID
  inputSignature : Dict String String
  outputSignature : String
  capabilities : List String
  costWeight : R

namespace ModuleRegistry

variable {R : Type}

/-- `ModuleRegistry.register`. -/
def register (registry : ModuleRegistry R) (contract : ModuleContract R) :
    Except Raised (ModuleRegistry R) :=
  if contract.moduleTypeId ∈ registry.contracts then
    .error (.typeAlreadyRegistered contract.moduleTypeId)
  else .ok ⟨registry.contracts.set contract.moduleTypeId contract⟩

/-- `ModuleRegistry.list_all`. -/
def listAll (registry : ModuleRegistry R) : List (ModuleContract R) := registry.contracts.values

/-- `ModuleRegistry.snapshot`: of two types of one name, the later one. -/
def snapshot (registry : ModuleRegistry R) : Dict String (ModuleSnapshot R) :=
  .ofItems (registry.contracts.entries.map fun (typeId, contract) => (typeId.name, {
    typeId := typeId
    inputSignature := contract.inputSignature
    outputSignature := contract.outputSignature
    capabilities := sortedElems contract.capabilities
    costWeight := contract.costWeight }))

end ModuleRegistry

/-! ### Providers -/

inductive ExecutionCapability where
  | reasoning | retrieval | planning | verification | simulation | optimization | execution
  | embedding | transcription | translation
deriving DecidableEq

structure ProviderResult (α : Type) where
  output : Value α
  error : Option String

/-- `ProviderResult.is_success`. -/
def ProviderResult.isSuccess {α : Type} (result : ProviderResult α) : Bool := result.error.isNone

/-- A provider, in a world of which its answers may depend and which its calls may change. -/
structure ExecutionProvider (α ω : Type) where
  supports : ExecutionCapability → Bool
  execute : ω → ExecutionCapability → String → Except Raised (ProviderResult α) × ω

/-- A dispatch function, in the same sense. -/
def DispatchFn (α ω : Type) : Type := ω → ModuleInstanceID → Except Raised (Value α) × ω

/-! ### The interpreter -/

structure Interpreter (α : Type) where
  /-- `str(value)`. -/
  str : Value α → String
  /-- `text.lower()`. -/
  lower : String → String
  /-- The order in which a set of these elements is iterated. -/
  setOrder : List ModuleInstanceID → List ModuleInstanceID
  setOrder_perm : ∀ elements, (setOrder elements).Perm elements

end Dnc.Runtime
