/-
**Snapshots of the system.**

`DNCSystem.capture_execution_snapshot` writes twelve components and nine counters into a runtime
state; `restore_execution_snapshot` reads them into new components first, and then replaces those of
the system one after the other. Replacing a component restores it from the snapshot of the one that
was read, so the second phase repeats the reading: for the capability registry this writes the image
once more, which raises where the values of the first image do not compare. The graph and the
cognitive state have been replaced by then.

Restoring what was captured can fail in the first phase, where the store holds an object without a
tenant, or the cognitive state is of another schema version.
-/

import Dnc.Capabilities.Image
import Dnc.Enterprise.Operations
import Dnc.Execution.SnapshotManager
import Dnc.Logic.Statements
import Dnc.Memory.Skills
import Dnc.Memory.Stores
import Dnc.Persistence.ObjectStore
import Dnc.Persistence.Repository
import Dnc.Persistence.Workers
import Dnc.PolicyLearning.Registry
import Dnc.System.SemanticAdmission

namespace Dnc

open PyLib Logic
open Capabilities (StoredRegistry restoreState ImageComparable)
open Cognition (CognitiveState exportCognitiveState importCognitiveState importCognitiveDict)
open Enterprise Memory PolicyLearning

/-- `KillSwitches.snapshot`: the global switch and copies of the sets. -/
def KillSwitches.snapshot (switches : KillSwitches) : KillSwitches := switches

/-- `KillSwitches.restore`. -/
def KillSwitches.restore (state : KillSwitches) : KillSwitches := state

/-! ### The system -/

/-- The lifecycle counters, each as `F` of its value. -/
structure Counters (F : Type → Type) (R : Type) where
  cycleCount : F Int
  proposalsGenerated : F Int
  proposalsAuthorized : F Int
  transactionCommits : F Int
  transactionRollbacks : F Int
  cyclesSinceMutation : F Int
  recentMutationCount : F Int
  priorMutationHarmed : F Bool
  lastObservedUtility : F R

section System

variable (C R : Type) [PyFloat R] [Zero R]

/-- The part of `DNCSystem` that a snapshot captures. -/
structure IntegratedState where
  executionId : String
  graph : StructuralGraph
  cognitiveState : Option CognitiveState := none
  capabilityRegistry : StoredRegistry := {}
  governedMemory : GovernedMemory C R := {}
  skillRegistry : SkillRegistry R := {}
  learnedPolicyRegistry : LearnedPolicyRegistry R := {}
  eventRepository : EventRepository := {}
  objectStore : ContentAddressedObjectStore := {}
  workQueue : DurableWorkQueue R := {}
  auditLog : AuditLog := {}
  dataGovernance : DataGovernance := {}
  killSwitches : KillSwitches := {}
  counters : Counters Id R

/-! ### The runtime state -/

/-- What a key of the runtime state holds: nothing, a value of the kind that capturing stores, or
another value, which raises when it is read. -/
inductive Entry (α : Type) where
  | absent
  | value (content : α)
  | malformed (raised : PyError)

/-- The new component that an entry is read into, if there is one. -/
def Entry.read {α β : Type} (restore : α → Except PyError β) : Entry α → Except PyError (Option β)
  | .absent => .ok none
  | .value content => (restore content).map some
  | .malformed raised => .error raised

/-- `convert(runtime_state.get(key, current))`. -/
def Entry.getD {α : Type} (current : α) : Entry α → Except PyError α
  | .absent => .ok current
  | .value content => .ok content
  | .malformed raised => .error raised

/-- What `import_cognitive_state` takes. -/
inductive CognitivePayload where
  | text (payload : String)
  | dict (raw : JsonObject)

/-- `import_cognitive_state`. -/
def importPayload : CognitivePayload → Except PyError CognitiveState
  | .text payload => importCognitiveState payload
  | .dict raw => importCognitiveDict raw

/-- The runtime state of a snapshot, with its canonical text or what writing it raises. A missing
hash or image is `null`. -/
structure RuntimeState where
  canonicalText : Except PyError String := .ok ""
  cognitiveStateHash : Json := .null
  cognitiveState : Entry CognitivePayload := .absent
  capabilityRegistry : Json := .null
  governedMemory : Entry (Dict String (List (MemoryRecord C R))) := .absent
  /-- Sorting the ids of these records. An id that is no string, written as one here, may not compare
  with the others. -/
  recordOrder : Except PyError Unit := .ok ()
  skillRegistry : Entry (SkillRegistry R) := .absent
  learnedPolicyRegistry : Entry (LearnedPolicyRegistry R) := .absent
  eventRepository : Entry EventRepository := .absent
  objectStore : Entry (Dict (String × String) Bytes) := .absent
  workQueue : Entry (DurableWorkQueue R) := .absent
  auditLog : Entry (Dict (String × String) AuditRecord) := .absent
  dataGovernance : Entry (Dict (String × String) DataAsset) := .absent
  killSwitches : Entry KillSwitches := .absent
  counters : Counters Entry R :=
    ⟨.absent, .absent, .absent, .absent, .absent, .absent, .absent, .absent, .absent⟩

variable {C R}

/-- `restored_counters`. -/
def Counters.read (entries : Counters Entry R) (current : Counters Id R) :
    Except PyError (Counters Id R) := do
  return {
    cycleCount := ← entries.cycleCount.getD current.cycleCount
    proposalsGenerated := ← entries.proposalsGenerated.getD current.proposalsGenerated
    proposalsAuthorized := ← entries.proposalsAuthorized.getD current.proposalsAuthorized
    transactionCommits := ← entries.transactionCommits.getD current.transactionCommits
    transactionRollbacks := ← entries.transactionRollbacks.getD current.transactionRollbacks
    cyclesSinceMutation := ← entries.cyclesSinceMutation.getD current.cyclesSinceMutation
    recentMutationCount := ← entries.recentMutationCount.getD current.recentMutationCount
    priorMutationHarmed := ← entries.priorMutationHarmed.getD current.priorMutationHarmed
    lastObservedUtility := ← entries.lastObservedUtility.getD current.lastObservedUtility }

/-- The counters as capturing stores them. -/
def Counters.entries (counters : Counters Id R) : Counters Entry R where
  cycleCount := .value counters.cycleCount
  proposalsGenerated := .value counters.proposalsGenerated
  proposalsAuthorized := .value counters.proposalsAuthorized
  transactionCommits := .value counters.transactionCommits
  transactionRollbacks := .value counters.transactionRollbacks
  cyclesSinceMutation := .value counters.cyclesSinceMutation
  recentMutationCount := .value counters.recentMutationCount
  priorMutationHarmed := .value counters.priorMutationHarmed
  lastObservedUtility := .value counters.lastObservedUtility

/-! ### Capturing -/

section Capture

variable (sha256 : String → String) (describe : IntegratedState C R → Except PyError String)
  (system : IntegratedState C R)

/-- `state.canonical_hash() if state is not None else None`. -/
def cognitiveHash (state : Option CognitiveState) : Json :=
  optionalText (state.map (CognitiveState.canonicalHash sha256))

/-- The runtime state of a capture, given the image of the registry and how the whole is written. -/
def IntegratedState.runtimeState (image : Json) : RuntimeState C R where
  canonicalText := describe system
  cognitiveStateHash := cognitiveHash sha256 system.cognitiveState
  cognitiveState := match system.cognitiveState with
    | none => .absent
    | some state => .value (.text (exportCognitiveState state))
  capabilityRegistry := image
  governedMemory := .value system.governedMemory.snapshot
  skillRegistry := .value system.skillRegistry.snapshot
  learnedPolicyRegistry := .value system.learnedPolicyRegistry.snapshot
  eventRepository := .value system.eventRepository.snapshot
  objectStore := .value system.objectStore.snapshot
  workQueue := .value system.workQueue.snapshot
  auditLog := .value system.auditLog.snapshot
  dataGovernance := .value system.dataGovernance.snapshot
  killSwitches := .value system.killSwitches.snapshot
  counters := system.counters.entries

/-- `DNCSystem.capture_execution_snapshot`. -/
def captureExecutionSnapshot (snapshotId : String) : Except PyError (Snapshot (RuntimeState C R)) := do
  let image ← system.capabilityRegistry.snapshotState
  captureGraph sha256 RuntimeState.canonicalText system.graph snapshotId
    s!"{system.executionId}:{system.graph.version}"
    (some (system.runtimeState sha256 describe image))

end Capture

/-! ### Restoring -/

/-- What the first phase has read; `none` where the snapshot holds nothing. -/
structure Staged (C R : Type) [PyFloat R] [Zero R] where
  graph : StructuralGraph
  cognitiveState : Option CognitiveState
  capabilityRegistry : Option StoredRegistry
  governedMemory : Option (GovernedMemory C R)
  skillRegistry : Option (SkillRegistry R)
  learnedPolicyRegistry : Option (LearnedPolicyRegistry R)
  eventRepository : Option EventRepository
  objectStore : Option ContentAddressedObjectStore
  workQueue : Option (DurableWorkQueue R)
  auditLog : Option AuditLog
  dataGovernance : Option DataGovernance
  killSwitches : Option KillSwitches
  counters : Counters Id R

/-- A new registry restored from an image, if there is one. -/
def readRegistry (image : Json) : Except PyError (Option StoredRegistry) :=
  if image = .null then .ok none else (restoreState image).map some

/-- A new queue restored from a backup. -/
def readQueue (state : DurableWorkQueue R) : Except PyError (DurableWorkQueue R) :=
  match DurableWorkQueue.restore {} state with
  | (restored, .ok ()) => .ok restored
  | (_, .error error) => .error error

section Restore

variable (sha256 : String → String) (digestOf : Bytes → String)
  (snapshot : Snapshot (RuntimeState C R)) (system : IntegratedState C R)

/-- `snapshot.runtime_state or {}`. -/
def Snapshot.contents : RuntimeState C R := snapshot.runtimeState.getD {}

/-- The first phase of `restore_execution_snapshot`. -/
def stageSnapshot : Except PyError (Staged C R) := do
  let graph ← restoreGraph sha256 RuntimeState.canonicalText snapshot
  let runtimeState := snapshot.contents
  let cognitiveState ← runtimeState.cognitiveState.read importPayload
  if ¬ Json.pyEq runtimeState.cognitiveStateHash (cognitiveHash sha256 cognitiveState) = true then
    throw (.valueError "snapshot cognitive state hash mismatch")
  let capabilityRegistry ← readRegistry runtimeState.capabilityRegistry
  let governedMemory ← runtimeState.governedMemory.read GovernedMemory.restore
  let skillRegistry ← runtimeState.skillRegistry.read fun state => .ok (SkillRegistry.restore state)
  let learnedPolicyRegistry ← runtimeState.learnedPolicyRegistry.read fun state =>
    .ok (LearnedPolicyRegistry.restore state)
  let eventRepository ← runtimeState.eventRepository.read fun state =>
    .ok (EventRepository.restore state)
  let objectStore ← runtimeState.objectStore.read (ContentAddressedObjectStore.restore digestOf)
  let workQueue ← runtimeState.workQueue.read readQueue
  let auditLog ← runtimeState.auditLog.read fun state => .ok (AuditLog.restore state)
  let dataGovernance ← runtimeState.dataGovernance.read fun state =>
    .ok (DataGovernance.restore state)
  let killSwitches ← runtimeState.killSwitches.read fun state => .ok (KillSwitches.restore state)
  let counters ← runtimeState.counters.read system.counters
  return ⟨graph, cognitiveState, capabilityRegistry, governedMemory, skillRegistry,
    learnedPolicyRegistry, eventRepository, objectStore, workQueue, auditLog, dataGovernance,
    killSwitches, counters⟩

/-- The assignments of the second phase up to the registry. -/
def graphStatements (staged : Staged C R) :
    List (IntegratedState C R → Except PyError (IntegratedState C R)) := [
  assign fun system => { system with graph := staged.graph },
  assign fun system => { system with cognitiveState := staged.cognitiveState }]

/-- `self.capability_registry.restore_state(restored_registry.snapshot_state())`. -/
def registryStatement (staged : Staged C R) :
    IntegratedState C R → Except PyError (IntegratedState C R) :=
  commit (fun registry system => { system with capabilityRegistry := registry })
    (fun restored => do restoreState (← restored.snapshotState)) staged.capabilityRegistry

/-- `self.governed_memory.restore(restored_memory.snapshot())`. -/
def memoryStatement (staged : Staged C R) :
    IntegratedState C R → Except PyError (IntegratedState C R) :=
  commit (fun memory system => { system with governedMemory := memory })
    (fun restored => do
      snapshot.contents.recordOrder
      GovernedMemory.restore restored.snapshot) staged.governedMemory

/-- The statements of the second phase after the memory. -/
def componentStatements (staged : Staged C R) :
    List (IntegratedState C R → Except PyError (IntegratedState C R)) := [
  commit (fun skills system => { system with skillRegistry := skills })
    (fun restored => .ok (SkillRegistry.restore restored.snapshot)) staged.skillRegistry,
  commit (fun policies system => { system with learnedPolicyRegistry := policies })
    (fun restored => .ok (LearnedPolicyRegistry.restore restored.snapshot))
    staged.learnedPolicyRegistry,
  commit (fun events system => { system with eventRepository := events })
    (fun restored => .ok (EventRepository.restore restored.snapshot)) staged.eventRepository,
  commit (fun objects system => { system with objectStore := objects })
    (fun restored => ContentAddressedObjectStore.restore digestOf restored.snapshot)
    staged.objectStore,
  commit (fun queue system => { system with workQueue := queue })
    (fun restored => readQueue restored.snapshot) staged.workQueue,
  commit (fun log system => { system with auditLog := log })
    (fun restored => .ok (AuditLog.restore restored.snapshot)) staged.auditLog,
  commit (fun governance system => { system with dataGovernance := governance })
    (fun restored => .ok (DataGovernance.restore restored.snapshot)) staged.dataGovernance,
  commit (fun switches system => { system with killSwitches := switches })
    (fun restored => .ok (KillSwitches.restore restored.snapshot)) staged.killSwitches,
  assign fun system => { system with counters := staged.counters }]

/-- `DNCSystem.restore_execution_snapshot`: what it raises, and the system after it. -/
def restoreExecutionSnapshot : Except PyError Unit × IntegratedState C R :=
  match stageSnapshot sha256 digestOf snapshot system with
  | .error error => (.error error, system)
  | .ok staged =>
    block (graphStatements staged ++ registryStatement staged :: memoryStatement snapshot staged ::
      componentStatements digestOf staged) system

end Restore

end System

end Dnc
