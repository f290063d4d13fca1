/-
**The snapshot manager.**

Of `dnc.execution.snapshot`: the manifest of a snapshot and the manager that captures a graph with a
runtime state and restores the graph. The manifest carries a hash of each; restoring compares both
with what the snapshot holds, and nothing else of it.
-/

import Dnc.Execution.Evidence
import Dnc.Ir.Serialization
import Dnc.Kernel.Contracts
import Dnc.PyLib.Data

namespace Dnc

open PyLib Logic

/-- `SNAPSHOT_SCHEMA_ID`. -/
def snapshotSchemaId : String := "dnc.execution.snapshot_manifest"

/-- `SNAPSHOT_SCHEMA_VERSION`. -/
def snapshotSchemaVersion : String := "0.2.0"

/-- `SUPPORTED_SNAPSHOT_SCHEMA_VERSIONS`. -/
def supportedSnapshotSchemaVersions : List String := ["0.1.0", snapshotSchemaVersion]

structure SnapshotManifestData where
  snapshotId : String
  sourceStateId : String
  schemaId : String := snapshotSchemaId
  schemaVersion : String := snapshotSchemaVersion
  reproducibilityGrade : ReproducibilityGrade := .r1ManifestOnly
  isolationGrade : IsolationGrade := .i1GraphOnly
  graphHash : Option String := none
  runtimeStateHash : Option String := none
  providerRecordingIds : List String := []
  providerRecordingsHash : Option String := none
  effectIds : List String := []
  effectsHash : Option String := none
  capturedState : List String := []
  uncapturedState : List String := []
  cleanupRequired : Bool := false

/-- `SnapshotManifest.__post_init__`. -/
def SnapshotManifestData.violation (data : SnapshotManifestData) : Option PyError :=
  if data.snapshotId = "" then some (.valueError "snapshot_id MUST be non-empty")
  else if data.sourceStateId = "" then some (.valueError "source_state_id MUST be non-empty")
  else if data.schemaId ≠ snapshotSchemaId then
    some (.valueError "unsupported snapshot schema_id")
  else if data.schemaVersion ∉ supportedSnapshotSchemaVersions then
    some (.valueError "unsupported snapshot schema_version")
  else none

structure SnapshotManifest extends SnapshotManifestData where
  valid : toSnapshotManifestData.violation = none

/-- What the check of a manifest raises is a `ValueError`. -/
theorem SnapshotManifestData.violation_valueError {data : SnapshotManifestData} {error : PyError}
    (invalid : data.violation = some error) : ∃ message, error = .valueError message := by
  unfold violation at invalid
  split_ifs at invalid <;> exact ⟨_, (Option.some.inj invalid).symm⟩

/-- A snapshot whose runtime state is an `S`. -/
structure Snapshot (S : Type) where
  manifest : SnapshotManifest
  graph : Option StructuralGraph := none
  runtimeState : Option S := none
  providerRecordings : List ProviderRecording := []
  effects : List EffectLedgerEntry := []

section Manager

variable {S : Type} (sha256 : String → String) (canonicalText : S → Except PyError String)

/-- `_hash_json(runtime_state)` where there is a runtime state, given its canonical text or what
writing it raises. -/
def runtimeHash : Option S → Except PyError (Option String)
  | none => .ok none
  | some state => (canonicalText state).map fun text => some (sha256 text)

/-- The fields of the manifest that capturing makes. -/
def captureManifest (graphJson snapshotId sourceStateId : String) (runtimeHash : Option String)
    (runtimeState : Option S) : SnapshotManifestData where
  snapshotId := snapshotId
  sourceStateId := sourceStateId
  reproducibilityGrade := .r2DeterministicCore
  isolationGrade := .i1GraphOnly
  graphHash := some (sha256 graphJson)
  runtimeStateHash := runtimeHash
  capturedState := "graph" :: if runtimeState.isSome then ["runtime_state"] else []
  uncapturedState := ["provider_responses", "filesystem", "database", "network", "accelerator",
    "process_environment"]
  cleanupRequired := false

/-- `ReferenceSnapshotManager.capture_graph`. -/
def captureGraph (graph : StructuralGraph) (snapshotId sourceStateId : String)
    (runtimeState : Option S) : Except PyError (Snapshot S) := do
  let graphJson ← toJson graph
  let runtimeHash ← runtimeHash sha256 canonicalText runtimeState
  let manifest ← construct SnapshotManifestData.violation SnapshotManifest.mk
    (captureManifest sha256 graphJson snapshotId sourceStateId runtimeHash runtimeState)
  return { manifest, graph := some graph, runtimeState }

/-- `ReferenceSnapshotManager.restore_graph`. -/
def restoreGraph (snapshot : Snapshot S) : Except PyError StructuralGraph :=
  match snapshot.graph with
  | none => .error (.valueError "snapshot does not include graph state")
  | some restored => do
    if some (sha256 (← toJson restored)) ≠ snapshot.manifest.graphHash then
      throw (.valueError "snapshot graph hash mismatch")
    if (← runtimeHash sha256 canonicalText snapshot.runtimeState) ≠
        snapshot.manifest.runtimeStateHash then
      throw (.valueError "snapshot runtime state hash mismatch")
    return restored

variable {sha256 : String → String} {canonicalText : S → Except PyError String}
  {graph : StructuralGraph} {snapshotId sourceStateId : String} {runtimeState : Option S}

theorem captureManifest_valid_iff {graphJson : String} {hash : Option String} :
    (captureManifest sha256 graphJson snapshotId sourceStateId hash runtimeState).violation = none ↔
      snapshotId ≠ "" ∧ sourceStateId ≠ "" := by
  simp [captureManifest, SnapshotManifestData.violation, check_eq_none,
    supportedSnapshotSchemaVersions]

/-- A capture that succeeds has made its manifest of the texts of what it holds. -/
theorem captureGraph_made {snapshot : Snapshot S} (captured : captureGraph sha256 canonicalText
    graph snapshotId sourceStateId runtimeState = .ok snapshot) :
    ∃ text hash, toJson graph = .ok text ∧ runtimeHash sha256 canonicalText runtimeState = .ok hash ∧
      ∃ valid, snapshot = { manifest := ⟨captureManifest sha256 text snapshotId sourceStateId hash
        runtimeState, valid⟩, graph := some graph, runtimeState } := by
  obtain ⟨text, written, captured⟩ := bind_eq_ok.mp captured
  obtain ⟨hash, hashed, captured⟩ := bind_eq_ok.mp captured
  obtain ⟨manifest, made, captured⟩ := bind_eq_ok.mp captured
  obtain rfl := Except.ok.inj captured
  obtain ⟨valid, rfl⟩ := construct_eq_ok made
  exact ⟨text, hash, written, hashed, valid, rfl⟩

/-- What a capture that succeeds has made. -/
theorem captureGraph_eq_ok {snapshot : Snapshot S} (captured : captureGraph sha256 canonicalText
    graph snapshotId sourceStateId runtimeState = .ok snapshot) :
    ∃ text hash, toJson graph = .ok text ∧ runtimeHash sha256 canonicalText runtimeState = .ok hash ∧
      snapshotId ≠ "" ∧ snapshot.graph = some graph ∧ snapshot.runtimeState = runtimeState ∧
      snapshot.manifest.graphHash = some (sha256 text) ∧
      snapshot.manifest.runtimeStateHash = hash := by
  obtain ⟨text, hash, written, hashed, valid, rfl⟩ := captureGraph_made captured
  exact ⟨text, hash, written, hashed, (captureManifest_valid_iff.mp valid).1, rfl, rfl, rfl, rfl⟩

/-- A graph and a runtime state that can be written are captured under a name. -/
theorem captureGraph_total {text : String} {hash : Option String} (written : toJson graph = .ok text)
    (hashed : runtimeHash sha256 canonicalText runtimeState = .ok hash)
    (named : snapshotId ≠ "") (origin : sourceStateId ≠ "") :
    ∃ snapshot, captureGraph sha256 canonicalText graph snapshotId sourceStateId runtimeState =
      .ok snapshot := by
  have valid : (captureManifest sha256 text snapshotId sourceStateId hash
      runtimeState).violation = none := captureManifest_valid_iff.mpr ⟨named, origin⟩
  exact ⟨_, bind_eq_ok.mpr ⟨text, written, bind_eq_ok.mpr ⟨hash, hashed,
    bind_eq_ok.mpr ⟨_, construct_of_valid valid, rfl⟩⟩⟩⟩

/-- What is restored is the graph of the snapshot. -/
theorem restoreGraph_eq_ok {snapshot : Snapshot S}
    (restored : restoreGraph sha256 canonicalText snapshot = .ok graph) :
    snapshot.graph = some graph := by
  unfold restoreGraph at restored
  split at restored
  · cases restored
  · rename_i origin isGraph
    obtain ⟨text, -, restored⟩ := bind_eq_ok.mp restored
    dsimp only at restored
    split at restored
    · cases restored
    obtain ⟨hash, -, restored⟩ := bind_eq_ok.mp restored
    split at restored
    · cases restored
    · cases restored
      exact isGraph

/-- **A captured graph is restored.** -/
theorem restoreGraph_captureGraph {snapshot : Snapshot S} (captured : captureGraph sha256
    canonicalText graph snapshotId sourceStateId runtimeState = .ok snapshot) :
    restoreGraph sha256 canonicalText snapshot = .ok graph := by
  obtain ⟨text, hash, written, hashed, -, isGraph, isState, graphHash, stateHash⟩ :=
    captureGraph_eq_ok captured
  rw [restoreGraph, isGraph]
  dsimp only
  rw [graphHash, stateHash, isState, written, hashed]
  simp only [bind, Except.bind, ne_eq, not_true_eq_false, if_false]
  rfl

end Manager

end Dnc
