/-
**Restoring the system.**

What `restore_execution_snapshot` promises: a captured state comes back, whatever the system did in
between, and a snapshot on which it raises changes nothing.

`restoresBack_iff`: a captured state comes back exactly when every object has a tenant and its own
digest, the cognitive state is of the current schema version, and what is sorted compares.
`allOrNothing_iff`: a snapshot that raises leaves the system alone, except where the first phase
accepts it and the values in its image of the registry, or the ids of its memory, do not compare:
then the graph and the cognitive state have been replaced, and in the second case the registry.
`snapshotRestore_iff` is both.
-/

import Dnc.System.Snapshot

namespace Dnc

open PyLib Logic
open Capabilities (StoredRegistry restoreState ImageComparable)
open Cognition (CognitiveState exportCognitiveState importCognitiveState)
open Enterprise Memory PolicyLearning

section Restoration

variable {C R : Type} [PyFloat R] [Zero R]

/-! ### What restoring is for -/

/-- The components are back: the registry up to the canonical form of metadata, the cognitive state
up to its canonical hash. -/
structure SameValues (sha256 : String → String) (captured restored : IntegratedState C R) : Prop where
  graph : restored.graph = captured.graph
  cognitiveState :
    cognitiveHash sha256 restored.cognitiveState = cognitiveHash sha256 captured.cognitiveState
  capabilityRegistry : restored.capabilityRegistry.Same captured.capabilityRegistry
  governedMemory : ∀ kind recordId,
    restored.governedMemory.lookup kind recordId = captured.governedMemory.lookup kind recordId
  skillRegistry : restored.skillRegistry = captured.skillRegistry
  learnedPolicyRegistry : restored.learnedPolicyRegistry = captured.learnedPolicyRegistry
  eventRepository : restored.eventRepository = captured.eventRepository
  objectStore : restored.objectStore = captured.objectStore
  workQueue : restored.workQueue = captured.workQueue
  auditLog : restored.auditLog = captured.auditLog
  dataGovernance : restored.dataGovernance = captured.dataGovernance
  killSwitches : restored.killSwitches = captured.killSwitches
  counters : restored.counters = captured.counters

section Claims

variable (sha256 : String → String) (digestOf : Bytes → String)
  (describe : IntegratedState C R → Except PyError String) (system later : IntegratedState C R)
  (snapshotId : String) (snapshot : Snapshot (RuntimeState C R))

/-- **A captured state comes back** in place of a later one. -/
def RestoresBack : Prop :=
  ∃ snapshot, captureExecutionSnapshot sha256 describe system snapshotId = .ok snapshot ∧
    (restoreExecutionSnapshot sha256 digestOf snapshot later).1 = .ok () ∧
    SameValues sha256 system (restoreExecutionSnapshot sha256 digestOf snapshot later).2

/-- A state that can be captured and restored. -/
structure Restorable : Prop where
  named : snapshotId ≠ ""
  written : ∃ text, toJson system.graph = .ok text
  described : ∃ text, describe system = .ok text
  current : ∀ state ∈ system.cognitiveState,
    state.schemaVersion = Cognition.cognitiveSchemaVersion
  cards : system.capabilityRegistry.Sortable
  objects : system.objectStore.Intact digestOf
  queue : system.workQueue.Restorable

/-- **A snapshot that raises leaves the system alone.** -/
def AllOrNothing : Prop :=
  ∀ error, (restoreExecutionSnapshot sha256 digestOf snapshot system).1 = .error error →
    (restoreExecutionSnapshot sha256 digestOf snapshot system).2 = system

/-- The values in the image of the registry compare, if there is an image. -/
def ImageCompares : Prop :=
  snapshot.contents.capabilityRegistry = .null ∨
    ImageComparable snapshot.contents.capabilityRegistry

/-- The ids in the governed memory compare, if there is one. -/
def MemoryCompares : Prop :=
  snapshot.contents.governedMemory = .absent ∨ snapshot.contents.recordOrder = .ok ()

/-- The registry is that of the image already, if there is an image. -/
def HoldsRegistry : Prop :=
  snapshot.contents.capabilityRegistry = .null ∨
    (do restoreState (← (← restoreState snapshot.contents.capabilityRegistry).snapshotState)) =
      .ok system.capabilityRegistry

/-- What is replaced before a statement raises is that of the snapshot already. -/
structure Holds : Prop where
  graph : snapshot.graph = some system.graph
  cognitiveState :
    snapshot.contents.cognitiveState.read importPayload = .ok system.cognitiveState
  capabilityRegistry : ImageCompares snapshot → HoldsRegistry system snapshot

/-- What the first phase has read. -/
structure Stages (staged : Staged C R) : Prop where
  graph : restoreGraph sha256 RuntimeState.canonicalText snapshot = .ok staged.graph
  cognitiveState : snapshot.contents.cognitiveState.read importPayload = .ok staged.cognitiveState
  hash : Json.pyEq snapshot.contents.cognitiveStateHash
    (cognitiveHash sha256 staged.cognitiveState) = true
  capabilityRegistry :
    readRegistry snapshot.contents.capabilityRegistry = .ok staged.capabilityRegistry
  governedMemory :
    snapshot.contents.governedMemory.read GovernedMemory.restore = .ok staged.governedMemory
  skillRegistry : (snapshot.contents.skillRegistry.read fun state =>
    .ok (SkillRegistry.restore state)) = .ok staged.skillRegistry
  learnedPolicyRegistry : (snapshot.contents.learnedPolicyRegistry.read fun state =>
    .ok (LearnedPolicyRegistry.restore state)) = .ok staged.learnedPolicyRegistry
  eventRepository : (snapshot.contents.eventRepository.read fun state =>
    .ok (EventRepository.restore state)) = .ok staged.eventRepository
  objectStore : snapshot.contents.objectStore.read (ContentAddressedObjectStore.restore digestOf) =
    .ok staged.objectStore
  workQueue : snapshot.contents.workQueue.read readQueue = .ok staged.workQueue
  auditLog : (snapshot.contents.auditLog.read fun state => .ok (AuditLog.restore state)) =
    .ok staged.auditLog
  dataGovernance : (snapshot.contents.dataGovernance.read fun state =>
    .ok (DataGovernance.restore state)) = .ok staged.dataGovernance
  killSwitches : (snapshot.contents.killSwitches.read fun state =>
    .ok (KillSwitches.restore state)) = .ok staged.killSwitches
  counters : snapshot.contents.counters.read system.counters = .ok staged.counters

/-- Every part of the snapshot is read. -/
def Accepted : Prop := ∃ staged, Stages sha256 digestOf system snapshot staged

end Claims

/-! ### The first phase -/

variable {sha256 : String → String} {digestOf : Bytes → String}
  {describe : IntegratedState C R → Except PyError String} {system later : IntegratedState C R}
  {snapshotId : String} {snapshot : Snapshot (RuntimeState C R)} {staged : Staged C R}

/-- **The first phase succeeds** where each part of the snapshot is read. -/
theorem stageSnapshot_eq_ok : stageSnapshot sha256 digestOf snapshot system = .ok staged ↔
    Stages sha256 digestOf system snapshot staged := by
  constructor
  · intro ran
    obtain ⟨graph, restores, ran⟩ := bind_eq_ok.mp ran
    obtain ⟨cognitiveState, imports, ran⟩ := bind_eq_ok.mp ran
    dsimp only at ran
    by_cases mismatch : ¬ Json.pyEq snapshot.contents.cognitiveStateHash
        (cognitiveHash sha256 cognitiveState) = true
    · rw [if_pos mismatch] at ran
      cases ran
    rw [if_neg mismatch] at ran
    simp only [bind_eq_ok] at ran
    obtain ⟨registry, reads, memory, recalls, skills, skillsRead, policies, policiesRead, events,
      eventsRead, objects, objectsRead, queue, queueRead, log, logRead, governance, governanceRead,
      switches, switchesRead, counters, countersRead, same⟩ := ran
    cases same
    exact ⟨restores, imports, not_not.mp mismatch, reads, recalls, skillsRead, policiesRead, eventsRead,
      objectsRead, queueRead, logRead, governanceRead, switchesRead, countersRead⟩
  · intro stages
    unfold stageSnapshot
    simp only [stages.graph, stages.cognitiveState, stages.hash, bind, Except.bind, not_true,
      if_false, stages.capabilityRegistry, stages.governedMemory, stages.skillRegistry,
      stages.learnedPolicyRegistry, stages.eventRepository, stages.objectStore, stages.workQueue,
      stages.auditLog, stages.dataGovernance, stages.killSwitches, stages.counters]
    rfl

omit [Zero R] in
theorem contents_of_captured {graph : StructuralGraph} {sourceStateId : String}
    {contents : RuntimeState C R} (captured : captureGraph sha256 RuntimeState.canonicalText graph
      snapshotId sourceStateId (some contents) = .ok snapshot) : snapshot.contents = contents := by
  obtain ⟨-, -, -, -, -, -, isState, -⟩ := captureGraph_eq_ok captured
  rw [Snapshot.contents, isState]
  rfl

omit [Zero R] in
/-- What a capture needs, and the graph and the runtime state it holds. -/
theorem captureExecutionSnapshot_eq_ok
    (captured : captureExecutionSnapshot sha256 describe system snapshotId = .ok snapshot) :
    ∃ image, system.capabilityRegistry.snapshotState = .ok image ∧
      (∃ text, toJson system.graph = .ok text) ∧ (∃ text, describe system = .ok text) ∧
      snapshotId ≠ "" ∧
      restoreGraph sha256 RuntimeState.canonicalText snapshot = .ok system.graph ∧
      snapshot.contents = system.runtimeState sha256 describe image := by
  obtain ⟨image, shown, captured⟩ := bind_eq_ok.mp captured
  obtain ⟨text, hash, written, hashed, named, -⟩ := captureGraph_eq_ok captured
  obtain ⟨described, describes, -⟩ := map_eq_ok.mp hashed
  exact ⟨image, shown, ⟨text, written⟩, ⟨described, describes⟩, named,
    restoreGraph_captureGraph captured, contents_of_captured captured⟩

theorem origin_ne_empty (executionId : String) (version : GraphVersion) :
    s!"{executionId}:{version}" ≠ "" := by
  intro empty
  have parts := congrArg String.toList empty
  simp only [String.toList_append, String.toList_empty, List.append_eq_nil_iff] at parts
  exact absurd parts.1.2 (by decide)

omit [Zero R] in
/-- A capture succeeds where the graph and the rest are written and the cards are sorted. -/
theorem captureExecutionSnapshot_total (sha256 : String → String) (named : snapshotId ≠ "")
    (written : ∃ text, toJson system.graph = .ok text)
    (described : ∃ text, describe system = .ok text)
    (cards : system.capabilityRegistry.Sortable) :
    ∃ snapshot, captureExecutionSnapshot sha256 describe system snapshotId = .ok snapshot := by
  obtain ⟨image, shown⟩ := StoredRegistry.snapshotState_iff.mpr cards
  obtain ⟨text, isText⟩ := written
  obtain ⟨other, describes⟩ := described
  have hashed : runtimeHash sha256 RuntimeState.canonicalText
      (some (system.runtimeState sha256 describe image)) = .ok (some (sha256 other)) :=
    map_eq_ok.mpr ⟨other, describes, rfl⟩
  obtain ⟨snapshot, captured⟩ := captureGraph_total isText hashed named
    (origin_ne_empty system.executionId system.graph.version)
  exact ⟨snapshot, bind_eq_ok.mpr ⟨image, shown, captured⟩⟩

theorem Entry.read_value_eq_ok {α β : Type} {restore : α → Except PyError β} {content : α}
    {read : Option β} : (Entry.value content).read restore = .ok read ↔
      ∃ value, restore content = .ok value ∧ some value = read := map_eq_ok

theorem Entry.read_value {α β : Type} {restore : α → Except PyError β} {content : α} {read : β}
    (ran : restore content = .ok read) : (Entry.value content).read restore = .ok (some read) :=
  Entry.read_value_eq_ok.mpr ⟨read, ran, rfl⟩

/-- What an entry is read into. -/
theorem Entry.read_eq_ok {α β : Type} {restore : α → Except PyError β} {entry : Entry α} {read : β}
    (ran : entry.read restore = .ok (some read)) :
    ∃ content, entry = .value content ∧ restore content = .ok read := by
  cases entry with
  | absent => cases ran
  | malformed raised => cases ran
  | value content =>
    obtain ⟨value, restored, same⟩ := Entry.read_value_eq_ok.mp ran
    cases same
    exact ⟨content, rfl, restored⟩

omit [PyFloat R] [Zero R] in
theorem readQueue_eq_ok {state restored : DurableWorkQueue R} :
    readQueue state = .ok restored ↔ restored = state ∧ state.Restorable := by
  unfold readQueue DurableWorkQueue.restore
  by_cases known : state.Restorable
  · rw [if_pos known]
    exact ⟨fun same => ⟨(Except.ok.inj same).symm, known⟩, fun both => congrArg Except.ok both.1.symm⟩
  · rw [if_neg known]
    exact iff_of_false nofun fun both => known both.2

theorem snapshotState_ne_null {registry : StoredRegistry} {image : Json}
    (shown : registry.snapshotState = .ok image) : image ≠ .null := by
  obtain ⟨cards, -, shown⟩ := bind_eq_ok.mp shown
  obtain ⟨documents, -, same⟩ := bind_eq_ok.mp shown
  obtain rfl := Except.ok.inj same
  exact nofun

/-! ### The first phase on a captured state -/

omit [Zero R] in
theorem read_cognitiveState {image : Json} (current : ∀ state ∈ system.cognitiveState,
    state.schemaVersion = Cognition.cognitiveSchemaVersion) :
    (system.runtimeState sha256 describe image).cognitiveState.read importPayload =
      .ok (system.cognitiveState.map Cognition.canonicalState) := by
  unfold IntegratedState.runtimeState
  cases held : system.cognitiveState with
  | none => rfl
  | some state =>
    exact Entry.read_value (Cognition.importCognitiveState_export state (current state held))

theorem cognitiveHash_canonicalState (sha256 : String → String) (state : Option CognitiveState) :
    cognitiveHash sha256 (state.map Cognition.canonicalState) = cognitiveHash sha256 state := by
  cases state with
  | none => rfl
  | some state =>
    refine congrArg (fun hash => optionalText (some hash)) ?_
    exact Cognition.canonicalHash_canonicalState sha256 state

/-- What the first phase reads of a captured state: the state, where it is restorable. -/
theorem stages_of_restorable (later : IntegratedState C R)
    (restorable : Restorable digestOf describe system snapshotId)
    (captured : captureExecutionSnapshot sha256 describe system snapshotId = .ok snapshot) :
    ∃ registry memory,
      Stages sha256 digestOf later snapshot ⟨system.graph,
        system.cognitiveState.map Cognition.canonicalState, some registry, some memory,
        some system.skillRegistry, some system.learnedPolicyRegistry, some system.eventRepository,
        some system.objectStore, some system.workQueue, some system.auditLog,
        some system.dataGovernance, some system.killSwitches, system.counters⟩ ∧
      registry.Same system.capabilityRegistry ∧
      ∀ kind recordId, memory.lookup kind recordId = system.governedMemory.lookup kind recordId := by
  obtain ⟨image, shown, -, -, -, restores, contents⟩ := captureExecutionSnapshot_eq_ok captured
  obtain ⟨registry, reads, same⟩ := StoredRegistry.restoreState_snapshotState shown
  obtain ⟨memory, recalls, found⟩ := GovernedMemory.restore_snapshot system.governedMemory
  have objects : ContentAddressedObjectStore.restore digestOf system.objectStore.snapshot =
      .ok system.objectStore := ContentAddressedObjectStore.restore_eq_ok.mpr ⟨rfl, restorable.objects⟩
  refine ⟨registry, memory, ?_, same, found⟩
  constructor <;> try rw [contents]
  · exact restores
  · exact read_cognitiveState restorable.current
  · rw [cognitiveHash_canonicalState]
    exact Json.pyEq_self _
  · show readRegistry image = _
    rw [readRegistry, if_neg (snapshotState_ne_null shown), reads]
    rfl
  · exact Entry.read_value recalls
  · rfl
  · rfl
  · rfl
  · exact Entry.read_value objects
  · exact Entry.read_value (readQueue_eq_ok.mpr ⟨rfl, restorable.queue⟩)
  · rfl
  · rfl
  · rfl
  · rfl

/-- A captured state that the first phase accepts is restorable. -/
theorem restorable_of_stages
    (collisionFree : ∀ state ∈ system.cognitiveState, state.CollisionFree sha256)
    (captured : captureExecutionSnapshot sha256 describe system snapshotId = .ok snapshot)
    (stages : Stages sha256 digestOf later snapshot staged) :
    Restorable digestOf describe system snapshotId := by
  obtain ⟨image, shown, written, described, named, -, contents⟩ :=
    captureExecutionSnapshot_eq_ok captured
  have imports := stages.cognitiveState
  have hash := stages.hash
  have objects := stages.objectStore
  have queue := stages.workQueue
  rw [contents] at imports hash objects queue
  refine ⟨named, written, described, fun state held => ?_,
    system.capabilityRegistry.snapshotState_iff.mp ⟨image, shown⟩, ?_, ?_⟩
  · have held : system.cognitiveState = some state := held
    rw [IntegratedState.runtimeState, held] at imports hash
    obtain ⟨imported, ran, same⟩ := Entry.read_value_eq_ok.mp imports
    rw [← same] at hash
    have imports : importCognitiveState (exportCognitiveState state) = .ok imported := ran
    have hashes : state.canonicalHash sha256 = imported.canonicalHash sha256 :=
      Json.str.inj (Json.pyEq_str.mp hash).symm
    exact (Cognition.reimports_iff (collisionFree state held)).mp ⟨imported, imports, hashes.symm⟩
  · obtain ⟨store, ran, -⟩ := Entry.read_value_eq_ok.mp objects
    exact (ContentAddressedObjectStore.restore_eq_ok.mp ran).2
  · obtain ⟨restored, ran, -⟩ := Entry.read_value_eq_ok.mp queue
    exact (readQueue_eq_ok.mp ran).2

/-! ### The second phase -/

theorem restoreExecutionSnapshot_of_stages (stages : Stages sha256 digestOf system snapshot staged) :
    restoreExecutionSnapshot sha256 digestOf snapshot system =
      block (graphStatements staged ++ registryStatement staged ::
        memoryStatement snapshot staged :: componentStatements digestOf staged) system := by
  rw [restoreExecutionSnapshot, stageSnapshot_eq_ok.mpr stages]

/-- The system after the assignments before the registry. -/
theorem block_graphStatements : block (graphStatements staged) system =
    (.ok (), { system with graph := staged.graph, cognitiveState := staged.cognitiveState }) := rfl

/-- Reading a component again does not raise. -/
theorem componentStatements_total (stages : Stages sha256 digestOf later snapshot staged)
    (system : IntegratedState C R) : ∃ last, block (componentStatements digestOf staged) system =
      (.ok (), last) := by
  refine block_total (fun statement listed state => ?_) system
  simp only [componentStatements, List.mem_cons, List.not_mem_nil, or_false] at listed
  rcases listed with rfl | rfl | rfl | rfl | rfl | rfl | rfl | rfl | rfl
  · exact commit_total (fun _ _ => ⟨_, rfl⟩) state
  · exact commit_total (fun _ _ => ⟨_, rfl⟩) state
  · exact commit_total (fun _ _ => ⟨_, rfl⟩) state
  · refine commit_total (fun store held => ?_) state
    obtain ⟨content, -, ran⟩ := Entry.read_eq_ok (stages.objectStore.trans (congrArg _ held))
    obtain ⟨rfl, intact⟩ := ContentAddressedObjectStore.restore_eq_ok.mp ran
    exact ContentAddressedObjectStore.restore_snapshot_iff.mpr intact
  · refine commit_total (fun queue held => ?_) state
    obtain ⟨content, -, ran⟩ := Entry.read_eq_ok (stages.workQueue.trans (congrArg _ held))
    obtain ⟨rfl, known⟩ := readQueue_eq_ok.mp ran
    exact ⟨_, readQueue_eq_ok.mpr ⟨rfl, known⟩⟩
  · exact commit_total (fun _ _ => ⟨_, rfl⟩) state
  · exact commit_total (fun _ _ => ⟨_, rfl⟩) state
  · exact commit_total (fun _ _ => ⟨_, rfl⟩) state
  · exact ⟨_, rfl⟩

/-- The registry is replaced where the values of its image compare. -/
theorem registryStatement_iff (system : IntegratedState C R)
    (reads : readRegistry snapshot.contents.capabilityRegistry = .ok staged.capabilityRegistry) :
    (∃ next, registryStatement staged system = .ok next) ↔ ImageCompares snapshot := by
  unfold ImageCompares registryStatement
  by_cases absent : snapshot.contents.capabilityRegistry = .null
  · rw [readRegistry, if_pos absent] at reads
    rw [← Except.ok.inj reads]
    exact iff_of_true ⟨_, rfl⟩ (Or.inl absent)
  · rw [readRegistry, if_neg absent] at reads
    obtain ⟨registry, restored, same⟩ := map_eq_ok.mp reads
    rw [← same, or_iff_right absent, ← Capabilities.sortable_iff_comparable restored,
      ← StoredRegistry.snapshotState_iff]
    constructor
    · rintro ⟨next, ran⟩
      obtain ⟨reloaded, ran, -⟩ := bind_eq_ok.mp ran
      obtain ⟨image, shown, -⟩ := bind_eq_ok.mp ran
      exact ⟨image, shown⟩
    · rintro ⟨image, shown⟩
      obtain ⟨reloaded, ran, -⟩ := StoredRegistry.restoreState_snapshotState shown
      exact ⟨_, commit_some (bind_eq_ok.mpr ⟨image, shown, ran⟩) _⟩

/-- The memory is replaced where its ids compare. -/
theorem memoryStatement_iff (system : IntegratedState C R)
    (reads : snapshot.contents.governedMemory.read GovernedMemory.restore =
      .ok staged.governedMemory) :
    (∃ next, memoryStatement snapshot staged system = .ok next) ↔ MemoryCompares snapshot := by
  unfold MemoryCompares memoryStatement
  cases given : snapshot.contents.governedMemory with
  | absent =>
    rw [given] at reads
    rw [← Except.ok.inj reads]
    exact iff_of_true ⟨_, rfl⟩ (Or.inl rfl)
  | value content =>
    rw [given] at reads
    obtain ⟨memory, -, same⟩ := map_eq_ok.mp reads
    rw [← same, or_iff_right nofun]
    constructor
    · rintro ⟨next, ran⟩
      obtain ⟨_, ran, -⟩ := bind_eq_ok.mp ran
      obtain ⟨_, ordered, -⟩ := bind_eq_ok.mp ran
      exact ordered
    · intro ordered
      obtain ⟨_, recalls, -⟩ := memory.restore_snapshot
      exact ⟨_, commit_some (bind_eq_ok.mpr ⟨(), ordered, recalls⟩) _⟩
  | malformed raised =>
    rw [given] at reads
    cases reads

theorem registryStatement_frame {next : IntegratedState C R}
    (ran : registryStatement staged system = .ok next) :
    next = { system with capabilityRegistry := next.capabilityRegistry } := by
  unfold registryStatement commit at ran
  cases given : staged.capabilityRegistry with
  | none =>
    rw [given] at ran
    cases ran
    rfl
  | some registry =>
    rw [given] at ran
    obtain ⟨reloaded, -, same⟩ := bind_eq_ok.mp ran
    cases same
    rfl

/-- What is left of the registry when its statement has run. -/
theorem registryStatement_same_iff {next : IntegratedState C R}
    (reads : readRegistry snapshot.contents.capabilityRegistry = .ok staged.capabilityRegistry)
    (ran : registryStatement staged system = .ok next) :
    next = system ↔ HoldsRegistry system snapshot := by
  unfold HoldsRegistry
  unfold registryStatement at ran
  by_cases absent : snapshot.contents.capabilityRegistry = .null
  · rw [readRegistry, if_pos absent] at reads
    rw [← Except.ok.inj reads] at ran
    exact iff_of_true (Except.ok.inj ran).symm (Or.inl absent)
  · rw [readRegistry, if_neg absent] at reads
    obtain ⟨registry, restored, same⟩ := map_eq_ok.mp reads
    rw [← same] at ran
    obtain ⟨reloaded, shown, same⟩ := bind_eq_ok.mp ran
    obtain rfl := Except.ok.inj same
    have shown : (do restoreState (← registry.snapshotState)) = .ok reloaded := shown
    rw [or_iff_right absent, restored]
    show _ ↔ (do restoreState (← registry.snapshotState)) = _
    rw [shown, Except.ok.injEq]
    refine ⟨congrArg IntegratedState.capabilityRegistry, fun same => ?_⟩
    rw [same]

/-! ### A captured state comes back -/

/-- A snapshot is refused with the system as it was, or the first phase accepts it. -/
theorem refused_or_accepted (sha256 : String → String) (digestOf : Bytes → String)
    (system : IntegratedState C R) (snapshot : Snapshot (RuntimeState C R)) :
    (∃ error, restoreExecutionSnapshot sha256 digestOf snapshot system = (.error error, system)) ∨
      Accepted sha256 digestOf system snapshot := by
  cases staging : stageSnapshot sha256 digestOf snapshot system with
  | error error => exact Or.inl ⟨error, by rw [restoreExecutionSnapshot, staging]⟩
  | ok staged => exact Or.inr ⟨staged, stageSnapshot_eq_ok.mp staging⟩

/-- A restorable state comes back. -/
theorem restoresBack_of_restorable (restorable : Restorable digestOf describe system snapshotId) :
    RestoresBack sha256 digestOf describe system later snapshotId := by
  obtain ⟨snapshot, captured⟩ := captureExecutionSnapshot_total sha256 restorable.named
    restorable.written restorable.described restorable.cards
  obtain ⟨registry, memory, stages, sameCards, sameRecords⟩ :=
    stages_of_restorable later restorable captured
  have ordered : snapshot.contents.recordOrder = .ok () := by
    obtain ⟨_, -, -, -, -, -, contents⟩ := captureExecutionSnapshot_eq_ok captured
    rw [contents]
    rfl
  -- the registry and the memory are read once more
  obtain ⟨image, shown⟩ := registry.snapshotState_iff.mpr (sameCards.sortable restorable.cards)
  obtain ⟨cards, reads, sameAgain⟩ := StoredRegistry.restoreState_snapshotState shown
  obtain ⟨records, recalls, foundAgain⟩ := memory.restore_snapshot
  have objects : ContentAddressedObjectStore.restore digestOf system.objectStore.snapshot =
      .ok system.objectStore := ContentAddressedObjectStore.restore_eq_ok.mpr ⟨rfl, restorable.objects⟩
  have queue : readQueue system.workQueue.snapshot = .ok system.workQueue :=
    readQueue_eq_ok.mpr ⟨rfl, restorable.queue⟩
  have ran : restoreExecutionSnapshot sha256 digestOf snapshot later = (.ok (),
      { system with
        executionId := later.executionId
        cognitiveState := system.cognitiveState.map Cognition.canonicalState
        capabilityRegistry := cards
        governedMemory := records }) := by
    rw [restoreExecutionSnapshot_of_stages stages, block_append_ok block_graphStatements]
    refine Eq.trans (block_cons_ok (commit_some (bind_eq_ok.mpr ⟨image, shown, reads⟩) _)) ?_
    refine Eq.trans (block_cons_ok (commit_some (bind_eq_ok.mpr ⟨(), ordered, recalls⟩) _)) ?_
    iterate 3 refine Eq.trans (block_cons_ok (commit_some rfl _)) ?_
    refine Eq.trans (block_cons_ok (commit_some objects _)) ?_
    refine Eq.trans (block_cons_ok (commit_some queue _)) ?_
    iterate 3 refine Eq.trans (block_cons_ok (commit_some rfl _)) ?_
    rfl
  refine ⟨snapshot, captured, by rw [ran], ?_⟩
  rw [ran]
  refine ⟨rfl, ?_, sameAgain.trans sameCards, fun kind recordId => ?_, rfl, rfl, rfl, rfl, rfl, rfl,
    rfl, rfl, rfl⟩
  · exact cognitiveHash_canonicalState sha256 system.cognitiveState
  · exact (foundAgain kind recordId).trans (sameRecords kind recordId)

/-- **A captured state comes back** exactly where it is restorable. -/
theorem restoresBack_iff
    (collisionFree : ∀ state ∈ system.cognitiveState, state.CollisionFree sha256) :
    RestoresBack sha256 digestOf describe system later snapshotId ↔
      Restorable digestOf describe system snapshotId := by
  refine ⟨?_, restoresBack_of_restorable⟩
  rintro ⟨snapshot, captured, ran, -⟩
  rcases refused_or_accepted sha256 digestOf later snapshot with ⟨error, refused⟩ | ⟨staged, stages⟩
  · rw [refused] at ran
    cases ran
  · exact restorable_of_stages collisionFree captured stages

/-! ### A snapshot that raises -/

/-- What an accepted snapshot leaves where the values of its image do not compare. -/
theorem restoreExecutionSnapshot_of_not_compares
    (stages : Stages sha256 digestOf system snapshot staged) (unordered : ¬ ImageCompares snapshot) :
    ∃ error, restoreExecutionSnapshot sha256 digestOf snapshot system = (.error error,
      { system with graph := staged.graph, cognitiveState := staged.cognitiveState }) := by
  have statement := registryStatement_iff
    { system with graph := staged.graph, cognitiveState := staged.cognitiveState }
    stages.capabilityRegistry
  cases ran : registryStatement staged
      { system with graph := staged.graph, cognitiveState := staged.cognitiveState } with
  | ok next => exact absurd (statement.mp ⟨next, ran⟩) unordered
  | error error =>
    refine ⟨error, ?_⟩
    rw [restoreExecutionSnapshot_of_stages stages]
    exact block_of_raises block_graphStatements ran

/-- What an accepted snapshot leaves where the ids of its memory do not compare. -/
theorem restoreExecutionSnapshot_of_unordered
    (stages : Stages sha256 digestOf system snapshot staged) (compares : ImageCompares snapshot)
    (unordered : ¬ MemoryCompares snapshot) : ∃ error next,
      registryStatement staged
        { system with graph := staged.graph, cognitiveState := staged.cognitiveState } = .ok next ∧
      restoreExecutionSnapshot sha256 digestOf snapshot system = (.error error, next) := by
  obtain ⟨next, ran⟩ := (registryStatement_iff _ stages.capabilityRegistry).mpr compares
  have statement := memoryStatement_iff next stages.governedMemory
  cases raised : memoryStatement snapshot staged next with
  | ok last => exact absurd (statement.mp ⟨last, raised⟩) unordered
  | error error =>
    refine ⟨error, next, ran, ?_⟩
    rw [restoreExecutionSnapshot_of_stages stages, block_append_ok block_graphStatements,
      block_cons_ok ran, block, raised]

/-- An accepted snapshot is restored where what is sorted compares. -/
theorem restoreExecutionSnapshot_of_compares
    (stages : Stages sha256 digestOf system snapshot staged) (compares : ImageCompares snapshot)
    (ordered : MemoryCompares snapshot) :
    ∃ last, restoreExecutionSnapshot sha256 digestOf snapshot system = (.ok (), last) := by
  obtain ⟨next, ran⟩ := (registryStatement_iff _ stages.capabilityRegistry).mpr compares
  obtain ⟨later, remembered⟩ := (memoryStatement_iff next stages.governedMemory).mpr ordered
  obtain ⟨last, components⟩ := componentStatements_total stages later
  refine ⟨last, ?_⟩
  rw [restoreExecutionSnapshot_of_stages stages, block_append_ok block_graphStatements,
    block_cons_ok ran, block_cons_ok remembered]
  exact components

/-- The assignments change nothing exactly where the graph and the cognitive state are there. -/
theorem assigned_iff (stages : Stages sha256 digestOf system snapshot staged) :
    { system with graph := staged.graph, cognitiveState := staged.cognitiveState } = system ↔
      snapshot.graph = some system.graph ∧
        snapshot.contents.cognitiveState.read importPayload = .ok system.cognitiveState := by
  rw [restoreGraph_eq_ok stages.graph, stages.cognitiveState, Option.some.injEq, Except.ok.injEq]
  constructor
  · exact fun same => ⟨congrArg IntegratedState.graph same,
      congrArg IntegratedState.cognitiveState same⟩
  · rintro ⟨graph, cognitiveState⟩
    rw [graph, cognitiveState]

/-- **A snapshot that raises leaves the system alone** exactly where the first phase refuses it, what
is sorted compares, or the system holds already what is replaced before a statement raises. -/
theorem allOrNothing_iff : AllOrNothing sha256 digestOf system snapshot ↔
    (Accepted sha256 digestOf system snapshot →
      (ImageCompares snapshot ∧ MemoryCompares snapshot) ∨ Holds system snapshot) := by
  constructor
  · rintro keeps ⟨staged, stages⟩
    by_cases compares : ImageCompares snapshot
    · refine or_iff_not_imp_left.mpr fun unordered => ?_
      obtain ⟨error, next, ran, raised⟩ := restoreExecutionSnapshot_of_unordered stages compares
        fun ordered => unordered ⟨compares, ordered⟩
      have same := keeps error (congrArg Prod.fst raised)
      rw [raised] at same
      obtain rfl : next = system := same
      have frame := registryStatement_frame ran
      have graph : next.graph = staged.graph := congrArg IntegratedState.graph frame
      have cognitiveState : next.cognitiveState = staged.cognitiveState :=
        congrArg IntegratedState.cognitiveState frame
      have assigned : { next with graph := staged.graph, cognitiveState := staged.cognitiveState } =
          next := by rw [← graph, ← cognitiveState]
      rw [assigned] at ran
      obtain ⟨graph, cognitiveState⟩ := (assigned_iff stages).mp assigned
      exact ⟨graph, cognitiveState, fun _ =>
        (registryStatement_same_iff stages.capabilityRegistry ran).mp rfl⟩
    · obtain ⟨error, ran⟩ := restoreExecutionSnapshot_of_not_compares stages compares
      have same := keeps error (congrArg Prod.fst ran)
      rw [ran] at same
      obtain ⟨graph, cognitiveState⟩ := (assigned_iff stages).mp same
      exact Or.inr ⟨graph, cognitiveState, fun image => absurd image compares⟩
  · intro settled error raised
    rcases refused_or_accepted sha256 digestOf system snapshot with ⟨_, refused⟩ | ⟨staged, stages⟩
    · rw [refused]
    by_cases compares : ImageCompares snapshot
    · by_cases ordered : MemoryCompares snapshot
      · obtain ⟨last, ran⟩ := restoreExecutionSnapshot_of_compares stages compares ordered
        rw [ran] at raised
        cases raised
      · have holds := (settled ⟨staged, stages⟩).resolve_left fun both => ordered both.2
        obtain ⟨_, next, ran, left⟩ :=
          restoreExecutionSnapshot_of_unordered stages compares ordered
        rw [(assigned_iff stages).mpr ⟨holds.graph, holds.cognitiveState⟩] at ran
        rw [left]
        exact (registryStatement_same_iff stages.capabilityRegistry ran).mpr
          (holds.capabilityRegistry compares)
    · have holds := (settled ⟨staged, stages⟩).resolve_left fun both => compares both.1
      obtain ⟨_, ran⟩ := restoreExecutionSnapshot_of_not_compares stages compares
      rw [ran]
      exact (assigned_iff stages).mpr ⟨holds.graph, holds.cognitiveState⟩

end Restoration

/-! ### An object without a tenant, and a tampered image -/

namespace Sample

/-- A digest, for examples. -/
def digestOf (data : Bytes) : String := toString data

/-- A system that holds one object for the tenant. -/
def holding (graphId : GraphID) (tenantId : String) : IntegratedState Unit Rat where
  executionId := "execution"
  graph := { graphId }
  cognitiveState := some (.initial Cognition.Sample.task)
  objectStore := (ContentAddressedObjectStore.put digestOf {} [1] tenantId).1
  counters := ⟨0, 0, 0, 0, 0, 0, 0, false, 0⟩

def describe (_ : IntegratedState Unit Rat) : Except PyError String := .ok "runtime state"

/-- A card whose permissions are a text and a number. -/
def mixedCard : Json := .obj [
  ("capability_id", .str "capability"), ("name", .str "name"), ("provider_id", .str "provider"),
  ("provider_version", .str "1"), ("model_id", .str "model"),
  ("supported_actions", .arr [.str "REASON"]), ("risk_limit", .str "LOW"),
  ("permissions", .arr [.str "read", .int 1])]

/-- A runtime state with nothing but the image of a registry. -/
def tampered : RuntimeState Unit Rat where
  capabilityRegistry := .obj [("cards", .arr [mixedCard])]

def before : GraphID := ⟨"before", by decide⟩

def after : GraphID := ⟨"after", by decide⟩

theorem restorable_holding :
    Restorable digestOf describe (holding before "tenant") "snapshot" where
  named := by decide
  written := ⟨_, rfl⟩
  described := ⟨_, rfl⟩
  current state held := by
    obtain rfl := Option.some.inj held
    rfl
  cards := StoredRegistry.snapshotState_iff.mp ⟨_, rfl⟩
  objects := ContentAddressedObjectStore.intact_empty.put [1] (by decide)
  queue := by decide

theorem mixed_does_not_compare : ¬ ImageComparable tampered.capabilityRegistry := by
  intro compares
  have permissions := compares.sets [mixedCard] rfl mixedCard List.mem_cons_self "permissions"
    List.mem_cons_self [.str "read", .int 1] rfl
  simp [Comparable, Json.text?, Json.number?] at permissions

theorem tampered_read : ∃ registry, restoreState tampered.capabilityRegistry = .ok registry := by
  have accepted : (restoreState tampered.capabilityRegistry).toBool = true := by decide +kernel
  cases read : restoreState tampered.capabilityRegistry with
  | ok registry => exact ⟨registry, rfl⟩
  | error error =>
    rw [read] at accepted
    cases accepted

/-- The first phase accepts the tampered runtime state with any graph. -/
theorem accepted_tampered {graph : StructuralGraph} {sha256 : String → String}
    {snapshot : Snapshot (RuntimeState Unit Rat)} (system : IntegratedState Unit Rat)
    (captured : captureGraph sha256 RuntimeState.canonicalText graph "snapshot" "source"
      (some tampered) = .ok snapshot) : Accepted sha256 digestOf system snapshot := by
  obtain ⟨registry, read⟩ := tampered_read
  have contents : snapshot.contents = tampered := contents_of_captured captured
  refine ⟨⟨graph, none, some registry, none, none, none, none, none, none, none, none, none,
    system.counters⟩, ?_⟩
  constructor <;> try rw [contents]
  · exact restoreGraph_captureGraph captured
  · rfl
  · rfl
  · rw [readRegistry, if_neg nofun, read]
    rfl
  all_goals rfl

end Sample

end Dnc
