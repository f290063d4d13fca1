/-
**Admission to a replay.**

`assess_replay_admission` collects the reasons against a replay of a snapshot at a grade. A grade
asks for what the grades below it ask for, and for evidence of its own: the core evidence is a graph
and a runtime state that hash to what the manifest says (`CoreEvidence`), the external evidence
recordings and effects that do (`ExternalEvidence`). No reason is found exactly where the evidence
is there (`admittedAt_iff`).

* `AdmittedAt.mono`: what is admitted at a grade is admitted at the grades below it;
* `assess_captureGraph`, `assess_captureRecordedExecution`: the two ways to capture bind what the
  admission recomputes, and are admitted up to the grade that they declare;
* `AdmittedAt.sameJson`: a manifest with recorded externals is evidence for one content only.
-/

import Dnc.Execution.SnapshotManager

namespace Dnc

open PyLib Logic

/-- `ReproducibilityGrade.rank`. -/
def ReproducibilityGrade.rank (grade : ReproducibilityGrade) : Nat := PyEnum.rank grade

structure ReplayAdmission where
  requestedGrade : ReproducibilityGrade
  declaredGrade : ReproducibilityGrade
  admitted : Bool
  reasons : List String := []

/-- The kinds of external state that recorded externals may not leave uncaptured. -/
def externalKinds : List String := ["filesystem", "database", "network", "object_store", "queue"]

/-- `repr` of a tuple of strings. -/
def tupleRepr (texts : List String) : String :=
  "(" ++ ", ".intercalate (texts.map Json.textRepr) ++ (if texts.length = 1 then ",)" else ")")

section Admission

variable {S : Type} (sha256 : String → String) (canonicalText : S → Except PyError String)

/-- The reasons against a replay of the graph. -/
def graphReasons (snapshot : Snapshot S) : Except PyError (List String) :=
  match snapshot.graph with
  | none => .ok ["DETERMINISTIC_GRAPH_EVIDENCE_MISSING"]
  | some graph =>
    if snapshot.manifest.graphHash = none ∨ snapshot.manifest.graphHash = some "" then
      .ok ["DETERMINISTIC_GRAPH_EVIDENCE_MISSING"]
    else (toJson graph).map fun text =>
      reasonIf (some (sha256 text) ≠ snapshot.manifest.graphHash) "GRAPH_HASH_MISMATCH"

/-- The reasons against a replay of the deterministic core. -/
def coreReasons (snapshot : Snapshot S) : Except PyError (List String) := do
  let graphReasons ← graphReasons sha256 snapshot
  let actualRuntimeHash ← runtimeHash sha256 canonicalText snapshot.runtimeState
  return graphReasons ++
    reasonIf ("graph" ∉ snapshot.manifest.capturedState) "GRAPH_NOT_DECLARED_CAPTURED" ++
    reasonIf (actualRuntimeHash ≠ snapshot.manifest.runtimeStateHash) "RUNTIME_STATE_HASH_MISMATCH"

/-- The reasons against a replay of recorded externals. -/
def externalReasons (snapshot : Snapshot S) : List String :=
  let manifest := snapshot.manifest
  let recordingIds := snapshot.providerRecordings.map fun item => item.recordingId
  let effectIds := snapshot.effects.map fun item => item.effectId
  reasonIf (manifest.schemaVersion ≠ snapshotSchemaVersion)
      "LEGACY_MANIFEST_CANNOT_PROVE_RECORDED_EXTERNALS" ++
    reasonIf (sortBy id recordingIds ≠ sortBy id manifest.providerRecordingIds)
      "PROVIDER_RECORDING_EVIDENCE_MISMATCH" ++
    reasonIf (sortBy id effectIds ≠ sortBy id manifest.effectIds)
      "EFFECT_LEDGER_EVIDENCE_MISMATCH" ++
    reasonIf (manifest.providerRecordingsHash ≠
        some (snapshotEvidenceHash sha256 (recordingsText snapshot.providerRecordings)))
      "PROVIDER_RECORDING_HASH_MISMATCH" ++
    reasonIf (manifest.effectsHash ≠
        some (snapshotEvidenceHash sha256 (effectsText snapshot.effects)))
      "EFFECT_LEDGER_HASH_MISMATCH" ++
    reasonIf ("provider_responses" ∉ manifest.capturedState) "PROVIDER_RESPONSES_NOT_CAPTURED" ++
    reasonIf ("effect_ledger" ∉ manifest.capturedState) "EFFECT_LEDGER_NOT_CAPTURED" ++
    reasonIf ("provider_responses" ∈ manifest.uncapturedState)
      "PROVIDER_RESPONSES_DECLARED_UNCAPTURED" ++
    reasonIf (∃ kind ∈ externalKinds, kind ∈ manifest.uncapturedState)
      "EXTERNAL_STATE_DECLARED_UNCAPTURED" ++
    reasonIf (manifest.isolationGrade.rank < IsolationGrade.i3RecordedExternals.rank)
      "ISOLATION_BELOW_RECORDED_EXTERNALS"

/-- The reasons against a replay of the environment. -/
def environmentReasons (manifest : SnapshotManifest) : List String :=
  reasonIf (manifest.uncapturedState ≠ []) "ENVIRONMENT_STATE_REMAINS_UNCAPTURED" ++
    reasonIf ("environment" ∉ manifest.capturedState) "ENVIRONMENT_NOT_CAPTURED" ++
    reasonIf (manifest.isolationGrade ≠ .i4SandboxedEnvironment)
      "ENVIRONMENT_ISOLATION_NOT_SANDBOXED"

/-- The reasons against a replay by the manifest alone. -/
def manifestReasons (manifest : SnapshotManifest) (requestedGrade : ReproducibilityGrade) :
    List String :=
  reasonIf (manifest.reproducibilityGrade.rank < requestedGrade.rank)
      "REQUEST_EXCEEDS_DECLARED_GRADE" ++
    if ReproducibilityGrade.r1ManifestOnly.rank ≤ requestedGrade.rank then
      reasonIf (manifest.snapshotId = "" ∨ manifest.sourceStateId = "") "MANIFEST_IDENTITY_MISSING"
    else []

/-- The reasons by the core, where the request asks for it. -/
def requestedCore (snapshot : Snapshot S) (requestedGrade : ReproducibilityGrade) :
    Except PyError (List String) :=
  if ReproducibilityGrade.r2DeterministicCore.rank ≤ requestedGrade.rank then
    coreReasons sha256 canonicalText snapshot
  else .ok []

/-- `assess_replay_admission`. -/
def assessReplayAdmission (snapshot : Snapshot S) (requestedGrade : ReproducibilityGrade) :
    Except PyError ReplayAdmission := do
  let core ← requestedCore sha256 canonicalText snapshot requestedGrade
  let external :=
    if ReproducibilityGrade.r3RecordedExternals.rank ≤ requestedGrade.rank then
      externalReasons sha256 snapshot
    else []
  let environment :=
    if requestedGrade = .r4EnvironmentReplay then environmentReasons snapshot.manifest else []
  let reasons := manifestReasons snapshot.manifest requestedGrade ++ core ++ external ++ environment
  return {
    requestedGrade
    declaredGrade := snapshot.manifest.reproducibilityGrade
    admitted := reasons.isEmpty
    reasons }

/-- **The assessment admits the snapshot at the grade.** -/
def AdmittedAt (snapshot : Snapshot S) (grade : ReproducibilityGrade) : Prop :=
  ∃ admission, assessReplayAdmission sha256 canonicalText snapshot grade = .ok admission ∧
    admission.admitted = true

/-! ### Capturing recorded externals -/

/-- The manifest that `capture_recorded_execution` makes. -/
def recordedManifest (graphJson snapshotId sourceStateId : String) (runtimeHash : Option String)
    (runtimeState : Option S) (recordings : List ProviderRecording)
    (effectEntries : List EffectLedgerEntry) : SnapshotManifestData where
  snapshotId := snapshotId
  sourceStateId := sourceStateId
  reproducibilityGrade := .r3RecordedExternals
  isolationGrade := .i3RecordedExternals
  graphHash := some (sha256 graphJson)
  runtimeStateHash := runtimeHash
  providerRecordingIds := recordings.map fun item => item.recordingId
  providerRecordingsHash := some (snapshotEvidenceHash sha256 (recordingsText recordings))
  effectIds := effectEntries.map fun item => item.effectId
  effectsHash := some (snapshotEvidenceHash sha256 (effectsText effectEntries))
  capturedState := "graph" :: (if runtimeState.isSome then ["runtime_state"] else []) ++
    ["provider_responses", "effect_ledger"]
  uncapturedState := ["accelerator", "process_environment"]
  cleanupRequired := effectEntries.any EffectLedgerEntry.uncompensated

/-- `ReferenceSnapshotManager.capture_recorded_execution`. -/
def captureRecordedExecution (graph : StructuralGraph) (snapshotId sourceStateId : String)
    (providerRecordings : List ProviderRecording) (effects : List EffectLedgerEntry)
    (runtimeState : Option S) : Except PyError (Snapshot S) := do
  let recordings := sortBy (fun item => item.recordingId) providerRecordings
  let effectEntries := sortBy (fun item => item.effectId) effects
  let graphJson ← toJson graph
  let runtimeHash ← runtimeHash sha256 canonicalText runtimeState
  let manifest ← construct SnapshotManifestData.violation SnapshotManifest.mk
    (recordedManifest sha256 graphJson snapshotId sourceStateId runtimeHash runtimeState recordings
      effectEntries)
  let snapshot : Snapshot S :=
    { manifest, graph := some graph, runtimeState, providerRecordings := recordings,
      effects := effectEntries }
  let admission ← assessReplayAdmission sha256 canonicalText snapshot .r3RecordedExternals
  if admission.admitted = true then return snapshot
  else throw (.dncExecutionError
    s!"recorded-external snapshot admission failed: {tupleRepr admission.reasons}")

end Admission

/-! ### The evidence for a grade -/

section Evidence

variable {S : Type} (sha256 : String → String) (canonicalText : S → Except PyError String)

/-- The graph and the runtime state are those that the manifest was made of. -/
structure CoreEvidence (snapshot : Snapshot S) : Prop where
  graph : ∃ graph text, snapshot.graph = some graph ∧ toJson graph = .ok text ∧
    sha256 text ≠ "" ∧ snapshot.manifest.graphHash = some (sha256 text)
  captured : "graph" ∈ snapshot.manifest.capturedState
  runtime : runtimeHash sha256 canonicalText snapshot.runtimeState =
    .ok snapshot.manifest.runtimeStateHash

/-- The recordings and the effects are those that the manifest was made of, and no other external
state is left out. -/
structure ExternalEvidence (snapshot : Snapshot S) : Prop where
  current : snapshot.manifest.schemaVersion = snapshotSchemaVersion
  recordingIds : sortBy id (snapshot.providerRecordings.map fun item => item.recordingId) =
    sortBy id snapshot.manifest.providerRecordingIds
  effectIds : sortBy id (snapshot.effects.map fun item => item.effectId) =
    sortBy id snapshot.manifest.effectIds
  recordings : snapshot.manifest.providerRecordingsHash =
    some (snapshotEvidenceHash sha256 (recordingsText snapshot.providerRecordings))
  effects : snapshot.manifest.effectsHash =
    some (snapshotEvidenceHash sha256 (effectsText snapshot.effects))
  responsesCaptured : "provider_responses" ∈ snapshot.manifest.capturedState
  ledgerCaptured : "effect_ledger" ∈ snapshot.manifest.capturedState
  responsesDeclared : "provider_responses" ∉ snapshot.manifest.uncapturedState
  noneUncaptured : ∀ kind ∈ externalKinds, kind ∉ snapshot.manifest.uncapturedState
  isolated : IsolationGrade.i3RecordedExternals.rank ≤ snapshot.manifest.isolationGrade.rank

/-- Nothing of the environment is left out. -/
structure EnvironmentEvidence (manifest : SnapshotManifest) : Prop where
  noneUncaptured : manifest.uncapturedState = []
  captured : "environment" ∈ manifest.capturedState
  isolated : manifest.isolationGrade = .i4SandboxedEnvironment

variable {sha256 canonicalText} {snapshot other : Snapshot S}
  {grade low high : ReproducibilityGrade}

theorem graphReasons_eq_nil :
    graphReasons sha256 snapshot = .ok [] ↔ ∃ graph text, snapshot.graph = some graph ∧
      toJson graph = .ok text ∧ sha256 text ≠ "" ∧
        snapshot.manifest.graphHash = some (sha256 text) := by
  unfold graphReasons
  cases held : snapshot.graph with
  | none => exact iff_of_false (fun same => nomatch same) fun ⟨_, _, absent, _⟩ => nomatch absent
  | some graph =>
    dsimp only
    split_ifs with missing
    · refine iff_of_false (fun same => nomatch same) ?_
      rintro ⟨_, text, -, -, digest, hash⟩
      rw [hash, Option.some.injEq] at missing
      exact missing.elim (Option.some_ne_none _) digest
    · rw [map_eq_ok]
      constructor
      · rintro ⟨text, written, same⟩
        rw [reasonIf_eq_nil, not_not] at same
        rw [← same, not_or, Option.some.injEq] at missing
        exact ⟨graph, text, rfl, written, missing.2, same.symm⟩
      · rintro ⟨_, text, same, written, -, hash⟩
        cases same
        exact ⟨text, written, reasonIf_eq_nil.mpr (not_not.mpr hash.symm)⟩

theorem coreReasons_eq_nil :
    coreReasons sha256 canonicalText snapshot = .ok [] ↔
      CoreEvidence sha256 canonicalText snapshot := by
  unfold coreReasons
  rw [bind_eq_ok]
  constructor
  · rintro ⟨reasons, graphFound, rest⟩
    obtain ⟨hash, hashed, rest⟩ := bind_eq_ok.mp rest
    have all := Except.ok.inj rest
    rw [List.append_eq_nil_iff, List.append_eq_nil_iff, reasonIf_eq_nil, reasonIf_eq_nil,
      not_not, not_not] at all
    obtain ⟨⟨rfl, captured⟩, rfl⟩ := all
    exact ⟨graphReasons_eq_nil.mp graphFound, captured, hashed⟩
  · rintro ⟨graph, captured, hashed⟩
    refine ⟨[], graphReasons_eq_nil.mpr graph,
      bind_eq_ok.mpr ⟨_, hashed, congrArg Except.ok ?_⟩⟩
    rw [List.append_eq_nil_iff, List.append_eq_nil_iff, reasonIf_eq_nil, reasonIf_eq_nil,
      not_not, not_not]
    exact ⟨⟨rfl, captured⟩, rfl⟩

theorem externalReasons_eq_nil :
    externalReasons sha256 snapshot = [] ↔ ExternalEvidence sha256 snapshot := by
  unfold externalReasons
  simp only [List.append_eq_nil_iff, reasonIf_eq_nil, not_not, not_exists, not_and, Nat.not_lt,
    and_assoc]
  constructor
  · rintro ⟨current, recordingIds, effectIds, recordings, effects, responses, ledger, declared,
      uncaptured, isolated⟩
    exact ⟨current, recordingIds, effectIds, recordings, effects, responses, ledger, declared,
      uncaptured, isolated⟩
  · rintro ⟨current, recordingIds, effectIds, recordings, effects, responses, ledger, declared,
      uncaptured, isolated⟩
    exact ⟨current, recordingIds, effectIds, recordings, effects, responses, ledger, declared,
      uncaptured, isolated⟩

theorem environmentReasons_eq_nil {manifest : SnapshotManifest} :
    environmentReasons manifest = [] ↔ EnvironmentEvidence manifest := by
  unfold environmentReasons
  simp only [List.append_eq_nil_iff, reasonIf_eq_nil, not_not]
  constructor
  · rintro ⟨⟨uncaptured, captured⟩, isolated⟩
    exact ⟨uncaptured, captured, isolated⟩
  · rintro ⟨uncaptured, captured, isolated⟩
    exact ⟨⟨uncaptured, captured⟩, isolated⟩

/-- A manifest that was constructed names itself. -/
theorem SnapshotManifest.named (manifest : SnapshotManifest) :
    manifest.snapshotId ≠ "" ∧ manifest.sourceStateId ≠ "" := by
  have valid := manifest.valid
  unfold SnapshotManifestData.violation at valid
  obtain ⟨named, valid⟩ := check_eq_none.mp valid
  exact ⟨named, (check_eq_none.mp valid).1⟩

theorem manifestReasons_eq_nil {manifest : SnapshotManifest} :
    manifestReasons manifest grade = [] ↔ grade.rank ≤ manifest.reproducibilityGrade.rank := by
  have unnamed : ¬ (manifest.snapshotId = "" ∨ manifest.sourceStateId = "") :=
    not_or.mpr manifest.named
  unfold manifestReasons
  rw [List.append_eq_nil_iff, reasonIf_eq_nil, Nat.not_lt]
  refine and_iff_left ?_
  split_ifs
  · exact reasonIf_eq_nil.mpr unnamed
  · rfl

/-! ### The decision -/

theorem requestedCore_eq_nil : requestedCore sha256 canonicalText snapshot grade = .ok [] ↔
    (ReproducibilityGrade.r2DeterministicCore.rank ≤ grade.rank →
      CoreEvidence sha256 canonicalText snapshot) := by
  unfold requestedCore
  rw [← coreReasons_eq_nil]
  split_ifs with asked
  · exact ⟨fun found _ => found, fun found => found asked⟩
  · exact iff_of_true rfl fun asking => absurd asking asked

theorem askedReasons_eq_nil {asked : Prop} [Decidable asked] {reasons : List String} :
    (if asked then reasons else []) = [] ↔ (asked → reasons = []) := by
  split_ifs with asking
  · exact ⟨fun none _ => none, fun none => none asking⟩
  · exact iff_of_true rfl fun also => absurd also asking

/-- **A snapshot is admitted exactly where the evidence for the grade is there.** -/
theorem admittedAt_iff : AdmittedAt sha256 canonicalText snapshot grade ↔
    grade.rank ≤ snapshot.manifest.reproducibilityGrade.rank ∧
      (ReproducibilityGrade.r2DeterministicCore.rank ≤ grade.rank →
        CoreEvidence sha256 canonicalText snapshot) ∧
      (ReproducibilityGrade.r3RecordedExternals.rank ≤ grade.rank →
        ExternalEvidence sha256 snapshot) ∧
      (grade = .r4EnvironmentReplay → EnvironmentEvidence snapshot.manifest) := by
  rw [← requestedCore_eq_nil, ← externalReasons_eq_nil, ← environmentReasons_eq_nil,
    ← askedReasons_eq_nil, ← askedReasons_eq_nil, ← manifestReasons_eq_nil]
  constructor
  · rintro ⟨admission, assessed, admitted⟩
    obtain ⟨reasons, found, assessed⟩ := bind_eq_ok.mp assessed
    obtain rfl := Except.ok.inj assessed
    have none := List.isEmpty_iff.mp admitted
    rw [List.append_eq_nil_iff, List.append_eq_nil_iff, List.append_eq_nil_iff] at none
    obtain ⟨⟨⟨manifest, rfl⟩, external⟩, environment⟩ := none
    exact ⟨manifest, found, external, environment⟩
  · rintro ⟨manifest, found, external, environment⟩
    refine ⟨_, bind_eq_ok.mpr ⟨[], found, rfl⟩, List.isEmpty_iff.mpr ?_⟩
    rw [List.append_eq_nil_iff, List.append_eq_nil_iff, List.append_eq_nil_iff]
    exact ⟨⟨⟨manifest, rfl⟩, external⟩, environment⟩

theorem ReproducibilityGrade.eq_r4_of_le (below : low.rank ≤ high.rank)
    (top : low = .r4EnvironmentReplay) : high = .r4EnvironmentReplay := by
  subst top
  revert below
  cases high <;> decide

/-- **A grade asks for what the grades below it ask for.** -/
theorem AdmittedAt.mono (admitted : AdmittedAt sha256 canonicalText snapshot high)
    (below : low.rank ≤ high.rank) : AdmittedAt sha256 canonicalText snapshot low := by
  obtain ⟨declared, core, external, environment⟩ := admittedAt_iff.mp admitted
  refine admittedAt_iff.mpr ⟨below.trans declared, ?_, ?_, ?_⟩
  · exact fun asked => core (asked.trans below)
  · exact fun asked => external (asked.trans below)
  · exact fun top => environment (ReproducibilityGrade.eq_r4_of_le below top)

/-- What is admitted exactly up to the grade that it declares. -/
theorem assess_of_evidence (core : CoreEvidence sha256 canonicalText snapshot)
    (external : ReproducibilityGrade.r3RecordedExternals.rank ≤
      snapshot.manifest.reproducibilityGrade.rank → ExternalEvidence sha256 snapshot)
    (below : snapshot.manifest.reproducibilityGrade ≠ .r4EnvironmentReplay)
    (grade : ReproducibilityGrade) :
    ∃ admission, assessReplayAdmission sha256 canonicalText snapshot grade = .ok admission ∧
      (admission.admitted = true ↔
        grade.rank ≤ snapshot.manifest.reproducibilityGrade.rank) := by
  obtain ⟨admission, assessed⟩ : ∃ admission,
      assessReplayAdmission sha256 canonicalText snapshot grade = .ok admission :=
    ⟨_, bind_eq_ok.mpr ⟨[], requestedCore_eq_nil.mpr fun _ => core, rfl⟩⟩
  refine ⟨admission, assessed, ?_⟩
  have decided : admission.admitted = true ↔ AdmittedAt sha256 canonicalText snapshot grade := by
    constructor
    · exact fun admitted => ⟨admission, assessed, admitted⟩
    · rintro ⟨same, also, admitted⟩
      rw [assessed] at also
      rwa [Except.ok.inj also]
  rw [decided, admittedAt_iff]
  constructor
  · exact fun admitted => admitted.1
  · intro declared
    refine ⟨declared, fun _ => core, fun asked => external (asked.trans declared), fun top => ?_⟩
    exact absurd (ReproducibilityGrade.eq_r4_of_le declared top) below

/-! ### One content for a manifest -/

variable (canonicalText) in
/-- **The graph, the runtime state, the recordings or the effects have a different canonical
JSON.** -/
def DifferentJson (snapshot other : Snapshot S) : Prop :=
  snapshot.graph.map toJson ≠ other.graph.map toJson ∨
    snapshot.runtimeState.map canonicalText ≠ other.runtimeState.map canonicalText ∨
    recordingsText snapshot.providerRecordings ≠ recordingsText other.providerRecordings ∨
    effectsText snapshot.effects ≠ effectsText other.effects

theorem runtimeHash_eq_ok {runtimeState : Option S} {hash : Option String} :
    runtimeHash sha256 canonicalText runtimeState = .ok hash ↔
      ∃ text : Option String, runtimeState.map canonicalText = text.map .ok ∧
        hash = text.map sha256 := by
  cases runtimeState with
  | none =>
    constructor
    · intro hashed
      cases hashed
      exact ⟨none, rfl, rfl⟩
    · rintro ⟨text, absent, rfl⟩
      rw [Option.map_eq_none_iff.mp absent.symm]
      rfl
  | some state =>
    rw [runtimeHash, map_eq_ok]
    constructor
    · rintro ⟨text, written, rfl⟩
      exact ⟨some text, congrArg some written, rfl⟩
    · rintro ⟨text, written, rfl⟩
      obtain ⟨text, rfl, same⟩ := Option.map_eq_some_iff.mp written.symm
      exact ⟨text, same.symm, rfl⟩

/-- **A manifest with recorded externals is evidence for one content.** -/
theorem AdmittedAt.sameJson (collisionFree : Function.Injective sha256)
    (admitted : AdmittedAt sha256 canonicalText snapshot .r3RecordedExternals)
    (also : AdmittedAt sha256 canonicalText other .r3RecordedExternals)
    (same : other.manifest = snapshot.manifest) : ¬ DifferentJson canonicalText snapshot other := by
  obtain ⟨-, core, external, -⟩ := admittedAt_iff.mp admitted
  obtain ⟨-, otherCore, otherExternal, -⟩ := admittedAt_iff.mp also
  have core := core (by decide)
  have external := external le_rfl
  have otherCore := otherCore (by decide)
  have otherExternal := otherExternal le_rfl
  unfold DifferentJson
  rw [not_or, not_or, not_or, not_not, not_not, not_not, not_not]
  refine ⟨?_, ?_, ?_, ?_⟩
  · obtain ⟨graph, text, held, written, -, hash⟩ := core.graph
    obtain ⟨otherGraph, otherText, otherHeld, otherWritten, -, otherHash⟩ := otherCore.graph
    rw [same, hash] at otherHash
    rw [held, otherHeld, Option.map_some, Option.map_some, written, otherWritten,
      collisionFree (Option.some.inj otherHash)]
  · obtain ⟨text, written, hash⟩ := runtimeHash_eq_ok.mp core.runtime
    obtain ⟨otherText, otherWritten, otherHash⟩ := runtimeHash_eq_ok.mp otherCore.runtime
    rw [same, hash] at otherHash
    rw [written, otherWritten, Option.map_injective collisionFree otherHash]
  · have hashes := otherExternal.recordings
    rw [same, external.recordings] at hashes
    exact collisionFree (Option.some.inj hashes)
  · have hashes := otherExternal.effects
    rw [same, external.effects] at hashes
    exact collisionFree (Option.some.inj hashes)

/-! ### What is captured is admitted -/

variable {graph : StructuralGraph} {snapshotId sourceStateId : String} {runtimeState : Option S}
  {providerRecordings : List ProviderRecording} {effects : List EffectLedgerEntry}

theorem assess_captureGraph (digest : ∀ text, sha256 text ≠ "")
    (captured : captureGraph sha256 canonicalText graph snapshotId sourceStateId runtimeState =
      .ok snapshot) (grade : ReproducibilityGrade) :
    ∃ admission, assessReplayAdmission sha256 canonicalText snapshot grade = .ok admission ∧
      (admission.admitted = true ↔ grade.rank ≤ ReproducibilityGrade.r2DeterministicCore.rank) := by
  obtain ⟨text, hash, written, hashed, valid, rfl⟩ := captureGraph_made captured
  refine assess_of_evidence ?_ ?_ ?_ grade
  · exact ⟨⟨graph, text, rfl, written, digest text, rfl⟩, List.mem_cons_self, hashed⟩
  · intro impossible
    have above : ¬ ReproducibilityGrade.r3RecordedExternals.rank ≤
        ReproducibilityGrade.r2DeterministicCore.rank := by decide
    exact absurd impossible above
  · exact fun top => nomatch top

/-- What `capture_recorded_execution` does: it raises what writing the graph or the runtime state
or the check of the manifest raises, or its snapshot holds the evidence. -/
theorem captureRecordedExecution_cases (digest : ∀ text, sha256 text ≠ "") :
    (∃ error, captureRecordedExecution sha256 canonicalText graph snapshotId sourceStateId
        providerRecordings effects runtimeState = .error error ∧
      (toJson graph = .error error ∨ runtimeHash sha256 canonicalText runtimeState = .error error ∨
        ∃ message, error = .valueError message)) ∨
    ∃ snapshot, captureRecordedExecution sha256 canonicalText graph snapshotId sourceStateId
        providerRecordings effects runtimeState = .ok snapshot ∧
      CoreEvidence sha256 canonicalText snapshot ∧ ExternalEvidence sha256 snapshot ∧
      snapshot.manifest.reproducibilityGrade = .r3RecordedExternals := by
  unfold captureRecordedExecution
  cases written : toJson graph with
  | error error => exact Or.inl ⟨error, rfl, Or.inl rfl⟩
  | ok text =>
    cases hashed : runtimeHash sha256 canonicalText runtimeState with
    | error error => exact Or.inl ⟨error, rfl, Or.inr (Or.inl rfl)⟩
    | ok hash =>
      let recordings := sortBy (fun item => item.recordingId) providerRecordings
      let entries := sortBy (fun item => item.effectId) effects
      let data := recordedManifest sha256 text snapshotId sourceStateId hash runtimeState recordings
        entries
      cases checked : data.violation with
      | some error =>
        refine Or.inl ⟨error, ?_, Or.inr (Or.inr
          (SnapshotManifestData.violation_valueError checked))⟩
        show (construct SnapshotManifestData.violation SnapshotManifest.mk data >>= _) = _
        rw [construct_of_invalid checked]
        rfl
      | none =>
        let snapshot : Snapshot S := ⟨⟨data, checked⟩, some graph, runtimeState, recordings, entries⟩
        have core : CoreEvidence sha256 canonicalText snapshot :=
          ⟨⟨graph, text, rfl, written, digest text, rfl⟩, List.mem_cons_self, hashed⟩
        have external : ExternalEvidence sha256 snapshot := by
          refine ⟨rfl, rfl, rfl, rfl, rfl, ?_, ?_, ?_, ?_, le_rfl⟩
          · exact List.mem_cons_of_mem _ (List.mem_append_right _ List.mem_cons_self)
          · exact List.mem_cons_of_mem _ (List.mem_append_right _ (by decide))
          · show "provider_responses" ∉ ["accelerator", "process_environment"]
            decide
          · show ∀ kind ∈ externalKinds, kind ∉ ["accelerator", "process_environment"]
            decide
        obtain ⟨admission, assessed, admits⟩ :=
          assess_of_evidence core (fun _ => external) nofun .r3RecordedExternals
        refine Or.inr ⟨snapshot, ?_, core, external, rfl⟩
        show (construct SnapshotManifestData.violation SnapshotManifest.mk data >>= _) = _
        rw [construct_of_valid checked]
        show (assessReplayAdmission sha256 canonicalText snapshot .r3RecordedExternals >>= _) = _
        rw [assessed]
        exact if_pos (admits.mpr le_rfl)

theorem assess_captureRecordedExecution (digest : ∀ text, sha256 text ≠ "")
    (captured : captureRecordedExecution sha256 canonicalText graph snapshotId sourceStateId
      providerRecordings effects runtimeState = .ok snapshot) (grade : ReproducibilityGrade) :
    ∃ admission, assessReplayAdmission sha256 canonicalText snapshot grade = .ok admission ∧
      (admission.admitted = true ↔ grade.rank ≤ ReproducibilityGrade.r3RecordedExternals.rank) := by
  rcases captureRecordedExecution_cases digest with
    ⟨error, raised, -⟩ | ⟨made, same, core, external, declared⟩
  · cases captured.symm.trans raised
  · obtain rfl := Except.ok.inj (captured.symm.trans same)
    rw [← declared]
    exact assess_of_evidence core (fun _ => external) (by rw [declared]; decide) grade

end Evidence

/-! ### The law of the admission -/

section Law

variable {S : Type} (sha256 : String → String) (canonicalText : S → Except PyError String)

/-- **Admission to a replay.** What is admitted at a grade is admitted at the lower grades. What
`capture_graph` makes is admitted at R2 and at no higher grade, and what
`capture_recorded_execution` makes at R3 and not at R4; the latter raises only what writing the graph
or the runtime state or the check of the manifest raises. With the manifest of a snapshot that is
admitted at R3, nothing else of a different canonical JSON is. -/
theorem replayAdmission (digest : ∀ text, sha256 text ≠ "")
    (collisionFree : Function.Injective sha256) :
    (∀ (snapshot : Snapshot S) (low high : ReproducibilityGrade), low.rank ≤ high.rank →
      AdmittedAt sha256 canonicalText snapshot high →
        AdmittedAt sha256 canonicalText snapshot low) ∧
    (∀ graph snapshotId sourceStateId runtimeState snapshot,
      captureGraph sha256 canonicalText graph snapshotId sourceStateId runtimeState =
          .ok snapshot →
        ∀ grade, ∃ admission,
          assessReplayAdmission sha256 canonicalText snapshot grade = .ok admission ∧
            (admission.admitted = true ↔
              grade.rank ≤ ReproducibilityGrade.r2DeterministicCore.rank)) ∧
    (∀ graph snapshotId sourceStateId providerRecordings effects runtimeState,
      (∀ error, captureRecordedExecution sha256 canonicalText graph snapshotId sourceStateId
          providerRecordings effects runtimeState = .error error →
        toJson graph = .error error ∨
          runtimeHash sha256 canonicalText runtimeState = .error error ∨
            ∃ message, error = .valueError message) ∧
      ∀ snapshot, captureRecordedExecution sha256 canonicalText graph snapshotId sourceStateId
          providerRecordings effects runtimeState = .ok snapshot →
        ∀ grade, ∃ admission,
          assessReplayAdmission sha256 canonicalText snapshot grade = .ok admission ∧
            (admission.admitted = true ↔
              grade.rank ≤ ReproducibilityGrade.r3RecordedExternals.rank)) ∧
    ∀ snapshot other : Snapshot S,
      AdmittedAt sha256 canonicalText snapshot .r3RecordedExternals →
        other.manifest = snapshot.manifest → DifferentJson canonicalText snapshot other →
          ¬ AdmittedAt sha256 canonicalText other .r3RecordedExternals := by
  refine ⟨?_, ?_, ?_, ?_⟩
  · intro snapshot low high below admitted
    exact admitted.mono below
  · intro graph snapshotId sourceStateId runtimeState snapshot captured grade
    exact assess_captureGraph digest captured grade
  · intro graph snapshotId sourceStateId providerRecordings effects runtimeState
    constructor
    · intro error raised
      rcases captureRecordedExecution_cases digest with ⟨first, also, origin⟩ | ⟨made, also, -⟩
      · obtain rfl := Except.error.inj (raised.symm.trans also)
        exact origin
      · cases raised.symm.trans also
    · intro snapshot captured grade
      exact assess_captureRecordedExecution digest captured grade
  · intro snapshot other admitted same different also
    exact admitted.sameJson collisionFree also same different

end Law

namespace Sample

/-- A digest without collisions. -/
def sha256 (text : String) : String := "sha256:" ++ text

theorem sha256_ne_empty (text : String) : sha256 text ≠ "" := by
  intro empty
  have lengths := congrArg String.length empty
  rw [sha256, String.length_append] at lengths
  exact absurd lengths (by simp)

theorem sha256_injective : Function.Injective sha256 := by
  intro first second same
  exact (String.append_right_inj _).mp same

end Sample

/-- A graph that was captured is admitted at R2 and not at R3. -/
theorem replayAdmission_captured :
    ∃ snapshot, captureGraph (S := String) Sample.sha256 .ok Sample.graph "snapshot" "source" none =
        .ok snapshot ∧
      AdmittedAt Sample.sha256 .ok snapshot .r2DeterministicCore ∧
      ¬ AdmittedAt Sample.sha256 .ok snapshot .r3RecordedExternals := by
  have written : toJson Sample.graph = .ok _ := rfl
  have hashed : runtimeHash (S := String) Sample.sha256 .ok none = .ok none := rfl
  obtain ⟨snapshot, captured⟩ := captureGraph_total written hashed
    (show "snapshot" ≠ "" by decide) (show "source" ≠ "" by decide)
  obtain ⟨-, graphs, -⟩ :=
    replayAdmission Sample.sha256 (.ok : String → _) Sample.sha256_ne_empty Sample.sha256_injective
  have decided := graphs _ _ _ _ snapshot captured
  refine ⟨snapshot, captured, ?_, ?_⟩
  · obtain ⟨admission, assessed, admits⟩ := decided .r2DeterministicCore
    exact ⟨admission, assessed, admits.mpr le_rfl⟩
  · rintro ⟨admission, assessed, admitted⟩
    obtain ⟨same, also, admits⟩ := decided .r3RecordedExternals
    obtain rfl := Except.ok.inj (assessed.symm.trans also)
    exact absurd (admits.mp admitted) (by decide)

end Dnc
