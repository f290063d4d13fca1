/-
**Memory and skill contracts.**

`dnc.memory.contracts`: memory records, skill manifests and evaluations. The fingerprint of a
manifest is computed from its content; one that the caller passes has to be that one, so a manifest
carries no fingerprint of its own here. Labels, permissions and domains are sets of strings, and the
content of a record is an arbitrary value.
-/

import Dnc.Cognition.Canonical
import Dnc.PyLib.Number

namespace Dnc.Memory

open PyLib Cognition

inductive MemoryKind where
  | working | episodic | semantic | procedural | calibration | audit
deriving DecidableEq, Repr

instance : PyEnum MemoryKind where
  name := "MemoryKind"
  members := [.working, .episodic, .semantic, .procedural, .calibration, .audit]
  value
    | .working => "WORKING"
    | .episodic => "EPISODIC"
    | .semantic => "SEMANTIC"
    | .procedural => "PROCEDURAL"
    | .calibration => "CALIBRATION"
    | .audit => "AUDIT"

inductive SkillLifecycle where
  | draft | sandboxed | evaluated | shadow | canary | active | quarantined | retired | rolledBack
deriving DecidableEq, Repr

instance : PyEnum SkillLifecycle where
  name := "SkillLifecycle"
  members := [.draft, .sandboxed, .evaluated, .shadow, .canary, .active, .quarantined, .retired,
    .rolledBack]
  value
    | .draft => "DRAFT"
    | .sandboxed => "SANDBOXED"
    | .evaluated => "EVALUATED"
    | .shadow => "SHADOW"
    | .canary => "CANARY"
    | .active => "ACTIVE"
    | .quarantined => "QUARANTINED"
    | .retired => "RETIRED"
    | .rolledBack => "ROLLED_BACK"

/-! ### Records -/

section Records

variable {C R : Type} [PyFloat R]

/-- The fields of a record; its content is a value of any type, or `None`. -/
structure MemoryRecordData (C R : Type) [PyFloat R] where
  recordId : String
  kind : MemoryKind
  tenantId : String
  content : Option C
  provenance : List String
  securityLabels : Finset String := ∅
  trust : R := 0.0
  createdAtNs : Int := 0
  expiresAtNs : Option Int := none
  legalHold : Bool := false
  dependencies : List String := []
  domain : String := "general"
  integrityVerified : Bool := false
  deleted : Bool := false

/-- `MemoryRecord.__post_init__`. -/
def MemoryRecordData.violation (data : MemoryRecordData C R) : Option PyError :=
  if data.recordId = "" ∨ data.tenantId = "" ∨ data.provenance = [] then
    some (.valueError "memory identity, tenant, and provenance MUST be non-empty")
  else if ¬ (((0 : Int) : R) ≤ data.trust ∧ data.trust ≤ ((1 : Int) : R)) then
    some (.valueError "memory trust MUST be between 0 and 1")
  else if ∃ expiry ∈ data.expiresAtNs, expiry < data.createdAtNs then
    some (.valueError "memory expiry MUST not precede creation")
  else none

variable (C R) in
structure MemoryRecord extends MemoryRecordData C R where
  valid : toMemoryRecordData.violation = none

namespace MemoryRecord

/-- `replace(record, deleted=True, content=None)`; the check reads neither field. -/
def tombstone (record : MemoryRecord C R) : MemoryRecord C R where
  toMemoryRecordData := { record.toMemoryRecordData with deleted := true, content := none }
  valid := record.valid

@[simp] theorem recordId_tombstone (record : MemoryRecord C R) :
    record.tombstone.recordId = record.recordId := rfl

@[simp] theorem legalHold_tombstone (record : MemoryRecord C R) :
    record.tombstone.legalHold = record.legalHold := rfl

end MemoryRecord

end Records

/-! ### Skills -/

structure SkillManifestData where
  skillId : String
  version : String
  tenantId : String
  name : String
  procedure : List String
  permissions : Finset String
  domains : Finset String
  sourceEpisodeIds : List String
  negativeEpisodeIds : List String
  lifecycle : SkillLifecycle := .draft
  dependencyFingerprints : Finset String := ∅
  evaluationArtifactIds : List String := []
  parentVersion : Option String := none

/-- `SkillManifest.__post_init__`, the fingerprint apart. -/
def SkillManifestData.violation (data : SkillManifestData) : Option PyError :=
  if data.skillId = "" ∨ data.version = "" ∨ data.tenantId = "" ∨ data.name = "" then
    some (.valueError "skill identity fields MUST be non-empty")
  else if data.procedure = [] ∨ data.sourceEpisodeIds = [] then
    some (.valueError "skill MUST have a procedure and verified source episodes")
  else none

structure SkillManifest extends SkillManifestData where
  valid : toSkillManifestData.violation = none

/-- A set of strings as `canonical_data` lists it. -/
def canonicalTexts (texts : Finset String) : PyData :=
  .list ((sortBy (fun text => Json.dumpsWith .compact (.str text)) (sortedElems texts)).map .str)

namespace SkillManifest

/-- The key under which a registry stores the manifest. -/
def key (manifest : SkillManifest) : String × String := (manifest.skillId, manifest.version)

/-- `SkillManifest.fingerprint`. -/
def fingerprint (sha256 : String → String) (manifest : SkillManifest) : String :=
  canonicalHash sha256 (.dict [
    ("skill_id", .str manifest.skillId), ("version", .str manifest.version),
    ("tenant_id", .str manifest.tenantId), ("procedure", .textTuple manifest.procedure),
    ("permissions", canonicalTexts manifest.permissions),
    ("domains", canonicalTexts manifest.domains),
    ("source_episode_ids", .textTuple manifest.sourceEpisodeIds),
    ("negative_episode_ids", .textTuple manifest.negativeEpisodeIds),
    ("dependency_fingerprints", canonicalTexts manifest.dependencyFingerprints)])
    "dnc.memory.skill.v1"

/-- `replace(manifest, lifecycle=lifecycle)`; the check does not read the lifecycle. -/
def withLifecycle (manifest : SkillManifest) (lifecycle : SkillLifecycle) : SkillManifest where
  toSkillManifestData := { manifest.toSkillManifestData with lifecycle }
  valid := manifest.valid

/-- `replace(manifest, evaluation_artifact_ids=ids)`. -/
def withEvaluationArtifacts (manifest : SkillManifest) (evaluationArtifactIds : List String) :
    SkillManifest where
  toSkillManifestData := { manifest.toSkillManifestData with evaluationArtifactIds }
  valid := manifest.valid

@[simp] theorem lifecycle_withLifecycle (manifest : SkillManifest) (lifecycle : SkillLifecycle) :
    (manifest.withLifecycle lifecycle).lifecycle = lifecycle := rfl

@[simp] theorem key_withLifecycle (manifest : SkillManifest) (lifecycle : SkillLifecycle) :
    (manifest.withLifecycle lifecycle).key = manifest.key := rfl

theorem withLifecycle_self {manifest : SkillManifest} {lifecycle : SkillLifecycle}
    (same : manifest.lifecycle = lifecycle) : manifest.withLifecycle lifecycle = manifest := by
  subst same
  rfl

end SkillManifest

section Evaluations

variable {R : Type} [PyFloat R]

structure SkillEvaluation (R : Type) where
  artifactId : String
  skillFingerprint : String
  heldOutTasks : Int
  baselineSuccess : R
  skillSuccess : R
  harmfulTransferRate : R
  poisoningDetectionRate : R
  permissionViolations : Int := 0

/-- `SkillEvaluation.promotable`. -/
def SkillEvaluation.promotable (evaluation : SkillEvaluation R) : Bool :=
  decide (0 < evaluation.heldOutTasks) &&
    decide (evaluation.baselineSuccess < evaluation.skillSuccess) &&
    decide (evaluation.harmfulTransferRate ≤ 0.05) &&
    decide (0.95 ≤ evaluation.poisoningDetectionRate) &&
    evaluation.permissionViolations == 0

end Evaluations

end Dnc.Memory
