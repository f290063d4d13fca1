/-
**Calibration artifacts.**

`dnc.assurance.calibration`: artifacts with the key they apply to, and the registry that stores them
under their identifiers. An artifact is checked when it is built and when `replace` rebuilds it, so
it carries the fact that the check finds nothing; the registry holds every artifact under its own
identifier.

`mem_of_applicable`: what `applicable` returns is a stored CALIBRATED artifact with the key asked
for. The tables of the standard library, the printing of floats and the logarithm come from outside
(`CalibrationEnv`); nothing is asked of them.
-/

import Dnc.Capabilities.Registry
import Dnc.Logic.Sequence
import Dnc.PyLib.Dict
import Mathlib.Data.Sum.Order
import Mathlib.Data.List.Lex

namespace Dnc.Assurance

open PyLib Logic
open Cognition (RiskClass)
open Capabilities (ModelChangeEvent)

inductive CalibrationStatus where
  | draft | calibrated | extrapolated | shifted | insufficientData | invalidated | retired
deriving DecidableEq, Repr

structure CalibrationKeyData where
  domain : String
  riskClass : RiskClass
  capabilityFingerprint : String
  promptFingerprint : String
  decodingFingerprint : String
  verifierFingerprints : List String
  taskDistribution : String
deriving DecidableEq

/-- `CalibrationKey.__post_init__`. -/
def CalibrationKeyData.violation (key : CalibrationKeyData) : Option PyError :=
  if key.domain = "" ∨ key.capabilityFingerprint = "" ∨ key.promptFingerprint = "" ∨
      key.decodingFingerprint = "" ∨ key.taskDistribution = "" then
    some (.valueError "calibration applicability key MUST be complete")
  else none

structure CalibrationKey extends CalibrationKeyData where
  valid : toCalibrationKeyData.violation = none
deriving DecidableEq

theorem CalibrationKey.capabilityFingerprint_ne (key : CalibrationKey) :
    key.capabilityFingerprint ≠ "" := by
  intro empty
  have valid := key.valid
  unfold CalibrationKeyData.violation at valid
  exact (check_eq_none.mp valid).1 (Or.inr (Or.inl empty))

section Artifacts

variable (R : Type) [PyFloat R]

structure CalibrationMetrics where
  count : Int
  brierScore : R
  logLoss : R
  expectedCalibrationError : R
  selectiveRisk : List (R × R)
  reliability : List (R × R × Int)
deriving DecidableEq

structure CalibrationArtifactData where
  artifactId : String
  version : String
  key : CalibrationKey
  method : String
  parameters : List R
  datasetId : String
  split : String
  metrics : CalibrationMetrics R
  status : CalibrationStatus := .draft
  assumptions : List String := []
  subgroupMetrics : Dict String (CalibrationMetrics R) := ∅
  shiftScore : Option R := none
  contentHash : String := ""
  reason : String := ""
deriving DecidableEq

/-- What the module takes from outside: `hashlib.sha256(…).hexdigest()`,
`json.dumps(…, sort_keys=True)`, the JSON of a float, the `str` of a record of metrics, case folding
and numerals of the standard library, and `math.log`. -/
structure CalibrationEnv where
  sha256 : String → String
  dumps : Json → String
  number : R → Json
  metricsText : CalibrationMetrics R → String
  casefold : String → String
  isDigit : String → Bool
  toInt : String → Except PyError Int
  log : R → Except PyError R

variable {R} (env : CalibrationEnv R)

namespace CalibrationArtifactData

/-- `CalibrationArtifact.compute_hash`. -/
def computeHash (artifact : CalibrationArtifactData R) : String :=
  let key := artifact.key
  env.sha256 (env.dumps (.obj [("artifact_id", .str artifact.artifactId),
    ("version", .str artifact.version),
    ("key", .obj [("domain", .str key.domain), ("risk_class", .str (PyEnum.value key.riskClass)),
      ("capability_fingerprint", .str key.capabilityFingerprint),
      ("prompt_fingerprint", .str key.promptFingerprint),
      ("decoding_fingerprint", .str key.decodingFingerprint),
      ("verifier_fingerprints", .arr (key.verifierFingerprints.map .str)),
      ("task_distribution", .str key.taskDistribution)]),
    ("method", .str artifact.method), ("parameters", .arr (artifact.parameters.map env.number)),
    ("dataset_id", .str artifact.datasetId), ("split", .str artifact.split),
    ("metrics", .str (env.metricsText artifact.metrics)),
    ("assumptions", .arr (artifact.assumptions.map .str))]))

/-- `CalibrationArtifact.__post_init__`. -/
def violation (artifact : CalibrationArtifactData R) : Option PyError :=
  if artifact.artifactId = "" ∨ artifact.version = "" ∨ artifact.method = "" ∨
      artifact.datasetId = "" ∨ artifact.split = "" then
    some (.valueError "calibration artifact identity and provenance MUST be complete")
  else if artifact.contentHash ≠ "" ∧ artifact.contentHash ≠ artifact.computeHash env then
    some (.dncCalibrationError "calibration artifact content hash mismatch")
  else if artifact.status = .calibrated ∧ artifact.metrics.count < 2 then
    some (.dncCalibrationError "calibrated artifacts require held-out outcome evidence")
  else none

/-- The fields apart from the dictionary of subgroups. -/
def withoutSubgroups (artifact : CalibrationArtifactData R) : CalibrationArtifactData R :=
  { artifact with subgroupMetrics := ∅ }

/-- `first == second`; dictionaries compare as maps. -/
def Equal (first second : CalibrationArtifactData R) : Prop :=
  first.withoutSubgroups = second.withoutSubgroups ∧
    ∀ name ∈ first.subgroupMetrics.keys ++ second.subgroupMetrics.keys,
      first.subgroupMetrics.get? name = second.subgroupMetrics.get? name

instance (first second : CalibrationArtifactData R) : Decidable (first.Equal second) :=
  inferInstanceAs (Decidable (_ ∧ _))

omit [PyFloat R] in
theorem Equal.key {first second : CalibrationArtifactData R} (same : first.Equal second) :
    first.key = second.key := by
  have fields : first.withoutSubgroups.key = second.withoutSubgroups.key := by rw [same.1]
  exact fields

omit [PyFloat R] in
theorem Equal.status {first second : CalibrationArtifactData R} (same : first.Equal second) :
    first.status = second.status := by
  have fields : first.withoutSubgroups.status = second.withoutSubgroups.status := by rw [same.1]
  exact fields

end CalibrationArtifactData

structure CalibrationArtifact (env : CalibrationEnv R) extends CalibrationArtifactData R where
  valid : toCalibrationArtifactData.violation env = none

namespace CalibrationArtifact

variable {env}

omit [PyFloat R] in
/-- The check of a rebuilt artifact: the hash does not cover the fields that `replace` changes. -/
theorem violation_replace (artifact : CalibrationArtifact env) (status : CalibrationStatus)
    (kept : status = .calibrated → artifact.status = .calibrated) (score : Option R)
    (reason : String) :
    { artifact.toCalibrationArtifactData with
      status := status, shiftScore := score, reason := reason }.violation env = none := by
  obtain ⟨complete, hashed⟩ := check_eq_none.mp artifact.valid
  obtain ⟨same, evidenced⟩ := check_eq_none.mp hashed
  refine check_eq_none.mpr ⟨complete, check_eq_none.mpr ⟨same, check_eq_none.mpr ⟨?_, rfl⟩⟩⟩
  rintro ⟨calibrated, few⟩
  exact (check_eq_none.mp evidenced).1 ⟨kept calibrated, few⟩

/-- `replace(artifact, content_hash=artifact.compute_hash())`. -/
def withHash (artifact : CalibrationArtifact env) : CalibrationArtifact env where
  toCalibrationArtifactData := { artifact.toCalibrationArtifactData with
    contentHash := artifact.computeHash env }
  valid := by
    obtain ⟨complete, hashed⟩ := check_eq_none.mp artifact.valid
    refine check_eq_none.mpr ⟨complete, check_eq_none.mpr ⟨fun wrong => wrong.2 rfl, ?_⟩⟩
    exact (check_eq_none.mp hashed).2

/-- `replace(artifact, status=CalibrationStatus.INVALIDATED, reason=reason)`. -/
def invalidate (artifact : CalibrationArtifact env) (reason : String) : CalibrationArtifact env where
  toCalibrationArtifactData := { artifact.toCalibrationArtifactData with
    status := .invalidated, reason := reason }
  valid := artifact.violation_replace .invalidated nofun artifact.shiftScore reason

/-- The fingerprints that an artifact depends on. -/
def fingerprints (artifact : CalibrationArtifact env) : List String :=
  artifact.key.capabilityFingerprint :: artifact.key.verifierFingerprints

/-- What `invalidate_fingerprint` does to an artifact. -/
def invalidateOn (fingerprint reason : String) (artifact : CalibrationArtifact env) :
    CalibrationArtifact env :=
  if fingerprint ∈ artifact.fingerprints then artifact.invalidate reason else artifact

/-- `replace(artifact, status=CalibrationStatus.SHIFTED, shift_score=score, reason=reason)`. -/
def shift (artifact : CalibrationArtifact env) (score : R) (reason : String) :
    CalibrationArtifact env where
  toCalibrationArtifactData := { artifact.toCalibrationArtifactData with
    status := .shifted, shiftScore := some score, reason := reason }
  valid := artifact.violation_replace .shifted nofun (some score) reason

/-- `replace(artifact, shift_score=score)`. -/
def withScore (artifact : CalibrationArtifact env) (score : R) : CalibrationArtifact env where
  toCalibrationArtifactData := { artifact.toCalibrationArtifactData with shiftScore := some score }
  valid := artifact.violation_replace _ id (some score) artifact.reason

end CalibrationArtifact

/-! ### Population shift -/

/-- The fraction of the values in a bin of `population_shift`. -/
def binFraction (index bins : Nat) (values : List R) : R :=
  let low := ((index : Int) : R) / ((bins : Int) : R)
  let high := ((index + 1 : Int) : R) / ((bins : Int) : R)
  let inside := values.countP fun value =>
    low ≤ value ∧ value < high ∨ index = bins - 1 ∧ value = ((1 : Int) : R)
  ((inside : Int) : R) / ((values.length : Int) : R)

/-- `population_shift`, with its ten bins. -/
def populationShift (reference observed : List R) : Except PyError R :=
  if reference = [] ∨ observed = [] then
    .error (.valueError "shift analysis requires both populations")
  else
    let epsilon : R := 1e-9
    (List.range 10).foldlM (fun score index => do
      let referenceFraction := binFraction index 10 reference
      let observedFraction := binFraction index 10 observed
      let logarithm ← env.log ((observedFraction + epsilon) / (referenceFraction + epsilon))
      .ok (score + (observedFraction - referenceFraction) * logarithm)) 0.0

/-! ### Versions -/

/-- `_version_key`: numerals sort before other parts. -/
def versionKey (version : String) : Except PyError (List (Int ⊕ₗ String)) :=
  ((version.replace "-" ".").splitOn ".").mapM fun part =>
    if env.isDigit part then (env.toInt part).map Sum.inlₗ else .ok (Sum.inrₗ part)

/-! ### The registry -/

structure AssuranceCalibrationRegistry (env : CalibrationEnv R) where
  artifacts : Dict String (CalibrationArtifact env) := ∅
  keyed : ∀ artifactId artifact, artifacts.get? artifactId = some artifact →
    artifact.artifactId = artifactId := by intro _ _ found; exact nomatch found

namespace AssuranceCalibrationRegistry

variable {env} (registry : AssuranceCalibrationRegistry env)

/-- `self._artifacts[artifact.artifact_id] = artifact`. -/
def store (artifact : CalibrationArtifact env) : AssuranceCalibrationRegistry env where
  artifacts := registry.artifacts.set artifact.artifactId artifact
  keyed artifactId other found := by
    rw [Dict.get?_set] at found
    split_ifs at found with same
    · cases found
      exact same.symm
    · exact registry.keyed artifactId other found

/-- The end of `register`: an identifier in use takes an equal artifact only. -/
def storeEqual (artifact : CalibrationArtifact env) :
    Except PyError (AssuranceCalibrationRegistry env) :=
  match registry.artifacts.get? artifact.artifactId with
  | none => .ok (registry.store artifact)
  | some existing =>
    if existing.Equal artifact.toCalibrationArtifactData then .ok (registry.store artifact)
    else
      .error (.dncCalibrationError
        "calibration artifact ID cannot be replaced with different content")

variable {registry} in
theorem storeEqual_eq_ok {artifact : CalibrationArtifact env}
    {next : AssuranceCalibrationRegistry env} (stored : registry.storeEqual artifact = .ok next) :
    next = registry.store artifact := by
  unfold storeEqual at stored
  cases existing : registry.artifacts.get? artifact.artifactId with
  | none =>
    rw [existing] at stored
    cases stored
    rfl
  | some previous =>
    rw [existing] at stored
    dsimp only at stored
    split_ifs at stored
    cases stored
    rfl

/-- `AssuranceCalibrationRegistry.register`. -/
def register (artifact : CalibrationArtifact env) :
    Except PyError (AssuranceCalibrationRegistry env) :=
  if artifact.status = .calibrated ∧
      env.casefold artifact.split ∉ ["held-out", "validation", "test"] then
    .error (.dncCalibrationError "calibrated artifacts MUST use a held-out split")
  else registry.storeEqual (if artifact.contentHash = "" then artifact.withHash else artifact)

/-- The stored artifacts that apply to a key. -/
def matching (key : CalibrationKey) : List (CalibrationArtifact env) :=
  registry.artifacts.values.filter fun artifact =>
    artifact.key = key ∧ artifact.status = .calibrated

/-- One comparison of `max` by version; the first of the greatest is kept. -/
def later (best : CalibrationArtifact env × List (Int ⊕ₗ String)) (artifact : CalibrationArtifact env) :
    Except PyError (CalibrationArtifact env × List (Int ⊕ₗ String)) := do
  let version ← versionKey env artifact.version
  .ok (if best.2 < version then (artifact, version) else best)

/-- `AssuranceCalibrationRegistry.applicable`. -/
def applicable (key : CalibrationKey) : Except PyError (Option (CalibrationArtifact env)) :=
  match registry.matching key with
  | [] => .ok none
  | first :: rest => do
    let version ← versionKey env first.version
    let best ← rest.foldlM later (first, version)
    .ok (some best.1)

/-- `AssuranceCalibrationRegistry.invalidate_fingerprint`. -/
def invalidateFingerprint (fingerprint reason : String) : AssuranceCalibrationRegistry env where
  artifacts := registry.artifacts.mapValues fun artifact => artifact.invalidateOn fingerprint reason
  keyed artifactId artifact found := by
    rw [Dict.get?_mapValues] at found
    obtain ⟨earlier, stored, rfl⟩ := Option.map_eq_some_iff.mp found
    unfold CalibrationArtifact.invalidateOn
    split_ifs
    · exact registry.keyed artifactId earlier stored
    · exact registry.keyed artifactId earlier stored

/-- `AssuranceCalibrationRegistry.mark_shifted`. -/
def markShifted (artifactId : String) (score : R) (reason : String) :
    Except PyError (AssuranceCalibrationRegistry env) :=
  match registry.artifacts.get? artifactId with
  | none => .error (.keyError artifactId)
  | some artifact => .ok (registry.store (artifact.shift score reason))

/-- `AssuranceCalibrationRegistry.assess_shift`. -/
def assessShift (artifactId : String) (reference observed : List R) (threshold : R) :
    Except PyError (AssuranceCalibrationRegistry env) :=
  if threshold < ((0 : Int) : R) then
    .error (.valueError "shift threshold MUST be non-negative")
  else do
    let score ← populationShift env reference observed
    match registry.artifacts.get? artifactId with
    | none => .error (.keyError artifactId)
    | some artifact =>
      if threshold < score then
        registry.markShifted artifactId score "population shift threshold exceeded"
      else .ok (registry.store (artifact.withScore score))

/-- `AssuranceCalibrationRegistry.handle_model_change`. -/
def handleModelChange (event : ModelChangeEvent) : AssuranceCalibrationRegistry env :=
  if event.previousFingerprint = "" then registry
  else registry.invalidateFingerprint event.previousFingerprint "provider/model fingerprint changed"

/-- The registry as a change listener of `CapabilityRegistry.register`. -/
def listen : Option ModelChangeEvent → AssuranceCalibrationRegistry env
  | none => registry
  | some event => registry.handleModelChange event

variable {registry}

omit [PyFloat R] in
/-- The comparisons keep one of the artifacts. -/
theorem fst_mem_of_foldlM {rest : List (CalibrationArtifact env)}
    {best result : CalibrationArtifact env × List (Int ⊕ₗ String)}
    (compared : rest.foldlM later best = .ok result) : result.1 ∈ best.1 :: rest := by
  induction rest generalizing best with
  | nil =>
    cases compared
    exact List.mem_cons_self
  | cons artifact rest ih =>
    rw [List.foldlM_cons] at compared
    obtain ⟨next, chosen, others⟩ := bind_eq_ok.mp compared
    obtain ⟨version, -, picked⟩ := bind_eq_ok.mp chosen
    cases picked
    rcases List.mem_cons.mp (ih others) with same | member
    · rw [same]
      split_ifs
      · exact List.mem_cons_of_mem _ List.mem_cons_self
      · exact List.mem_cons_self
    · exact List.mem_cons_of_mem _ (List.mem_cons_of_mem _ member)

omit [PyFloat R] in
/-- **What is applicable is stored, CALIBRATED and has the key.** -/
theorem mem_of_applicable {key : CalibrationKey} {found : CalibrationArtifact env}
    (returned : registry.applicable key = .ok (some found)) :
    registry.artifacts.get? found.artifactId = some found ∧ found.key = key ∧
      found.status = .calibrated := by
  have member : found ∈ registry.matching key := by
    unfold applicable at returned
    cases stored : registry.matching key with
    | nil =>
      rw [stored] at returned
      cases returned
    | cons first rest =>
      rw [stored] at returned
      obtain ⟨version, -, compared⟩ := bind_eq_ok.mp returned
      obtain ⟨best, chosen, picked⟩ := bind_eq_ok.mp compared
      cases picked
      exact fst_mem_of_foldlM chosen
  unfold matching at member
  rw [List.mem_filter, decide_eq_true_eq] at member
  obtain ⟨artifactId, stored⟩ := Dict.mem_values.mp member.1
  refine ⟨?_, member.2⟩
  rw [registry.keyed artifactId found stored]
  exact stored

end AssuranceCalibrationRegistry

end Artifacts

end Dnc.Assurance
