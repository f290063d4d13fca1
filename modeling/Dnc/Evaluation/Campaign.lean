/-
**The hidden campaign.**

`dnc.evaluation.scientific`: every system of a frozen manifest runs on every case with every seed, a
hidden evaluator scores the outputs, and each system is compared with each baseline on the cases and
seeds that both have.

Numbers are exact rationals. The evidence and the metadata of a response are left out: nothing reads
them.
-/

import Mathlib.Algebra.Order.Floor.Semiring
import Mathlib.Data.Prod.Lex
import Dnc.Cognition.Canonical
import Dnc.Logic.Sequence
import Dnc.PyLib.Enum
import Dnc.PyLib.Grouping

namespace Dnc.Evaluation

open PyLib Logic Dnc.Cognition

/-- What the module takes from outside: `hashlib.sha256(…).hexdigest()`, a float as `json` writes
it, `random.Random(seed)`, and the place in a sequence, of one element more than the given number,
that `choice` draws from a generator. -/
structure CampaignEnv (G : Type) where
  sha256 : String → String
  number : ℚ → PyData
  random : Int → G
  choice : G → (others : Nat) → Fin (others + 1) × G

/-- `REQUIRED_BASELINES`. -/
def requiredBaselines : List String :=
  ["single_pass_static", "fixed_k_self_consistency", "fixed_refinement", "react_tool_loop",
    "fixed_planner_executor", "structural_dnc_kernel", "oracle_reference"]

/-- `REQUIRED_ABLATIONS`. -/
def requiredAblations : List String :=
  ["no_calibration", "no_verifier", "no_memory", "no_repair", "no_branching",
    "no_learned_controller", "no_adaptive_depth"]

inductive WorkloadFamily where
  | easy | hard | ambiguity | fault | shift | composition | causal | longHorizon | delayedOutcome
  | adversarial
deriving DecidableEq, Repr

theorem WorkloadFamily.complete (member : WorkloadFamily) :
    member ∈ [easy, hard, ambiguity, fault, shift, composition, causal, longHorizon,
      delayedOutcome, adversarial] := by
  cases member <;> decide

instance : PyEnum WorkloadFamily where
  name := "WorkloadFamily"
  members := [.easy, .hard, .ambiguity, .fault, .shift, .composition, .causal, .longHorizon,
    .delayedOutcome, .adversarial]
  value
    | .easy => "EASY"
    | .hard => "HARD"
    | .ambiguity => "AMBIGUITY"
    | .fault => "FAULT"
    | .shift => "SHIFT"
    | .composition => "COMPOSITION"
    | .causal => "CAUSAL"
    | .longHorizon => "LONG_HORIZON"
    | .delayedOutcome => "DELAYED_OUTCOME"
    | .adversarial => "ADVERSARIAL"
  complete := WorkloadFamily.complete
  injective := PyEnum.injective_of_nodup WorkloadFamily.complete (by decide)

/-! ### Cases and responses -/

structure HiddenCase where
  caseId : String
  domain : String
  family : WorkloadFamily
  subgroup : String
  riskClass : String
  publicInput : PyDict
  budget : ℚ
  delayed : Bool := false

structure SystemResponseData where
  output : PyData
  confidence : ℚ
  cost : ℚ
  latencyMs : ℚ
  abstained : Bool := false

/-- `SystemResponse.__post_init__`. -/
def SystemResponseData.violation (response : SystemResponseData) : Option PyError :=
  if ¬ (0 ≤ response.confidence ∧ response.confidence ≤ 1) ∨ response.cost < 0 ∨
      response.latencyMs < 0 then
    some (.valueError "response confidence, cost, and latency MUST be bounded")
  else none

structure SystemResponse extends SystemResponseData where
  valid : toSystemResponseData.violation = none

/-- The code object of a function, with its bytecode in hexadecimal digits and its constants, its
defaults and the cells of its closure as `repr` shows them. -/
structure FunctionCode where
  coCode : String
  coConsts : List String
  coNames : List String
  coVarnames : List String
  defaults : String
  closure : List String

/-- A runner: a function with its code. -/
structure Runner where
  code : FunctionCode
  run : HiddenCase → Int → Except PyError SystemResponse

variable {G : Type} (env : CampaignEnv G)

/-- `runner_fingerprint`. -/
def runnerFingerprint (runner : Runner) : String :=
  canonicalHash env.sha256 (.dict [
    ("bytecode", .dict [("$bytes_hex", .str runner.code.coCode)]),
    ("constants", .tuple (runner.code.coConsts.map .str)),
    ("names", .tuple (runner.code.coNames.map .str)),
    ("variables", .tuple (runner.code.coVarnames.map .str)),
    ("defaults", .str runner.code.defaults),
    ("closure", .tuple (runner.code.closure.map .str))]) "dnc.scientific.runner.v1"

/-- A case as data. -/
def HiddenCase.data (item : HiddenCase) : PyData :=
  .dict [("case_id", .str item.caseId), ("domain", .str item.domain),
    ("family", .str (PyEnum.value item.family)), ("subgroup", .str item.subgroup),
    ("risk_class", .str item.riskClass), ("public_input", item.publicInput.data),
    ("budget", env.number item.budget), ("delayed", .bool item.delayed)]

/-- `canonical_hash(cases, namespace="dnc.hidden-workload.v1")`. -/
def workloadFingerprint (cases : List HiddenCase) : String :=
  canonicalHash env.sha256 (.tuple (cases.map fun item => item.data env)) "dnc.hidden-workload.v1"

/-! ### The manifest -/

structure FrozenCampaignManifestData where
  campaignId : String
  controllerFingerprint : String
  calibratorFingerprint : String
  evaluatorFingerprint : String
  workloadFingerprint : String
  systemIds : List String
  systemFingerprints : List (String × String)
  baselineIds : List String
  ablationIds : List String
  seeds : List Int
  primaryMetrics : List String
  stoppingRule : String
  exclusionRule : String
  budgetPolicy : String
  frozen : Bool := true
  fingerprint : String := ""

namespace FrozenCampaignManifestData

/-- The hash of the fields other than the fingerprint. -/
def expected (manifest : FrozenCampaignManifestData) : String :=
  canonicalHash env.sha256 (.dict [("campaign_id", .str manifest.campaignId),
    ("controller_fingerprint", .str manifest.controllerFingerprint),
    ("calibrator_fingerprint", .str manifest.calibratorFingerprint),
    ("evaluator_fingerprint", .str manifest.evaluatorFingerprint),
    ("workload_fingerprint", .str manifest.workloadFingerprint),
    ("system_ids", .tuple (manifest.systemIds.map .str)),
    ("system_fingerprints", .tuple (manifest.systemFingerprints.map fun entry =>
      .tuple [.str entry.1, .str entry.2])),
    ("baseline_ids", .tuple (manifest.baselineIds.map .str)),
    ("ablation_ids", .tuple (manifest.ablationIds.map .str)),
    ("seeds", .tuple (manifest.seeds.map .int)),
    ("primary_metrics", .tuple (manifest.primaryMetrics.map .str)),
    ("stopping_rule", .str manifest.stoppingRule),
    ("exclusion_rule", .str manifest.exclusionRule),
    ("budget_policy", .str manifest.budgetPolicy),
    ("frozen", .bool manifest.frozen)]) "dnc.scientific.manifest.v1"

/-- The checks of `FrozenCampaignManifest.__post_init__`. -/
def violation (manifest : FrozenCampaignManifestData) : Option PyError :=
  if manifest.frozen = false ∨ manifest.seeds = [] ∨
      manifest.systemIds.toFinset.card ≠ manifest.systemIds.length then
    some (.valueError "campaign manifest MUST be frozen, repeated, and uniquely identified")
  else if ¬ manifest.baselineIds ++ manifest.ablationIds ⊆ manifest.systemIds then
    some (.valueError "baselines and ablations MUST be registered campaign systems")
  else if (manifest.systemFingerprints.map Prod.fst).toFinset ≠ manifest.systemIds.toFinset ∨
      ∃ entry ∈ manifest.systemFingerprints, entry.2 = "" then
    some (.valueError "every frozen system MUST have an exact implementation fingerprint")
  else if ¬ requiredBaselines ⊆ manifest.baselineIds then
    some (.valueError "campaign is missing required strong baselines")
  else if ¬ requiredAblations ⊆ manifest.ablationIds then
    some (.valueError "campaign is missing required ablations")
  else if manifest.fingerprint ≠ "" ∧ manifest.fingerprint ≠ manifest.expected env then
    some (.valueError "campaign manifest fingerprint mismatch")
  else none

end FrozenCampaignManifestData

/-- A manifest that its checks accept; its fingerprint is the expected one. -/
structure FrozenCampaignManifest extends FrozenCampaignManifestData where
  valid : toFrozenCampaignManifestData.violation env = none

/-! ### Statistics -/

structure CaseOutcome where
  systemId : String
  caseId : String
  seed : Int
  domain : String
  family : WorkloadFamily
  subgroup : String
  riskClass : String
  correct : Bool
  score : ℚ
  confidence : ℚ
  cost : ℚ
  latencyMs : ℚ
  abstained : Bool
  budgetViolation : Bool
  delayed : Bool

structure EffectEstimate where
  systemId : String
  baselineId : String
  meanPairedEffect : ℚ
  confidenceInterval : ℚ × ℚ
  pairs : Nat

/-- `percentile`. -/
def percentile (values : List ℚ) (quantile : ℚ) : Except PyError ℚ :=
  if values = [] ∨ ¬ (0 ≤ quantile ∧ quantile ≤ 1) then
    .error (.valueError "percentile inputs MUST be valid")
  else
    let ordered := sortBy id values
    let place := min (ordered.length - 1) ⌊quantile * (ordered.length - 1 : Nat)⌋₊
    match ordered[place]? with
    | some value => .ok value
    | none => .error (.indexError "list index out of range")

/-- `rng.choice(values)`, as often as given, from values of which there is a first. -/
def choices (first : ℚ) (rest : List ℚ) : Nat → G → List ℚ × G
  | 0, rng => ([], rng)
  | draws + 1, rng =>
    let (place, next) := env.choice rng rest.length
    let (others, last) := choices first rest draws next
    ((first :: rest).get place :: others, last)

/-- The means of as many samples as given. -/
def resampledMeans (first : ℚ) (rest : List ℚ) : Nat → G → List ℚ
  | 0, _ => []
  | repetitions + 1, rng =>
    let (sample, next) := choices env first rest (rest.length + 1) rng
    average sample :: resampledMeans first rest repetitions next

/-- `bootstrap_interval`. -/
def bootstrapInterval (values : List ℚ) (seed : Int) (repetitions : Nat := 1000) :
    Except PyError (ℚ × ℚ) :=
  let weak := PyError.valueError "bootstrap requires observations and at least 100 repetitions"
  match values with
  | [] => .error weak
  | first :: rest =>
    if repetitions < 100 then .error weak
    else do
      let means := sortBy id (resampledMeans env first rest repetitions (env.random seed))
      let low ← percentile means 0.025
      let high ← percentile means 0.975
      .ok (low, high)

/-- The outcomes of a system. -/
def rows (outcomes : List CaseOutcome) (systemId : String) : List CaseOutcome :=
  outcomes.filter fun item => item.systemId = systemId

/-- The case and the seed of an outcome, compared as a tuple. -/
def CaseOutcome.key (item : CaseOutcome) : String ×ₗ Int := toLex (item.caseId, item.seed)

/-- `{(item.case_id, item.seed): item.score for item in outcomes if item.system_id == system_id}`. -/
def scores (outcomes : List CaseOutcome) (systemId : String) : Dict (String ×ₗ Int) ℚ :=
  Dict.ofItems ((rows outcomes systemId).map fun item => (item.key, item.score))

/-- `paired_effect`. -/
def pairedEffect (outcomes : List CaseOutcome) (systemId baselineId : String) :
    Except PyError EffectEstimate :=
  let system := scores outcomes systemId
  let baseline := scores outcomes baselineId
  let keys := Dict.pairedKeys system baseline
  if keys = [] then .error (.valueError "paired comparison has no matched outcomes")
  else do
    let differences := Dict.differences system baseline
    let confidenceInterval ← bootstrapInterval env differences 17
    .ok {
      systemId
      baselineId
      meanPairedEffect := average differences
      confidenceInterval
      pairs := keys.length }

/-- `risk_coverage`. -/
def riskCoverage (outcomes : List CaseOutcome) (systemId : String) : List (ℚ × ℚ) :=
  let answered := sortBy (fun item : CaseOutcome =>
      toLex (-item.confidence, toLex (item.caseId, item.seed)))
    ((rows outcomes systemId).filter fun item => item.abstained = false)
  let total := outcomes.countP fun item => item.systemId = systemId
  if answered = [] ∨ total = 0 then []
  else (List.range answered.length).map fun index =>
    (((index + 1 : Nat) : ℚ) / total,
      1 - ((answered.take (index + 1)).countP CaseOutcome.correct : ℚ) / (index + 1 : Nat))

/-- `sorted({item.system_id for item in outcomes})`. -/
def systemsOf (outcomes : List CaseOutcome) : List String :=
  sortedElems (outcomes.map CaseOutcome.systemId).toFinset

/-- `pareto_front`. -/
def paretoFront (outcomes : List CaseOutcome) : List String :=
  let score (systemId : String) := average ((rows outcomes systemId).map CaseOutcome.score)
  let cost (systemId : String) := average ((rows outcomes systemId).map CaseOutcome.cost)
  (systemsOf outcomes).filter fun systemId => ¬ ∃ other ∈ systemsOf outcomes,
    other ≠ systemId ∧ score systemId ≤ score other ∧ cost other ≤ cost systemId ∧
      (score other, cost other) ≠ (score systemId, cost systemId)

/-- `subgroup_summary`. -/
def subgroupSummary (outcomes : List CaseOutcome) : Dict String (Dict String ℚ) :=
  let subgroups := sortedElems (outcomes.map CaseOutcome.subgroup).toFinset
  Dict.ofItems ((systemsOf outcomes).map fun systemId =>
    (systemId, Dict.ofItems (subgroups.filterMap fun subgroup =>
      let values := ((rows outcomes systemId).filter fun item =>
        item.subgroup = subgroup).map CaseOutcome.score
      if values = [] then none else some (subgroup, average values))))

/-! ### The artifact -/

structure CampaignArtifactData where
  manifestFingerprint : String
  outcomes : List CaseOutcome
  effects : List EffectEstimate
  riskCoverage : Dict String (List (ℚ × ℚ))
  paretoSystems : List String
  subgroupScores : Dict String (Dict String ℚ)
  tailLatencyMs : Dict String ℚ
  evidenceGrade : String
  limitations : List String

/-- An outcome as data. -/
def CaseOutcome.data (item : CaseOutcome) : PyData :=
  .dict [("system_id", .str item.systemId), ("case_id", .str item.caseId), ("seed", .int item.seed),
    ("domain", .str item.domain), ("family", .str (PyEnum.value item.family)),
    ("subgroup", .str item.subgroup), ("risk_class", .str item.riskClass),
    ("correct", .bool item.correct), ("score", env.number item.score),
    ("confidence", env.number item.confidence), ("cost", env.number item.cost),
    ("latency_ms", env.number item.latencyMs), ("abstained", .bool item.abstained),
    ("budget_violation", .bool item.budgetViolation), ("delayed", .bool item.delayed)]

/-- An estimate as data. -/
def EffectEstimate.data (effect : EffectEstimate) : PyData :=
  .dict [("system_id", .str effect.systemId), ("baseline_id", .str effect.baselineId),
    ("mean_paired_effect", env.number effect.meanPairedEffect),
    ("confidence_interval", .tuple [env.number effect.confidenceInterval.1,
      env.number effect.confidenceInterval.2]),
    ("pairs", .int effect.pairs)]

namespace CampaignArtifactData

/-- The hash of the fields other than the fingerprint. -/
def expected (artifact : CampaignArtifactData) : String :=
  canonicalHash env.sha256 (.dict [("manifest_fingerprint", .str artifact.manifestFingerprint),
    ("outcomes", .tuple (artifact.outcomes.map fun item => item.data env)),
    ("effects", .tuple (artifact.effects.map fun effect => effect.data env)),
    ("risk_coverage", .dict (artifact.riskCoverage.entries.map fun entry =>
      (entry.1, .tuple (entry.2.map fun point => .tuple [env.number point.1,
        env.number point.2])))),
    ("pareto_systems", .tuple (artifact.paretoSystems.map .str)),
    ("subgroup_scores", .dict (artifact.subgroupScores.entries.map fun entry =>
      (entry.1, .dict (entry.2.entries.map fun score => (score.1, env.number score.2))))),
    ("tail_latency_ms", .dict (artifact.tailLatencyMs.entries.map fun entry =>
      (entry.1, env.number entry.2))),
    ("evidence_grade", .str artifact.evidenceGrade),
    ("limitations", .tuple (artifact.limitations.map .str))]) "dnc.scientific.artifact.v1"

end CampaignArtifactData

/-- An artifact with the fingerprint of its fields. -/
structure CampaignArtifact extends CampaignArtifactData where
  fingerprint : String
  exact : fingerprint = toCampaignArtifactData.expected env

/-- `CampaignArtifact(…)`, without a fingerprint. -/
def CampaignArtifact.build (artifact : CampaignArtifactData) : CampaignArtifact env where
  toCampaignArtifactData := artifact
  fingerprint := artifact.expected env
  exact := rfl

/-! ### The campaign -/

/-- The evaluator keeps the answers. -/
structure HiddenEvaluator where
  answers : Dict String PyData

namespace HiddenEvaluator

def fingerprint (evaluator : HiddenEvaluator) : String :=
  canonicalHash env.sha256 (.dict evaluator.answers.entries) "dnc.hidden-evaluator.v1"

/-- `HiddenEvaluator.score`. -/
def score (evaluator : HiddenEvaluator) (caseId : String) (output : PyData) :
    Except PyError (Bool × ℚ) :=
  match evaluator.answers.get? caseId with
  | none => .error (.keyError caseId)
  | some expected =>
    let correct := PyData.pyEq output expected
    .ok (correct, if correct then 1 else 0)

end HiddenEvaluator

/-- A seed, a case and a system: what the three loops visit. -/
abbrev Trial : Type := Int × HiddenCase × String

/-- The trials, in the order of the loops. -/
def trials (manifest : FrozenCampaignManifestData) (cases : List HiddenCase) : List Trial :=
  manifest.seeds ×ˢ cases ×ˢ manifest.systemIds

/-- The body of the three loops. -/
def caseOutcome (evaluator : HiddenEvaluator) (runners : Dict String Runner) (trial : Trial) :
    Except PyError CaseOutcome :=
  let (seed, item, systemId) := trial
  match runners.get? systemId with
  | none => .error (.keyError systemId)
  | some runner => do
    let response ← runner.run item seed
    let budgetViolation := decide (item.budget < response.cost)
    let scored ← evaluator.score item.caseId response.output
    let (correct, score) := if budgetViolation then (false, 0) else scored
    .ok {
      systemId
      caseId := item.caseId
      seed
      domain := item.domain
      family := item.family
      subgroup := item.subgroup
      riskClass := item.riskClass
      correct
      score
      confidence := response.confidence
      cost := response.cost
      latencyMs := response.latencyMs
      abstained := response.abstained
      budgetViolation
      delayed := item.delayed }

/-- What is compared: each baseline with every other system. -/
def comparisons (manifest : FrozenCampaignManifestData) : List (String × String) :=
  manifest.baselineIds.flatMap fun baselineId =>
    (manifest.systemIds.filter fun systemId => systemId ≠ baselineId).map fun systemId =>
      (systemId, baselineId)

/-- The grade of a campaign. -/
def evidenceGrade (manifest : FrozenCampaignManifestData) (cases : List HiddenCase) : String :=
  let domains := (cases.map HiddenCase.domain).toFinset
  let families := (cases.map HiddenCase.family).toFinset
  if 2 ≤ domains.card ∧ 3 ≤ manifest.seeds.length ∧ requiredAblations ⊆ manifest.ablationIds ∧
      requiredBaselines ⊆ manifest.baselineIds ∧ 5 ≤ families.card then "E2"
  else "E1"

/-- `run_hidden_campaign`. -/
def runHiddenCampaign (manifest : FrozenCampaignManifest env) (cases : List HiddenCase)
    (evaluator : HiddenEvaluator) (runners : Dict String Runner)
    (runtimeFingerprints : Dict String String) : Except PyError (CampaignArtifact env) :=
  if evaluator.fingerprint env ≠ manifest.evaluatorFingerprint then
    .error (.valueError "evaluator changed after campaign freeze")
  else if workloadFingerprint env cases ≠ manifest.workloadFingerprint then
    .error (.valueError "hidden workload changed after campaign freeze")
  else if runners.keys.toFinset ≠ manifest.systemIds.toFinset then
    .error (.valueError "campaign runners MUST exactly match frozen systems")
  else if runtimeFingerprints.entries.toFinset ≠
      (Dict.ofItems [("controller", manifest.controllerFingerprint),
        ("calibrator", manifest.calibratorFingerprint)]).entries.toFinset then
    .error (.valueError "controller or calibrator changed after campaign freeze")
  else if (runners.mapValues (runnerFingerprint env)).entries.toFinset ≠
      (Dict.ofItems manifest.systemFingerprints).entries.toFinset then
    .error (.valueError "system implementation changed after campaign freeze")
  else do
    let outcomes ← (trials manifest.toFrozenCampaignManifestData cases).mapM
      (caseOutcome evaluator runners)
    let effects ← (comparisons manifest.toFrozenCampaignManifestData).mapM fun pair =>
      pairedEffect env outcomes pair.1 pair.2
    let tails ← manifest.systemIds.mapM fun systemId => do
      let tail ← percentile ((rows outcomes systemId).map CaseOutcome.latencyMs) 0.95
      .ok (systemId, tail)
    .ok (CampaignArtifact.build env {
      manifestFingerprint := manifest.expected env
      outcomes
      effects
      riskCoverage := Dict.ofItems (manifest.systemIds.map fun systemId =>
        (systemId, riskCoverage outcomes systemId))
      paretoSystems := paretoFront outcomes
      subgroupScores := subgroupSummary outcomes
      tailLatencyMs := Dict.ofItems tails
      evidenceGrade := evidenceGrade manifest.toFrozenCampaignManifestData cases
      limitations := ["controlled hidden-task evidence; no production traffic",
        "runner isolation is an interface boundary, not an OS security boundary",
        "independent environment reproduction not yet recorded"] })

end Dnc.Evaluation
