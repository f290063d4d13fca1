/-
**The evidence of a campaign.**

What a campaign records is one outcome for every trial, so the outcomes of a system belong to the
pairs of a case and a seed (`keys_rows`). An effect is estimated over the pairs that are left when
repeated ones are put together, of which there are as many as cases times seeds exactly where no
seed and no case repeats (`pairs_eq_iff`).

* `evidenceLaw_iff`: in a campaign that is accepted, the estimates and the grade are what the outcomes
  bear out exactly where the seeds of the manifest are distinct and so are the ids of the cases.
* `repeated_seed_inflates`: a manifest with one seed given three times reaches grade E2.
-/

import Mathlib.Data.Finset.Image
import Mathlib.Tactic.NormNum
import Dnc.Evaluation.Campaign
import Dnc.Logic.Product

namespace Dnc.Evaluation

open PyLib Logic Dnc.Cognition

/-- The mean score of a system over the outcomes. -/
def meanScore (outcomes : List CaseOutcome) (systemId : String) : ℚ :=
  average ((rows outcomes systemId).map CaseOutcome.score)

/-- **The law of the evidence.** -/
structure EvidenceLaw (manifest : FrozenCampaignManifestData) (cases : List HiddenCase)
    (artifact : CampaignArtifactData) : Prop where
  pairs : ∀ effect ∈ artifact.effects, effect.pairs = cases.length * manifest.seeds.length
  mean : ∀ effect ∈ artifact.effects, effect.meanPairedEffect =
    meanScore artifact.outcomes effect.systemId - meanScore artifact.outcomes effect.baselineId
  grade : artifact.evidenceGrade = "E2" →
    3 ≤ (artifact.outcomes.map CaseOutcome.seed).toFinset.card ∧
      2 ≤ (artifact.outcomes.map CaseOutcome.domain).toFinset.card ∧
      5 ≤ (artifact.outcomes.map CaseOutcome.family).toFinset.card

section Campaign

variable {G : Type} {env : CampaignEnv G} {evaluator : HiddenEvaluator}
  {runners : Dict String Runner} {cases : List HiddenCase}

/-! ### Outcomes and trials -/

/-- An outcome carries the seed, the case and the system of its trial. -/
structure OutcomeOf (trial : Trial) (item : CaseOutcome) : Prop where
  seed : item.seed = trial.1
  caseId : item.caseId = trial.2.1.caseId
  domain : item.domain = trial.2.1.domain
  family : item.family = trial.2.1.family
  systemId : item.systemId = trial.2.2

theorem outcomeOf_of_ok {trial : Trial} {item : CaseOutcome}
    (made : caseOutcome evaluator runners trial = .ok item) : OutcomeOf trial item := by
  obtain ⟨seed, hidden, systemId⟩ := trial
  cases registered : runners.get? systemId with
  | none =>
    simp only [caseOutcome, registered] at made
    cases made
  | some runner =>
    simp only [caseOutcome, registered] at made
    obtain ⟨response, -, scoring⟩ := bind_eq_ok.mp made
    obtain ⟨scored, -, recorded⟩ := bind_eq_ok.mp scoring
    cases recorded
    exact ⟨rfl, rfl, rfl, rfl, rfl⟩

theorem caseOutcome_total {trial : Trial} {runner : Runner} {response : SystemResponse}
    {scored : Bool × ℚ} (registered : runners.get? trial.2.2 = some runner)
    (ran : runner.run trial.2.1 trial.1 = .ok response)
    (scoring : evaluator.score trial.2.1.caseId response.output = .ok scored) :
    ∃ item, caseOutcome evaluator runners trial = .ok item := by
  simp only [caseOutcome, registered]
  exact ⟨_, bind_eq_ok.mpr ⟨response, ran, bind_eq_ok.mpr ⟨scored, scoring, rfl⟩⟩⟩

/-- The trials of one system visit every case with every seed. -/
theorem filter_trials {manifest : FrozenCampaignManifestData} (distinct : manifest.systemIds.Nodup)
    {systemId : String} (registered : systemId ∈ manifest.systemIds) :
    (trials manifest cases).filter (fun trial => trial.2.2 = systemId) =
      (manifest.seeds ×ˢ cases).map fun pair => (pair.1, pair.2, systemId) := by
  rw [trials, filter_product _ _ fun pair : HiddenCase × String => decide (pair.2 = systemId),
    filter_product_single cases distinct registered, product_map]

/-- The key of a seed and the id of a case. -/
def pairKey (pair : Int × String) : String ×ₗ Int := toLex (pair.2, pair.1)

theorem pairKey_injective : Function.Injective pairKey := by
  rintro ⟨seed, caseId⟩ ⟨otherSeed, otherId⟩ same
  obtain ⟨sameId, sameSeed⟩ := Prod.mk.inj (toLex.injective same)
  exact Prod.ext sameSeed sameId

section Recorded

variable {manifest : FrozenCampaignManifestData} {outcomes : List CaseOutcome}
  (recorded : (trials manifest cases).mapM (caseOutcome evaluator runners) = .ok outcomes)

include recorded

/-- **The outcomes of a system belong to every case with every seed**, in the order of the loops. -/
theorem keys_rows (distinct : manifest.systemIds.Nodup) {systemId : String}
    (registered : systemId ∈ manifest.systemIds) :
    (rows outcomes systemId).map CaseOutcome.key =
      (manifest.seeds ×ˢ cases.map HiddenCase.caseId).map pairKey := by
  have tagged : (outcomes.map fun item => (item.key, item.systemId)) =
      (trials manifest cases).map fun trial => (toLex (trial.2.1.caseId, trial.1), trial.2.2) := by
    refine map_eq_of_mapM recorded fun trial item made => ?_
    have kept := outcomeOf_of_ok made
    rw [CaseOutcome.key, kept.seed, kept.caseId, kept.systemId]
  have ofSystem : (rows outcomes systemId).map CaseOutcome.key =
      ((outcomes.map fun item => (item.key, item.systemId)).filter fun tag =>
        tag.2 = systemId).map Prod.fst := by
    rw [List.filter_map, List.map_map]
    rfl
  have visited : ((trials manifest cases).map fun trial =>
      (toLex (trial.2.1.caseId, trial.1), trial.2.2)).filter (fun tag => tag.2 = systemId) =
      ((trials manifest cases).filter fun trial => trial.2.2 = systemId).map fun trial =>
        (toLex (trial.2.1.caseId, trial.1), trial.2.2) := List.filter_map
  rw [ofSystem, tagged, visited, filter_trials distinct registered, product_map, List.map_map,
    List.map_map, List.map_map]
  rfl

/-- The keys of the scores of a system do not depend on the system. -/
theorem keys_scores (distinct : manifest.systemIds.Nodup) {systemId : String}
    (registered : systemId ∈ manifest.systemIds) :
    (scores outcomes systemId).keys.toFinset =
      (manifest.seeds ×ˢ cases.map HiddenCase.caseId).toFinset.image pairKey := by
  rw [scores, Dict.toFinset_keys_ofItems, List.map_map]
  show ((rows outcomes systemId).map CaseOutcome.key).toFinset = _
  rw [keys_rows recorded distinct registered]
  ext key
  simp only [List.mem_toFinset, List.mem_map, Finset.mem_image]

/-- The paired keys are the pairs of a seed and a case without repetition. -/
theorem length_pairedKeys_scores (distinct : manifest.systemIds.Nodup)
    {systemId baselineId : String} (registered : systemId ∈ manifest.systemIds)
    (baseline : baselineId ∈ manifest.systemIds) :
    (Dict.pairedKeys (scores outcomes systemId) (scores outcomes baselineId)).length =
      (manifest.seeds ×ˢ cases.map HiddenCase.caseId).toFinset.card := by
  rw [Dict.length_pairedKeys, keys_scores recorded distinct registered,
    keys_scores recorded distinct baseline, Finset.inter_self,
    Finset.card_image_of_injective _ pairKey_injective]

/-- The scores of a system, where no pair of a case and a seed repeats. -/
theorem values_scores (distinct : manifest.systemIds.Nodup)
    (seeds : manifest.seeds.Nodup) (caseIds : (cases.map HiddenCase.caseId).Nodup)
    {systemId : String} (registered : systemId ∈ manifest.systemIds) :
    (scores outcomes systemId).values = (rows outcomes systemId).map CaseOutcome.score := by
  have keyed : (((rows outcomes systemId).map fun item => (item.key, item.score)).map
      Prod.fst).Nodup := by
    rw [List.map_map]
    show ((rows outcomes systemId).map CaseOutcome.key).Nodup
    rw [keys_rows recorded distinct registered]
    exact (seeds.product caseIds).map pairKey_injective
  rw [Dict.values, scores, Dict.entries_ofItems keyed, List.map_map]
  rfl

end Recorded

/-! ### Effects -/

/-- What an estimate says of two systems. -/
structure EstimateOf (outcomes : List CaseOutcome) (systemId baselineId : String)
    (effect : EffectEstimate) : Prop where
  system : effect.systemId = systemId
  baseline : effect.baselineId = baselineId
  pairs : effect.pairs =
    (Dict.pairedKeys (scores outcomes systemId) (scores outcomes baselineId)).length
  matched : effect.pairs ≠ 0
  mean : effect.meanPairedEffect =
    average (Dict.differences (scores outcomes systemId) (scores outcomes baselineId))

theorem estimateOf_of_ok {outcomes : List CaseOutcome} {systemId baselineId : String}
    {effect : EffectEstimate}
    (estimated : pairedEffect env outcomes systemId baselineId = .ok effect) :
    EstimateOf outcomes systemId baselineId effect := by
  obtain ⟨matched, computed⟩ := guard_eq_ok.mp estimated
  obtain ⟨interval, -, made⟩ := bind_eq_ok.mp computed
  cases made
  exact ⟨rfl, rfl, rfl, fun none => matched (List.length_eq_zero_iff.mp none), rfl⟩

theorem mem_comparisons {manifest : FrozenCampaignManifestData} {systemId baselineId : String} :
    (systemId, baselineId) ∈ comparisons manifest ↔
      baselineId ∈ manifest.baselineIds ∧ systemId ∈ manifest.systemIds ∧ systemId ≠ baselineId := by
  simp [comparisons]

/-! ### Accepted campaigns -/

/-- What the checks of a manifest establish. -/
structure FrozenCampaignManifestData.Registered (manifest : FrozenCampaignManifestData) : Prop where
  repeated : manifest.seeds ≠ []
  distinct : manifest.systemIds.Nodup
  baselines : manifest.baselineIds ⊆ manifest.systemIds
  ablations : manifest.ablationIds ⊆ manifest.systemIds
  strong : requiredBaselines ⊆ manifest.baselineIds
  ablated : requiredAblations ⊆ manifest.ablationIds

theorem FrozenCampaignManifestData.Registered.systemIds_ne_nil
    {manifest : FrozenCampaignManifestData} (registered : manifest.Registered) :
    manifest.systemIds ≠ [] := by
  have ablation : "no_memory" ∈ requiredAblations := by decide
  exact List.ne_nil_of_mem (registered.ablations (registered.ablated ablation))

theorem FrozenCampaignManifest.registered (manifest : FrozenCampaignManifest env) :
    manifest.toFrozenCampaignManifestData.Registered := by
  obtain ⟨identified, listed⟩ := check_eq_none.mp manifest.valid
  obtain ⟨systems, fingerprinted⟩ := check_eq_none.mp listed
  obtain ⟨-, compared⟩ := check_eq_none.mp fingerprinted
  obtain ⟨strong, complete⟩ := check_eq_none.mp compared
  obtain ⟨ablated, -⟩ := check_eq_none.mp complete
  rw [not_or, not_or, not_not] at identified
  have registered := List.append_subset.mp (not_not.mp systems)
  exact ⟨identified.2.1, card_toFinset_eq_length_iff.mp identified.2.2, registered.1, registered.2,
    not_not.mp strong, not_not.mp ablated⟩

/-- What an accepted campaign has computed. -/
structure Accepted (manifest : FrozenCampaignManifestData) (cases : List HiddenCase)
    (evaluator : HiddenEvaluator) (runners : Dict String Runner) (artifact : CampaignArtifact env) :
    Prop where
  recorded : (trials manifest cases).mapM (caseOutcome evaluator runners) = .ok artifact.outcomes
  compared : (comparisons manifest).mapM
    (fun pair => pairedEffect env artifact.outcomes pair.1 pair.2) = .ok artifact.effects
  graded : artifact.evidenceGrade = evidenceGrade manifest cases

theorem accepted_of_ok {manifest : FrozenCampaignManifest env}
    {runtimeFingerprints : Dict String String} {artifact : CampaignArtifact env}
    (returned : runHiddenCampaign env manifest cases evaluator runners runtimeFingerprints =
      .ok artifact) :
    Accepted manifest.toFrozenCampaignManifestData cases evaluator runners artifact := by
  obtain ⟨-, sameEvaluator⟩ := guard_eq_ok.mp returned
  obtain ⟨-, sameWorkload⟩ := guard_eq_ok.mp sameEvaluator
  obtain ⟨-, sameSystems⟩ := guard_eq_ok.mp sameWorkload
  obtain ⟨-, sameRuntime⟩ := guard_eq_ok.mp sameSystems
  obtain ⟨-, computed⟩ := guard_eq_ok.mp sameRuntime
  obtain ⟨outcomes, recorded, estimated⟩ := bind_eq_ok.mp computed
  obtain ⟨effects, compared, measured⟩ := bind_eq_ok.mp estimated
  obtain ⟨tails, -, made⟩ := bind_eq_ok.mp measured
  cases made
  exact ⟨recorded, compared, rfl⟩

namespace Accepted

variable {manifest : FrozenCampaignManifestData} {artifact : CampaignArtifact env}
  (accepted : Accepted manifest cases evaluator runners artifact)

include accepted

/-- Every effect is estimated for a comparison of the manifest. -/
theorem estimate {effect : EffectEstimate} (estimated : effect ∈ artifact.effects) :
    ∃ systemId baselineId, (systemId, baselineId) ∈ comparisons manifest ∧
      EstimateOf artifact.outcomes systemId baselineId effect := by
  obtain ⟨⟨systemId, baselineId⟩, compared, computed⟩ :=
    exists_of_mem_mapM accepted.compared estimated
  exact ⟨systemId, baselineId, compared, estimateOf_of_ok computed⟩

variable (registered : manifest.Registered)

include registered

/-- **An effect is over the pairs of a seed and a case**, each counted once. -/
theorem pairs_eq {effect : EffectEstimate} (estimated : effect ∈ artifact.effects) :
    effect.pairs = (manifest.seeds ×ˢ cases.map HiddenCase.caseId).toFinset.card := by
  obtain ⟨systemId, baselineId, compared, estimate⟩ := accepted.estimate estimated
  obtain ⟨baseline, system, -⟩ := mem_comparisons.mp compared
  rw [estimate.pairs, length_pairedKeys_scores accepted.recorded registered.distinct system
    (registered.baselines baseline)]

/-- The required systems are compared with each other. -/
theorem effects_ne_nil : artifact.effects ≠ [] := by
  have compared : ("no_memory", "single_pass_static") ∈ comparisons manifest := by
    have baseline : "single_pass_static" ∈ requiredBaselines := by decide
    have ablation : "no_memory" ∈ requiredAblations := by decide
    exact mem_comparisons.mpr ⟨registered.strong baseline,
      registered.ablations (registered.ablated ablation), by decide⟩
  obtain ⟨effect, estimated, -⟩ := forall₂_mem_left (mapM_eq_ok.mp accepted.compared) compared
  exact List.ne_nil_of_mem estimated

theorem cases_ne_nil : cases ≠ [] := by
  rintro rfl
  obtain ⟨effect, estimated⟩ := List.exists_mem_of_ne_nil _ (accepted.effects_ne_nil registered)
  obtain ⟨_, _, _, estimate⟩ := accepted.estimate estimated
  refine estimate.matched ?_
  rw [accepted.pairs_eq registered estimated, List.map_nil, List.product_nil]
  rfl

/-- **As many pairs as cases times seeds** exactly where neither repeats. -/
theorem pairs_eq_iff {effect : EffectEstimate} (estimated : effect ∈ artifact.effects) :
    effect.pairs = cases.length * manifest.seeds.length ↔
      manifest.seeds.Nodup ∧ (cases.map HiddenCase.caseId).Nodup := by
  have someCase : cases.map HiddenCase.caseId ≠ [] :=
    mt List.map_eq_nil_iff.mp (accepted.cases_ne_nil registered)
  rw [accepted.pairs_eq registered estimated, ← card_product_iff registered.repeated someCase,
    List.length_map, Nat.mul_comm]

/-- The mean effect, where no pair of a case and a seed repeats. -/
theorem mean_eq (seeds : manifest.seeds.Nodup) (caseIds : (cases.map HiddenCase.caseId).Nodup)
    {effect : EffectEstimate} (estimated : effect ∈ artifact.effects) :
    effect.meanPairedEffect =
      meanScore artifact.outcomes effect.systemId -
        meanScore artifact.outcomes effect.baselineId := by
  obtain ⟨systemId, baselineId, compared, estimate⟩ := accepted.estimate estimated
  obtain ⟨baseline, system, -⟩ := mem_comparisons.mp compared
  have baselineSystem := registered.baselines baseline
  have sameKeys := (keys_scores accepted.recorded registered.distinct system).trans
    (keys_scores accepted.recorded registered.distinct baselineSystem).symm
  rw [estimate.mean, estimate.system, estimate.baseline, Dict.average_differences sameKeys,
    values_scores accepted.recorded registered.distinct seeds caseIds system,
    values_scores accepted.recorded registered.distinct seeds caseIds baselineSystem]
  rfl

/-! ### What the outcomes show -/

theorem seeds_shown :
    (artifact.outcomes.map CaseOutcome.seed).toFinset = manifest.seeds.toFinset := by
  have shown : artifact.outcomes.map CaseOutcome.seed = (trials manifest cases).map fun trial =>
      id trial.1 :=
    map_eq_of_mapM accepted.recorded fun _ _ made => (outcomeOf_of_ok made).seed
  have some : cases ×ˢ manifest.systemIds ≠ [] := by
    obtain ⟨hidden, isCase⟩ := List.exists_mem_of_ne_nil _ (accepted.cases_ne_nil registered)
    obtain ⟨systemId, isSystem⟩ := List.exists_mem_of_ne_nil _ registered.systemIds_ne_nil
    exact List.ne_nil_of_mem (List.mem_product.mpr ⟨isCase, isSystem⟩)
  rw [shown, trials, toFinset_map_product_fst id _ some, List.map_id]

/-- What outcomes keep of a case they show of all cases. -/
theorem cases_shown {γ : Type} [DecidableEq γ] {kept : CaseOutcome → γ} {ofCase : HiddenCase → γ}
    (keeps : ∀ trial item, OutcomeOf trial item → kept item = ofCase trial.2.1) :
    (artifact.outcomes.map kept).toFinset = (cases.map ofCase).toFinset := by
  have shown : artifact.outcomes.map kept = (trials manifest cases).map fun trial =>
      ofCase trial.2.1 :=
    map_eq_of_mapM accepted.recorded fun trial item made => keeps trial item (outcomeOf_of_ok made)
  rw [shown, trials, toFinset_map_product_snd (fun pair : HiddenCase × String => ofCase pair.1) _
      registered.repeated,
    toFinset_map_product_fst ofCase _ registered.systemIds_ne_nil]

/-- The grade counts every seed of the manifest, and the domains and families of the outcomes. -/
theorem grade_eq_E2 (top : artifact.evidenceGrade = "E2") :
    3 ≤ manifest.seeds.length ∧
      2 ≤ (artifact.outcomes.map CaseOutcome.domain).toFinset.card ∧
      5 ≤ (artifact.outcomes.map CaseOutcome.family).toFinset.card := by
  rw [accepted.graded, evidenceGrade] at top
  rw [accepted.cases_shown registered fun _ _ outcome => outcome.domain,
    accepted.cases_shown registered fun _ _ outcome => outcome.family]
  split at top
  · rename_i enough
    exact ⟨enough.2.1, enough.1, enough.2.2.2.2⟩
  · exact absurd top (by decide)

end Accepted

/-! ### When a campaign returns -/

theorem percentile_total {values : List ℚ} (some : values ≠ []) (quantile : ℚ)
    (valid : 0 ≤ quantile ∧ quantile ≤ 1) : ∃ value, percentile values quantile = .ok value := by
  have accepted : ¬ (values = [] ∨ ¬ (0 ≤ quantile ∧ quantile ≤ 1)) := by
    rw [not_or, not_not]
    exact ⟨some, valid⟩
  have positive : 0 < (sortBy id values).length := by
    rw [(sortBy_perm id values).length_eq]
    exact List.length_pos_of_ne_nil some
  have inside : min ((sortBy id values).length - 1)
      ⌊quantile * ((sortBy id values).length - 1 : Nat)⌋₊ < (sortBy id values).length :=
    (Nat.min_le_left _ _).trans_lt (Nat.sub_lt positive Nat.one_pos)
  have found := List.getElem?_eq_getElem inside
  refine ⟨(sortBy id values).get ⟨_, inside⟩, ?_⟩
  rw [percentile, if_neg accepted]
  simp only [found]
  rfl

theorem length_resampledMeans (first : ℚ) (rest : List ℚ) (repetitions : Nat) (rng : G) :
    (resampledMeans env first rest repetitions rng).length = repetitions := by
  induction repetitions generalizing rng with
  | zero => rfl
  | succ repetitions ih => exact congrArg (· + 1) (ih _)

theorem bootstrapInterval_total (env : CampaignEnv G) {values : List ℚ} (some : values ≠ [])
    (seed : Int) : ∃ interval, bootstrapInterval env values seed = .ok interval := by
  obtain ⟨first, rest, rfl⟩ := List.exists_cons_of_ne_nil some
  have means : sortBy id (resampledMeans env first rest 1000 (env.random seed)) ≠ [] := by
    refine List.ne_nil_of_length_pos ?_
    rw [(sortBy_perm _ _).length_eq, length_resampledMeans]
    decide
  obtain ⟨low, isLow⟩ := percentile_total means 0.025 (by norm_num)
  obtain ⟨high, isHigh⟩ := percentile_total means 0.975 (by norm_num)
  refine ⟨(low, high), ?_⟩
  rw [bootstrapInterval, if_neg (by decide)]
  exact bind_eq_ok.mpr ⟨low, isLow, bind_eq_ok.mpr ⟨high, isHigh, rfl⟩⟩

theorem pairedEffect_total {outcomes : List CaseOutcome} {systemId baselineId : String}
    (matched : Dict.pairedKeys (scores outcomes systemId) (scores outcomes baselineId) ≠ []) :
    ∃ effect, pairedEffect env outcomes systemId baselineId = .ok effect := by
  have some : Dict.differences (scores outcomes systemId) (scores outcomes baselineId) ≠ [] :=
    mt List.map_eq_nil_iff.mp matched
  obtain ⟨interval, estimated⟩ := bootstrapInterval_total env some 17
  exact ⟨_, guard_eq_ok.mpr ⟨matched, bind_eq_ok.mpr ⟨interval, estimated, rfl⟩⟩⟩

/-- Nothing has changed since the manifest was frozen. -/
structure Unchanged (manifest : FrozenCampaignManifest env) (cases : List HiddenCase)
    (evaluator : HiddenEvaluator) (runners : Dict String Runner)
    (runtimeFingerprints : Dict String String) : Prop where
  sameEvaluator : evaluator.fingerprint env = manifest.evaluatorFingerprint
  sameWorkload : workloadFingerprint env cases = manifest.workloadFingerprint
  sameSystems : runners.keys.toFinset = manifest.systemIds.toFinset
  sameRuntime : runtimeFingerprints.entries.toFinset =
    (Dict.ofItems [("controller", manifest.controllerFingerprint),
      ("calibrator", manifest.calibratorFingerprint)]).entries.toFinset
  sameImplementations : (runners.mapValues (runnerFingerprint env)).entries.toFinset =
    (Dict.ofItems manifest.systemFingerprints).entries.toFinset

/-- **A campaign in which nothing has changed returns** where there are cases and every trial has an
outcome. -/
theorem runHiddenCampaign_total {manifest : FrozenCampaignManifest env}
    {runtimeFingerprints : Dict String String}
    (unchanged : Unchanged manifest cases evaluator runners runtimeFingerprints)
    (some : cases ≠ []) (answered : ∀ trial ∈ trials manifest.toFrozenCampaignManifestData cases,
      ∃ item, caseOutcome evaluator runners trial = .ok item) :
    ∃ artifact, runHiddenCampaign env manifest cases evaluator runners runtimeFingerprints =
      .ok artifact := by
  have registered := manifest.registered
  obtain ⟨outcomes, recorded⟩ := mapM_total answered
  have visited : manifest.seeds ×ˢ cases.map HiddenCase.caseId ≠ [] := by
    obtain ⟨seed, isSeed⟩ := List.exists_mem_of_ne_nil _ registered.repeated
    obtain ⟨hidden, isCase⟩ := List.exists_mem_of_ne_nil _ some
    exact List.ne_nil_of_mem (List.mem_product.mpr ⟨isSeed, List.mem_map_of_mem isCase⟩)
  have estimates : ∀ pair ∈ comparisons manifest.toFrozenCampaignManifestData,
      ∃ effect, pairedEffect env outcomes pair.1 pair.2 = .ok effect := by
    rintro ⟨systemId, baselineId⟩ compared
    obtain ⟨baseline, system, -⟩ := mem_comparisons.mp compared
    refine pairedEffect_total fun none => ?_
    have count := length_pairedKeys_scores recorded registered.distinct system
      (registered.baselines baseline)
    rw [none, List.length_nil, eq_comm, Finset.card_eq_zero, List.toFinset_eq_empty_iff] at count
    exact visited count
  have latencies : ∀ systemId ∈ manifest.systemIds, ∃ tail : String × ℚ, (do
      let tail ← percentile ((rows outcomes systemId).map CaseOutcome.latencyMs) 0.95
      .ok (systemId, tail)) = (.ok tail : Except PyError (String × ℚ)) := by
    intro systemId system
    have ran : rows outcomes systemId ≠ [] := by
      intro none
      have keys := keys_rows recorded registered.distinct system
      rw [none, List.map_nil, eq_comm, List.map_eq_nil_iff] at keys
      exact visited keys
    obtain ⟨tail, isTail⟩ := percentile_total (mt List.map_eq_nil_iff.mp ran) 0.95 (by norm_num)
    exact ⟨(systemId, tail), bind_eq_ok.mpr ⟨tail, isTail, rfl⟩⟩
  obtain ⟨effects, compared⟩ := mapM_total estimates
  obtain ⟨tails, measured⟩ := mapM_total latencies
  exact ⟨_, guard_eq_ok.mpr ⟨not_not.mpr unchanged.sameEvaluator, guard_eq_ok.mpr
    ⟨not_not.mpr unchanged.sameWorkload, guard_eq_ok.mpr ⟨not_not.mpr unchanged.sameSystems,
      guard_eq_ok.mpr ⟨not_not.mpr unchanged.sameRuntime, guard_eq_ok.mpr
        ⟨not_not.mpr unchanged.sameImplementations, bind_eq_ok.mpr ⟨outcomes, recorded,
          bind_eq_ok.mpr ⟨effects, compared, bind_eq_ok.mpr ⟨tails, measured, rfl⟩⟩⟩⟩⟩⟩⟩⟩⟩

/-- **When the evidence is what the outcomes bear out.** -/
theorem evidenceLaw_iff {manifest : FrozenCampaignManifest env}
    {runtimeFingerprints : Dict String String} {artifact : CampaignArtifact env}
    (returned : runHiddenCampaign env manifest cases evaluator runners runtimeFingerprints =
      .ok artifact) :
    EvidenceLaw manifest.toFrozenCampaignManifestData cases artifact.toCampaignArtifactData ↔
      manifest.seeds.Nodup ∧ (cases.map HiddenCase.caseId).Nodup := by
  have accepted := accepted_of_ok returned
  have registered := manifest.registered
  constructor
  · intro law
    obtain ⟨effect, estimated⟩ :=
      List.exists_mem_of_ne_nil _ (accepted.effects_ne_nil registered)
    exact (accepted.pairs_eq_iff registered estimated).mp (law.pairs effect estimated)
  · rintro ⟨seeds, caseIds⟩
    refine ⟨fun effect estimated =>
      (accepted.pairs_eq_iff registered estimated).mpr ⟨seeds, caseIds⟩,
      fun effect estimated => accepted.mean_eq registered seeds caseIds estimated, fun top => ?_⟩
    obtain ⟨repeated, domains, families⟩ := accepted.grade_eq_E2 registered top
    refine ⟨?_, domains, families⟩
    rw [accepted.seeds_shown registered, List.toFinset_card_of_nodup seeds]
    exact repeated

end Campaign

namespace Sample

def env : CampaignEnv Unit where
  sha256 text := s!"sha256:{text}"
  number value := .str (toString value)
  random _ := ()
  choice _ _ := (0, ())

def hidden (caseId domain : String) (family : WorkloadFamily) : HiddenCase where
  caseId
  domain
  family
  subgroup := "all"
  riskClass := "HIGH"
  publicInput := ∅
  budget := 5

/-- Five cases of two domains and five families. -/
def cases : List HiddenCase :=
  [hidden "easy" "math" .easy, hidden "hard" "math" .hard, hidden "fault" "ops" .fault,
    hidden "shift" "ops" .shift, hidden "causal" "ops" .causal]

/-- The answer to every case. -/
def evaluator : HiddenEvaluator where
  answers := Dict.ofItems (cases.map fun item => (item.caseId, .str "yes"))

def response : SystemResponse where
  output := .str "yes"
  confidence := 1
  cost := 1
  latencyMs := 1
  valid := if_neg (by norm_num)

/-- A function that always gives the same response. -/
def runner : Runner where
  code := {
    coCode := "97005300"
    coConsts := ["None"]
    coNames := []
    coVarnames := ["case", "seed"]
    defaults := "None"
    closure := [] }
  run _ _ := .ok response

def systemIds : List String := requiredBaselines ++ requiredAblations

theorem systemIds_nodup : systemIds.Nodup := by decide

/-- One value for every system. -/
theorem entries_alike {α : Type} (value : α) :
    (Dict.ofItems (systemIds.map fun systemId => (systemId, value))).entries =
      systemIds.map fun systemId => (systemId, value) := by
  refine Dict.entries_ofItems ?_
  rw [List.map_map]
  exact systemIds_nodup.map fun _ _ => id

def runners : Dict String Runner := Dict.ofItems (systemIds.map fun systemId => (systemId, runner))

def runtimeFingerprints : Dict String String :=
  Dict.ofItems [("controller", "controller-v1"), ("calibrator", "calibrator-v1")]

def manifestData (seeds : List Int) : FrozenCampaignManifestData where
  campaignId := "controlled"
  controllerFingerprint := "controller-v1"
  calibratorFingerprint := "calibrator-v1"
  evaluatorFingerprint := evaluator.fingerprint env
  workloadFingerprint := workloadFingerprint env cases
  systemIds
  systemFingerprints := systemIds.map fun systemId => (systemId, runnerFingerprint env runner)
  baselineIds := requiredBaselines
  ablationIds := requiredAblations
  seeds
  primaryMetrics := ["paired_effect"]
  stoppingRule := "three repetitions"
  exclusionRule := "none"
  budgetPolicy := "identical case budget"

theorem fingerprinted : runnerFingerprint env runner ≠ "" := by
  intro empty
  have start : "sha256:" = "" := (String.append_eq_empty_iff.mp empty).1
  exact absurd start (by decide)

def manifest (seeds : List Int) (repeated : seeds ≠ []) : FrozenCampaignManifest env where
  toFrozenCampaignManifestData := manifestData seeds
  valid := by
    refine check_eq_none.mpr ⟨?_, check_eq_none.mpr ⟨not_not.mpr (List.Subset.refl _),
      check_eq_none.mpr ⟨?_, check_eq_none.mpr ⟨not_not.mpr (List.Subset.refl _),
        check_eq_none.mpr ⟨not_not.mpr (List.Subset.refl _), check_eq_none.mpr ⟨?_, rfl⟩⟩⟩⟩⟩⟩
    · rintro (open_ | none | twice)
      · cases open_
      · exact repeated none
      · exact twice (List.toFinset_card_of_nodup systemIds_nodup)
    · rintro (other | ⟨entry, listed, empty⟩)
      · refine other (congrArg List.toFinset ?_)
        rw [manifestData, List.map_map]
        exact List.map_id _
      · obtain ⟨systemId, -, rfl⟩ := List.mem_map.mp listed
        exact fingerprinted empty
    · exact fun mismatch => mismatch.1 rfl

theorem unchanged (seeds : List Int) (repeated : seeds ≠ []) :
    Unchanged (manifest seeds repeated) cases evaluator runners runtimeFingerprints where
  sameEvaluator := rfl
  sameWorkload := rfl
  sameSystems := by
    rw [runners, Dict.toFinset_keys_ofItems, List.map_map]
    exact congrArg List.toFinset (List.map_id _)
  sameRuntime := rfl
  sameImplementations := by
    show (runners.entries.map fun entry => (entry.1, runnerFingerprint env entry.2)).toFinset =
      (Dict.ofItems (systemIds.map fun systemId =>
        (systemId, runnerFingerprint env runner))).entries.toFinset
    rw [runners, entries_alike, entries_alike, List.map_map]
    rfl

theorem answered (seeds : List Int) :
    ∀ trial ∈ trials (manifestData seeds) cases,
      ∃ item, caseOutcome evaluator runners trial = .ok item := by
  rintro ⟨seed, item, systemId⟩ listed
  obtain ⟨isCase, isSystem⟩ := List.mem_product.mp (List.mem_product.mp listed).2
  have runs : runners.get? systemId = some runner := by
    refine Dict.mem_entries.mp ?_
    rw [runners, entries_alike]
    exact List.mem_map_of_mem isSystem
  have known : evaluator.answers.get? item.caseId = some (.str "yes") := by
    refine Dict.mem_entries.mp ?_
    rw [evaluator, Dict.entries_ofItems (by decide)]
    exact List.mem_map_of_mem isCase
  have scoring : evaluator.score item.caseId response.output = .ok (true, 1) := by
    rw [HiddenEvaluator.score, known]
    rfl
  exact caseOutcome_total runs rfl scoring

theorem returns (seeds : List Int) (repeated : seeds ≠ []) :
    ∃ artifact, runHiddenCampaign env (manifest seeds repeated) cases evaluator runners
      runtimeFingerprints = .ok artifact :=
  runHiddenCampaign_total (unchanged seeds repeated) (List.cons_ne_nil _ _) (answered seeds)

end Sample

/-- A campaign with three seeds. -/
theorem distinct_seeds_bear_out : ∃ artifact, runHiddenCampaign Sample.env
    (Sample.manifest [101, 202, 303] (by decide)) Sample.cases Sample.evaluator Sample.runners
      Sample.runtimeFingerprints = .ok artifact ∧
    EvidenceLaw (Sample.manifestData [101, 202, 303]) Sample.cases
      artifact.toCampaignArtifactData := by
  obtain ⟨artifact, returned⟩ := Sample.returns [101, 202, 303] (by decide)
  exact ⟨artifact, returned, (evidenceLaw_iff returned).mpr ⟨by decide, by decide⟩⟩

/-- The same campaign with one seed, given three times. -/
theorem repeated_seed_inflates : ∃ artifact, runHiddenCampaign Sample.env
    (Sample.manifest [101, 101, 101] (by decide)) Sample.cases Sample.evaluator Sample.runners
      Sample.runtimeFingerprints = .ok artifact ∧ artifact.evidenceGrade = "E2" ∧
    ¬ EvidenceLaw (Sample.manifestData [101, 101, 101]) Sample.cases
      artifact.toCampaignArtifactData := by
  obtain ⟨artifact, returned⟩ := Sample.returns [101, 101, 101] (by decide)
  have accepted := accepted_of_ok returned
  have top : artifact.evidenceGrade = "E2" := by
    rw [accepted.graded, evidenceGrade]
    exact if_pos ⟨by decide, by decide, List.Subset.refl _, List.Subset.refl _, by decide⟩
  refine ⟨artifact, returned, top, fun law => ?_⟩
  have shown := accepted.seeds_shown (Sample.manifest [101, 101, 101] (by decide)).registered
  have three := (law.grade top).1
  rw [shown] at three
  exact absurd three (by decide)

end Dnc.Evaluation
