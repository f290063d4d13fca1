/-
**When a policy may stop.**

The baselines stop only where `minimumStopChecks` passes, which is `SafeToStop`. The adaptive policy
leaves before its own conditions are weighed where something is missing and RETRIEVE is available, or
contradictory and VERIFY is available; where the action is not available it goes on, and its own
conditions never look at either again (`adaptive_stops_iff`).

`haltsSafely_iff`: a decision to stop is safe except where the adaptive policy is enabled, all its
other conditions hold, and something is missing or contradictory that no available action is for.
-/

import Dnc.Halting.Policy

namespace Dnc.Halting

open PyLib Cognition Assurance

section Safety

variable {R : Type} [PyFloat R]

/-- What a decision to stop rests on. -/
structure SafeToStop (context : HaltingContext R) : Prop where
  checks : context.mandatoryChecksPassed = true
  contract : context.outputContractSatisfied = true
  contradictions : context.criticalContradictions = []
  information : context.missingInformation = []
  confidence : ∃ confidence, context.confidence = some confidence ∧
    confidence.applicabilityStatus = "calibrated"

/-- **Halting safety** of a policy in a context. -/
def HaltsSafely (env : TextEnv R) (policy : HaltingPolicy R) (context : HaltingContext R) : Prop :=
  ∀ decision, policy.decide env context = .ok decision → decision.action = .stop →
    SafeToStop context

/-- What the adaptive policy asks before it stops, missing information and contradictions apart. -/
structure AdaptiveHaltingPolicy.Settled (policy : AdaptiveHaltingPolicy R) (env : TextEnv R)
    (context : HaltingContext R) : Prop where
  unambiguous : context.ambiguousFields = [] ∨ .ask ∉ context.availableActions
  unshifted : context.calibrationShifted = false
  affordable : (budgetStatus context).exhausted = false
  available : .stop ∈ context.availableActions
  weighed : ∃ clusters threshold, contextClusters env context = .ok clusters ∧
    policy.thresholdPolicy.thresholdFor context.riskClass context.domain = .ok threshold ∧
    policy.diversifies context clusters = false ∧ policy.mayStop context clusters threshold = true

/-- An action is available for something that is missing or contradictory, or nothing is. -/
def GapsHandled (context : HaltingContext R) : Prop :=
  (context.missingInformation ≠ [] ∧ .retrieve ∈ context.availableActions) ∨
    (context.criticalContradictions ≠ [] ∧ .verify ∈ context.availableActions) ∨
    (context.missingInformation = [] ∧ context.criticalContradictions = [])

/-- Where an enabled adaptive policy is otherwise settled, the gaps are handled. -/
def StopsWithoutGaps (env : TextEnv R) (context : HaltingContext R) : HaltingPolicy R → Prop
  | .adaptive policy => policy.enabled = true → policy.Settled env context → GapsHandled context
  | _ => True

/-! ### The checks -/

theorem calibrated_iff {context : HaltingContext R} :
    calibrated context = true ↔ ∃ confidence, context.confidence = some confidence ∧
      confidence.applicabilityStatus = "calibrated" := by
  unfold calibrated
  cases context.confidence with
  | none => simp
  | some confidence => simp

theorem minimumStopChecks_iff {context : HaltingContext R} :
    minimumStopChecks context = true ↔ SafeToStop context := by
  unfold minimumStopChecks
  simp only [Bool.and_eq_true, List.isEmpty_iff, calibrated_iff]
  constructor
  · rintro ⟨⟨⟨⟨checks, contract⟩, contradictions⟩, information⟩, confidence⟩
    exact ⟨checks, contract, contradictions, information, confidence⟩
  · intro safe
    exact ⟨⟨⟨⟨safe.checks, safe.contract⟩, safe.contradictions⟩, safe.information⟩,
      safe.confidence⟩

theorem stopOrAbstain_eq_stop {passed : Bool} : stopOrAbstain passed = .stop ↔ passed = true := by
  cases passed <;> simp [stopOrAbstain]

/-! ### The baselines -/

theorem fixedAttempt_safe (policy : FixedAttemptPolicy) {context : HaltingContext R}
    (stops : (policy.decide context).action = .stop) : SafeToStop context := by
  simp only [FixedAttemptPolicy.decide] at stops
  split_ifs at stops with enough
  · exact minimumStopChecks_iff.mp (stopOrAbstain_eq_stop.mp stops)

theorem fixedRefinement_safe (policy : FixedRefinementPolicy) {context : HaltingContext R}
    (stops : (policy.decide context).action = .stop) : SafeToStop context := by
  simp only [FixedRefinementPolicy.decide] at stops
  split_ifs at stops with exhausted enough
  · exact minimumStopChecks_iff.mp (stopOrAbstain_eq_stop.mp stops)

theorem selfConsistency_safe (policy : SelfConsistencyPolicy R) {env : TextEnv R}
    {context : HaltingContext R} {decision : InferenceDecision R}
    (decided : policy.decide env context = .ok decision) (stops : decision.action = .stop) :
    SafeToStop context := by
  unfold SelfConsistencyPolicy.decide at decided
  cases clustered : contextClusters env context with
  | error error => simp [clustered, bind, Except.bind] at decided
  | ok clusters =>
    simp only [clustered, bind, Except.bind, pure, Except.pure, Except.ok.injEq] at decided
    rw [← decided] at stops
    simp only at stops
    split_ifs at stops with enough
    · have both := stopOrAbstain_eq_stop.mp stops
      exact minimumStopChecks_iff.mp (Bool.and_eq_true_iff.mp both).2

/-! ### The adaptive policy -/

/-- The early returns are passed where nothing calls for one of them; none of them stops. -/
theorem earlyReturn_cases (context : HaltingContext R) (clusters : List (SemanticCluster R)) :
    (earlyReturn context clusters = none ∧
      (context.ambiguousFields = [] ∨ .ask ∉ context.availableActions) ∧
      (context.missingInformation = [] ∨ .retrieve ∉ context.availableActions) ∧
      (context.criticalContradictions = [] ∨ .verify ∉ context.availableActions) ∧
      context.calibrationShifted = false ∧ (budgetStatus context).exhausted = false) ∨
    (∃ decision, earlyReturn context clusters = some decision ∧ decision.action ≠ .stop ∧
      ¬ ((context.ambiguousFields = [] ∨ .ask ∉ context.availableActions) ∧
        (context.missingInformation = [] ∨ .retrieve ∉ context.availableActions) ∧
        (context.criticalContradictions = [] ∨ .verify ∉ context.availableActions) ∧
        context.calibrationShifted = false ∧ (budgetStatus context).exhausted = false)) := by
  unfold earlyReturn
  by_cases ambiguous : context.ambiguousFields ≠ [] ∧ .ask ∈ context.availableActions
  · rw [if_pos ambiguous]
    exact Or.inr ⟨_, rfl, nofun, fun passed => by tauto⟩
  rw [if_neg ambiguous]
  by_cases missing : context.missingInformation ≠ [] ∧ .retrieve ∈ context.availableActions
  · rw [if_pos missing]
    exact Or.inr ⟨_, rfl, nofun, fun passed => by tauto⟩
  rw [if_neg missing]
  by_cases contradictory : context.criticalContradictions ≠ [] ∧ .verify ∈ context.availableActions
  · rw [if_pos contradictory]
    exact Or.inr ⟨_, rfl, nofun, fun passed => by tauto⟩
  rw [if_neg contradictory]
  by_cases shifted : context.calibrationShifted = true
  · rw [if_pos shifted]
    refine Or.inr ⟨_, rfl, ?_, fun passed => by simp [shifted] at passed⟩
    simp only [earlyDecision]
    split_ifs <;> nofun
  rw [if_neg shifted]
  by_cases exhausted : (budgetStatus context).exhausted = true
  · rw [if_pos exhausted]
    exact Or.inr ⟨_, rfl, nofun, fun passed => by simp [exhausted] at passed⟩
  rw [if_neg exhausted]
  refine Or.inl ⟨rfl, by tauto, by tauto, by tauto, ?_, ?_⟩
  · exact Bool.eq_false_iff.mpr shifted
  · exact Bool.eq_false_iff.mpr exhausted

theorem continueWith_ne_stop (context : HaltingContext R) :
    AdaptiveHaltingPolicy.continueWith context ≠ .stop := by
  simp only [AdaptiveHaltingPolicy.continueWith]
  generalize (if calibrated context = false ∧ .verify ∈ context.availableActions then
    InferenceAction.verify else (bestNextAction context).1) = nextAction
  split_ifs with unusable
  · nofun
  · exact fun same => unusable (Or.inr (Or.inl same))

theorem weigh_stops_iff (policy : AdaptiveHaltingPolicy R) (context : HaltingContext R)
    (clusters : List (SemanticCluster R)) (threshold : R) :
    (policy.weigh context clusters threshold).action = .stop ↔
      policy.diversifies context clusters = false ∧
        policy.mayStop context clusters threshold = true ∧ .stop ∈ context.availableActions := by
  unfold AdaptiveHaltingPolicy.weigh
  by_cases diversifies : policy.diversifies context clusters = true
  · simp [diversifies]
  · have settled := Bool.eq_false_iff.mpr diversifies
    simp only [settled, true_and]
    by_cases stops : policy.mayStop context clusters threshold = true ∧
        .stop ∈ context.availableActions
    · simp [stops]
    · rw [if_neg stops]
      exact iff_of_false (continueWith_ne_stop context) stops

/-- **When an enabled adaptive policy stops.** -/
theorem adaptive_stops_iff {policy : AdaptiveHaltingPolicy R} (enabled : policy.enabled = true)
    (env : TextEnv R) (context : HaltingContext R) :
    (∃ decision, policy.decide env context = .ok decision ∧ decision.action = .stop) ↔
      policy.Settled env context ∧
        (context.missingInformation = [] ∨ .retrieve ∉ context.availableActions) ∧
        (context.criticalContradictions = [] ∨ .verify ∉ context.availableActions) := by
  unfold AdaptiveHaltingPolicy.decide
  rw [if_neg (by simp [enabled])]
  cases clustered : contextClusters env context with
  | error error =>
    refine iff_of_false ?_ ?_
    · simp [bind, Except.bind]
    · rintro ⟨settled, -⟩
      obtain ⟨clusters, _, computed, -⟩ := settled.weighed
      exact nomatch clustered.symm.trans computed
  | ok clusters =>
    simp only [bind, Except.bind, pure, Except.pure]
    rcases earlyReturn_cases context clusters with
      ⟨passes, unambiguous, known, consistent, unshifted, affordable⟩ |
      ⟨decision, returns, goesOn, blocked⟩
    · rw [passes]
      cases found : policy.thresholdPolicy.thresholdFor context.riskClass context.domain with
      | error error =>
        refine iff_of_false (by simp) ?_
        rintro ⟨settled, -⟩
        obtain ⟨_, threshold, -, looked, -⟩ := settled.weighed
        exact nomatch found.symm.trans looked
      | ok threshold =>
        simp only [Except.ok.injEq, exists_eq_left', weigh_stops_iff]
        constructor
        · rintro ⟨settled, stops, available⟩
          exact ⟨⟨unambiguous, unshifted, affordable, available,
            ⟨clusters, threshold, clustered, found, settled, stops⟩⟩, known, consistent⟩
        · rintro ⟨settled, -⟩
          obtain ⟨others, limit, computed, looked, diversified, stops⟩ := settled.weighed
          obtain rfl : clusters = others := Except.ok.inj (clustered.symm.trans computed)
          obtain rfl : threshold = limit := Except.ok.inj (found.symm.trans looked)
          exact ⟨diversified, stops, settled.available⟩
    · rw [returns]
      refine iff_of_false ?_ ?_
      · rintro ⟨other, same, stops⟩
        obtain rfl : decision = other := Except.ok.inj same
        exact goesOn stops
      · rintro ⟨settled, known, consistent⟩
        exact blocked ⟨settled.unambiguous, known, consistent, settled.unshifted,
          settled.affordable⟩

/-- What `may_stop` checks itself. -/
theorem mayStop_checks {policy : AdaptiveHaltingPolicy R} {context : HaltingContext R}
    {clusters : List (SemanticCluster R)} {threshold : R}
    (stops : policy.mayStop context clusters threshold = true) :
    context.mandatoryChecksPassed = true ∧ context.outputContractSatisfied = true ∧
      calibrated context = true := by
  simp only [AdaptiveHaltingPolicy.mayStop, Bool.and_eq_true] at stops
  obtain ⟨⟨⟨⟨⟨checks, contract⟩, applicable⟩, -⟩, -⟩, -⟩ := stops
  exact ⟨checks, contract, applicable⟩

/-- **A decision to stop is safe exactly where no gap goes unhandled.** -/
theorem haltsSafely_iff (env : TextEnv R) (policy : HaltingPolicy R) (context : HaltingContext R) :
    HaltsSafely env policy context ↔ StopsWithoutGaps env context policy := by
  cases policy with
  | fixedAttempt policy =>
    refine iff_of_true (fun decision decided stops => ?_) trivial
    obtain rfl : policy.decide context = decision := Except.ok.inj decided
    exact fixedAttempt_safe policy stops
  | fixedRefinement policy =>
    refine iff_of_true (fun decision decided stops => ?_) trivial
    obtain rfl : policy.decide context = decision := Except.ok.inj decided
    exact fixedRefinement_safe policy stops
  | selfConsistency policy =>
    exact iff_of_true (fun decision decided stops => selfConsistency_safe policy decided stops)
      trivial
  | adaptive policy =>
    by_cases enabled : policy.enabled = true
    · have stopsWhen := adaptive_stops_iff enabled env context
      constructor
      · intro safe _ settled
        by_cases retrieves : context.missingInformation ≠ [] ∧ .retrieve ∈ context.availableActions
        · exact Or.inl retrieves
        by_cases verifies : context.criticalContradictions ≠ [] ∧ .verify ∈ context.availableActions
        · exact Or.inr (Or.inl verifies)
        -- no early return is for the gaps, so the policy stops
        obtain ⟨decision, decided, stops⟩ := stopsWhen.mpr ⟨settled, by tauto, by tauto⟩
        have justified := safe decision decided stops
        exact Or.inr (Or.inr ⟨justified.information, justified.contradictions⟩)
      · intro handled decision decided stops
        obtain ⟨settled, known, consistent⟩ := stopsWhen.mp ⟨decision, decided, stops⟩
        obtain ⟨clusters, threshold, -, -, -, mayStop⟩ := settled.weighed
        obtain ⟨checks, contract, applicable⟩ := mayStop_checks mayStop
        have nothing : context.missingInformation = [] ∧ context.criticalContradictions = [] := by
          rcases handled enabled settled with retrieves | verifies | nothing
          · exact absurd known (by tauto)
          · exact absurd consistent (by tauto)
          · exact nothing
        exact ⟨checks, contract, nothing.2, nothing.1, calibrated_iff.mp applicable⟩
    · refine iff_of_true (fun decision decided stops => ?_) fun isEnabled => absurd isEnabled enabled
      have fallsBack : policy.decide env context = .ok (policy.fallback.decide context) :=
        if_pos (Bool.eq_false_iff.mpr enabled)
      obtain rfl : policy.fallback.decide context = decision :=
        Except.ok.inj (fallsBack.symm.trans decided)
      exact fixedAttempt_safe policy.fallback stops

end Safety

namespace Sample

/-- Case folding of ASCII text, and a ratio that only tells equal texts apart from others. -/
def text : TextEnv Rat where
  casefold := String.map Char.toLower
  ratio first second := if first = second then 1 else 0

def thresholds : RiskThresholdPolicy Rat where
  policyId := "phase6"
  version := "1"
  domain := "general"
  thresholds := .ofItems [(.low, 0.60), (.medium, 0.70), (.high, 0.80), (.critical, 0.90)]
  approvedBy := "reviewer"
  humanApprovalRef := "approval-phase6"
  valid := by decide +kernel

def attempt (identity : String) (named : identity ≠ "") : AttemptRecord Rat where
  attemptId := identity
  taskId := "task"
  conclusion := "Paris"
  atomicClaims := ["capital=Paris"]
  modelFingerprint := identity
  promptFingerprint := identity
  seedFamily := identity
  cost := 0
  valid := by simp [AttemptRecordData.violation, named]

def confidence : ConfidenceEstimate Rat where
  estimateId := "confidence"
  targetId := "answer"
  targetType := "answer"
  pCorrect := some 0.9
  lowerBound := some 0.85
  applicabilityStatus := "calibrated"
  valid := by decide +kernel

theorem budget_valid : ({ maxAttempts := 5, maxTokens := 5000, maxCost := 5, maxTimeMs := 5000 } :
    InferenceBudgetData Rat).violation = none := by
  decide +kernel

/-- A source is missing and a contradiction is known, but neither RETRIEVE nor VERIFY is available. -/
def gaps : HaltingContext Rat where
  taskId := "task"
  domain := "general"
  riskClass := .high
  attempts := [attempt "a" (by decide), attempt "b" (by decide)]
  budget := ⟨{ maxAttempts := 5, maxTokens := 5000, maxCost := 5, maxTimeMs := 5000 },
    budget_valid⟩
  mandatoryChecksPassed := true
  outputContractSatisfied := true
  confidence := some confidence
  criticalContradictions := ["conflict"]
  missingInformation := ["source"]
  expectedActionValues := .ofItems [(.sample, 0.01)]
  actionCosts := .ofItems [(.sample, 0.02)]
  availableActions := {.sample, .stop, .abstain}
  valid := by decide +kernel

end Sample

theorem stops_with_gaps :
    ¬ HaltsSafely Sample.text (.adaptive { thresholdPolicy := Sample.thresholds, enabled := true })
      Sample.gaps := by
  intro safe
  have stops : ((HaltingPolicy.decide Sample.text Sample.gaps
      (.adaptive { thresholdPolicy := Sample.thresholds, enabled := true })).map
        InferenceDecision.action).toOption = some .stop := by decide +kernel
  cases decided : HaltingPolicy.decide Sample.text Sample.gaps
      (.adaptive { thresholdPolicy := Sample.thresholds, enabled := true }) with
  | error error =>
    rw [decided] at stops
    exact nomatch stops
  | ok decision =>
    rw [decided] at stops
    have gaps := (safe decision decided (Option.some.inj stops)).information
    exact nomatch gaps

end Dnc.Halting
