/-
**Off-policy evaluation.**

`evaluate_off_policy` averages `w * y` and its doubly robust correction over rows. An uncensored
example with an outcome and a target distribution counts. One whose logged action has no mass under
its target contributes no `w * y` and no correction, but it is one more to divide by, and the
target's own prediction to add; the code leaves it out as it leaves out an example without a target.

* `evaluateOffPolicy_eq_ok`: an evaluation that returns has averaged over the supported examples.
* `effectiveSampleSize_bounds`: the effective sample size is between 1 and their number.
* `averagesCounted_iff`: the estimates are the averages over all that count exactly where every such
  example is supported, or the ones left out would not move the averages.
-/

import Dnc.Logic.Averages
import Dnc.Logic.Sequence
import Dnc.PolicyLearning.Predictor
import Dnc.PolicyLearning.Registry
import Mathlib.Data.List.ReduceOption

namespace Dnc.PolicyLearning

open PyLib Logic

/-- An entry of `rows`. -/
structure OffPolicyRow where
  weight : ℚ
  outcome : ℚ
  corrected : ℚ

section OffPolicy

variable (targetPropensities : Dict String (Dict String ℚ)) (predictor : TabularShadowPredictor ℚ)
  (maximumWeight : ℚ)

/-- `target_propensities.get(example.decision_id, {})`. -/
def targetOf (logged : DecisionExample ℚ) : Dict String ℚ :=
  (targetPropensities.get? logged.decisionId).getD ∅

/-- `target.get(example.selected_action_id, 0.0)`. -/
def selectedProbability (logged : DecisionExample ℚ) : ℚ :=
  ((targetOf targetPropensities logged).get? logged.selectedActionId).getD 0

/-- `target_model`. -/
def targetModel (logged : DecisionExample ℚ) : ℚ :=
  ((targetOf targetPropensities logged).entries.map fun item =>
    item.2 * (predictor.predict logged.contextKey item.1).outcome).sum

/-- `logged_model`. -/
def loggedModel (logged : DecisionExample ℚ) : ℚ :=
  (predictor.predict logged.contextKey logged.selectedActionId).outcome

/-- The body of the loop: the row that an example adds, if it adds one. -/
def offPolicyRow (logged : DecisionExample ℚ) : Except PyError (Option OffPolicyRow) :=
  if logged.censored then .ok none
  else match logged.correctedOutcome with
    | none => .ok none
    | some outcome =>
      let target := targetOf targetPropensities logged
      let knownActions := logged.candidates.map fun item => item.actionId
      if ∃ actionId ∈ target.keys, actionId ∉ knownActions then
        .error (.valueError "target policy references actions outside logged candidate support")
      else if target.keys ≠ [] ∧ 1e-6 < |target.values.sum - 1| then
        .error (.valueError "target policy propensities MUST sum to one")
      else if ∃ probability ∈ target.values, probability < 0 ∨ 1 < probability then
        .error (.valueError "target policy propensities MUST be probabilities")
      else if selectedProbability targetPropensities logged ≤ 0 then .ok none
      else do
        let selected ← logged.selected
        let weight := min (selectedProbability targetPropensities logged / selected.propensity)
          maximumWeight
        return some {
          weight, outcome
          corrected := targetModel targetPropensities predictor logged +
            weight * (outcome - loggedModel predictor logged) }

/-- The estimate from the rows of `total` examples. -/
def estimateOf (rows : List OffPolicyRow) (total : ℕ) : OPEEstimate ℚ :=
  let weights := rows.map OffPolicyRow.weight
  let ips := (rows.map fun row => row.weight * row.outcome).sum / rows.length
  let weightSum := weights.sum
  let snips := (rows.map fun row => row.weight * row.outcome).sum / weightSum
  let dr := (rows.map OffPolicyRow.corrected).sum / rows.length
  let largest := max (max ips snips) dr
  let smallest := min (min ips snips) dr
  let spread := largest - smallest
  { ips
    selfNormalizedIps := snips
    doublyRobust := dr
    effectiveSampleSize := weightSum ^ 2 / (weights.map fun weight => weight ^ 2).sum
    supportedFraction := rows.length / total
    sensitivityRange := (smallest - spread, largest + spread) }

theorem estimateOf_ips (rows : List OffPolicyRow) (total : ℕ) :
    (estimateOf rows total).ips = average (rows.map fun row => row.weight * row.outcome) := by
  rw [average, List.length_map]
  rfl

theorem estimateOf_doublyRobust (rows : List OffPolicyRow) (total : ℕ) :
    (estimateOf rows total).doublyRobust = average (rows.map OffPolicyRow.corrected) := by
  rw [average, List.length_map]
  rfl

theorem estimateOf_effectiveSampleSize (rows : List OffPolicyRow) (total : ℕ) :
    (estimateOf rows total).effectiveSampleSize = (rows.map OffPolicyRow.weight).sum ^ 2 /
      ((rows.map OffPolicyRow.weight).map fun weight => weight ^ 2).sum := rfl

/-- `evaluate_off_policy`. -/
def evaluateOffPolicy (examples : List (DecisionExample ℚ)) : Except PyError (OPEEstimate ℚ) := do
  let rows ← examples.mapM (offPolicyRow targetPropensities predictor maximumWeight)
  let rows := rows.reduceOption
  if rows = [] then .error (.valueError "off-policy evaluation has no supported uncensored rows")
  else if (rows.map OffPolicyRow.weight).sum = 0 then
    .error (.zeroDivisionError "float division by zero")
  else .ok (estimateOf rows examples.length)

/-! ### What should be averaged -/

/-- An uncensored example with an outcome, for which a target distribution is given. -/
def Counts (logged : DecisionExample ℚ) : Prop :=
  logged.censored = false ∧ logged.correctedOutcome ≠ none ∧
    (targetOf targetPropensities logged).keys ≠ []

instance (logged : DecisionExample ℚ) : Decidable (Counts targetPropensities logged) :=
  inferInstanceAs (Decidable (_ ∧ _ ∧ _))

/-- The target gives the logged action some mass. -/
def Supported (logged : DecisionExample ℚ) : Prop := 0 < selectedProbability targetPropensities logged

instance (logged : DecisionExample ℚ) : Decidable (Supported targetPropensities logged) :=
  inferInstanceAs (Decidable (_ < _))

/-- The outcome of an example that counts. -/
def observed (logged : DecisionExample ℚ) : ℚ := logged.correctedOutcome.getD 0

/-- The probability with which the logged action was chosen. -/
def loggedPropensity (logged : DecisionExample ℚ) : ℚ :=
  match logged.selected with
  | .ok candidate => candidate.propensity
  | .error _ => 1

/-- The clipped ratio of the target's propensity to the logged one. -/
def clippedRatio (logged : DecisionExample ℚ) : ℚ :=
  if Supported targetPropensities logged then
    min (selectedProbability targetPropensities logged / loggedPropensity logged) maximumWeight
  else 0

/-- `w * y`. -/
def weighted (logged : DecisionExample ℚ) : ℚ :=
  clippedRatio targetPropensities maximumWeight logged * observed logged

/-- What the target promises, corrected by what was observed. -/
def corrected (logged : DecisionExample ℚ) : ℚ :=
  targetModel targetPropensities predictor logged +
    clippedRatio targetPropensities maximumWeight logged *
      (observed logged - loggedModel predictor logged)

/-- The examples that count. -/
def counted (examples : List (DecisionExample ℚ)) : List (DecisionExample ℚ) :=
  examples.filter fun logged => Counts targetPropensities logged

/-- Those of them whose logged action has mass, and those whose has none. -/
def supported (examples : List (DecisionExample ℚ)) : List (DecisionExample ℚ) :=
  (counted targetPropensities examples).filter fun logged => Supported targetPropensities logged

@[inherit_doc supported]
def avoided (examples : List (DecisionExample ℚ)) : List (DecisionExample ℚ) :=
  (counted targetPropensities examples).filter fun logged => !Supported targetPropensities logged

/-- **The law of the evaluation.** -/
structure AveragesCounted (examples : List (DecisionExample ℚ)) (estimate : OPEEstimate ℚ) : Prop where
  ips : estimate.ips = average ((counted targetPropensities examples).map
    (weighted targetPropensities maximumWeight))
  doublyRobust : estimate.doublyRobust = average ((counted targetPropensities examples).map
    (corrected targetPropensities predictor maximumWeight))
  effectiveSampleSize : 1 ≤ estimate.effectiveSampleSize ∧
    estimate.effectiveSampleSize ≤ (counted targetPropensities examples).length

/-- The examples that are left out would not move the averages. -/
def NothingMissed (examples : List (DecisionExample ℚ)) : Prop :=
  avoided targetPropensities examples = [] ∨
    (average ((supported targetPropensities examples).map
        (weighted targetPropensities maximumWeight)) = 0 ∧
      average ((supported targetPropensities examples).map
          (corrected targetPropensities predictor maximumWeight)) =
        average ((avoided targetPropensities examples).map
          (targetModel targetPropensities predictor)))

/-! ### The rows -/

/-- The row of a supported example. -/
def rowOf (logged : DecisionExample ℚ) : OffPolicyRow where
  weight := clippedRatio targetPropensities maximumWeight logged
  outcome := observed logged
  corrected := corrected targetPropensities predictor maximumWeight logged

variable {targetPropensities predictor maximumWeight}

theorem keys_ne_nil_of_supported {logged : DecisionExample ℚ}
    (mass : Supported targetPropensities logged) :
    (targetOf targetPropensities logged).keys ≠ [] := by
  intro empty
  have missing : (targetOf targetPropensities logged).get? logged.selectedActionId = none := by
    rw [Dict.get?_eq_none]
    show logged.selectedActionId ∉ (targetOf targetPropensities logged).keys
    rw [empty]
    exact List.not_mem_nil
  rw [Supported, selectedProbability, missing] at mass
  exact lt_irrefl _ mass

/-- **A row is added for a supported example that counts**, and for no other. -/
theorem offPolicyRow_eq_ok {logged : DecisionExample ℚ} {row : Option OffPolicyRow}
    (added : offPolicyRow targetPropensities predictor maximumWeight logged = .ok row) :
    row = if Counts targetPropensities logged ∧ Supported targetPropensities logged then
      some (rowOf targetPropensities predictor maximumWeight logged) else none := by
  unfold offPolicyRow at added
  by_cases censored : logged.censored = true
  · rw [if_pos censored] at added
    rw [if_neg fun both => Bool.false_ne_true (both.1.1.symm.trans censored)]
    exact (Except.ok.inj added).symm
  rw [if_neg censored] at added
  cases outcome : logged.correctedOutcome with
  | none =>
    rw [outcome] at added
    rw [if_neg fun both => both.1.2.1 outcome]
    exact (Except.ok.inj added).symm
  | some observation =>
    simp only [outcome, guard_eq_ok] at added
    obtain ⟨-, -, -, added⟩ := added
    by_cases mass : Supported targetPropensities logged
    · have counts : Counts targetPropensities logged :=
        ⟨Bool.eq_false_iff.mpr censored, by rw [outcome]; nofun, keys_ne_nil_of_supported mass⟩
      rw [if_neg (not_le.mpr mass)] at added
      obtain ⟨selected, found, same⟩ := bind_eq_ok.mp added
      have ratio : clippedRatio targetPropensities maximumWeight logged =
          min (selectedProbability targetPropensities logged / selected.propensity)
            maximumWeight := by
        rw [clippedRatio, if_pos mass, loggedPropensity, found]
      have seen : observed logged = observation := by
        rw [observed, outcome]
        rfl
      rw [if_pos ⟨counts, mass⟩, rowOf, corrected, ratio, seen]
      exact (Except.ok.inj same).symm
    · rw [if_pos (not_lt.mp mass)] at added
      rw [if_neg fun both => mass both.2]
      exact (Except.ok.inj added).symm

theorem rows_eq {examples : List (DecisionExample ℚ)} {rows : List (Option OffPolicyRow)}
    (added : examples.mapM (offPolicyRow targetPropensities predictor maximumWeight) = .ok rows) :
    rows.reduceOption = (supported targetPropensities examples).map
      (rowOf targetPropensities predictor maximumWeight) := by
  rw [supported, counted, List.filter_filter]
  have each := mapM_eq_ok.mp added
  clear added
  induction each with
  | nil => rfl
  | @cons logged row rest others here _ ih =>
    rw [offPolicyRow_eq_ok here, List.filter_cons]
    by_cases adds : Counts targetPropensities logged ∧ Supported targetPropensities logged
    · rw [if_pos adds, if_pos (by simp [adds.1, adds.2]), List.reduceOption_cons_of_some,
        List.map_cons, ih]
    · rw [if_neg adds, if_neg (by simpa [and_comm] using adds), List.reduceOption_cons_of_none, ih]

/-- **An evaluation that returns has averaged over the supported examples.** -/
theorem evaluateOffPolicy_eq_ok {examples : List (DecisionExample ℚ)} {estimate : OPEEstimate ℚ}
    (evaluated : evaluateOffPolicy targetPropensities predictor maximumWeight examples =
      .ok estimate) :
    let weights := (supported targetPropensities examples).map
      (clippedRatio targetPropensities maximumWeight)
    supported targetPropensities examples ≠ [] ∧ weights.sum ≠ 0 ∧
      estimate.ips = average ((supported targetPropensities examples).map
        (weighted targetPropensities maximumWeight)) ∧
      estimate.doublyRobust = average ((supported targetPropensities examples).map
        (corrected targetPropensities predictor maximumWeight)) ∧
      estimate.effectiveSampleSize =
        weights.sum ^ 2 / (weights.map fun weight => weight ^ 2).sum := by
  obtain ⟨rows, added, evaluated⟩ := bind_eq_ok.mp evaluated
  simp only [rows_eq added, guard_eq_ok, List.map_map] at evaluated
  obtain ⟨some, weights, same⟩ := evaluated
  have same := Except.ok.inj same
  subst same
  refine ⟨fun none => some (by rw [none]; rfl), weights, ?_, ?_, ?_⟩
  · rw [estimateOf_ips, List.map_map]
    rfl
  · rw [estimateOf_doublyRobust, List.map_map]
    rfl
  · rw [estimateOf_effectiveSampleSize, List.map_map]
    rfl

/-- The weights have one sign, that of the largest weight allowed. -/
theorem clippedRatio_sign (examples : List (DecisionExample ℚ)) :
    (∀ weight ∈ (supported targetPropensities examples).map
        (clippedRatio targetPropensities maximumWeight), 0 ≤ weight) ∨
      ∀ weight ∈ (supported targetPropensities examples).map
        (clippedRatio targetPropensities maximumWeight), weight ≤ 0 := by
  rcases le_total 0 maximumWeight with positive | negative
  · refine Or.inl (List.forall_mem_map.mpr fun logged member => ?_)
    have mass : Supported targetPropensities logged := of_decide_eq_true (List.mem_filter.mp member).2
    rw [clippedRatio, if_pos mass]
    refine le_min (div_nonneg mass.le ?_) positive
    rw [loggedPropensity]
    cases logged.selected with
    | error error => exact zero_le_one
    | ok candidate => exact_mod_cast candidate.propensity_pos.le
  · refine Or.inr (List.forall_mem_map.mpr fun logged member => ?_)
    have mass : Supported targetPropensities logged := of_decide_eq_true (List.mem_filter.mp member).2
    rw [clippedRatio, if_pos mass]
    exact (min_le_right _ _).trans negative

/-- **The effective sample size** of weights of one sign. -/
theorem effectiveSampleSize_bounds {weights : List ℚ}
    (sign : (∀ weight ∈ weights, 0 ≤ weight) ∨ ∀ weight ∈ weights, weight ≤ 0)
    (nonzero : weights.sum ≠ 0) :
    1 ≤ weights.sum ^ 2 / (weights.map fun weight => weight ^ 2).sum ∧
      weights.sum ^ 2 / (weights.map fun weight => weight ^ 2).sum ≤ weights.length := by
  have square : 0 < weights.sum ^ 2 := by positivity
  have above := sq_sum_le weights
  have below := sum_sq_le sign
  have squares : 0 < (weights.map fun weight => weight ^ 2).sum := by
    refine lt_of_le_of_ne ?_ fun zero => ?_
    · refine List.sum_nonneg fun square member => ?_
      obtain ⟨weight, -, same⟩ := List.mem_map.mp member
      rw [← same]
      exact sq_nonneg weight
    · rw [← zero, mul_zero] at above
      exact absurd above (not_le.mpr square)
  exact ⟨(one_le_div squares).mpr below, (div_le_iff₀ squares).mpr above⟩

/-- An avoided example has no weight. -/
theorem avoided_clippedRatio {examples : List (DecisionExample ℚ)} {logged : DecisionExample ℚ}
    (member : logged ∈ avoided targetPropensities examples) :
    clippedRatio targetPropensities maximumWeight logged = 0 := by
  have massless := (List.mem_filter.mp member).2
  rw [Bool.not_eq_true', decide_eq_false_iff_not] at massless
  rw [clippedRatio, if_neg massless]

theorem avoided_weighted {examples : List (DecisionExample ℚ)} {logged : DecisionExample ℚ}
    (member : logged ∈ avoided targetPropensities examples) :
    weighted targetPropensities maximumWeight logged = 0 := by
  rw [weighted, avoided_clippedRatio member, zero_mul]

theorem avoided_corrected {examples : List (DecisionExample ℚ)} {logged : DecisionExample ℚ}
    (member : logged ∈ avoided targetPropensities examples) :
    corrected targetPropensities predictor maximumWeight logged =
      targetModel targetPropensities predictor logged := by
  rw [corrected, avoided_clippedRatio member, zero_mul, add_zero]

/-- The examples that count are the supported and the avoided ones. -/
theorem supported_append_avoided (examples : List (DecisionExample ℚ)) :
    (supported targetPropensities examples ++ avoided targetPropensities examples).Perm
      (counted targetPropensities examples) :=
  List.filter_append_perm _ _

/-- **The averages are over all that count exactly where nothing is missed.** -/
theorem averagesCounted_iff (targetPropensities : Dict String (Dict String ℚ))
    (predictor : TabularShadowPredictor ℚ) (maximumWeight : ℚ) (examples : List (DecisionExample ℚ))
    (estimate : OPEEstimate ℚ)
    (evaluated : evaluateOffPolicy targetPropensities predictor maximumWeight examples =
      .ok estimate) :
    AveragesCounted targetPropensities predictor maximumWeight examples estimate ↔
      NothingMissed targetPropensities predictor maximumWeight examples := by
  obtain ⟨some, nonzero, ips, doublyRobust, sampleSize⟩ := evaluateOffPolicy_eq_ok evaluated
  have split : (supported targetPropensities examples ++ avoided targetPropensities examples).Perm
      (counted targetPropensities examples) := supported_append_avoided examples
  obtain ⟨atLeast, atMost⟩ := effectiveSampleSize_bounds (clippedRatio_sign examples) nonzero
  have sampled : 1 ≤ estimate.effectiveSampleSize ∧
      estimate.effectiveSampleSize ≤ (counted targetPropensities examples).length := by
    rw [sampleSize]
    refine ⟨atLeast, atMost.trans (Nat.cast_le.mpr ?_)⟩
    rw [List.length_map]
    exact (List.filter_sublist).length_le
  -- both averages are compared part by part
  have average_counted : ∀ f : DecisionExample ℚ → ℚ,
      average ((supported targetPropensities examples).map f) =
          average ((counted targetPropensities examples).map f) ↔
        avoided targetPropensities examples = [] ∨
          average ((supported targetPropensities examples).map f) =
            average ((avoided targetPropensities examples).map f) := by
    intro f
    rw [← average_perm (split.map f), List.map_append,
      average_append_eq_left (by simpa using some), List.map_eq_nil_iff]
  have unweighted : average ((avoided targetPropensities examples).map
      (weighted targetPropensities maximumWeight)) = 0 := by
    rw [List.map_congr_left fun logged member => avoided_weighted member]
    exact average_zeros _
  have uncorrected : (avoided targetPropensities examples).map
      (corrected targetPropensities predictor maximumWeight) =
      (avoided targetPropensities examples).map (targetModel targetPropensities predictor) :=
    List.map_congr_left fun logged member => avoided_corrected member
  have both := average_counted (weighted targetPropensities maximumWeight)
  have both' := average_counted (corrected targetPropensities predictor maximumWeight)
  rw [unweighted] at both
  rw [uncorrected] at both'
  constructor
  · intro averages
    have first := both.mp (ips.symm.trans averages.ips)
    have second := both'.mp (doublyRobust.symm.trans averages.doublyRobust)
    rcases first with none | zero
    · exact Or.inl none
    · exact second.imp_right fun same => ⟨zero, same⟩
  · intro missed
    exact ⟨ips.trans (both.mpr (missed.imp_right And.left)),
      doublyRobust.trans (both'.mpr (missed.imp_right And.right)), sampled⟩

end OffPolicy

namespace Sample

/-- A candidate that was chosen every other time. -/
def even (actionId : String) (named : actionId ≠ "") : LoggedCandidate ℚ where
  actionId
  propensity := 1 / 2
  predictedCost := 0
  predictedRisk := 0
  valid := by norm_num [LoggedCandidateData.violation, named]

/-- One decision for either action, each with the outcome one. -/
def oneEach : List (DecisionExample ℚ) :=
  [("first", "safe"), ("second", "fast")].map fun (decisionId, selectedActionId) => {
    decisionId, selectedActionId
    contextKey := "context"
    candidates := [even "safe" (by decide), even "fast" (by decide)]
    outcome := some 1 }

/-- The same target for both. -/
def target (propensities : Dict String ℚ) : Dict String (Dict String ℚ) :=
  .ofItems [("first", propensities), ("second", propensities)]

end Sample

theorem even_target_averaged : ∃ estimate,
    evaluateOffPolicy (Sample.target (.ofItems [("safe", 1 / 2), ("fast", 1 / 2)])) {} 20
      Sample.oneEach = .ok estimate ∧
    (AveragesCounted (Sample.target (.ofItems [("safe", 1 / 2), ("fast", 1 / 2)])) {} 20
        Sample.oneEach estimate ↔
      NothingMissed (Sample.target (.ofItems [("safe", 1 / 2), ("fast", 1 / 2)])) {} 20
        Sample.oneEach) := by
  have returns : (evaluateOffPolicy (Sample.target (.ofItems [("safe", 1 / 2), ("fast", 1 / 2)])) {}
      20 Sample.oneEach).toOption.isSome = true := by decide +kernel
  cases evaluated : evaluateOffPolicy
      (Sample.target (.ofItems [("safe", 1 / 2), ("fast", 1 / 2)])) {} 20 Sample.oneEach with
  | error error =>
    rw [evaluated] at returns
    cases returns
  | ok estimate => exact ⟨estimate, rfl, averagesCounted_iff _ _ _ _ _ evaluated⟩

/-- **Where the target always plays safe, the other example is left out**, and the average doubles.
-/
theorem safe_target_doubled : ¬ ∀ estimate,
    evaluateOffPolicy (Sample.target (.ofItems [("safe", 1)])) {} 20 Sample.oneEach = .ok estimate →
      AveragesCounted (Sample.target (.ofItems [("safe", 1)])) {} 20 Sample.oneEach estimate := by
  intro law
  have returned : ((evaluateOffPolicy (Sample.target (.ofItems [("safe", 1)])) {} 20
      Sample.oneEach).map OPEEstimate.ips).toOption = some 2 := by decide +kernel
  have due : average ((counted (Sample.target (.ofItems [("safe", 1)])) Sample.oneEach).map
      (weighted (Sample.target (.ofItems [("safe", 1)])) 20)) = 1 := by decide +kernel
  cases evaluated : evaluateOffPolicy (Sample.target (.ofItems [("safe", 1)])) {} 20
      Sample.oneEach with
  | error error =>
    rw [evaluated] at returned
    cases returned
  | ok estimate =>
    rw [evaluated] at returned
    have ips := (law estimate evaluated).ips
    rw [due, Option.some.inj returned] at ips
    norm_num at ips

end Dnc.PolicyLearning
