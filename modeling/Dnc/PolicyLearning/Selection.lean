/-
**Exploration and the propensities it reports.**

`select_action` sorts the eligible actions and reports `ε / n` for each of the `n`, with `1 - ε`
more for the best. It explores where the index is a multiple of `k = round(1 / ε)`, and then takes
the action at the index modulo `n`.

* `selectAction_eligible` and `sum_propensities`: the selected action is eligible, and the
  propensities sum to one.
* `timesSelected_other` and `timesSelected_best`: where `k` and `n` are coprime, each action is
  selected over `k * n` indices in a row as often as its propensity says. The residues modulo `k`
  and `n` are then independent.
* `never_selected`: where they are not, the second action is never selected.

`reportsWhatItSelects_iff` puts both together.
-/

import Dnc.Logic.Residues
import Dnc.PolicyLearning.Predictor
import Dnc.PolicyLearning.Registry
import Dnc.PyLib.Sorted
import Mathlib.Data.List.GetD
import Mathlib.Data.Rat.Floor
import Mathlib.Data.Prod.Lex

namespace Dnc.PolicyLearning

open PyLib Finset Logic

/-- `round(value)`, half to even. -/
def pyRound (value : ℚ) : Int :=
  let rest := value - ⌊value⌋
  if rest < 1 / 2 then ⌊value⌋
  else if 1 / 2 < rest then ⌊value⌋ + 1
  else if ⌊value⌋ % 2 = 0 then ⌊value⌋ else ⌊value⌋ + 1

theorem pyRound_natCast (value : ℕ) : pyRound value = value := by
  simp [pyRound]

/-- The arguments of `select_action`, the exploration index apart. -/
structure SelectionRequest where
  policy : LearnedPolicyVersion ℚ
  predictor : TabularShadowPredictor ℚ
  contextKey : String
  candidateIds : List String
  deterministicActionId : String
  safeActionIds : Finset String
  canaryAllowed : Bool

namespace SelectionRequest

/-- The checks of one candidate. -/
def Allows (request : SelectionRequest) (actionId : String) : Prop :=
  actionId ∈ request.safeActionIds ∧
    (request.predictor.predict request.contextKey actionId).risk ≤ request.policy.maximumRisk ∧
    (request.predictor.predict request.contextKey actionId).cost ≤ request.policy.maximumCost

instance (request : SelectionRequest) (actionId : String) : Decidable (request.Allows actionId) :=
  inferInstanceAs (Decidable (_ ∧ _ ∧ _))

/-- `prediction.outcome - prediction.cost`. -/
def value (request : SelectionRequest) (actionId : String) : ℚ :=
  let prediction := request.predictor.predict request.contextKey actionId
  prediction.outcome - prediction.cost

/-- `eligible`, sorted. -/
def eligible (request : SelectionRequest) : List (String × ℚ) :=
  sortBy (fun item => toLex (-item.2, item.1))
    ((request.candidateIds.filter fun actionId => request.Allows actionId).map fun actionId =>
      (actionId, request.value actionId))

/-- `actions`. -/
def actions (request : SelectionRequest) : List String := request.eligible.map Prod.fst

/-- `select_action`. -/
def selectAction (request : SelectionRequest) (explorationIndex : Int) : PolicyDecision ℚ :=
  match request.canaryAllowed, request.actions with
  | true, best :: others =>
    let actions := best :: others
    let epsilon := request.policy.explorationEpsilon
    let shares := Dict.ofItems (actions.map fun item => (item, epsilon / actions.length))
    { actionId :=
        if epsilon ≠ 0 ∧ explorationIndex % max 1 (pyRound (1 / epsilon)) = 0 then
          actions.getD (explorationIndex % actions.length).toNat best
        else best
      propensities := shares.set best ((shares.get? best).getD 0 + (1 - epsilon))
      usedLearnedPolicy := true
      reasonCodes := ["LEARNED_CONSTRAINED"] }
  | _, _ =>
    { actionId := request.deterministicActionId
      propensities := Dict.ofItems [(request.deterministicActionId, 1)]
      usedLearnedPolicy := false
      reasonCodes := ["DETERMINISTIC_GUARDRAIL"] }

/-- A candidate that is safe, and within the limits on risk and cost. -/
def Eligible (request : SelectionRequest) (actionId : String) : Prop :=
  actionId ∈ request.candidateIds ∧ request.Allows actionId

/-- How many of the indices from `start` on select the action. -/
def timesSelected (request : SelectionRequest) (start : Int) (count : ℕ) (actionId : String) : ℕ :=
  #{offset ∈ range count | (request.selectAction (start + (offset : ℕ))).actionId = actionId}

/-- **The law of the exploration**: what is reported is how often an action is selected. -/
structure ReportsWhatItSelects (request : SelectionRequest) (period : ℕ) : Prop where
  eligible : ∀ index, request.Eligible (request.selectAction index).actionId
  total : ∀ index, (request.selectAction index).propensities.values.sum = 1
  frequencies : ∀ start index actionId, request.Eligible actionId →
    ∃ propensity, (request.selectAction index).propensities.get? actionId = some propensity ∧
      (request.timesSelected start period actionId : ℚ) = period * propensity

/-- `n`, the number of different eligible actions. -/
def eligibleCount (request : SelectionRequest) : ℕ :=
  #{actionId ∈ request.candidateIds.toFinset | request.Allows actionId}

/-! ### The eligible actions -/

section Exploration

variable {request : SelectionRequest}

theorem actions_perm (request : SelectionRequest) :
    request.actions.Perm (request.candidateIds.filter fun actionId => request.Allows actionId) := by
  have sorted := (sortBy_perm (fun item : String × ℚ => toLex (-item.2, item.1))
    ((request.candidateIds.filter fun actionId => request.Allows actionId).map fun actionId =>
      (actionId, request.value actionId))).map Prod.fst
  rw [List.map_map] at sorted
  exact sorted.trans (List.Perm.of_eq (List.map_id _))

theorem mem_actions {actionId : String} : actionId ∈ request.actions ↔ request.Eligible actionId := by
  rw [(actions_perm request).mem_iff, List.mem_filter, decide_eq_true_eq]
  rfl

variable (distinct : request.candidateIds.Nodup)
include distinct

theorem actions_nodup : request.actions.Nodup :=
  (actions_perm request).nodup_iff.mpr (distinct.filter _)

theorem length_actions : request.actions.length = request.eligibleCount := by
  rw [(actions_perm request).length_eq, eligibleCount,
    ← List.toFinset_card_of_nodup (distinct.filter _), List.toFinset_filter]
  simp only [decide_eq_true_eq]

variable {best : String} {others : List String} (split : request.actions = best :: others)
  (allowed : request.canaryAllowed = true)
include split allowed

/-! ### What is reported -/

/-- **The propensities**, entry by entry. -/
theorem propensities_entries (index : Int) : (request.selectAction index).propensities.entries =
    (best, request.policy.explorationEpsilon / (others.length + 1) +
        (1 - request.policy.explorationEpsilon)) ::
      others.map fun item => (item, request.policy.explorationEpsilon / (others.length + 1)) := by
  have unique := actions_nodup distinct
  rw [split] at unique
  have keys : (((best :: others).map fun item => (item, request.policy.explorationEpsilon /
      ((best :: others).length : ℚ))).map Prod.fst).Nodup := by
    rw [List.map_map]
    exact (List.map_id (best :: others)).symm ▸ unique
  have entries := Dict.entries_ofItems keys
  simp only [selectAction, allowed, split]
  show setItem _ _ _ = _
  rw [Dict.get?, entries]
  simp [setItem]

/-- **They sum to one.** -/
theorem sum_propensities (index : Int) :
    (request.selectAction index).propensities.values.sum = 1 := by
  have positive : ((others.length : ℚ) + 1) ≠ 0 := by positivity
  rw [Dict.values, propensities_entries distinct split allowed index, List.map_cons, List.map_map,
    List.sum_cons]
  have same : (others.map (Prod.snd ∘ fun item =>
      (item, request.policy.explorationEpsilon / (others.length + 1 : ℚ)))).sum =
      others.length * (request.policy.explorationEpsilon / (others.length + 1)) := by
    show (others.map fun _ => request.policy.explorationEpsilon / (others.length + 1 : ℚ)).sum = _
    rw [List.map_const', List.sum_replicate, nsmul_eq_mul]
  rw [same]
  field_simp
  ring

theorem propensity_best (index : Int) : (request.selectAction index).propensities.get? best =
    some (request.policy.explorationEpsilon / (others.length + 1) +
      (1 - request.policy.explorationEpsilon)) := by
  rw [← Dict.mem_entries, propensities_entries distinct split allowed]
  exact List.mem_cons_self

theorem propensity_other (index : Int) {actionId : String} (other : actionId ∈ others) :
    (request.selectAction index).propensities.get? actionId =
      some (request.policy.explorationEpsilon / (others.length + 1)) := by
  rw [← Dict.mem_entries, propensities_entries distinct split allowed]
  exact List.mem_cons_of_mem _ (List.mem_map.mpr ⟨actionId, other, rfl⟩)

/-! ### What is selected -/

variable {k : ℕ} (large : 10 ≤ k) (explores : request.policy.explorationEpsilon = 1 / k)
include large explores

omit distinct in
/-- The index decides twice: whether to explore, and where. -/
theorem selected_eq (index : Int) : (request.selectAction index).actionId =
    if (k : ℤ) ∣ index then (best :: others).getD (index % (others.length + 1 : ℕ)).toNat best
    else best := by
  have positive : (k : ℚ) ≠ 0 := by
    have : k ≠ 0 := by omega
    exact_mod_cast this
  have nonzero : request.policy.explorationEpsilon ≠ 0 := by
    rw [explores]
    exact one_div_ne_zero positive
  have period : max 1 (pyRound (1 / request.policy.explorationEpsilon)) = k := by
    rw [explores, one_div_one_div, pyRound_natCast]
    omega
  simp only [selectAction, allowed, split, period, nonzero, ne_eq, not_false_eq_true, true_and,
    List.length_cons, Int.dvd_iff_emod_eq_zero]

/-- **When the action at a position is selected.** -/
theorem selected_iff (index : Int) {position : ℕ} (inside : position < (best :: others).length) :
    (request.selectAction index).actionId = (best :: others)[position] ↔
      ((k : ℤ) ∣ index ∧ index ≡ position [ZMOD (others.length + 1 : ℕ)]) ∨
        (¬ (k : ℤ) ∣ index ∧ position = 0) := by
  have unique := actions_nodup distinct
  rw [split] at unique
  have bounded : (index % (others.length + 1 : ℕ)).toNat < (best :: others).length := by
    have := Int.emod_lt_of_pos index (show (0 : ℤ) < (others.length + 1 : ℕ) by positivity)
    rw [List.length_cons]
    omega
  have remains : position % (others.length + 1) = position :=
    Nat.mod_eq_of_lt (by rwa [List.length_cons] at inside)
  rw [selected_eq split allowed large explores]
  by_cases divides : (k : ℤ) ∣ index
  · rw [if_pos divides, List.getD_eq_getElem _ _ bounded, unique.getElem_inj_iff, Int.ModEq]
    have nonnegative := Int.emod_nonneg index
      (show ((others.length + 1 : ℕ) : ℤ) ≠ 0 by positivity)
    have cast : ((position : ℤ) % (others.length + 1 : ℕ)) = position := by
      rw [← Int.natCast_emod, remains]
    rw [cast]
    constructor
    · intro same
      exact Or.inl ⟨divides, by omega⟩
    · rintro (⟨-, same⟩ | ⟨apart, -⟩)
      · omega
      · exact absurd divides apart
  · rw [if_neg divides]
    have first : (best :: others)[0] = (best :: others)[position] ↔ 0 = position :=
      unique.getElem_inj_iff
    rw [List.getElem_cons_zero] at first
    rw [first]
    constructor
    · exact fun same => Or.inr ⟨divides, same.symm⟩
    · rintro (⟨explored, -⟩ | ⟨-, same⟩)
      · exact absurd explored divides
      · exact same.symm

omit distinct in
/-- **The selected action is eligible.** -/
theorem selectAction_eligible (index : Int) :
    request.Eligible (request.selectAction index).actionId := by
  rw [← mem_actions, split, selected_eq split allowed large explores]
  have bounded : (index % (others.length + 1 : ℕ)).toNat < (best :: others).length := by
    have := Int.emod_lt_of_pos index (show (0 : ℤ) < (others.length + 1 : ℕ) by positivity)
    rw [List.length_cons]
    omega
  split_ifs with divides
  · rw [List.getD_eq_getElem _ _ bounded]
    exact List.getElem_mem _
  · exact List.mem_cons_self

/-! ### How often -/

/-- **Every action but the best is selected once.** -/
theorem timesSelected_other (coprime : k.Coprime (others.length + 1)) (start : Int) {position : ℕ}
    (inside : position < (best :: others).length) (later : position ≠ 0) :
    request.timesSelected start (k * (others.length + 1)) (best :: others)[position] = 1 := by
  have once := card_residues coprime (by omega) (Nat.succ_pos _) start 0 position
  refine (congrArg Finset.card (Finset.filter_congr fun offset _ => ?_)).trans once
  rw [selected_iff distinct split allowed large explores _ inside, Nat.cast_zero,
    Int.modEq_zero_iff_dvd]
  exact or_iff_left fun first => later first.2

/-- **The best action is selected the rest of the time.** -/
theorem timesSelected_best (coprime : k.Coprime (others.length + 1)) (start : Int) :
    request.timesSelected start (k * (others.length + 1)) best + others.length =
      k * (others.length + 1) := by
  have explored := card_residue (show 0 < k by omega) start 0 (others.length + 1)
  have once := card_residues coprime (by omega) (Nat.succ_pos _) start 0 0
  rw [← Finset.filter_filter] at once
  -- of the multiples of `k`, one selects the best action
  have elsewhere := card_filter_add_card_filter_not
    (s := {offset ∈ range (k * (others.length + 1)) | start + (offset : ℕ) ≡ 0 [ZMOD k]})
    fun offset => start + (offset : ℕ) ≡ (0 : ℕ) [ZMOD (others.length + 1 : ℕ)]
  rw [Nat.cast_zero] at once elsewhere
  rw [once, explored, Finset.filter_filter] at elsewhere
  -- and only they select another one
  have all := card_filter_add_card_filter_not (s := range (k * (others.length + 1)))
    fun offset => (request.selectAction (start + (offset : ℕ))).actionId = best
  have apart : ∀ index, ¬ (request.selectAction index).actionId = best ↔
      index ≡ 0 [ZMOD k] ∧ ¬ index ≡ 0 [ZMOD (others.length + 1 : ℕ)] := by
    intro index
    have selected := selected_iff distinct split allowed large explores index
      (List.length_pos_of_ne_nil (List.cons_ne_nil best others))
    rw [List.getElem_cons_zero, Nat.cast_zero] at selected
    rw [selected, Int.modEq_zero_iff_dvd (n := k)]
    tauto
  rw [Finset.filter_congr fun offset _ => apart (start + (offset : ℕ)), card_range] at all
  rw [timesSelected]
  omega

/-- **Without coprimality the second action is never selected.** -/
theorem never_selected (common : ¬ k.Coprime (others.length + 1)) (index : Int)
    (several : 1 < (best :: others).length) :
    (request.selectAction index).actionId ≠ (best :: others)[1] := by
  rw [ne_eq, selected_iff distinct split allowed large explores index several]
  rintro (⟨explored, second⟩ | ⟨-, first⟩)
  · exact emod_ne_one_of_dvd common explored second
  · cases first

end Exploration

/-- **What is reported is how often an action is selected, exactly where `k` and `n` are coprime.**
-/
theorem reportsWhatItSelects_iff (request : SelectionRequest) (k : ℕ) (large : 10 ≤ k)
    (explores : request.policy.explorationEpsilon = 1 / k) (allowed : request.canaryAllowed = true)
    (distinct : request.candidateIds.Nodup) (some : 1 ≤ request.eligibleCount) :
    request.ReportsWhatItSelects (k * request.eligibleCount) ↔
      k.Coprime request.eligibleCount := by
  have count := length_actions distinct
  cases split : request.actions with
  | nil =>
    rw [split, List.length_nil] at count
    omega
  | cons best others =>
  rw [split, List.length_cons] at count
  rw [← count]
  have positive : (k : ℚ) ≠ 0 := by
    have : k ≠ 0 := by omega
    exact_mod_cast this
  have positive' : ((others.length : ℚ) + 1) ≠ 0 := by positivity
  constructor
  · intro reports
    by_contra common
    have several : 1 < (best :: others).length := by
      rw [List.length_cons]
      refine Nat.lt_of_le_of_ne (Nat.le_add_left 1 _) fun single => common ?_
      rw [← single]
      exact Nat.coprime_one_right k
    obtain ⟨second, rest, tail⟩ := List.exists_cons_of_length_pos
      (show 0 < others.length by rw [List.length_cons] at several; omega)
    have isSecond : (best :: others)[1] = second := by simp [tail]
    have member : second ∈ others := tail ▸ List.mem_cons_self
    have eligible : request.Eligible second :=
      mem_actions.mp (split ▸ List.mem_cons_of_mem _ member)
    obtain ⟨propensity, reported, frequency⟩ := reports.frequencies 0 0 second eligible
    have never : request.timesSelected 0 (k * (others.length + 1)) second = 0 := by
      rw [timesSelected, Finset.card_eq_zero, Finset.filter_eq_empty_iff]
      intro offset _
      rw [← isSecond]
      exact never_selected distinct split allowed large explores common (0 + offset) several
    rw [propensity_other distinct split allowed 0 member, Option.some.injEq] at reported
    rw [never, ← reported, explores] at frequency
    field_simp at frequency
    push_cast at frequency
    rw [zero_mul, zero_mul] at frequency
    exact mul_ne_zero positive positive' frequency.symm
  · intro coprime
    refine ⟨selectAction_eligible split allowed large explores,
      sum_propensities distinct split allowed, fun start index actionId eligible => ?_⟩
    have member := mem_actions.mpr eligible
    rw [split, List.mem_cons] at member
    rcases member with isBest | other
    · subst isBest
      refine ⟨_, propensity_best distinct split allowed index, ?_⟩
      have counted := timesSelected_best distinct split allowed large explores coprime start
      have counted : ((request.timesSelected start (k * (others.length + 1)) actionId : ℕ) : ℚ) +
          others.length = k * (others.length + 1) := by exact_mod_cast counted
      rw [eq_sub_of_add_eq counted, explores]
      push_cast
      field_simp
      ring
    · refine ⟨_, propensity_other distinct split allowed index other, ?_⟩
      obtain ⟨position, inside, found⟩ := List.getElem_of_mem other
      have once := timesSelected_other distinct split allowed large explores coprime start
        (Nat.succ_lt_succ inside) (Nat.succ_ne_zero position)
      rw [List.getElem_cons_succ, found] at once
      rw [once, explores]
      push_cast
      field_simp

end SelectionRequest

namespace Sample

/-- Every action is as good as any other, one time in ten is for exploration. -/
def oneInTen (candidateIds : List String) : SelectionRequest where
  policy := {
    policyId := "policy"
    version := "1"
    trainingDataHash := "data"
    modelHash := "model"
    maximumRisk := 1
    maximumCost := 1
    explorationEpsilon := 1 / 10
    fingerprint := "fingerprint" }
  predictor := {}
  contextKey := "context"
  candidateIds
  deterministicActionId := "safe"
  safeActionIds := candidateIds.toFinset
  canaryAllowed := true

end Sample

theorem three_reported :
    (Sample.oneInTen ["fast", "safe", "slow"]).ReportsWhatItSelects
        (10 * (Sample.oneInTen ["fast", "safe", "slow"]).eligibleCount) ↔
      Nat.Coprime 10 (Sample.oneInTen ["fast", "safe", "slow"]).eligibleCount :=
  SelectionRequest.reportsWhatItSelects_iff (Sample.oneInTen ["fast", "safe", "slow"]) 10
    (by decide) (by decide +kernel) rfl (by decide) (by decide +kernel)

/-- **Of two actions the second is never selected**, and reported with one in twenty. -/
theorem two_misreported : ¬ (Sample.oneInTen ["fast", "safe"]).ReportsWhatItSelects (10 * 2) := by
  intro reports
  obtain ⟨propensity, reported, frequency⟩ :=
    reports.frequencies 0 0 "safe" ⟨by decide, by decide +kernel⟩
  have one : ((Sample.oneInTen ["fast", "safe"]).selectAction 0).propensities.get? "safe" =
      some (1 / 20) := by decide +kernel
  have never : (Sample.oneInTen ["fast", "safe"]).timesSelected 0 (10 * 2) "safe" = 0 := by
    decide +kernel
  rw [one, Option.some.injEq] at reported
  rw [never, ← reported] at frequency
  norm_num at frequency

end Dnc.PolicyLearning
