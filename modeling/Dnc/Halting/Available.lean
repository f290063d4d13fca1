/-
**Whether the action decided on is available.**

Every early return of the adaptive policy looks its action up in the available ones, or abstains,
and an exhausted budget never gets past them (`earlyReturn_keeps`). Behind them the policy continues
with the best action there is. Where only STOP and ABSTAIN are left there is none, and then the
policy samples without asking whether SAMPLE is available (`continueWith_of_no_move`).

`decidesAvailable_iff`: an enabled policy keeps to what is available exactly where some other action
than STOP and ABSTAIN is, or the calibration shifted, or the budget is exhausted, or it is ready to
stop.
-/

import Dnc.Halting.Safety

namespace Dnc.Halting

open PyLib Cognition Assurance

/-- Neither STOP nor ABSTAIN. -/
def Moves (action : InferenceAction) : Prop := action ≠ .stop ∧ action ≠ .abstain

instance (action : InferenceAction) : Decidable (Moves action) :=
  inferInstanceAs (Decidable (action ≠ .stop ∧ action ≠ .abstain))

section Available

variable {R : Type} [PyFloat R]

/-- The decision keeps to the available actions, and an exhausted budget is not spent. -/
structure KeepsToAvailable (context : HaltingContext R) (decision : InferenceDecision R) : Prop where
  available : decision.action ∈ context.availableActions ∨ decision.action = .abstain
  unspent : (budgetStatus context).exhausted = true →
    decision.action ≠ .sample ∧ decision.action ≠ .diversify

/-- **Every decision keeps to the available actions.** -/
def DecidesAvailable (env : TextEnv R) (policy : AdaptiveHaltingPolicy R)
    (context : HaltingContext R) : Prop :=
  ∀ decision, policy.decide env context = .ok decision → KeepsToAvailable context decision

/-- What it takes to stop where there is nothing else to do. -/
structure ReadyToStop (policy : AdaptiveHaltingPolicy R) (context : HaltingContext R)
    (clusters : List (SemanticCluster R)) (threshold : R) : Prop where
  available : .stop ∈ context.availableActions
  checks : context.mandatoryChecksPassed = true
  contract : context.outputContractSatisfied = true
  confident : ∃ confidence bound, context.confidence = some confidence ∧
    confidence.applicabilityStatus = "calibrated" ∧ confidence.lowerBound = some bound ∧
    threshold ≤ bound
  stable : ∃ lead rest, clusters = lead :: rest ∧
    policy.minimumLeadingFraction ≤ leadingFraction clusters ∧
    policy.minimumIndependentGroups ≤ lead.correlationGroups.length

/-- Something can be done, or nothing need be. -/
def SomethingToDo (env : TextEnv R) (policy : AdaptiveHaltingPolicy R) (context : HaltingContext R) :
    Prop :=
  (∃ action ∈ context.availableActions, Moves action) ∨ context.calibrationShifted = true ∨
    (budgetStatus context).exhausted = true ∨
    ∀ clusters threshold, contextClusters env context = .ok clusters →
      policy.thresholdPolicy.thresholdFor context.riskClass context.domain = .ok threshold →
      ReadyToStop policy context clusters threshold

/-! ### The best next action -/

theorem mem_alternatives {context : HaltingContext R} {action : InferenceAction} :
    action ∈ alternatives context ↔ action ∈ context.availableActions := by
  rw [alternatives, List.mem_filter, decide_eq_true_eq]
  exact and_iff_right (PyEnum.complete action)

/-- The best next action is one of those that move, if there are any. -/
theorem bestNextAction_moves {context : HaltingContext R}
    (some : ∃ action ∈ context.availableActions, Moves action) :
    (bestNextAction context).1 ∈ context.availableActions ∧ Moves (bestNextAction context).1 := by
  obtain ⟨action, available, moves⟩ := some
  simp only [bestNextAction]
  split
  next none =>
    -- the action is among the candidates, so there is a first one
    rw [List.head?_eq_none_iff] at none
    have perm := sortByDesc_perm
      (fun action => toLex ((context.expectedActionValues.get? action).getD 0.0 -
        (context.actionCosts.get? action).getD 0.0, PyEnum.value action))
      ((alternatives context).filter fun action =>
        Decidable.decide (action ≠ .stop ∧ action ≠ .abstain))
    rw [none] at perm
    have member := perm.symm.mem_iff.mp
      (List.mem_filter.mpr ⟨mem_alternatives.mpr available, decide_eq_true moves⟩)
    cases member
  next selected first =>
    obtain ⟨rest, sorted⟩ := List.head?_eq_some_iff.mp first
    obtain ⟨member, -⟩ := head_sortByDesc_le sorted
    obtain ⟨listed, selectable⟩ := List.mem_filter.mp member
    exact ⟨mem_alternatives.mp listed, of_decide_eq_true selectable⟩

theorem bestNextAction_of_no_move {context : HaltingContext R}
    (none : ¬ ∃ action ∈ context.availableActions, Moves action) :
    bestNextAction context = (.abstain, 0.0, 0.0) := by
  have empty : (alternatives context).filter (fun action =>
      Decidable.decide (action ≠ .stop ∧ action ≠ .abstain)) = [] := by
    rw [List.filter_eq_nil_iff]
    intro action listed selectable
    exact none ⟨action, mem_alternatives.mp listed, of_decide_eq_true selectable⟩
  simp only [bestNextAction, empty]
  rfl

theorem continueWith_available {context : HaltingContext R}
    (some : ∃ action ∈ context.availableActions, Moves action) :
    AdaptiveHaltingPolicy.continueWith context ∈ context.availableActions := by
  obtain ⟨available, moves⟩ := bestNextAction_moves some
  simp only [AdaptiveHaltingPolicy.continueWith]
  by_cases verifies : calibrated context = false ∧ .verify ∈ context.availableActions
  · rw [if_pos verifies, if_neg]
    · exact verifies.2
    · rintro (missing | stops | abstains)
      · exact missing verifies.2
      · cases stops
      · cases abstains
  · rw [if_neg verifies, if_neg]
    · exact available
    · rintro (missing | stops | abstains)
      · exact missing available
      · exact moves.1 stops
      · exact moves.2 abstains

/-- **With nothing to do the policy samples**, whether or not SAMPLE is available. -/
theorem continueWith_of_no_move {context : HaltingContext R}
    (none : ¬ ∃ action ∈ context.availableActions, Moves action) :
    AdaptiveHaltingPolicy.continueWith context = .sample := by
  have unverified : ¬ (calibrated context = false ∧ .verify ∈ context.availableActions) :=
    fun verifies => none ⟨.verify, verifies.2, nofun, nofun⟩
  simp only [AdaptiveHaltingPolicy.continueWith, if_neg unverified, bestNextAction_of_no_move none]
  exact if_pos (Or.inr (Or.inr trivial))

/-! ### The returns -/

/-- **Every early return keeps to the available actions.** -/
theorem earlyReturn_keeps {context : HaltingContext R} {clusters : List (SemanticCluster R)}
    {decision : InferenceDecision R} (returns : earlyReturn context clusters = some decision) :
    KeepsToAvailable context decision := by
  simp only [earlyReturn] at returns
  split_ifs at returns with ambiguous missing contradictory shifted diversifies exhausted
  · obtain rfl := Option.some.inj returns
    exact ⟨Or.inl ambiguous.2, fun _ => ⟨nofun, nofun⟩⟩
  · obtain rfl := Option.some.inj returns
    exact ⟨Or.inl missing.2, fun _ => ⟨nofun, nofun⟩⟩
  · obtain rfl := Option.some.inj returns
    exact ⟨Or.inl contradictory.2, fun _ => ⟨nofun, nofun⟩⟩
  · obtain rfl := Option.some.inj returns
    refine ⟨Or.inl diversifies.1, fun spent => ?_⟩
    rw [diversifies.2] at spent
    cases spent
  · obtain rfl := Option.some.inj returns
    exact ⟨Or.inr rfl, fun _ => ⟨nofun, nofun⟩⟩
  · obtain rfl := Option.some.inj returns
    exact ⟨Or.inr rfl, fun _ => ⟨nofun, nofun⟩⟩

/-- Where only STOP and ABSTAIN are left, being ready to stop is being allowed to. -/
theorem stops_iff_ready {policy : AdaptiveHaltingPolicy R} {context : HaltingContext R}
    {clusters : List (SemanticCluster R)} {threshold : R}
    (none : ¬ ∃ action ∈ context.availableActions, Moves action) :
    (policy.mayStop context clusters threshold = true ∧ .stop ∈ context.availableActions) ↔
      ReadyToStop policy context clusters threshold := by
  simp only [AdaptiveHaltingPolicy.mayStop, bestNextAction_of_no_move none, Bool.and_eq_true,
    le_refl, decide_true, and_true]
  constructor
  · rintro ⟨⟨⟨⟨⟨checks, contract⟩, applicable⟩, bounded⟩, stable⟩, available⟩
    obtain ⟨confidence, estimated, status⟩ := calibrated_iff.mp applicable
    refine ⟨available, checks, contract, ?_, ?_⟩
    · rw [lowerBound, estimated, Option.bind_some] at bounded
      cases bound : confidence.lowerBound with
      | none => simp [bound] at bounded
      | some bound' =>
        rw [bound] at bounded
        exact ⟨confidence, bound', estimated, status, bound, of_decide_eq_true bounded⟩
    · cases clusters with
      | nil => simp [AdaptiveHaltingPolicy.stable] at stable
      | cons lead rest =>
        simp only [AdaptiveHaltingPolicy.stable, Bool.and_eq_true, decide_eq_true_eq] at stable
        exact ⟨lead, rest, rfl, stable.1.2, stable.2⟩
  · intro ready
    obtain ⟨confidence, bound, estimated, status, bounded, reached⟩ := ready.confident
    obtain ⟨lead, rest, split, leads, groups⟩ := ready.stable
    have applicable := calibrated_iff.mpr ⟨confidence, estimated, status⟩
    refine ⟨⟨⟨⟨⟨ready.checks, ready.contract⟩, applicable⟩, ?_⟩, ?_⟩, ready.available⟩
    · rw [lowerBound, estimated, Option.bind_some, bounded]
      exact decide_eq_true reached
    · rw [AdaptiveHaltingPolicy.stable, decide_eq_true leads, split]
      exact decide_eq_true groups

/-- What the policy does once the threshold is known, by what is available. -/
theorem weigh_available_iff (policy : AdaptiveHaltingPolicy R) (context : HaltingContext R)
    (clusters : List (SemanticCluster R)) (threshold : R) :
    ((policy.weigh context clusters threshold).action ∈ context.availableActions ∨
        (policy.weigh context clusters threshold).action = .abstain) ↔
      (∃ action ∈ context.availableActions, Moves action) ∨
        ReadyToStop policy context clusters threshold := by
  simp only [AdaptiveHaltingPolicy.weigh]
  by_cases some : ∃ action ∈ context.availableActions, Moves action
  · refine iff_of_true (Or.inl ?_) (Or.inl some)
    split_ifs with diversifies stops
    · simp only [AdaptiveHaltingPolicy.diversifies, Bool.and_eq_true, decide_eq_true_eq]
        at diversifies
      exact diversifies.2
    · exact stops.2
    · exact continueWith_available some
  · have undiversified : ¬ policy.diversifies context clusters = true := by
      intro diversifies
      simp only [AdaptiveHaltingPolicy.diversifies, Bool.and_eq_true, decide_eq_true_eq]
        at diversifies
      exact some ⟨.diversify, diversifies.2, nofun, nofun⟩
    rw [if_neg undiversified, or_iff_right some, ← stops_iff_ready some]
    split_ifs with stops
    · exact iff_of_true (Or.inl stops.2) stops
    · refine iff_of_false ?_ stops
      rw [continueWith_of_no_move some]
      rintro (available | abstains)
      · exact some ⟨.sample, available, nofun, nofun⟩
      · cases abstains

/-- **An enabled policy keeps to what is available exactly where there is something to do**, or
nothing need be done. -/
theorem decidesAvailable_iff (env : TextEnv R) (policy : AdaptiveHaltingPolicy R)
    (context : HaltingContext R) (enabled : policy.enabled = true) :
    DecidesAvailable env policy context ↔ SomethingToDo env policy context := by
  have isEnabled : ¬ policy.enabled = false := by simp [enabled]
  unfold DecidesAvailable SomethingToDo AdaptiveHaltingPolicy.decide
  rw [if_neg isEnabled]
  cases clustered : contextClusters env context with
  | error error =>
    refine iff_of_true ?_ (Or.inr (Or.inr (Or.inr ?_)))
    · intro decision returned
      cases returned
    · intro clusters threshold clustered
      cases clustered
  | ok clusters =>
    simp only [bind, Except.bind, pure, Except.pure, Except.ok.injEq]
    rcases earlyReturn_cases context clusters with
      ⟨passes, -, -, -, unshifted, affordable⟩ | ⟨decision, returns, -, blocked⟩
    · rw [passes, unshifted, affordable]
      cases found : policy.thresholdPolicy.thresholdFor context.riskClass context.domain with
      | error error =>
        refine iff_of_true ?_ (Or.inr (Or.inr (Or.inr ?_)))
        · intro decision returned
          cases returned
        · intro clusters threshold _ found
          cases found
      | ok threshold =>
        have kept := weigh_available_iff policy context clusters threshold
        simp only [Except.ok.injEq, Bool.false_eq_true, false_or]
        constructor
        · exact fun keeps => (kept.mp (keeps _ rfl).available).imp_right
            fun ready _ _ sameClusters sameThreshold => sameClusters ▸ sameThreshold ▸ ready
        · rintro able _ rfl
          refine ⟨kept.mpr (able.imp_right fun ready => ready _ _ rfl rfl), fun exhausted => ?_⟩
          rw [affordable] at exhausted
          cases exhausted
    · rw [returns]
      refine iff_of_true ?_ ?_
      · rintro other same
        obtain rfl : decision = other := Except.ok.inj same
        exact earlyReturn_keeps returns
      · -- each early return but the last two is for an available action that moves
        by_contra nothing
        push Not at nothing
        obtain ⟨stuck, unshifted, affordable, -⟩ := nothing
        refine blocked ⟨?_, ?_, ?_, Bool.eq_false_iff.mpr unshifted,
          Bool.eq_false_iff.mpr affordable⟩
        · exact Or.inr fun available => stuck .ask available ⟨nofun, nofun⟩
        · exact Or.inr fun available => stuck .retrieve available ⟨nofun, nofun⟩
        · exact Or.inr fun available => stuck .verify available ⟨nofun, nofun⟩

end Available

theorem gaps_available :
    DecidesAvailable Sample.text { thresholdPolicy := Sample.thresholds, enabled := true }
        Sample.gaps ↔
      SomethingToDo Sample.text { thresholdPolicy := Sample.thresholds, enabled := true }
        Sample.gaps :=
  decidesAvailable_iff Sample.text { thresholdPolicy := Sample.thresholds, enabled := true }
    Sample.gaps rfl

/-- Nothing has been tried, and the only thing to do is to stop. -/
def Sample.onlyStop : HaltingContext Rat where
  taskId := "task"
  domain := "general"
  riskClass := .high
  attempts := []
  budget := ⟨{ maxAttempts := 5, maxTokens := 5000, maxCost := 5, maxTimeMs := 5000 },
    Sample.budget_valid⟩
  mandatoryChecksPassed := false
  outputContractSatisfied := false
  availableActions := {.stop}
  valid := by decide +kernel

/-- **The policy samples where SAMPLE is not available.** -/
theorem samples_unavailable :
    ¬ DecidesAvailable Sample.text { thresholdPolicy := Sample.thresholds, enabled := true }
      Sample.onlyStop := by
  intro keeps
  have samples : ((AdaptiveHaltingPolicy.decide
      { thresholdPolicy := Sample.thresholds, enabled := true } Sample.text Sample.onlyStop).map
        InferenceDecision.action).toOption = some .sample := by decide +kernel
  cases decided : AdaptiveHaltingPolicy.decide
      { thresholdPolicy := Sample.thresholds, enabled := true } Sample.text Sample.onlyStop with
  | error error =>
    rw [decided] at samples
    cases samples
  | ok decision =>
    rw [decided] at samples
    have available := (keeps decision decided).available
    rw [Option.some.inj samples] at available
    revert available
    decide

end Dnc.Halting
