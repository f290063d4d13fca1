/-
**What a satisfied cascade rests on.**

* `Vouches.concat`: the loop keeps a list of the verifiers it has asked with their answers, all of
  them candidates, and what they cost.
* `cascadeLoop_sound`: so where it is satisfied, these meet the policy.
* `cascadeLoop_complete`: what meets the policy still does with more passes. So where nothing is too
  expensive, nothing fails and nothing raises, stopping early decides as all the answers together
  would.

`cascadeLaw` puts both together for every registry that calls lead to.
-/

import Dnc.Assurance.Verifiers

namespace Dnc.Assurance

open PyLib Logic

section Cascade

variable (registry : VerifierRegistry) (claim : VerifierClaim) (policy : CascadePolicy)

/-- An enabled verifier of the registry that supports the claim. -/
structure Candidate (verifier : Verifier) : Prop where
  registered : registry.get verifier.descriptor.verifierId = some verifier
  enabled : verifier.descriptor.verifierId ∉ registry.disabled
  supports : verifier.descriptor.Supports claim

/-- An answer that the cascade takes: about the claim, under the verifier's name, and with the
checks performed where it passes. -/
structure Accepted (answer : Verifier × VerifierResult) : Prop where
  returned : answer.1.verify claim = .ok answer.2
  declared : Answers answer.1.descriptor claim answer.2
  checked : answer.2.status = .pass → answer.2.checks ≠ []

/-- The answers that pass. -/
def passing (answers : List (Verifier × VerifierResult)) : List (Verifier × VerifierResult) :=
  answers.filter fun answer => answer.2.status = .pass

/-- **The answers meet the policy.** -/
structure Meets (answers : List (Verifier × VerifierResult)) : Prop where
  passes : policy.requiredPasses ≤ (passing answers).length
  groups : policy.requiredIndependenceGroups ≤
    (((passing answers).map fun answer => answer.1.descriptor.independenceGroup).toFinset.card : Int)
  human : policy.requireHumanApproval = true →
    ∃ answer ∈ passing answers, answer.1.descriptor.requiresHumanApproval = true

/-- What the loop keeps of the answers so far and their cost. -/
structure Vouches (answers : List (Verifier × VerifierResult)) (totalCost : ℚ) : Prop where
  candidates : ∀ answer ∈ answers, Candidate registry claim answer.1
  accepted : ∀ answer ∈ answers, Accepted claim answer
  unfailed : policy.stopOnFailure = true → ∀ answer ∈ answers, answer.2.status ≠ .fail
  cost : totalCost = (answers.map fun answer => answer.1.descriptor.cost).sum
  affordable : ∀ maximum ∈ policy.maximumCost, totalCost ≤ maximum

/-- What a satisfied outcome rests on. -/
structure Vouched (outcome : CascadeResult) (answers : List (Verifier × VerifierResult)) : Prop where
  results : outcome.results = answers.map Prod.snd
  distinct : (answers.map fun answer => answer.1.descriptor.verifierId).Nodup
  vouches : Vouches registry claim policy answers outcome.totalCost
  meets : Meets policy answers

/-- **The law of the cascade.** -/
structure CascadeLaw : Prop where
  sound : ∀ outcome, runCascade registry claim policy = .ok outcome → outcome.satisfied = true →
    ∃ answers, Vouched registry claim policy outcome answers
  complete : policy.maximumCost = none → ∀ answers : List (Verifier × VerifierResult),
    answers ≠ [] → answers.map Prod.fst = registry.candidates claim →
    (∀ answer ∈ answers, Accepted claim answer ∧ answer.2.status ≠ .fail) →
    ∃ outcome, runCascade registry claim policy = .ok outcome ∧
      (outcome.satisfied = true ↔ Meets policy answers)

variable {registry claim policy}

/-! ### The candidates -/

theorem mem_candidates (keyed : registry.Keyed) {verifier : Verifier} :
    verifier ∈ registry.candidates claim ↔ Candidate registry claim verifier := by
  rw [VerifierRegistry.candidates, List.mem_filter, decide_eq_true_eq, mem_sortBy, Dict.mem_values]
  constructor
  · rintro ⟨⟨verifierId, stored⟩, enabled, supports⟩
    have same : verifier.descriptor.verifierId = verifierId := keyed verifierId verifier stored
    exact ⟨same ▸ stored, enabled, supports⟩
  · intro candidate
    exact ⟨⟨_, candidate.registered⟩, candidate.enabled, candidate.supports⟩

/-- The candidates declare different identifiers. -/
theorem candidates_nodup (keyed : registry.Keyed) :
    ((registry.candidates claim).map fun verifier => verifier.descriptor.verifierId).Nodup := by
  have declared : registry.verifiers.values.map (fun verifier => verifier.descriptor.verifierId) =
      registry.verifiers.keys := by
    rw [Dict.values, Dict.keys, List.map_map]
    refine List.map_congr_left fun entry member => ?_
    exact keyed entry.1 entry.2 (Dict.mem_entries.mp member)
  have all : (registry.verifiers.values.map fun verifier =>
      verifier.descriptor.verifierId).Nodup := by
    rw [declared]
    exact registry.verifiers.nodup
  have sorted := ((sortBy_perm (fun item : Verifier =>
    toLex (item.descriptor.cost, item.descriptor.verifierId)) registry.verifiers.values).map
      fun verifier => verifier.descriptor.verifierId).nodup_iff.mpr all
  exact sorted.sublist (List.filter_sublist.map _)

/-! ### The requirements -/

theorem passedResults_map (answers : List (Verifier × VerifierResult)) :
    passedResults (answers.map Prod.snd) = (passing answers).map Prod.snd := by
  rw [passedResults, passing, List.filter_map]
  rfl

/-- **Whether a human passed the claim.** -/
theorem humanPassed_eq {answers : List (Verifier × VerifierResult)}
    (registered : ∀ answer ∈ answers, registry.get answer.2.verifierId = some answer.1) :
    humanPassed registry (answers.map Prod.snd) =
      .ok (decide (∃ answer ∈ passing answers,
        answer.1.descriptor.requiresHumanApproval = true)) := by
  induction answers with
  | nil => rfl
  | cons answer rest ih =>
    have later := ih fun other member => registered other (List.mem_cons_of_mem _ member)
    rw [List.map_cons, humanPassed, registered answer List.mem_cons_self]
    by_cases passes : answer.2.status = .pass
    · have kept : passing (answer :: rest) = answer :: passing rest := by
        rw [passing, List.filter_cons_of_pos (by simpa using passes)]
        rfl
      rw [if_pos passes, kept]
      by_cases human : answer.1.descriptor.requiresHumanApproval = true
      · simp [human]
      · simp only [human, Bool.false_eq_true, if_false, List.mem_cons, exists_eq_or_imp, false_or]
        exact later
    · have dropped : passing (answer :: rest) = passing rest := by
        rw [passing, List.filter_cons_of_neg (by simpa using passes)]
        rfl
      rw [if_neg passes, dropped]
      exact later

theorem requirementsMet_iff {answers : List (Verifier × VerifierResult)}
    (accepted : ∀ answer ∈ answers, Accepted claim answer) :
    requirementsMet policy (answers.map Prod.snd) (decide (∃ answer ∈ passing answers,
        answer.1.descriptor.requiresHumanApproval = true)) ↔ Meets policy answers := by
  have groups : ((passing answers).map Prod.snd).map (fun item => item.independenceGroup) =
      (passing answers).map fun answer => answer.1.descriptor.independenceGroup := by
    rw [List.map_map]
    refine List.map_congr_left fun answer member => ?_
    exact (accepted answer (List.mem_filter.mp member).1).declared.2.2.2.2.2.2.2
  rw [requirementsMet, passedResults_map, groups, List.length_map, decide_eq_true_eq]
  constructor
  · rintro ⟨passes, groups, human⟩
    refine ⟨passes, groups, fun required => human.resolve_left ?_⟩
    rw [required]
    exact Bool.noConfusion
  · rintro ⟨passes, groups, human⟩
    refine ⟨passes, groups, ?_⟩
    cases required : policy.requireHumanApproval with
    | false => exact Or.inl rfl
    | true => exact Or.inr (human required)

/-- **More answers meet the policy where some do.** -/
theorem Meets.append {answers : List (Verifier × VerifierResult)} (meets : Meets policy answers)
    (later : List (Verifier × VerifierResult)) : Meets policy (answers ++ later) := by
  have more : passing (answers ++ later) = passing answers ++ passing later :=
    List.filter_append ..
  refine ⟨?_, ?_, fun required => ?_⟩
  · rw [more, List.length_append]
    exact meets.passes.trans (by omega)
  · rw [more]
    refine meets.groups.trans (Int.ofNat_le.mpr (Finset.card_le_card fun group member => ?_))
    rw [List.map_append, List.toFinset_append]
    exact Finset.mem_union_left _ member
  · obtain ⟨answer, member, human⟩ := meets.human required
    exact ⟨answer, more ▸ List.mem_append_left _ member, human⟩

/-- No answers meet no policy. -/
theorem not_meets_nil : ¬ Meets policy [] := by
  intro meets
  have valid := policy.valid
  rw [CascadePolicyData.violation, check_eq_none] at valid
  have passes := meets.passes
  simp only [passing, List.filter_nil, List.length_nil] at passes
  exact valid.1 (Or.inl passes)

/-! ### The loop -/

/-- **One more answer**, taken at its price. -/
theorem Vouches.concat {answers : List (Verifier × VerifierResult)} {totalCost : ℚ}
    (vouches : Vouches registry claim policy answers totalCost) {answer : Verifier × VerifierResult}
    (candidate : Candidate registry claim answer.1) (accepted : Accepted claim answer)
    (unfailed : ¬ (answer.2.status = .fail ∧ policy.stopOnFailure = true))
    (affordable : ¬ ∃ maximum ∈ policy.maximumCost,
      maximum < totalCost + answer.1.descriptor.cost) :
    Vouches registry claim policy (answers ++ [answer])
      (totalCost + answer.1.descriptor.cost) where
  candidates := by
    rw [List.forall_mem_append, List.forall_mem_singleton]
    exact ⟨vouches.candidates, candidate⟩
  accepted := by
    rw [List.forall_mem_append, List.forall_mem_singleton]
    exact ⟨vouches.accepted, accepted⟩
  unfailed stops := by
    rw [List.forall_mem_append, List.forall_mem_singleton]
    exact ⟨vouches.unfailed stops, fun failed => unfailed ⟨failed, stops⟩⟩
  cost := by
    rw [List.map_append, List.sum_append, ← vouches.cost, List.map_singleton, List.sum_singleton]
  affordable maximum limited := not_lt.mp fun exceeds => affordable ⟨maximum, limited, exceeds⟩

/-- The verifiers asked answer for what the registry stores. -/
theorem registered_of_accepted {answers : List (Verifier × VerifierResult)}
    (candidates : ∀ answer ∈ answers, Candidate registry claim answer.1)
    (accepted : ∀ answer ∈ answers, Accepted claim answer) :
    ∀ answer ∈ answers, registry.get answer.2.verifierId = some answer.1 := by
  intro answer member
  have named := (accepted answer member).declared.2.2.2.2.1
  rw [named]
  exact (candidates answer member).registered

/-- **A satisfied loop has answers that meet the policy.** -/
theorem cascadeLoop_sound {verifiers : List Verifier} {answers : List (Verifier × VerifierResult)}
    {totalCost : ℚ} (vouches : Vouches registry claim policy answers totalCost)
    (candidates : ∀ verifier ∈ verifiers, Candidate registry claim verifier)
    (distinct : (answers.map (fun answer => answer.1.descriptor.verifierId) ++
      verifiers.map fun verifier => verifier.descriptor.verifierId).Nodup)
    {outcome : CascadeResult}
    (returned : cascadeLoop registry claim policy verifiers (answers.map Prod.snd) totalCost =
      .ok outcome)
    (satisfied : outcome.satisfied = true) :
    ∃ answers, Vouched registry claim policy outcome answers := by
  induction verifiers generalizing answers totalCost with
  | nil =>
    rw [cascadeLoop, Except.ok.injEq] at returned
    rw [← returned] at satisfied
    cases satisfied
  | cons verifier rest ih =>
    obtain ⟨candidate, later⟩ := List.forall_mem_cons.mp candidates
    rw [cascadeLoop] at returned
    split_ifs at returned with expensive
    · -- the verifier is skipped
      refine ih vouches later (distinct.sublist ?_) returned
      exact List.Sublist.append_left (List.sublist_cons_self _ _) _
    · obtain ⟨result, answered, returned⟩ := bind_eq_ok.mp returned
      obtain ⟨declared, returned⟩ := guard_eq_ok.mp returned
      obtain ⟨checked, returned⟩ := guard_eq_ok.mp returned
      have accepted : Accepted claim (verifier, result) :=
        ⟨answered, not_not.mp declared, fun passes unchecked => checked ⟨passes, unchecked⟩⟩
      split_ifs at returned with failed
      · rw [Except.ok.injEq] at returned
        rw [← returned] at satisfied
        cases satisfied
      · have kept : Vouches registry claim policy (answers ++ [(verifier, result)])
            (totalCost + verifier.descriptor.cost) :=
          vouches.concat candidate accepted failed expensive
        have results : answers.map Prod.snd ++ [result] =
            (answers ++ [(verifier, result)]).map Prod.snd := by
          rw [List.map_append, List.map_singleton]
        have distinct : ((answers ++ [(verifier, result)]).map (fun answer =>
            answer.1.descriptor.verifierId) ++
            rest.map fun verifier => verifier.descriptor.verifierId).Nodup := by
          rw [List.map_append, List.append_assoc]
          exact distinct
        simp only [results, humanPassed_eq (registered_of_accepted kept.candidates kept.accepted)]
          at returned
        obtain ⟨human, same, returned⟩ := bind_eq_ok.mp returned
        rw [← Except.ok.inj same] at returned
        split_ifs at returned with enough
        · rw [Except.ok.injEq] at returned
          rw [← returned]
          exact ⟨answers ++ [(verifier, result)], rfl, (List.nodup_append.mp distinct).1, kept,
            (requirementsMet_iff kept.accepted).mp enough⟩
        · exact ih kept later distinct returned

/-- **Stopping early decides as all the answers would.** -/
theorem cascadeLoop_complete (unlimited : policy.maximumCost = none)
    {later answers : List (Verifier × VerifierResult)} (totalCost : ℚ)
    (candidates : ∀ answer ∈ answers ++ later, Candidate registry claim answer.1)
    (accepted : ∀ answer ∈ answers ++ later, Accepted claim answer)
    (unfailed : ∀ answer ∈ later, answer.2.status ≠ .fail) (unmet : ¬ Meets policy answers) :
    ∃ outcome, cascadeLoop registry claim policy (later.map Prod.fst) (answers.map Prod.snd)
        totalCost = .ok outcome ∧
      (outcome.satisfied = true ↔ Meets policy (answers ++ later)) := by
  induction later generalizing answers totalCost with
  | nil =>
    refine ⟨_, rfl, iff_of_false Bool.false_ne_true ?_⟩
    rwa [List.append_nil]
  | cons answer rest ih =>
    obtain ⟨verifier, result⟩ := answer
    obtain ⟨unfailed, others⟩ := List.forall_mem_cons.mp unfailed
    have split : answers ++ (verifier, result) :: rest = (answers ++ [(verifier, result)]) ++ rest := by
      rw [List.append_assoc, List.singleton_append]
    rw [split] at candidates accepted ⊢
    have accepted' := (List.forall_mem_append.mp accepted).1
    have this : Accepted claim (verifier, result) :=
      accepted' _ (List.mem_append_right _ (List.mem_singleton_self _))
    have free : ¬ ∃ maximum ∈ policy.maximumCost, maximum < totalCost + verifier.descriptor.cost := by
      rw [unlimited]
      rintro ⟨_, limited, -⟩
      cases limited
    have results : answers.map Prod.snd ++ [result] =
        (answers ++ [(verifier, result)]).map Prod.snd := by
      rw [List.map_append, List.map_singleton]
    have human := humanPassed_eq
      (registered_of_accepted (List.forall_mem_append.mp candidates).1 accepted')
    have met : requirementsMet policy _ _ ↔ Meets policy (answers ++ [(verifier, result)]) :=
      requirementsMet_iff accepted'
    have answered : verifier.verify claim = .ok result := this.returned
    rw [List.map_cons, cascadeLoop, if_neg free, answered]
    simp only [bind, Except.bind]
    rw [if_neg (not_not.mpr this.declared), if_neg fun both => this.checked both.1 both.2,
      if_neg fun both => unfailed both.1, results, human]
    dsimp only
    by_cases enough : Meets policy (answers ++ [(verifier, result)])
    · rw [if_pos (met.mpr enough)]
      exact ⟨_, rfl, iff_of_true rfl (enough.append rest)⟩
    · rw [if_neg fun reached => enough (met.mp reached)]
      exact ih _ candidates accepted others enough

/-- **The cascade decides by what its verifiers answer**, in every registry that calls lead to. -/
theorem cascadeLaw (calls : List VerifierCall) (claim : VerifierClaim) (policy : CascadePolicy) :
    CascadeLaw (run VerifierCall.step {} calls) claim policy where
  sound outcome returned satisfied := by
    have keyed := runCalls_keyed calls
    obtain ⟨-, returned⟩ := guard_eq_ok.mp returned
    have free : ∀ maximum ∈ policy.maximumCost, (0 : ℚ) ≤ maximum := by
      have valid := policy.valid
      rw [CascadePolicyData.violation, check_eq_none, check_eq_none] at valid
      exact fun maximum limited => not_lt.mp fun negative => valid.2.1 ⟨maximum, limited, negative⟩
    have start : Vouches (run VerifierCall.step {} calls) claim policy [] 0 :=
      ⟨List.forall_mem_nil _, List.forall_mem_nil _, fun _ => List.forall_mem_nil _, rfl, free⟩
    exact cascadeLoop_sound start (fun verifier member => (mem_candidates keyed).mp member)
      (candidates_nodup keyed) returned satisfied
  complete unlimited answers some asked accepted := by
    have keyed := runCalls_keyed calls
    have candidates : ∀ answer ∈ answers,
        Candidate (run VerifierCall.step {} calls) claim answer.1 := fun answer member =>
      (mem_candidates keyed).mp (asked ▸ List.mem_map_of_mem member)
    have found : ¬ (run VerifierCall.step {} calls).candidates claim = [] := by
      rw [← asked, List.map_eq_nil_iff]
      exact some
    rw [runCascade, if_neg found, ← asked]
    exact cascadeLoop_complete unlimited 0 candidates (fun answer member => (accepted answer member).1)
      (fun answer member => (accepted answer member).2) not_meets_nil

end Cascade

end Dnc.Assurance
