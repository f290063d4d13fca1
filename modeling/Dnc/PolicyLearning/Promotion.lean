/-
**Promotion over runs of the registry.**

`runSafe_iff`: after any list of calls on a new registry, at most one policy is ACTIVE; one that was
rolled back, or displaced by another activation, does not execute; and a policy that may execute was
admitted to canary on evidence recorded for it, which meets every threshold exactly if no number in
it is NaN: the promotion asks whether a threshold is missed, and of a NaN that is false.

Everything a call does is one case of `PolicyChange`. `History` is the invariant: the three
dictionaries, with the calls that made their entries. Evidence that is replaced after an admission
does not change it, since `AdmittedOn` speaks of the evidence stored at that call.
-/

import Dnc.Logic.Run
import Dnc.PolicyLearning.Registry

namespace Dnc.PolicyLearning

open PyLib Logic
open Cognition (RiskClass)

variable {R : Type} [FloatOps R]

/-- **Evidence that meets all the thresholds of a promotion.** -/
structure PromotionEvidence.MeetsThresholds (evidence : PromotionEvidence R) : Prop where
  sample : ((10 : Int) : R) ≤ evidence.estimate.effectiveSampleSize
  support : 0.8 ≤ evidence.estimate.supportedFraction
  estimated : IsNumber evidence.estimate.ips ∧ IsNumber evidence.estimate.selfNormalizedIps ∧
    IsNumber evidence.estimate.doublyRobust
  concordant : evidence.spread ≤ 0.1
  better : evidence.baselineValue < evidence.lowerConfidenceBound
  calibrated : evidence.calibrationError ≤ 0.05
  guarded : evidence.shadowGuardrailRegressions = 0

/-- No number that a promotion reads is NaN. -/
structure PromotionEvidence.Numeric (evidence : PromotionEvidence R) : Prop where
  sample : IsNumber evidence.estimate.effectiveSampleSize
  support : IsNumber evidence.estimate.supportedFraction
  estimated : IsNumber evidence.estimate.ips ∧ IsNumber evidence.estimate.selfNormalizedIps ∧
    IsNumber evidence.estimate.doublyRobust
  spread : IsNumber evidence.spread
  bound : IsNumber evidence.lowerConfidenceBound
  baseline : IsNumber evidence.baselineValue
  calibration : IsNumber evidence.calibrationError

/-- Evidence that a promotion accepts meets the thresholds as far as it has numbers for them. -/
theorem PromotionEvidence.meetsThresholds_iff {evidence : PromotionEvidence R}
    (accepted : ¬evidence.Insufficient) : evidence.MeetsThresholds ↔ evidence.Numeric := by
  unfold Insufficient at accepted
  simp only [not_or, ne_eq, not_not] at accepted
  obtain ⟨sample, support, concordant, better, calibrated, guarded⟩ := accepted
  have literal : ∀ mantissa sign exponent,
      IsNumber (OfScientific.ofScientific mantissa sign exponent : R) := FloatOps.scientific_le
  constructor
  · intro meets
    obtain ⟨-, isBound, isBaseline⟩ := exceeds_iff.mp meets.better
    exact ⟨(FloatOps.numbers meets.sample).2, (FloatOps.numbers meets.support).2, meets.estimated,
      (FloatOps.numbers meets.concordant).1, isBound, isBaseline,
      (FloatOps.numbers meets.calibrated).1⟩
  · intro numeric
    exact ⟨reaches_iff.mpr ⟨sample, numeric.sample, FloatOps.cast_le 10⟩,
      reaches_iff.mpr ⟨support, numeric.support, literal ..⟩, numeric.estimated,
      reaches_iff.mpr ⟨concordant, literal .., numeric.spread⟩,
      exceeds_iff.mpr ⟨better, numeric.bound, numeric.baseline⟩,
      reaches_iff.mpr ⟨calibrated, literal .., numeric.calibration⟩, guarded⟩

/-! ### Calls -/

/-- The calls on a registry, and the setting of its kill switch. -/
inductive PolicyCall (R : Type) where
  | register (policy : LearnedPolicyVersion R)
  | recordEvidence (evidence : PromotionEvidence R)
  | promoteCanary (fingerprint : String)
  | promoteActive (fingerprint : String)
  | rollback (fingerprint : String)
  | setKillSwitch (on : Bool)

namespace LearnedPolicyRegistry

/-- What a call returns. -/
def call (registry : LearnedPolicyRegistry R) :
    PolicyCall R → Except PyError (LearnedPolicyRegistry R)
  | .register policy => registry.register policy
  | .recordEvidence evidence => registry.recordEvidence evidence
  | .promoteCanary fingerprint => registry.promoteCanary fingerprint
  | .promoteActive fingerprint => registry.promoteActive fingerprint
  | .rollback fingerprint => registry.rollback fingerprint
  | .setKillSwitch on => .ok { registry with killSwitch := on }

/-- A call as a step: one that raises leaves the registry as it was. -/
def step (registry : LearnedPolicyRegistry R) (call : PolicyCall R) : LearnedPolicyRegistry R :=
  match registry.call call with
  | .ok next => next
  | .error _ => registry

/-- **What a call that returns has found, and what it has done.** -/
inductive PolicyChange (registry : LearnedPolicyRegistry R) :
    PolicyCall R → LearnedPolicyRegistry R → Prop
  | registered (policy : LearnedPolicyVersion R) (fresh : policy.fingerprint ∉ registry.policies) :
      PolicyChange registry (.register policy)
        { registry with
          policies := registry.policies.set policy.fingerprint policy
          lifecycle := registry.lifecycle.set policy.fingerprint .shadow }
  | recorded (evidence : PromotionEvidence R)
      (known : evidence.policyFingerprint ∈ registry.policies) :
      PolicyChange registry (.recordEvidence evidence)
        { registry with evidence := registry.evidence.set evidence.policyFingerprint evidence }
  | admitted (fingerprint : String) {evidence : PromotionEvidence R}
      (shadow : registry.lifecycle.get? fingerprint = some .shadow)
      (stored : registry.evidence.get? fingerprint = some evidence)
      (accepted : ¬evidence.Insufficient) :
      PolicyChange registry (.promoteCanary fingerprint)
        { registry with lifecycle := registry.lifecycle.set fingerprint .canary }
  | activated (fingerprint : String)
      (canary : registry.lifecycle.get? fingerprint = some .canary) :
      PolicyChange registry (.promoteActive fingerprint)
        { registry with
          lifecycle := (registry.lifecycle.mapValues displaced).set fingerprint .active }
  | rolledBack (fingerprint : String) (known : fingerprint ∈ registry.policies) :
      PolicyChange registry (.rollback fingerprint)
        { registry with lifecycle := registry.lifecycle.set fingerprint .rolledBack }
  | switched (on : Bool) :
      PolicyChange registry (.setKillSwitch on) { registry with killSwitch := on }

theorem change_of_call {registry next : LearnedPolicyRegistry R} {call : PolicyCall R}
    (returned : registry.call call = .ok next) : PolicyChange registry call next := by
  cases call with
  | register policy =>
    change registry.register policy = _ at returned
    unfold register at returned
    split_ifs at returned with old
    cases returned
    exact .registered policy old
  | recordEvidence evidence =>
    change registry.recordEvidence evidence = _ at returned
    unfold recordEvidence at returned
    split_ifs at returned with known
    cases returned
    exact .recorded evidence known
  | promoteCanary fingerprint =>
    obtain ⟨evidence, shadow, stored, enough, rfl⟩ := promoteCanary_eq_ok returned
    exact .admitted fingerprint shadow stored enough
  | promoteActive fingerprint =>
    obtain ⟨canary, rfl⟩ := promoteActive_eq_ok returned
    exact .activated fingerprint canary
  | rollback fingerprint =>
    change registry.rollback fingerprint = _ at returned
    unfold rollback at returned
    split_ifs at returned with known
    cases returned
    exact .rolledBack fingerprint known
  | setKillSwitch on =>
    cases returned
    exact .switched on

end LearnedPolicyRegistry

open LearnedPolicyRegistry (step displaced)

/-! ### The invariant -/

/-- The registry after the calls. -/
def registryAfter (calls : List (PolicyCall R)) : LearnedPolicyRegistry R := run step {} calls

theorem registryAfter_concat (calls : List (PolicyCall R)) (call : PolicyCall R) :
    registryAfter (calls ++ [call]) = (registryAfter calls).step call :=
  run_append step {} calls [call]

/-- One of the calls recorded the evidence. -/
def Recorded (calls : List (PolicyCall R)) (evidence : PromotionEvidence R) : Prop :=
  ∃ before after next, calls = before ++ .recordEvidence evidence :: after ∧
    (registryAfter before).recordEvidence evidence = .ok next

/-- One of the calls admitted the policy to canary, on this evidence that was recorded for it. -/
def AdmittedOn (calls : List (PolicyCall R)) (fingerprint : String)
    (evidence : PromotionEvidence R) : Prop :=
  ∃ before after next, calls = before ++ .promoteCanary fingerprint :: after ∧
    (registryAfter before).promoteCanary fingerprint = .ok next ∧
    (registryAfter before).evidence.get? fingerprint = some evidence ∧
    evidence.policyFingerprint = fingerprint ∧ Recorded before evidence

theorem Recorded.append {calls : List (PolicyCall R)} {evidence : PromotionEvidence R}
    (recorded : Recorded calls evidence) (more : List (PolicyCall R)) :
    Recorded (calls ++ more) evidence := by
  obtain ⟨before, after, next, rfl, returned⟩ := recorded
  exact ⟨before, after ++ more, next, by rw [List.append_assoc, List.cons_append], returned⟩

theorem AdmittedOn.append {calls : List (PolicyCall R)} {fingerprint : String}
    {evidence : PromotionEvidence R} (admitted : AdmittedOn calls fingerprint evidence)
    (more : List (PolicyCall R)) : AdmittedOn (calls ++ more) fingerprint evidence := by
  obtain ⟨before, after, next, rfl, rest⟩ := admitted
  exact ⟨before, after ++ more, next, by rw [List.append_assoc, List.cons_append], rest⟩

/-- What a policy was admitted on, the promotion accepted. -/
theorem AdmittedOn.accepted {calls : List (PolicyCall R)} {fingerprint : String}
    {evidence : PromotionEvidence R} (admitted : AdmittedOn calls fingerprint evidence) :
    ¬evidence.Insufficient := by
  obtain ⟨before, after, next, -, returned, stored, -⟩ := admitted
  obtain ⟨other, -, isStored, accepted, -⟩ := LearnedPolicyRegistry.promoteCanary_eq_ok returned
  exact Option.some.inj (isStored.symm.trans stored) ▸ accepted

/-- **The dictionaries and the calls that made them.** -/
structure History (calls : List (PolicyCall R)) (registry : LearnedPolicyRegistry R) : Prop where
  known : ∀ fingerprint stage, registry.lifecycle.get? fingerprint = some stage →
    fingerprint ∈ registry.policies
  filed : ∀ fingerprint evidence, registry.evidence.get? fingerprint = some evidence →
    evidence.policyFingerprint = fingerprint ∧ Recorded calls evidence
  admitted : ∀ fingerprint stage, registry.lifecycle.get? fingerprint = some stage →
    stage = .canary ∨ stage = .active → ∃ evidence, AdmittedOn calls fingerprint evidence
  unique : ∀ first second, registry.lifecycle.get? first = some .active →
    registry.lifecycle.get? second = some .active → first = second

theorem history_new : History ([] : List (PolicyCall R)) {} where
  known _ _ found := nomatch found
  filed _ _ found := nomatch found
  admitted _ _ found := nomatch found
  unique _ _ found := nomatch found

/-- After an activation only the new policy is ACTIVE. -/
theorem active_of_activated {lifecycle : Dict String PolicyLifecycle} {fingerprint other : String}
    (active : ((lifecycle.mapValues displaced).set fingerprint .active).get? other = some .active) :
    other = fingerprint := by
  rw [Dict.get?_set] at active
  split_ifs at active with same
  · exact same
  · rw [Dict.get?_mapValues] at active
    obtain ⟨stage, -, moved⟩ := Option.map_eq_some_iff.mp active
    cases stage <;> cases moved

namespace History

variable {calls : List (PolicyCall R)} {registry : LearnedPolicyRegistry R}

theorem append (history : History calls registry) (more : List (PolicyCall R)) :
    History (calls ++ more) registry where
  known := history.known
  filed fingerprint evidence found :=
    ⟨(history.filed fingerprint evidence found).1,
      (history.filed fingerprint evidence found).2.append more⟩
  admitted fingerprint stage found enabled :=
    (history.admitted fingerprint stage found enabled).imp fun _ admitted => admitted.append more
  unique := history.unique

/-- A stage other than ACTIVE is entered. -/
theorem setLifecycle (history : History calls registry) {fingerprint : String}
    {stage : PolicyLifecycle} (isKnown : fingerprint ∈ registry.policies)
    (inactive : stage ≠ .active)
    (backed : stage = .canary → ∃ evidence, AdmittedOn calls fingerprint evidence) :
    History calls { registry with lifecycle := registry.lifecycle.set fingerprint stage } where
  known other later found := by
    change (registry.lifecycle.set fingerprint stage).get? other = some later at found
    rw [Dict.get?_set] at found
    split_ifs at found with same
    · exact same ▸ isKnown
    · exact history.known other later found
  filed := history.filed
  admitted other later found enabled := by
    change (registry.lifecycle.set fingerprint stage).get? other = some later at found
    rw [Dict.get?_set] at found
    split_ifs at found with same
    · cases found
      exact same ▸ backed (enabled.resolve_right inactive)
    · exact history.admitted other later found enabled
  unique first second isFirst isSecond := by
    change (registry.lifecycle.set fingerprint stage).get? first = some .active at isFirst
    change (registry.lifecycle.set fingerprint stage).get? second = some .active at isSecond
    rw [Dict.get?_set] at isFirst isSecond
    split_ifs at isFirst with here
    · exact absurd (Option.some.inj isFirst) inactive
    split_ifs at isSecond with there
    · exact absurd (Option.some.inj isSecond) inactive
    exact history.unique first second isFirst isSecond

/-- The policies that the registry knows only grow. -/
theorem addPolicy (history : History calls registry) (policy : LearnedPolicyVersion R) :
    History calls
      { registry with policies := registry.policies.set policy.fingerprint policy } where
  known _ _ found := Dict.mem_set.mpr (Or.inr (history.known _ _ found))
  filed := history.filed
  admitted := history.admitted
  unique := history.unique

theorem fileEvidence (history : History calls registry) {evidence : PromotionEvidence R}
    (recorded : Recorded calls evidence) :
    History calls
      { registry with
        evidence := registry.evidence.set evidence.policyFingerprint evidence } where
  known := history.known
  filed fingerprint other found := by
    change (registry.evidence.set evidence.policyFingerprint evidence).get? fingerprint =
      some other at found
    rw [Dict.get?_set] at found
    split_ifs at found with same
    · cases found
      exact ⟨same.symm, recorded⟩
    · exact history.filed fingerprint other found
  admitted := history.admitted
  unique := history.unique

/-- A canary policy becomes the one that is ACTIVE. -/
theorem activate (history : History calls registry) {fingerprint : String}
    (canary : registry.lifecycle.get? fingerprint = some .canary) :
    History calls
      { registry with
        lifecycle := (registry.lifecycle.mapValues displaced).set fingerprint .active } where
  known other stage found := by
    change ((registry.lifecycle.mapValues displaced).set fingerprint .active).get? other =
      some stage at found
    rw [Dict.get?_set] at found
    split_ifs at found with same
    · exact same ▸ history.known fingerprint .canary canary
    · rw [Dict.get?_mapValues] at found
      obtain ⟨earlier, was, -⟩ := Option.map_eq_some_iff.mp found
      exact history.known other earlier was
  filed := history.filed
  admitted other stage found enabled := by
    change ((registry.lifecycle.mapValues displaced).set fingerprint .active).get? other =
      some stage at found
    rw [Dict.get?_set] at found
    split_ifs at found with same
    · exact same ▸ history.admitted fingerprint .canary canary (Or.inl rfl)
    · rw [Dict.get?_mapValues] at found
      obtain ⟨earlier, was, rfl⟩ := Option.map_eq_some_iff.mp found
      cases earlier with
      | canary => exact history.admitted other .canary was (Or.inl rfl)
      | shadow | active | rolledBack => exact enabled.elim nofun nofun
  unique first second isFirst isSecond :=
    (active_of_activated isFirst).trans (active_of_activated isSecond).symm

/-- One more call. -/
theorem concat (history : History calls (registryAfter calls)) (call : PolicyCall R) :
    History (calls ++ [call]) ((registryAfter calls).step call) := by
  unfold LearnedPolicyRegistry.step
  cases returned : (registryAfter calls).call call with
  | error error => exact history.append [call]
  | ok next =>
    have extended := history.append [call]
    cases LearnedPolicyRegistry.change_of_call returned with
    | registered policy fresh =>
      exact (extended.addPolicy policy).setLifecycle (Dict.mem_set.mpr (Or.inl rfl)) nofun nofun
    | recorded evidence known =>
      exact extended.fileEvidence ⟨calls, [], _, rfl, returned⟩
    | @admitted fingerprint evidence shadow stored =>
      refine extended.setLifecycle (extended.known _ _ shadow) nofun fun _ => ?_
      obtain ⟨own, recorded⟩ := history.filed fingerprint evidence stored
      exact ⟨evidence, calls, [], _, rfl, returned, stored, own, recorded⟩
    | activated fingerprint canary => exact extended.activate canary
    | rolledBack fingerprint known => exact extended.setLifecycle known nofun nofun
    | switched on => exact ⟨extended.known, extended.filed, extended.admitted, extended.unique⟩

end History

theorem history_registryAfter (calls : List (PolicyCall R)) :
    History calls (registryAfter calls) :=
  run_along (P := History) history_new (fun _ call history => history.concat call) calls

/-! ### Withdrawal -/

/-- The call takes the policy out of service: a rollback of it, or the activation of another policy
while it is ACTIVE. -/
def Withdraws (registry : LearnedPolicyRegistry R) (fingerprint : String) : PolicyCall R → Prop
  | .rollback target => target = fingerprint ∧ ∃ next, registry.rollback target = .ok next
  | .promoteActive target => target ≠ fingerprint ∧
      registry.lifecycle.get? fingerprint = some .active ∧
      ∃ next, registry.promoteActive target = .ok next
  | _ => False

namespace LearnedPolicyRegistry

variable {registry next : LearnedPolicyRegistry R} {call : PolicyCall R} {fingerprint : String}

theorem step_of_ok (returned : registry.call call = .ok next) : registry.step call = next := by
  unfold step
  rw [returned]

theorem rolledBack_of_withdraws (withdraws : Withdraws registry fingerprint call) :
    (registry.step call).lifecycle.get? fingerprint = some .rolledBack := by
  cases call with
  | rollback target =>
    obtain ⟨rfl, next, returned⟩ := withdraws
    have accepted : registry.call (.rollback target) = .ok next := returned
    rw [step_of_ok accepted]
    unfold rollback at returned
    split_ifs at returned
    cases returned
    exact Dict.get?_set_self _ _ _
  | promoteActive target =>
    obtain ⟨other, active, next, returned⟩ := withdraws
    have accepted : registry.call (.promoteActive target) = .ok next := returned
    rw [step_of_ok accepted]
    obtain ⟨-, rfl⟩ := promoteActive_eq_ok returned
    change ((registry.lifecycle.mapValues displaced).set target .active).get? fingerprint = _
    rw [Dict.get?_set_of_ne _ (Ne.symm other), Dict.get?_mapValues, active]
    rfl
  | register _ | recordEvidence _ | promoteCanary _ | setKillSwitch _ => exact withdraws.elim

/-- **ROLLED_BACK is final**: a canary promotion asks for SHADOW, an activation for CANARY, and a
registration for a fingerprint without a policy. -/
theorem rolledBack_step (known : fingerprint ∈ registry.policies)
    (rolledBack : registry.lifecycle.get? fingerprint = some .rolledBack) (call : PolicyCall R) :
    (registry.step call).lifecycle.get? fingerprint = some .rolledBack := by
  unfold step
  cases returned : registry.call call with
  | error error => exact rolledBack
  | ok next =>
    cases change_of_call returned with
    | registered policy fresh =>
      have other : fingerprint ≠ policy.fingerprint := fun same => fresh (same ▸ known)
      exact (Dict.get?_set_of_ne _ other _).trans rolledBack
    | recorded | switched => exact rolledBack
    | admitted target shadow =>
      have other : fingerprint ≠ target := by
        rintro rfl
        cases rolledBack.symm.trans shadow
      exact (Dict.get?_set_of_ne _ other _).trans rolledBack
    | activated target canary =>
      have other : fingerprint ≠ target := by
        rintro rfl
        cases rolledBack.symm.trans canary
      change ((registry.lifecycle.mapValues displaced).set target .active).get? fingerprint = _
      rw [Dict.get?_set_of_ne _ other, Dict.get?_mapValues, rolledBack]
      rfl
    | rolledBack target =>
      change (registry.lifecycle.set target .rolledBack).get? fingerprint = _
      rw [Dict.get?_set]
      split_ifs
      · rfl
      · exact rolledBack

end LearnedPolicyRegistry

/-- What the registry promises after a run: one ACTIVE policy at most, no execution without an
admission on evidence that meets the thresholds if it has numbers for them, and none after a
withdrawal. -/
structure RunSafe (calls : List (PolicyCall R)) : Prop where
  unique : ∀ first second, (registryAfter calls).lifecycle.get? first = some .active →
    (registryAfter calls).lifecycle.get? second = some .active → first = second
  admitted : ∀ fingerprint riskClass,
    (registryAfter calls).canExecute fingerprint riskClass = true →
      ∃ evidence, AdmittedOn calls fingerprint evidence
  meets : ∀ fingerprint evidence, AdmittedOn calls fingerprint evidence →
    (evidence.MeetsThresholds ↔ evidence.Numeric)
  withdrawn : ∀ entry ∈ trace step {} calls, ∀ fingerprint,
    Withdraws entry.1 fingerprint entry.2 →
      ∀ riskClass, (registryAfter calls).canExecute fingerprint riskClass = false

/-- **Every run of the registry is safe**, as far as NaN lets it. -/
theorem runSafe_iff (calls : List (PolicyCall R)) : RunSafe calls := by
  have history := history_registryAfter calls
  refine ⟨history.unique, fun fingerprint riskClass executes => ?_, fun fingerprint evidence on =>
    PromotionEvidence.meetsThresholds_iff on.accepted, ?_⟩
  · unfold LearnedPolicyRegistry.canExecute at executes
    simp only [Bool.and_eq_true, Bool.or_eq_true, decide_eq_true_eq] at executes
    rcases executes.2 with canary | active
    · exact history.admitted fingerprint .canary canary (Or.inl rfl)
    · exact history.admitted fingerprint .active active (Or.inr rfl)
  · intro entry member fingerprint withdraws riskClass
    have final : (registryAfter calls).lifecycle.get? fingerprint = some .rolledBack := by
      refine run_remembers (P := fun registry => ∃ before, registry = registryAfter before)
        (Q := fun registry => registry.lifecycle.get? fingerprint = some .rolledBack) member
        ⟨[], rfl⟩ ?_ (fun _ => LearnedPolicyRegistry.rolledBack_of_withdraws withdraws) ?_
      · rintro _ call ⟨before, rfl⟩
        exact ⟨before ++ [call], (registryAfter_concat before call).symm⟩
      · rintro _ call ⟨before, rfl⟩ rolledBack
        have known := (history_registryAfter before).known fingerprint .rolledBack rolledBack
        exact LearnedPolicyRegistry.rolledBack_step known rolledBack call
    unfold LearnedPolicyRegistry.canExecute
    rw [final]
    simp

/-! ### Promoted policies -/

namespace Sample

def policy : LearnedPolicyVersion (WithNaN ℚ) where
  policyId := "routing"
  version := "1"
  trainingDataHash := "data"
  modelHash := "model"
  maximumRisk := .number 1
  maximumCost := .number 1
  explorationEpsilon := .number 0
  fingerprint := "f1"

/-- Evidence from a sample of the size. -/
def evidence (effectiveSampleSize : WithNaN ℚ) : PromotionEvidence (WithNaN ℚ) where
  evidenceId := "replay"
  policyFingerprint := "f1"
  estimate := ⟨.number 1, .number 1, .number 1, effectiveSampleSize, .number 1,
    (.number 0, .number 1)⟩
  baselineValue := .number 0
  calibrationError := .number 0
  shadowGuardrailRegressions := 0
  lowerConfidenceBound := .number 1

/-- The policy is admitted on the evidence. -/
def admission (effectiveSampleSize : WithNaN ℚ) : List (PolicyCall (WithNaN ℚ)) :=
  [.register policy, .recordEvidence (evidence effectiveSampleSize), .promoteCanary "f1"]

end Sample

example : (registryAfter (Sample.admission (.number 20) ++ [.promoteActive "f1"])).canExecute
    "f1" .low = true := by
  decide +kernel

/-- A policy executes on evidence whose sample size is NaN. -/
theorem nan_executes : (registryAfter (Sample.admission .nan)).canExecute "f1" .low = true ∧
    ¬∃ evidence, AdmittedOn (Sample.admission .nan) "f1" evidence ∧ evidence.MeetsThresholds := by
  refine ⟨by decide +kernel, ?_⟩
  rintro ⟨evidence, ⟨before, after, next, split, -, -, -, recorded⟩, meets⟩
  obtain ⟨earlier, later, _, rfl, -⟩ := recorded
  have member : PolicyCall.recordEvidence evidence ∈ Sample.admission .nan := by
    rw [split]
    simp
  simp only [Sample.admission, List.mem_cons, reduceCtorEq, PolicyCall.recordEvidence.injEq,
    List.not_mem_nil, or_false, false_or] at member
  have sample := meets.sample
  rw [member] at sample
  exact sample

end Dnc.PolicyLearning
