/-
**Calibration is never revived.**

Runs of the calibration registry, interleaved with registrations of capability cards whose change
listener is `handle_model_change`.

`neverRevived`: an artifact that was SHIFTED or INVALIDATED is never applicable again; and after a
card changed its fingerprint from `f`, no artifact that was registered before with the capability
fingerprint `f` is.

Both follow from what one call does to one stored artifact (`stored_step`): it stays under its
identifier with its key, and a status that is withdrawn stays withdrawn. A registration under a used
identifier has to be equal to what is stored, so it brings no other status.
-/

import Dnc.Assurance.Calibration
import Dnc.Logic.Run

namespace Dnc.Assurance

open PyLib Logic
open Capabilities (CapabilityCard CapabilityRegistry ModelChangeEvent)

variable {R : Type} {env : CalibrationEnv R}

/-- The statuses that calibration never leaves. -/
def Withdrawn (status : CalibrationStatus) : Prop := status = .shifted ∨ status = .invalidated

/-! ### One artifact -/

/-- What may become of a stored artifact: it keeps its key, and stays withdrawn. -/
structure Succeeds (earlier later : CalibrationArtifact env) : Prop where
  key : later.key = earlier.key
  withdrawn : Withdrawn earlier.status → Withdrawn later.status

theorem Succeeds.refl (artifact : CalibrationArtifact env) : Succeeds artifact artifact := ⟨rfl, id⟩

theorem succeeds_invalidate (artifact : CalibrationArtifact env) (reason : String) :
    Succeeds artifact (artifact.invalidate reason) := ⟨rfl, fun _ => Or.inr rfl⟩

theorem succeeds_shift (artifact : CalibrationArtifact env) (score : R) (reason : String) :
    Succeeds artifact (artifact.shift score reason) := ⟨rfl, fun _ => Or.inl rfl⟩

theorem succeeds_withScore (artifact : CalibrationArtifact env) (score : R) :
    Succeeds artifact (artifact.withScore score) := ⟨rfl, id⟩

theorem succeeds_of_equal {earlier later : CalibrationArtifact env}
    (same : earlier.Equal later.toCalibrationArtifactData) : Succeeds earlier later :=
  ⟨same.key.symm, fun withdrawn => same.status ▸ withdrawn⟩

theorem AssuranceCalibrationRegistry.stored_unique {registry : AssuranceCalibrationRegistry env}
    {artifactId target : String} {artifact other : CalibrationArtifact env}
    (found : registry.artifacts.get? artifactId = some artifact)
    (stored : registry.artifacts.get? target = some other) (same : other.artifactId = artifactId) :
    artifact = other := by
  rw [← same, registry.keyed target other stored, stored] at found
  exact (Option.some.inj found).symm

/-! ### The calls -/

variable [PyFloat R]

/-- The calibration registry, and the capability registry that it listens to. -/
structure CalibrationSystem (env : CalibrationEnv R) where
  calibration : AssuranceCalibrationRegistry env := {}
  capabilities : CapabilityRegistry R := {}

/-- The calls. -/
inductive CalibrationCall (env : CalibrationEnv R) where
  | register (artifact : CalibrationArtifact env)
  | invalidateFingerprint (fingerprint reason : String)
  | markShifted (artifactId : String) (score : R) (reason : String)
  | assessShift (artifactId : String) (reference observed : List R) (threshold : R)
  | registerCard (card : CapabilityCard R)

namespace CalibrationSystem

/-- What a call leaves of the calibration registry. -/
def calibrate (system : CalibrationSystem env) :
    CalibrationCall env → Except PyError (AssuranceCalibrationRegistry env)
  | .register artifact => system.calibration.register artifact
  | .invalidateFingerprint fingerprint reason =>
    .ok (system.calibration.invalidateFingerprint fingerprint reason)
  | .markShifted artifactId score reason => system.calibration.markShifted artifactId score reason
  | .assessShift artifactId reference observed threshold =>
    system.calibration.assessShift artifactId reference observed threshold
  | .registerCard card => .ok (system.calibration.listen (system.capabilities.register card).2)

/-- A call as a step: one that raises leaves both registries as they were. -/
def step (system : CalibrationSystem env) (call : CalibrationCall env) : CalibrationSystem env where
  calibration :=
    match system.calibrate call with
    | .ok registry => registry
    | .error _ => system.calibration
  capabilities :=
    match call with
    | .registerCard card => (system.capabilities.register card).1
    | _ => system.capabilities

/-- The artifact stored under an identifier. -/
def stored? (system : CalibrationSystem env) (artifactId : String) :
    Option (CalibrationArtifact env) :=
  system.calibration.artifacts.get? artifactId

end CalibrationSystem

open CalibrationSystem (step)

/-! ### One call -/

namespace AssuranceCalibrationRegistry

variable {registry next : AssuranceCalibrationRegistry env} {artifactId : String}
  {artifact : CalibrationArtifact env}

/-- Storing a successor under an identifier. -/
theorem succeeds_store {other : CalibrationArtifact env}
    (found : registry.artifacts.get? artifactId = some artifact)
    (succeeds : other.artifactId = artifactId → Succeeds artifact other) :
    ∃ later, (registry.store other).artifacts.get? artifactId = some later ∧
      Succeeds artifact later := by
  change ∃ later, (registry.artifacts.set other.artifactId other).get? artifactId = some later ∧ _
  rw [Dict.get?_set]
  split_ifs with same
  · exact ⟨other, rfl, succeeds same.symm⟩
  · exact ⟨artifact, found, .refl artifact⟩

theorem succeeds_register {other : CalibrationArtifact env}
    (found : registry.artifacts.get? artifactId = some artifact)
    (returned : registry.register other = .ok next) :
    ∃ later, next.artifacts.get? artifactId = some later ∧ Succeeds artifact later := by
  unfold register at returned
  obtain ⟨-, stored⟩ := guard_eq_ok.mp returned
  generalize (if other.contentHash = "" then other.withHash else other) = hashed at stored
  unfold storeEqual at stored
  cases existing : registry.artifacts.get? hashed.artifactId with
  | none =>
    rw [existing] at stored
    cases stored
    refine succeeds_store found fun same => ?_
    rw [same, found] at existing
    cases existing
  | some previous =>
    rw [existing] at stored
    dsimp only at stored
    split_ifs at stored with equal
    cases stored
    refine succeeds_store found fun same => ?_
    rw [same, found] at existing
    cases existing
    exact succeeds_of_equal equal

theorem succeeds_invalidateFingerprint
    (found : registry.artifacts.get? artifactId = some artifact) (fingerprint reason : String) :
    ∃ later, (registry.invalidateFingerprint fingerprint reason).artifacts.get? artifactId =
        some later ∧ Succeeds artifact later ∧
      (fingerprint ∈ artifact.fingerprints → Withdrawn later.status) := by
  refine ⟨artifact.invalidateOn fingerprint reason,
    (Dict.get?_mapValues _ _ _).trans (congrArg _ found), ?_, fun listed => ?_⟩
  · unfold CalibrationArtifact.invalidateOn
    split_ifs
    · exact succeeds_invalidate artifact reason
    · exact .refl artifact
  · rw [CalibrationArtifact.invalidateOn, if_pos listed]
    exact Or.inr rfl

theorem succeeds_markShifted {target : String} {score : R} {reason : String}
    (found : registry.artifacts.get? artifactId = some artifact)
    (returned : registry.markShifted target score reason = .ok next) :
    ∃ later, next.artifacts.get? artifactId = some later ∧ Succeeds artifact later := by
  unfold markShifted at returned
  cases stored : registry.artifacts.get? target with
  | none =>
    rw [stored] at returned
    cases returned
  | some other =>
    rw [stored] at returned
    cases returned
    refine succeeds_store found fun same => ?_
    obtain rfl := stored_unique found stored same
    exact succeeds_shift artifact score reason

theorem succeeds_assessShift {target : String} {reference observed : List R} {threshold : R}
    (found : registry.artifacts.get? artifactId = some artifact)
    (returned : registry.assessShift target reference observed threshold = .ok next) :
    ∃ later, next.artifacts.get? artifactId = some later ∧ Succeeds artifact later := by
  unfold assessShift at returned
  split_ifs at returned
  obtain ⟨score, -, assessed⟩ := bind_eq_ok.mp returned
  cases stored : registry.artifacts.get? target with
  | none =>
    rw [stored] at assessed
    cases assessed
  | some other =>
    rw [stored] at assessed
    dsimp only at assessed
    split_ifs at assessed
    · exact succeeds_markShifted found assessed
    · cases assessed
      refine succeeds_store found fun same => ?_
      obtain rfl := stored_unique found stored same
      exact succeeds_withScore artifact score

/-- A model change invalidates what was calibrated for the previous fingerprint. -/
theorem succeeds_handleModelChange (event : ModelChangeEvent)
    (found : registry.artifacts.get? artifactId = some artifact) :
    ∃ later, (registry.handleModelChange event).artifacts.get? artifactId = some later ∧
      Succeeds artifact later ∧
      (artifact.key.capabilityFingerprint = event.previousFingerprint →
        Withdrawn later.status) := by
  unfold handleModelChange
  split_ifs with unknown
  · refine ⟨artifact, found, .refl artifact, fun same => ?_⟩
    exact absurd (same.trans unknown) artifact.key.capabilityFingerprint_ne
  · obtain ⟨later, stored, succeeds, invalidated⟩ :=
      succeeds_invalidateFingerprint found event.previousFingerprint
        "provider/model fingerprint changed"
    exact ⟨later, stored, succeeds, fun same => invalidated (same ▸ List.mem_cons_self)⟩

end AssuranceCalibrationRegistry

/-! ### Runs -/

variable {system : CalibrationSystem env} {artifactId : String} {artifact : CalibrationArtifact env}

/-- **What a call does to a stored artifact.** -/
theorem stored_step (found : system.stored? artifactId = some artifact)
    (call : CalibrationCall env) :
    ∃ later, (step system call).stored? artifactId = some later ∧ Succeeds artifact later := by
  unfold CalibrationSystem.stored? CalibrationSystem.step
  cases returned : system.calibrate call with
  | error error => exact ⟨artifact, found, .refl artifact⟩
  | ok registry =>
    cases call with
    | register other => exact AssuranceCalibrationRegistry.succeeds_register found returned
    | invalidateFingerprint fingerprint reason =>
      cases returned
      obtain ⟨later, stored, succeeds, -⟩ :=
        AssuranceCalibrationRegistry.succeeds_invalidateFingerprint found fingerprint reason
      exact ⟨later, stored, succeeds⟩
    | markShifted target score reason =>
      exact AssuranceCalibrationRegistry.succeeds_markShifted found returned
    | assessShift target reference observed threshold =>
      exact AssuranceCalibrationRegistry.succeeds_assessShift found returned
    | registerCard card =>
      cases returned
      show ∃ later, (system.calibration.listen _).artifacts.get? artifactId = some later ∧ _
      cases (system.capabilities.register card).2 with
      | none => exact ⟨artifact, found, .refl artifact⟩
      | some event =>
        obtain ⟨later, stored, succeeds, -⟩ :=
          AssuranceCalibrationRegistry.succeeds_handleModelChange event found
        exact ⟨later, stored, succeeds⟩

theorem stored_run (found : system.stored? artifactId = some artifact)
    (calls : List (CalibrationCall env)) :
    ∃ later, (run step system calls).stored? artifactId = some later ∧ Succeeds artifact later := by
  refine run_invariant (P := fun reached : CalibrationSystem env =>
    ∃ later, reached.stored? artifactId = some later ∧ Succeeds artifact later) ?_
    ⟨artifact, found, .refl artifact⟩ calls
  rintro reached call ⟨between, stored, succeeds⟩
  obtain ⟨later, isLater, next⟩ := stored_step stored call
  exact ⟨later, isLater, next.key.trans succeeds.key, fun withdrawn =>
    next.withdrawn (succeeds.withdrawn withdrawn)⟩

/-- A registration that returns stores the artifact, with its key. -/
theorem stored_register {registry : AssuranceCalibrationRegistry env}
    (returned : system.calibration.register artifact = .ok registry) :
    ∃ stored, (step system (.register artifact)).stored? artifact.artifactId = some stored ∧
      stored.key = artifact.key := by
  have called : system.calibrate (.register artifact) = .ok registry := returned
  have after : (step system (.register artifact)).stored? artifact.artifactId =
      registry.artifacts.get? artifact.artifactId := by
    unfold CalibrationSystem.stored? CalibrationSystem.step
    rw [called]
  obtain ⟨-, stored⟩ := guard_eq_ok.mp returned
  have unchanged : (if artifact.contentHash = "" then artifact.withHash else artifact).artifactId =
      artifact.artifactId ∧
      (if artifact.contentHash = "" then artifact.withHash else artifact).key = artifact.key := by
    split_ifs <;> exact ⟨rfl, rfl⟩
  generalize (if artifact.contentHash = "" then artifact.withHash else artifact) = hashed
    at stored unchanged
  refine ⟨hashed, ?_, unchanged.2⟩
  rw [after, AssuranceCalibrationRegistry.storeEqual_eq_ok stored, ← unchanged.1]
  exact Dict.get?_set_self _ _ _

/-- The change of a card withdraws what was calibrated for its previous fingerprint. -/
theorem withdrawn_of_change {card previous : CapabilityCard R}
    (registered : system.capabilities.get card.capabilityId = some previous)
    (changed : previous.fingerprint ≠ card.fingerprint)
    (found : system.stored? artifactId = some artifact)
    (calibrated : artifact.key.capabilityFingerprint = previous.fingerprint) :
    ∃ later, (step system (.registerCard card)).stored? artifactId = some later ∧
      Withdrawn later.status := by
  have event : (system.capabilities.register card).2 =
      some ⟨card.capabilityId, previous.fingerprint, card.fingerprint⟩ := by
    unfold CapabilityRegistry.register
    rw [registered]
    dsimp only
    rw [if_pos changed]
  obtain ⟨later, stored, -, withdrawn⟩ := AssuranceCalibrationRegistry.succeeds_handleModelChange
    ⟨card.capabilityId, previous.fingerprint, card.fingerprint⟩ found
  refine ⟨later, ?_, withdrawn calibrated⟩
  show (system.calibration.listen (system.capabilities.register card).2).artifacts.get? artifactId = _
  rw [event]
  exact stored

/-- The artifact is not applicable to any key. -/
def NeverApplicable (system : CalibrationSystem env) (artifactId : String) : Prop :=
  ∀ key found, system.calibration.applicable key = .ok (some found) →
    found.artifactId ≠ artifactId

theorem neverApplicable_of_withdrawn (found : system.stored? artifactId = some artifact)
    (withdrawn : Withdrawn artifact.status) (calls : List (CalibrationCall env)) :
    NeverApplicable (run step system calls) artifactId := by
  intro key other returned same
  obtain ⟨later, stored, succeeds⟩ := stored_run found calls
  obtain ⟨isOther, -, calibrated⟩ := AssuranceCalibrationRegistry.mem_of_applicable returned
  rw [same] at isOther
  obtain rfl : later = other := Option.some.inj (stored.symm.trans isOther)
  rcases succeeds.withdrawn withdrawn with shifted | invalidated
  · cases shifted.symm.trans calibrated
  · cases invalidated.symm.trans calibrated

/-- What calibration promises along a run. -/
structure NeverRevived (start : CalibrationSystem env) (calls : List (CalibrationCall env)) :
    Prop where
  /-- A withdrawn artifact is not applicable later. -/
  withdrawn : ∀ before after, calls = before ++ after → ∀ artifactId artifact,
    (run step start before).stored? artifactId = some artifact → Withdrawn artifact.status →
      NeverApplicable (run step start calls) artifactId
  /-- An artifact registered before its capability changed is not applicable after it. -/
  outdated : ∀ before between after artifact registry card previous,
    calls = before ++ .register artifact :: (between ++ .registerCard card :: after) →
    (run step start before).calibration.register artifact = .ok registry →
    (run step start (before ++ .register artifact :: between)).capabilities.get
      card.capabilityId = some previous →
    previous.fingerprint ≠ card.fingerprint →
    artifact.key.capabilityFingerprint = previous.fingerprint →
      NeverApplicable (run step start calls) artifact.artifactId

/-- **Calibration is never revived**, along any run. -/
theorem neverRevived (env : CalibrationEnv R) (start : CalibrationSystem env)
    (calls : List (CalibrationCall env)) : NeverRevived start calls := by
  constructor
  · rintro before after rfl artifactId artifact found withdrawn
    rw [run_append]
    exact neverApplicable_of_withdrawn found withdrawn after
  · rintro before between after artifact registry card previous rfl registered isPrevious changed
      calibrated
    obtain ⟨stored, isStored, sameKey⟩ := stored_register registered
    obtain ⟨later, isLater, succeeds⟩ := stored_run isStored between
    have split : run step start (before ++ .register artifact :: between) =
        run step (step (run step start before) (.register artifact)) between := by
      rw [run_append, run_cons]
    have fingerprint : later.key.capabilityFingerprint = previous.fingerprint := by
      rw [succeeds.key, sameKey, calibrated]
    rw [split] at isPrevious
    obtain ⟨last, isLast, withdrawn⟩ := withdrawn_of_change isPrevious changed isLater fingerprint
    rw [run_append, run_cons, run_append, run_cons]
    exact neverApplicable_of_withdrawn isLast withdrawn after

end Dnc.Assurance
