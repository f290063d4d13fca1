/-
**The skill registry.**

`dnc.memory.skills.SkillRegistry`: manifests by skill id and version, evaluations by fingerprint, and
the disabled skill ids. Every call returns the registry as it leaves it, together with what it
returns or raises: a rollback that raises has rolled the version back already.

Both ways a version becomes ACTIVE are here: the last step of the ladder in `transition`, which
demotes the other ACTIVE versions, and the restored parent in `rollback`, which does not.
`VersionsChange` lists what a call can do to the stored manifests (`skillStep_change`).
-/

import Dnc.Logic.Run
import Dnc.Memory.Contracts

namespace Dnc.Memory

open PyLib Logic

/-- `_FORWARD.get(lifecycle)`. -/
def forward : SkillLifecycle → Option SkillLifecycle
  | .draft => some .sandboxed
  | .sandboxed => some .evaluated
  | .evaluated => some .shadow
  | .shadow => some .canary
  | .canary => some .active
  | _ => none

section Registry

variable {R : Type} [PyFloat R]

structure SkillRegistry (R : Type) where
  versions : Dict (String × String) SkillManifest := ∅
  evaluations : Dict String (SkillEvaluation R) := ∅
  disabled : Finset String := ∅

namespace SkillRegistry

variable (sha256 : String → String) (registry : SkillRegistry R)

omit [PyFloat R] in
/-- `SkillRegistry.register`. -/
def register (manifest : SkillManifest) : SkillRegistry R × Except PyError Unit :=
  if manifest.key ∈ registry.versions then
    (registry, .error (.valueError
      s!"skill version already exists: {(Json.arr [.str manifest.skillId, .str manifest.version]).pyRepr}"))
  else ({ registry with versions := registry.versions.set manifest.key manifest }, .ok ())

/-- `evaluation is not None and evaluation.promotable` for the evaluation of a manifest. -/
def qualified (manifest : SkillManifest) : Bool :=
  match registry.evaluations.get? (manifest.fingerprint sha256) with
  | none => false
  | some evaluation => evaluation.promotable

/-- The checks of `transition`: the manifest that moves on. -/
def admitTransition (current : SkillManifest) (lifecycle : SkillLifecycle) :
    Except PyError SkillManifest := do
  if lifecycle ∉ [SkillLifecycle.quarantined, .retired, .rolledBack] ∧
      forward current.lifecycle ≠ some lifecycle then
    throw (.valueError s!"illegal skill lifecycle transition: {PyEnum.display current.lifecycle} -> {PyEnum.display lifecycle}")
  let current ←
    if lifecycle = .evaluated then
      match registry.evaluations.get? (current.fingerprint sha256) with
      | none => throw (.valueError "skill evaluation artifact is required")
      | some evaluation => pure (current.withEvaluationArtifacts [evaluation.artifactId])
    else pure current
  if lifecycle ∈ [SkillLifecycle.shadow, .canary, .active] ∧
      registry.qualified sha256 current = false then
    throw (.valueError "skill does not meet promotion thresholds")
  return current

/-- The loop of `transition` over the other versions. -/
def demote (current other : SkillManifest) : SkillManifest :=
  if other.skillId = current.skillId ∧ other.tenantId = current.tenantId ∧
      other.version ≠ current.version ∧ other.lifecycle = .active then
    other.withLifecycle .rolledBack
  else other

/-- `SkillRegistry._require`. -/
def require (skillId version : String) : Except PyError SkillManifest :=
  match registry.versions.get? (skillId, version) with
  | none => .error (.keyError s!"unknown skill version: {skillId}:{version}")
  | some manifest => .ok manifest

/-- `SkillRegistry.transition`. -/
def transition (skillId version : String) (lifecycle : SkillLifecycle) :
    SkillRegistry R × Except PyError SkillManifest :=
  match registry.require skillId version with
  | .error error => (registry, .error error)
  | .ok current =>
    if lifecycle = current.lifecycle then (registry, .ok current)
    else
      match registry.admitTransition sha256 current lifecycle with
      | .error error => (registry, .error error)
      | .ok current =>
        let versions :=
          if lifecycle = .active then registry.versions.mapValues (demote current)
          else registry.versions
        let updated := current.withLifecycle lifecycle
        ({ registry with versions := versions.set (skillId, version) updated }, .ok updated)

omit [PyFloat R] in
/-- `SkillRegistry.record_evaluation`. -/
def recordEvaluation (evaluation : SkillEvaluation R) : SkillRegistry R × Except PyError Unit :=
  if evaluation.skillFingerprint ∉
      registry.versions.values.map (SkillManifest.fingerprint sha256) then
    (registry, .error (.keyError "evaluation references unknown skill fingerprint"))
  else
    ({ registry with
        evaluations := registry.evaluations.set evaluation.skillFingerprint evaluation }, .ok ())

/-- The condition of `invalidate` on a version. -/
def drifted (changed : Finset String) (manifest : SkillManifest) : Prop :=
  (manifest.dependencyFingerprints ∩ changed).Nonempty ∧ manifest.lifecycle ≠ .retired ∧
    manifest.lifecycle ≠ .rolledBack

instance (changed : Finset String) : DecidablePred (drifted changed) := fun _ =>
  inferInstanceAs (Decidable (_ ∧ _))

/-- The loop of `invalidate`. -/
def quarantine (changed : Finset String) (manifest : SkillManifest) : SkillManifest :=
  if drifted changed manifest then manifest.withLifecycle .quarantined else manifest

omit [PyFloat R] in
/-- `SkillRegistry.invalidate`. -/
def invalidate (changed : Finset String) : SkillRegistry R × List String :=
  ({ registry with versions := registry.versions.mapValues (quarantine changed) },
    sortBy id ((registry.versions.values.filter fun manifest => drifted changed manifest).map
      fun manifest => s!"{manifest.skillId}:{manifest.version}"))

/-- `SkillRegistry.rollback`. -/
def rollback (skillId version : String) : SkillRegistry R × Except PyError SkillManifest :=
  match registry.transition sha256 skillId version .rolledBack with
  | (registry, .error error) => (registry, .error error)
  | (registry, .ok failed) =>
    match failed.parentVersion with
    | none => (registry, .ok failed)
    | some parentVersion =>
      match registry.require skillId parentVersion with
      | .error error => (registry, .error error)
      | .ok parent =>
        if registry.qualified sha256 parent then
          ({ registry with
              versions := registry.versions.set (skillId, parent.version)
                (parent.withLifecycle .active) }, .ok failed)
        else
          (registry, .error (.valueError "parent skill version is not qualified for rollback"))

omit [PyFloat R] in
/-- `SkillRegistry.disable`. -/
def disable (skillId : String) : SkillRegistry R × Except PyError Unit :=
  if skillId ∉ registry.versions.keys.map Prod.fst then
    (registry, .error (.keyError s!"unknown skill: {skillId}"))
  else ({ registry with disabled := insert skillId registry.disabled }, .ok ())

omit [PyFloat R] in
/-- `SkillRegistry.snapshot`: copies of the two dictionaries and the set. -/
def snapshot : SkillRegistry R := registry

omit [PyFloat R] in
/-- `SkillRegistry.restore`. -/
def restore (state : SkillRegistry R) : SkillRegistry R := state

end SkillRegistry

/-- A call on the registry. -/
inductive SkillCall (R : Type) where
  | register (manifest : SkillManifest)
  | recordEvaluation (evaluation : SkillEvaluation R)
  | transition (skillId version : String) (lifecycle : SkillLifecycle)
  | invalidate (changed : Finset String)
  | rollback (skillId version : String)
  | disable (skillId : String)

variable (sha256 : String → String)

/-- One call as a step, whatever it returns or raises. -/
def skillStep (registry : SkillRegistry R) : SkillCall R → SkillRegistry R
  | .register manifest => (registry.register manifest).1
  | .recordEvaluation evaluation => (registry.recordEvaluation sha256 evaluation).1
  | .transition skillId version lifecycle => (registry.transition sha256 skillId version lifecycle).1
  | .invalidate changed => (registry.invalidate changed).1
  | .rollback skillId version => (registry.rollback sha256 skillId version).1
  | .disable skillId => (registry.disable skillId).1

/-! ### What a call can do -/

omit [PyFloat R] in
/-- Every manifest is stored under its own key. -/
def SkillRegistry.KeysMatch (registry : SkillRegistry R) : Prop :=
  ∀ key manifest, registry.versions.get? key = some manifest → manifest.key = key

/-- The parent that a rollback makes ACTIVE again. -/
def SkillRegistry.Restores (registry : SkillRegistry R) (skillId version : String)
    (parent : SkillManifest) : Prop :=
  ∃ failed parentVersion, registry.versions.get? (skillId, version) = some failed ∧
    failed.parentVersion = some parentVersion ∧
    (registry.versions.set (skillId, version) (failed.withLifecycle .rolledBack)).get?
      (skillId, parentVersion) = some parent ∧
    registry.qualified sha256 parent = true

/-- A registration finds its key taken; a rollback restores nothing. -/
def SkillRegistry.Idle (registry : SkillRegistry R) : SkillCall R → Prop
  | .register manifest => manifest.key ∈ registry.versions
  | .rollback skillId version => ∀ parent, ¬ registry.Restores sha256 skillId version parent
  | _ => True

/-- What a call does to the stored manifests. -/
inductive VersionsChange (registry : SkillRegistry R) :
    SkillCall R → Dict (String × String) SkillManifest → Prop
  | kept (call : SkillCall R) (idle : registry.Idle sha256 call) :
    VersionsChange registry call registry.versions
  | registered (manifest : SkillManifest) (fresh : manifest.key ∉ registry.versions) :
    VersionsChange registry (.register manifest) (registry.versions.set manifest.key manifest)
  | moved {skillId version : String} {lifecycle : SkillLifecycle} {current updated : SkillManifest}
      (found : registry.versions.get? (skillId, version) = some current)
      (notActive : lifecycle ≠ .active)
      (allowed : lifecycle ∈ [SkillLifecycle.quarantined, .retired, .rolledBack] ∨
        forward current.lifecycle = some lifecycle)
      (same : updated.key = current.key ∧ updated.tenantId = current.tenantId)
      (becomes : updated.lifecycle = lifecycle) :
    VersionsChange registry (.transition skillId version lifecycle)
      (registry.versions.set (skillId, version) updated)
  | activated {skillId version : String} {current updated : SkillManifest}
      (found : registry.versions.get? (skillId, version) = some current)
      (allowed : forward current.lifecycle = some .active)
      (same : updated.key = current.key ∧ updated.tenantId = current.tenantId)
      (becomes : updated.lifecycle = .active) :
    VersionsChange registry (.transition skillId version .active)
      ((registry.versions.mapValues (SkillRegistry.demote current)).set (skillId, version) updated)
  | invalidated (changed : Finset String) :
    VersionsChange registry (.invalidate changed)
      (registry.versions.mapValues (SkillRegistry.quarantine changed))
  | rolledBack {skillId version : String} {failed : SkillManifest}
      (found : registry.versions.get? (skillId, version) = some failed)
      (alone : ∀ parent, ¬ registry.Restores sha256 skillId version parent) :
    VersionsChange registry (.rollback skillId version)
      (registry.versions.set (skillId, version) (failed.withLifecycle .rolledBack))
  | restored {skillId version : String} {failed parent : SkillManifest}
      (found : registry.versions.get? (skillId, version) = some failed)
      (restores : registry.Restores sha256 skillId version parent) :
    VersionsChange registry (.rollback skillId version)
      ((registry.versions.set (skillId, version) (failed.withLifecycle .rolledBack)).set
        (skillId, parent.version) (parent.withLifecycle .active))

/-- What `admitTransition` lets pass. -/
theorem admit_eq_ok {registry : SkillRegistry R} {current admitted : SkillManifest}
    {lifecycle : SkillLifecycle}
    (returned : registry.admitTransition sha256 current lifecycle = .ok admitted) :
    (lifecycle ∈ [SkillLifecycle.quarantined, .retired, .rolledBack] ∨
      forward current.lifecycle = some lifecycle) ∧
      admitted.key = current.key ∧ admitted.tenantId = current.tenantId := by
  unfold SkillRegistry.admitTransition at returned
  by_cases illegal : lifecycle ∉ [SkillLifecycle.quarantined, .retired, .rolledBack] ∧
      forward current.lifecycle ≠ some lifecycle
  · simp [illegal, throw, throwThe, MonadExceptOf.throw, bind, Except.bind] at returned
  have allowed : lifecycle ∈ [SkillLifecycle.quarantined, .retired, .rolledBack] ∨
      forward current.lifecycle = some lifecycle := by tauto
  refine ⟨allowed, ?_⟩
  rw [if_neg illegal] at returned
  simp only [pure, Except.pure, bind, Except.bind, throw, throwThe, MonadExceptOf.throw] at returned
  by_cases evaluates : lifecycle = .evaluated
  · subst evaluates
    cases found : registry.evaluations.get? (current.fingerprint sha256) with
    | none => simp [found] at returned
    | some evaluation =>
      simp only [found, if_true] at returned
      split_ifs at returned
      cases returned
      exact ⟨rfl, rfl⟩
  · simp only [if_neg evaluates] at returned
    split_ifs at returned
    cases returned
    exact ⟨rfl, rfl⟩

/-- Taking a stored version out of service always succeeds. -/
theorem transition_withdrawn {registry : SkillRegistry R} {skillId version : String}
    {current : SkillManifest} {lifecycle : SkillLifecycle}
    (withdrawn : lifecycle ∈ [SkillLifecycle.quarantined, .retired, .rolledBack])
    (found : registry.versions.get? (skillId, version) = some current) :
    registry.transition sha256 skillId version lifecycle =
      ({ registry with versions :=
          registry.versions.set (skillId, version) (current.withLifecycle lifecycle) },
        .ok (current.withLifecycle lifecycle)) := by
  have required : registry.require skillId version = .ok current := by
    simp only [SkillRegistry.require, found]
  have inactive : lifecycle ≠ .active ∧ lifecycle ∉ [SkillLifecycle.shadow, .canary, .active] ∧
      lifecycle ≠ .evaluated := by
    revert withdrawn
    cases lifecycle <;> decide
  unfold SkillRegistry.transition
  rw [required]
  by_cases already : lifecycle = current.lifecycle
  · simp only [if_pos already]
    rw [SkillManifest.withLifecycle_self already.symm, Dict.set_of_get? found]
  · have admitted : registry.admitTransition sha256 current lifecycle = .ok current := by
      simp [SkillRegistry.admitTransition, withdrawn, inactive, pure, Except.pure, bind, Except.bind]
    simp only [if_neg already, admitted, if_neg inactive.1]

omit [PyFloat R] in
theorem require_eq_ok {registry : SkillRegistry R} {skillId version : String}
    {manifest : SkillManifest} :
    registry.require skillId version = .ok manifest ↔
      registry.versions.get? (skillId, version) = some manifest := by
  unfold SkillRegistry.require
  cases registry.versions.get? (skillId, version) <;> simp

theorem transition_change (registry : SkillRegistry R) (skillId version : String)
    (lifecycle : SkillLifecycle) :
    VersionsChange sha256 registry (.transition skillId version lifecycle)
      (registry.transition sha256 skillId version lifecycle).1.versions := by
  unfold SkillRegistry.transition
  cases required : registry.require skillId version with
  | error error => exact .kept _ trivial
  | ok current =>
    have found := require_eq_ok.mp required
    by_cases already : lifecycle = current.lifecycle
    · simp only [if_pos already]
      exact .kept _ trivial
    simp only [if_neg already]
    cases admitted : registry.admitTransition sha256 current lifecycle with
    | error error => exact .kept _ trivial
    | ok moving =>
      obtain ⟨allowed, sameKey, sameTenant⟩ := admit_eq_ok sha256 admitted
      by_cases activates : lifecycle = .active
      · subst activates
        have demoting : SkillRegistry.demote moving = SkillRegistry.demote current := by
          have sameIds := Prod.mk.inj sameKey
          funext other
          unfold SkillRegistry.demote
          rw [sameIds.1, sameIds.2, sameTenant]
        simp only [if_true, demoting]
        exact .activated found (by simpa using allowed) ⟨sameKey, sameTenant⟩ rfl
      · simp only [if_neg activates]
        have becomes : (moving.withLifecycle lifecycle).lifecycle = lifecycle := rfl
        exact .moved found activates allowed ⟨sameKey, sameTenant⟩ becomes

/-- What a rollback returns, by what it finds. -/
inductive RollbackOutcome (registry : SkillRegistry R) (skillId version : String) :
    SkillRegistry R × Except PyError SkillManifest → Prop
  | unknown (missing : registry.versions.get? (skillId, version) = none) (error : PyError) :
    RollbackOutcome registry skillId version (registry, .error error)
  | alone {failed : SkillManifest} (found : registry.versions.get? (skillId, version) = some failed)
      (parentless : failed.parentVersion = none) :
    RollbackOutcome registry skillId version
      ({ registry with versions :=
          registry.versions.set (skillId, version) (failed.withLifecycle .rolledBack) },
        .ok (failed.withLifecycle .rolledBack))
  | stranded {failed : SkillManifest} {parentVersion : String}
      (found : registry.versions.get? (skillId, version) = some failed)
      (named : failed.parentVersion = some parentVersion)
      (unqualified : ∀ parent,
        (registry.versions.set (skillId, version) (failed.withLifecycle .rolledBack)).get?
            (skillId, parentVersion) = some parent → registry.qualified sha256 parent = false)
      (error : PyError) :
    RollbackOutcome registry skillId version
      ({ registry with versions :=
          registry.versions.set (skillId, version) (failed.withLifecycle .rolledBack) },
        .error error)
  | restored {failed parent : SkillManifest} {parentVersion : String}
      (found : registry.versions.get? (skillId, version) = some failed)
      (named : failed.parentVersion = some parentVersion)
      (stored : (registry.versions.set (skillId, version) (failed.withLifecycle .rolledBack)).get?
          (skillId, parentVersion) = some parent)
      (qualified : registry.qualified sha256 parent = true) :
    RollbackOutcome registry skillId version
      ({ registry with
          versions := (registry.versions.set (skillId, version)
            (failed.withLifecycle .rolledBack)).set (skillId, parent.version)
              (parent.withLifecycle .active) },
        .ok (failed.withLifecycle .rolledBack))

/-- **The outcomes of a rollback.** -/
theorem rollback_outcome (registry : SkillRegistry R) (skillId version : String) :
    RollbackOutcome sha256 registry skillId version (registry.rollback sha256 skillId version) := by
  unfold SkillRegistry.rollback
  cases found : registry.versions.get? (skillId, version) with
  | none =>
    have refused : registry.transition sha256 skillId version .rolledBack =
        (registry, .error (.keyError s!"unknown skill version: {skillId}:{version}")) := by
      simp only [SkillRegistry.transition, SkillRegistry.require, found]
    rw [refused]
    exact .unknown found _
  | some failed =>
    rw [transition_withdrawn sha256 (by simp) found]
    cases named : failed.parentVersion with
    | none =>
      simp only [show (failed.withLifecycle .rolledBack).parentVersion = none from named]
      exact .alone found named
    | some parentVersion =>
      simp only [show (failed.withLifecycle .rolledBack).parentVersion = some parentVersion
        from named, SkillRegistry.require]
      cases stored : (registry.versions.set (skillId, version)
          (failed.withLifecycle .rolledBack)).get? (skillId, parentVersion) with
      | none =>
        refine .stranded found named (fun parent isStored => ?_) _
        exact nomatch stored.symm.trans isStored
      | some parent =>
        -- moving a version does not change who qualifies
        have same : ∀ versions, SkillRegistry.qualified sha256 { registry with versions } parent =
            registry.qualified sha256 parent := fun _ => rfl
        simp only [same]
        by_cases qualified : registry.qualified sha256 parent = true
        · rw [if_pos qualified]
          exact .restored found named stored qualified
        · rw [if_neg qualified]
          refine .stranded found named (fun other isStored => ?_) _
          obtain rfl : parent = other := Option.some.inj (stored.symm.trans isStored)
          exact Bool.eq_false_iff.mpr qualified

theorem rollback_change (registry : SkillRegistry R) (skillId version : String) :
    VersionsChange sha256 registry (.rollback skillId version)
      (registry.rollback sha256 skillId version).1.versions := by
  have outcome := rollback_outcome sha256 registry skillId version
  generalize registry.rollback sha256 skillId version = result at outcome ⊢
  cases outcome with
  | unknown missing error =>
    refine .kept _ fun parent restores => ?_
    obtain ⟨failed, _, stored, -⟩ := restores
    exact nomatch missing.symm.trans stored
  | alone found parentless =>
    refine .rolledBack found fun parent restores => ?_
    obtain ⟨other, parentVersion, stored, named, -⟩ := restores
    rw [← Option.some.inj (found.symm.trans stored), parentless] at named
    cases named
  | stranded found named unqualified error =>
    refine .rolledBack found fun parent restores => ?_
    obtain ⟨other, parentVersion, stored, isParent, isStored, qualified⟩ := restores
    obtain rfl := Option.some.inj (found.symm.trans stored)
    obtain rfl := Option.some.inj (named.symm.trans isParent)
    rw [unqualified parent isStored] at qualified
    cases qualified
  | restored found named stored qualified =>
    exact .restored found ⟨_, _, found, named, stored, qualified⟩

/-- **What a call does to the stored manifests.** -/
theorem skillStep_change (registry : SkillRegistry R) (call : SkillCall R) :
    VersionsChange sha256 registry call (skillStep sha256 registry call).versions := by
  cases call with
  | register manifest =>
    show VersionsChange sha256 registry _ (registry.register manifest).1.versions
    unfold SkillRegistry.register
    by_cases taken : manifest.key ∈ registry.versions
    · rw [if_pos taken]
      exact .kept _ taken
    · rw [if_neg taken]
      exact .registered manifest taken
  | recordEvaluation evaluation =>
    show VersionsChange sha256 registry _ (registry.recordEvaluation sha256 evaluation).1.versions
    unfold SkillRegistry.recordEvaluation
    split_ifs <;> exact .kept _ trivial
  | transition skillId version lifecycle => exact transition_change sha256 registry _ _ _
  | invalidate changed => exact .invalidated changed
  | rollback skillId version => exact rollback_change sha256 registry _ _
  | disable skillId =>
    show VersionsChange sha256 registry _ (registry.disable skillId).1.versions
    unfold SkillRegistry.disable
    split_ifs <;> exact .kept _ trivial

end Registry

end Dnc.Memory
