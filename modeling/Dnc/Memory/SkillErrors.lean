/-
**Calls of the skill registry that raise.**

`transition` and `record_evaluation` check before they write. `rollback` does not: it moves the
version to ROLLED_BACK first, and looks for a qualified parent after that. A rollback whose version
names a parent that is missing or not qualified raises with the version rolled back already, unless
it was ROLLED_BACK before (`Strands`). `keepsOnError_iff`: these are the only calls that raise and
change the registry.
-/

import Dnc.Logic.Raises
import Dnc.Memory.SkillRuns

namespace Dnc.Memory

open PyLib Logic

section Errors

variable {R : Type} [PyFloat R] (sha256 : String → String)

/-- Where the call raises, the registry is exactly as before. -/
def SkillRegistry.Keeps (registry : SkillRegistry R) : SkillCall R → Prop
  | .register manifest => KeepsOnError registry (registry.register manifest)
  | .recordEvaluation evaluation =>
    KeepsOnError registry (registry.recordEvaluation sha256 evaluation)
  | .transition skillId version lifecycle =>
    KeepsOnError registry (registry.transition sha256 skillId version lifecycle)
  | .invalidate _ => True
  | .rollback skillId version => KeepsOnError registry (registry.rollback sha256 skillId version)
  | .disable skillId => KeepsOnError registry (registry.disable skillId)

/-- A rollback of a version in service whose parent is named, and is missing or not qualified. -/
def SkillRegistry.Strands (registry : SkillRegistry R) : SkillCall R → Prop
  | .rollback skillId version => ∃ failed parentVersion,
      registry.versions.get? (skillId, version) = some failed ∧
      failed.lifecycle ≠ .rolledBack ∧ failed.parentVersion = some parentVersion ∧
      ∀ parent, registry.versions.get? (skillId, parentVersion) = some parent →
        registry.qualified sha256 parent = false
  | _ => False

variable {sha256}

theorem transition_keeps (registry : SkillRegistry R) (skillId version : String)
    (lifecycle : SkillLifecycle) :
    KeepsOnError registry (registry.transition sha256 skillId version lifecycle) := by
  unfold SkillRegistry.transition
  cases registry.require skillId version with
  | error error => exact KeepsOnError.refused _
  | ok current =>
    by_cases already : lifecycle = current.lifecycle
    · simp only [if_pos already]
      exact KeepsOnError.refused _
    · simp only [if_neg already]
      cases registry.admitTransition sha256 current lifecycle with
      | error error => exact KeepsOnError.refused _
      | ok moving => exact KeepsOnError.returned _ _

omit [PyFloat R] in
theorem recordEvaluation_keeps (registry : SkillRegistry R) (evaluation : SkillEvaluation R) :
    KeepsOnError registry (registry.recordEvaluation sha256 evaluation) := by
  unfold SkillRegistry.recordEvaluation
  exact KeepsOnError.guard (KeepsOnError.returned _ _)

omit [PyFloat R] in
theorem register_keeps (registry : SkillRegistry R) (manifest : SkillManifest) :
    KeepsOnError registry (registry.register manifest) := by
  unfold SkillRegistry.register
  exact KeepsOnError.guard (KeepsOnError.returned _ _)

omit [PyFloat R] in
theorem disable_keeps (registry : SkillRegistry R) (skillId : String) :
    KeepsOnError registry (registry.disable skillId) := by
  unfold SkillRegistry.disable
  exact KeepsOnError.guard (KeepsOnError.returned _ _)

/-- The fingerprint leaves the lifecycle out, so moving a version does not change who qualifies. -/
theorem qualified_moved (registry : SkillRegistry R)
    (versions : Dict (String × String) SkillManifest) (manifest : SkillManifest)
    (lifecycle : SkillLifecycle) :
    SkillRegistry.qualified sha256 { registry with versions := versions }
        (manifest.withLifecycle lifecycle) = registry.qualified sha256 manifest := rfl

variable (sha256) in
/-- The parent looked up behind the transition qualifies as it did before it. -/
theorem qualified_after_move {registry : SkillRegistry R} {place : String × String}
    (other : String × String) {failed : SkillManifest} (found : registry.versions.get? place = some failed) :
    (∀ parent, (registry.versions.set place (failed.withLifecycle .rolledBack)).get? other =
        some parent → registry.qualified sha256 parent = false) ↔
      ∀ parent, registry.versions.get? other = some parent →
        registry.qualified sha256 parent = false := by
  by_cases same : other = place
  · rw [same, Dict.get?_set_self, found]
    constructor
    · intro unqualified parent stored
      rw [← Option.some.inj stored, ← qualified_moved registry registry.versions failed .rolledBack]
      exact unqualified _ rfl
    · intro unqualified parent stored
      rw [← Option.some.inj stored]
      exact unqualified failed rfl
  · rw [Dict.get?_set_of_ne _ same]

omit [PyFloat R] in
/-- The version rolled back is another than it was, unless it was ROLLED_BACK. -/
theorem rolledBack_same_iff {registry : SkillRegistry R} {place : String × String}
    {failed : SkillManifest} (found : registry.versions.get? place = some failed) :
    ({ registry with versions := registry.versions.set place (failed.withLifecycle .rolledBack) } :
        SkillRegistry R) = registry ↔ failed.lifecycle = .rolledBack := by
  constructor
  · intro same
    have stored := congrArg (fun registry : SkillRegistry R => registry.versions.get? place) same
    simp only [Dict.get?_set_self, found, Option.some.injEq] at stored
    rw [← stored, SkillManifest.lifecycle_withLifecycle]
  · intro already
    rw [SkillManifest.withLifecycle_self already, Dict.set_of_get? found]

theorem rollback_keeps_iff (registry : SkillRegistry R) (skillId version : String) :
    KeepsOnError registry (registry.rollback sha256 skillId version) ↔
      ¬ registry.Strands sha256 (.rollback skillId version) := by
  have outcome := rollback_outcome sha256 registry skillId version
  generalize registry.rollback sha256 skillId version = result at outcome ⊢
  cases outcome with
  | unknown missing error =>
    refine iff_of_true (KeepsOnError.refused _) ?_
    rintro ⟨failed, _, stored, -⟩
    exact nomatch missing.symm.trans stored
  | alone found parentless =>
    refine iff_of_true (KeepsOnError.returned _ _) ?_
    rintro ⟨other, parentVersion, stored, -, named, -⟩
    rw [← Option.some.inj (found.symm.trans stored), parentless] at named
    cases named
  | stranded found named unqualified error =>
    rw [KeepsOnError.error_iff, rolledBack_same_iff found]
    constructor
    · rintro already ⟨other, parentVersion, stored, serving, -⟩
      exact serving (Option.some.inj (found.symm.trans stored) ▸ already)
    · intro settled
      by_contra serving
      exact settled ⟨_, _, found, serving, named, (qualified_after_move sha256 _ found).mp unqualified⟩
  | restored found named stored qualified =>
    refine iff_of_true (KeepsOnError.returned _ _) ?_
    rintro ⟨other, parentVersion, isFailed, -, isParent, unqualified⟩
    obtain rfl := Option.some.inj (named.symm.trans
      (Option.some.inj (found.symm.trans isFailed) ▸ isParent))
    rw [(qualified_after_move sha256 _ found).mpr unqualified _ stored] at qualified
    cases qualified

/-- **A call that raises leaves the registry exactly as it was, unless it is a rollback that strands
its version.** -/
theorem keepsOnError_iff (registry : SkillRegistry R) (call : SkillCall R) :
    registry.Keeps sha256 call ↔ ¬ registry.Strands sha256 call := by
  cases call with
  | register manifest => exact iff_of_true (register_keeps registry manifest) id
  | recordEvaluation evaluation =>
    exact iff_of_true (recordEvaluation_keeps registry evaluation) id
  | transition skillId version lifecycle =>
    exact iff_of_true (transition_keeps registry skillId version lifecycle) id
  | invalidate changed => exact iff_of_true trivial id
  | rollback skillId version => exact rollback_keeps_iff registry skillId version
  | disable skillId => exact iff_of_true (disable_keeps registry skillId) id

end Errors

/-- A registered version whose parent was never registered. -/
theorem rollback_raises_behind_move :
    ¬ ∀ (registry : SkillRegistry Rat) (call : SkillCall Rat), registry.Keeps id call := by
  intro keeps
  have same := keeps (({} : SkillRegistry Rat).register Sample.second).1 (.rollback "skill" "2")
    (.keyError "unknown skill version: skill:1") rfl
  have stored := congrArg (fun registry : SkillRegistry Rat =>
    (registry.versions.get? ("skill", "2")).map fun manifest => manifest.lifecycle) same
  exact nomatch stored

end Dnc.Memory
