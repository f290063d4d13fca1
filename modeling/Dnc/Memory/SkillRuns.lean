/-
**Activation over runs of the registry.**

Two laws of the skill lifecycle over all runs, both of which a rollback can break: `transition`
demotes the other ACTIVE versions and never leads back from QUARANTINED or RETIRED, but a rollback
makes the parent of a version ACTIVE whatever else is ACTIVE and whatever became of the parent.

* `activeUnique_iff`: at most one version of a skill and tenant is ACTIVE throughout a run exactly
  when no registration and no restored parent meets another ACTIVE version.
* `withdrawnStays_iff`: what was QUARANTINED or RETIRED is never again ACTIVE, SHADOW or CANARY
  exactly when no rollback restores such a parent.

Everything a call does to the manifests is one of the cases of `VersionsChange`.
-/

import Dnc.Logic.Raises
import Dnc.Memory.Skills

namespace Dnc.Memory

open PyLib Logic

section Runs

variable {R : Type} [PyFloat R] {sha256 : String → String}

theorem keysMatch_of_change {registry : SkillRegistry R} {call : SkillCall R}
    {versions : Dict (String × String) SkillManifest} (matching : registry.KeysMatch)
    (change : VersionsChange sha256 registry call versions) :
    ∀ key manifest, versions.get? key = some manifest → manifest.key = key := by
  -- a manifest stored under its own key
  have assigned : ∀ {base : Dict (String × String) SkillManifest} {place : String × String}
      {stored : SkillManifest},
      (∀ key manifest, base.get? key = some manifest → manifest.key = key) → stored.key = place →
      ∀ key manifest, (base.set place stored).get? key = some manifest → manifest.key = key := by
    intro base place stored kept own key manifest found
    rw [Dict.get?_set] at found
    split_ifs at found with here
    · cases found
      exact own.trans here.symm
    · exact kept key manifest found
  have mapped : ∀ {f : SkillManifest → SkillManifest}, (∀ manifest, (f manifest).key = manifest.key) →
      ∀ key manifest, (registry.versions.mapValues f).get? key = some manifest →
        manifest.key = key := by
    intro f same key manifest found
    rw [Dict.get?_mapValues] at found
    obtain ⟨origin, stored, rfl⟩ := Option.map_eq_some_iff.mp found
    exact (same origin).trans (matching key origin stored)
  cases change with
  | kept => exact matching
  | registered manifest fresh => exact assigned matching rfl
  | moved found _ _ same _ => exact assigned matching (same.1.trans (matching _ _ found))
  | @activated _ _ current updated found _ same _ =>
    refine assigned (mapped fun other => ?_) (same.1.trans (matching _ _ found))
    unfold SkillRegistry.demote
    split_ifs <;> rfl
  | invalidated changed =>
    refine mapped fun manifest => ?_
    unfold SkillRegistry.quarantine
    split_ifs <;> rfl
  | @rolledBack skillId version failed found _ =>
    exact assigned matching (show failed.key = _ from matching _ _ found)
  | @restored skillId version failed parent found restores =>
    have placed : (failed.withLifecycle .rolledBack).key = (skillId, version) :=
      matching (skillId, version) failed found
    have between := assigned matching placed
    obtain ⟨other, parentVersion, stored, -, isStored, -⟩ := restores
    obtain rfl : failed = other := Option.some.inj (found.symm.trans stored)
    have own := between _ _ isStored
    refine assigned between ?_
    have sameId : parent.skillId = skillId := congrArg Prod.fst own
    rw [SkillManifest.key_withLifecycle, ← sameId]
    rfl

theorem skillStep_keysMatch {registry : SkillRegistry R} (matching : registry.KeysMatch)
    (call : SkillCall R) : (skillStep sha256 registry call).KeysMatch :=
  keysMatch_of_change matching (skillStep_change sha256 registry call)

omit [PyFloat R] in
theorem keysMatch_empty : ({} : SkillRegistry R).KeysMatch := fun _ _ found => nomatch found

/-- The key of the parent that a rollback restores. -/
theorem SkillRegistry.Restores.key {registry : SkillRegistry R} (matching : registry.KeysMatch)
    {skillId version : String} {parent : SkillManifest}
    (restores : registry.Restores sha256 skillId version parent) :
    parent.key = (skillId, parent.version) := by
  obtain ⟨failed, parentVersion, found, -, stored, -⟩ := restores
  rw [Dict.get?_set] at stored
  have own : parent.key = (skillId, parentVersion) := by
    split_ifs at stored with here
    · cases stored
      exact (matching _ _ found).trans here.symm
    · exact matching _ _ stored
  exact own.trans (congrArg (Prod.mk skillId) (congrArg Prod.snd own).symm)

/-- A rollback restores one parent. -/
theorem SkillRegistry.Restores.unique {registry : SkillRegistry R} {skillId version : String}
    {parent other : SkillManifest} (restores : registry.Restores sha256 skillId version parent)
    (otherRestores : registry.Restores sha256 skillId version other) : parent = other := by
  obtain ⟨first, firstVersion, isFirst, firstNames, firstStored, -⟩ := restores
  obtain ⟨second, secondVersion, isSecond, secondNames, secondStored, -⟩ := otherRestores
  obtain rfl : first = second := Option.some.inj (isFirst.symm.trans isSecond)
  obtain rfl : firstVersion = secondVersion := Option.some.inj (firstNames.symm.trans secondNames)
  exact Option.some.inj (firstStored.symm.trans secondStored)

/-! ### Single steps -/

theorem skillStep_register {registry : SkillRegistry R} {manifest : SkillManifest}
    (fresh : manifest.key ∉ registry.versions) :
    skillStep sha256 registry (.register manifest) =
      { registry with versions := registry.versions.set manifest.key manifest } := by
  show (registry.register manifest).1 = _
  unfold SkillRegistry.register
  rw [if_neg fresh]

/-- The evaluation of a stored version is recorded. -/
theorem skillStep_recordEvaluation {registry : SkillRegistry R} {evaluation : SkillEvaluation R}
    {key : String × String} {manifest : SkillManifest}
    (stored : registry.versions.get? key = some manifest)
    (about : evaluation.skillFingerprint = manifest.fingerprint sha256) :
    skillStep sha256 registry (.recordEvaluation evaluation) =
      { registry with
          evaluations := registry.evaluations.set evaluation.skillFingerprint evaluation } := by
  have known : evaluation.skillFingerprint ∈
      registry.versions.values.map (SkillManifest.fingerprint sha256) := by
    rw [about]
    exact List.mem_map_of_mem (Dict.mem_values.mpr ⟨key, stored⟩)
  show (registry.recordEvaluation sha256 evaluation).1 = _
  unfold SkillRegistry.recordEvaluation
  rw [if_neg (not_not.mpr known)]

/-- A rollback restores a qualified parent. -/
theorem skillStep_rollback {registry : SkillRegistry R} {skillId version parentVersion : String}
    {failed parent : SkillManifest} (found : registry.versions.get? (skillId, version) = some failed)
    (named : failed.parentVersion = some parentVersion)
    (stored : (registry.versions.set (skillId, version) (failed.withLifecycle .rolledBack)).get?
      (skillId, parentVersion) = some parent)
    (qualified : registry.qualified sha256 parent = true) :
    skillStep sha256 registry (.rollback skillId version) =
      { registry with
          versions := (registry.versions.set (skillId, version)
            (failed.withLifecycle .rolledBack)).set (skillId, parent.version)
              (parent.withLifecycle .active) } := by
  show (registry.rollback sha256 skillId version).1 = _
  have outcome := rollback_outcome sha256 registry skillId version
  generalize registry.rollback sha256 skillId version = result at outcome ⊢
  cases outcome with
  | unknown missing error => exact nomatch missing.symm.trans found
  | alone other parentless =>
    obtain rfl := Option.some.inj (found.symm.trans other)
    exact nomatch parentless.symm.trans named
  | stranded other otherNamed unqualified error =>
    obtain rfl := Option.some.inj (found.symm.trans other)
    obtain rfl := Option.some.inj (named.symm.trans otherNamed)
    exact absurd qualified (by simp [unqualified parent stored])
  | restored other otherNamed otherStored _ =>
    obtain rfl := Option.some.inj (found.symm.trans other)
    obtain rfl := Option.some.inj (named.symm.trans otherNamed)
    obtain rfl := Option.some.inj (stored.symm.trans otherStored)
    rfl

/-! ### One ACTIVE version -/

/-- Versions of one skill and one tenant. -/
def SameSkill (first second : SkillManifest) : Prop :=
  first.skillId = second.skillId ∧ first.tenantId = second.tenantId

/-- **At most one version of a skill and tenant is ACTIVE.** -/
def ActiveUnique (versions : Dict (String × String) SkillManifest) : Prop :=
  ∀ firstKey first secondKey second, versions.get? firstKey = some first →
    versions.get? secondKey = some second → first.lifecycle = .active →
    second.lifecycle = .active → SameSkill first second → firstKey = secondKey

/-- A registration of an ACTIVE version finds no other one ACTIVE; neither does a rollback that
restores a parent, the version rolled back apart. -/
def ActivatesAlone (sha256 : String → String) (entry : SkillRegistry R × SkillCall R) : Prop :=
  match entry.2 with
  | .register manifest =>
    manifest.key ∉ entry.1.versions → manifest.lifecycle = .active →
      ∀ key other, entry.1.versions.get? key = some other → other.lifecycle = .active →
        ¬ SameSkill manifest other
  | .rollback skillId version =>
    ∀ parent, entry.1.Restores sha256 skillId version parent →
      ∀ key other, entry.1.versions.get? key = some other → other.lifecycle = .active →
        SameSkill parent other → key = (skillId, version) ∨ key = parent.key
  | _ => True

section Unique

variable {versions next : Dict (String × String) SkillManifest}

/-- Fewer ACTIVE versions are no problem. -/
theorem ActiveUnique.of_fewer (unique : ActiveUnique versions)
    (fewer : ∀ key manifest, next.get? key = some manifest → manifest.lifecycle = .active →
      ∃ origin, versions.get? key = some origin ∧ origin.lifecycle = .active ∧
        SameSkill origin manifest) : ActiveUnique next := by
  intro firstKey first secondKey second isFirst isSecond firstActive secondActive same
  obtain ⟨firstOrigin, wasFirst, wasActive, firstSame⟩ := fewer _ _ isFirst firstActive
  obtain ⟨secondOrigin, wasSecond, alsoActive, secondSame⟩ := fewer _ _ isSecond secondActive
  refine unique _ _ _ _ wasFirst wasSecond wasActive alsoActive ?_
  exact ⟨firstSame.1.trans (same.1.trans secondSame.1.symm),
    firstSame.2.trans (same.2.trans secondSame.2.symm)⟩

/-- Storing a version that is not ACTIVE. -/
theorem ActiveUnique.set_inactive (unique : ActiveUnique versions) (key : String × String)
    {manifest : SkillManifest} (inactive : manifest.lifecycle ≠ .active) :
    ActiveUnique (versions.set key manifest) := by
  refine unique.of_fewer fun other stored found isActive => ?_
  rw [Dict.get?_set] at found
  split_ifs at found
  · cases found
    exact absurd isActive inactive
  · exact ⟨stored, found, isActive, rfl, rfl⟩

/-- Storing an ACTIVE version. -/
theorem activeUnique_set_iff (unique : ActiveUnique versions) {key : String × String}
    {manifest : SkillManifest} (isActive : manifest.lifecycle = .active) :
    ActiveUnique (versions.set key manifest) ↔
      ∀ other stored, versions.get? other = some stored → stored.lifecycle = .active →
        SameSkill manifest stored → other = key := by
  constructor
  · intro after other stored found otherActive same
    by_contra different
    refine different (after other stored key manifest ?_ (Dict.get?_set_self _ _ _) otherActive
      isActive ⟨same.1.symm, same.2.symm⟩)
    rw [Dict.get?_set_of_ne _ different]
    exact found
  · intro alone firstKey first secondKey second isFirst isSecond firstActive secondActive same
    rw [Dict.get?_set] at isFirst isSecond
    split_ifs at isFirst with firstHere <;> split_ifs at isSecond with secondHere
    · rw [firstHere, secondHere]
    · cases isFirst
      rw [firstHere, alone secondKey second isSecond secondActive same]
    · cases isSecond
      rw [secondHere, alone firstKey first isFirst firstActive ⟨same.1.symm, same.2.symm⟩]
    · exact unique _ _ _ _ isFirst isSecond firstActive secondActive same

/-- A loop over the values that activates nothing. -/
theorem ActiveUnique.mapValues (unique : ActiveUnique versions) {f : SkillManifest → SkillManifest}
    (fewer : ∀ manifest, (f manifest).lifecycle = .active → f manifest = manifest) :
    ActiveUnique (versions.mapValues f) := by
  refine unique.of_fewer fun key manifest found isActive => ?_
  rw [Dict.get?_mapValues] at found
  obtain ⟨origin, stored, rfl⟩ := Option.map_eq_some_iff.mp found
  have same := fewer origin isActive
  rw [same] at isActive ⊢
  exact ⟨origin, stored, isActive, rfl, rfl⟩

end Unique

theorem demote_active {current other : SkillManifest}
    (isActive : (SkillRegistry.demote current other).lifecycle = .active) :
    SkillRegistry.demote current other = other ∧
      (SameSkill current other → other.version = current.version) := by
  unfold SkillRegistry.demote at isActive ⊢
  split_ifs at isActive ⊢ with demotes
  · cases isActive
  · refine ⟨rfl, fun same => ?_⟩
    by_contra different
    exact demotes ⟨same.1.symm, same.2.symm, different, isActive⟩

theorem quarantine_active {changed : Finset String} {manifest : SkillManifest}
    (isActive : (SkillRegistry.quarantine changed manifest).lifecycle = .active) :
    SkillRegistry.quarantine changed manifest = manifest := by
  unfold SkillRegistry.quarantine at isActive ⊢
  split_ifs at isActive ⊢
  · cases isActive
  · rfl

omit [PyFloat R] in
/-- Activating a version, behind the loop that demotes the others of its skill. -/
theorem activeUnique_activated {registry : SkillRegistry R} {skillId version : String}
    {current updated : SkillManifest} (matching : registry.KeysMatch)
    (unique : ActiveUnique registry.versions)
    (found : registry.versions.get? (skillId, version) = some current)
    (same : updated.key = current.key ∧ updated.tenantId = current.tenantId)
    (becomes : updated.lifecycle = .active) :
    ActiveUnique
      ((registry.versions.mapValues (SkillRegistry.demote current)).set (skillId, version) updated) := by
  have demoted : ActiveUnique (registry.versions.mapValues (SkillRegistry.demote current)) :=
    unique.mapValues fun other isActive => (demote_active isActive).1
  refine (activeUnique_set_iff demoted becomes).mpr fun key stored isStored isActive sameSkill => ?_
  rw [Dict.get?_mapValues] at isStored
  obtain ⟨other, isOther, rfl⟩ := Option.map_eq_some_iff.mp isStored
  obtain ⟨unchanged, sameVersion⟩ := demote_active isActive
  rw [unchanged] at sameSkill
  have sameIds := Prod.mk.inj same.1
  have ofCurrent : SameSkill current other :=
    ⟨sameIds.1.symm.trans sameSkill.1, same.2.symm.trans sameSkill.2⟩
  -- the only one left ACTIVE has the version that is being activated
  calc key = other.key := (matching key other isOther).symm
    _ = current.key := Prod.ext ofCurrent.1.symm (sameVersion ofCurrent)
    _ = (skillId, version) := matching _ _ found

/-- Restoring the parent of a version that is rolled back. -/
theorem activeUnique_restored_iff {registry : SkillRegistry R} {skillId version : String}
    {failed parent : SkillManifest} (matching : registry.KeysMatch)
    (unique : ActiveUnique registry.versions)
    (restores : registry.Restores sha256 skillId version parent) :
    ActiveUnique ((registry.versions.set (skillId, version)
        (failed.withLifecycle .rolledBack)).set (skillId, parent.version)
          (parent.withLifecycle .active)) ↔
      ActivatesAlone sha256 (registry, .rollback skillId version) := by
  have between : ActiveUnique
      (registry.versions.set (skillId, version) (failed.withLifecycle .rolledBack)) :=
    unique.set_inactive _ nofun
  have parentKey := restores.key matching
  rw [activeUnique_set_iff between (SkillManifest.lifecycle_withLifecycle parent .active)]
  constructor
  · intro alone other otherRestores key stored isStored isActive same
    by_cases here : key = (skillId, version)
    · exact Or.inl here
    rw [otherRestores.unique restores] at same ⊢
    have left : (registry.versions.set (skillId, version)
        (failed.withLifecycle .rolledBack)).get? key = some stored := by
      rw [Dict.get?_set_of_ne _ here]
      exact isStored
    exact Or.inr ((alone key stored left isActive same).trans parentKey.symm)
  · intro alone key stored isStored isActive same
    rw [Dict.get?_set] at isStored
    split_ifs at isStored with here
    · cases isStored
      cases isActive
    · rcases alone parent restores key stored isStored isActive same with failedKey | isParent
      · exact absurd failedKey here
      · exact isParent.trans parentKey

/-- **One call keeps the ACTIVE version unique exactly when it activates alone.** -/
theorem activeUnique_change_iff {registry : SkillRegistry R} {call : SkillCall R}
    {versions : Dict (String × String) SkillManifest} (matching : registry.KeysMatch)
    (unique : ActiveUnique registry.versions)
    (change : VersionsChange sha256 registry call versions) :
    ActiveUnique versions ↔ ActivatesAlone sha256 (registry, call) := by
  cases change with
  | kept _ idle =>
    refine iff_of_true unique ?_
    cases call with
    | register manifest => exact fun fresh => absurd idle fresh
    | rollback skillId version => exact fun parent restores => absurd restores (idle parent)
    | _ => trivial
  | registered manifest fresh =>
    have others : ∀ key other, registry.versions.get? key = some other → key ≠ manifest.key := by
      rintro _ other found rfl
      exact fresh (Dict.mem_of_get? found)
    by_cases isActive : manifest.lifecycle = .active
    · rw [activeUnique_set_iff unique isActive]
      refine ⟨fun alone _ _ key other found otherActive same => ?_,
        fun alone key other found otherActive same => ?_⟩
      · exact others key other found (alone key other found otherActive same)
      · exact absurd same (alone fresh isActive key other found otherActive)
    · exact iff_of_true (unique.set_inactive _ isActive) fun _ active => absurd active isActive
  | moved found notActive allowed same becomes =>
    exact iff_of_true (unique.set_inactive _ (becomes ▸ notActive)) trivial
  | @activated skillId version current updated found allowed same becomes =>
    exact iff_of_true (activeUnique_activated matching unique found same becomes) trivial
  | invalidated changed =>
    exact iff_of_true (unique.mapValues fun _ isActive => quarantine_active isActive) trivial
  | rolledBack found alone =>
    exact iff_of_true (unique.set_inactive _ nofun) fun parent restores => absurd restores (alone parent)
  | @restored skillId version failed parent found restores =>
    exact activeUnique_restored_iff matching unique restores

/-- **At most one version is ACTIVE throughout a run exactly when every activation is alone.** -/
theorem activeUnique_iff (sha256 : String → String) (calls : List (SkillCall R)) :
    (∀ before after, calls = before ++ after →
        ActiveUnique (run (skillStep sha256) {} before).versions) ↔
      ∀ entry ∈ trace (skillStep sha256) {} calls, ActivatesAlone sha256 entry := by
  have initial : ActiveUnique ({} : SkillRegistry R).versions := fun _ _ _ _ found => nomatch found
  refine (forall_reached_iff
    (P := fun registry : SkillRegistry R => ActiveUnique registry.versions)).trans ?_
  rw [and_iff_right initial]
  refine trace_law_iff
    (P := fun registry : SkillRegistry R => registry.KeysMatch ∧ ActiveUnique registry.versions)
    ⟨keysMatch_empty, initial⟩ ?_ ?_
  · rintro registry call ⟨matching, unique⟩ condition
    exact ⟨skillStep_keysMatch matching call, (activeUnique_change_iff matching unique
      (skillStep_change sha256 registry call)).mpr condition⟩
  · rintro registry call ⟨matching, unique⟩
    exact activeUnique_change_iff matching unique (skillStep_change sha256 registry call)

/-! ### Withdrawn versions -/

/-- The lifecycles of a version that is out of service. -/
def outOfService : List SkillLifecycle := [.quarantined, .retired, .rolledBack]

/-- A version was QUARANTINED or RETIRED in some state of the run. -/
def WasWithdrawn (sha256 : String → String) (calls : List (SkillCall R)) (key : String × String) :
    Prop :=
  ∃ before after, calls = before ++ after ∧ ∃ manifest,
    (run (skillStep sha256) {} before).versions.get? key = some manifest ∧
      (manifest.lifecycle = .quarantined ∨ manifest.lifecycle = .retired)

/-- **Withdrawn versions stay withdrawn**: in every state of the run, none of them is ACTIVE, SHADOW
or CANARY. -/
def WithdrawnStays (sha256 : String → String) (calls : List (SkillCall R)) : Prop :=
  ∀ before after, calls = before ++ after → ∀ key, WasWithdrawn sha256 before key →
    ∀ manifest, (run (skillStep sha256) {} before).versions.get? key = some manifest →
      manifest.lifecycle ∉ [SkillLifecycle.active, .shadow, .canary]

/-- No rollback of the run restores a parent that was withdrawn before. -/
def RestoresNothingWithdrawn (sha256 : String → String) (calls : List (SkillCall R)) : Prop :=
  ∀ before skillId version after, calls = before ++ .rollback skillId version :: after →
    ∀ parent, (run (skillStep sha256) {} before).Restores sha256 skillId version parent →
      ¬ WasWithdrawn sha256 before parent.key

theorem rolledBack_outOfService (manifest : SkillManifest) :
    (manifest.withLifecycle .rolledBack).lifecycle ∈ outOfService := by
  rw [SkillManifest.lifecycle_withLifecycle]
  decide

theorem forward_outOfService {lifecycle : SkillLifecycle} (out : lifecycle ∈ outOfService) :
    forward lifecycle = none := by
  cases lifecycle <;> first | rfl | exact absurd out (by decide)

/-- The version under the key is out of service. -/
def OutOfService (versions : Dict (String × String) SkillManifest) (key : String × String) : Prop :=
  ∃ manifest, versions.get? key = some manifest ∧ manifest.lifecycle ∈ outOfService

/-- Storing a version, which is out of service if it is stored under this key. -/
theorem OutOfService.set {versions : Dict (String × String) SkillManifest} {key : String × String}
    (out : OutOfService versions key) (place : String × String) {stored : SkillManifest}
    (here : place = key → stored.lifecycle ∈ outOfService) :
    OutOfService (versions.set place stored) key := by
  obtain ⟨manifest, found, stays⟩ := out
  by_cases same : place = key
  · exact ⟨stored, by rw [same, Dict.get?_set_self], here same⟩
  · exact ⟨manifest, by rw [Dict.get?_set_of_ne _ (Ne.symm same), found], stays⟩

/-- A loop over the values that brings none back. -/
theorem OutOfService.mapValues {versions : Dict (String × String) SkillManifest}
    {key : String × String} (out : OutOfService versions key) {f : SkillManifest → SkillManifest}
    (stays : ∀ manifest, manifest.lifecycle ∈ outOfService → (f manifest).lifecycle ∈ outOfService) :
    OutOfService (versions.mapValues f) key := by
  obtain ⟨manifest, found, isOut⟩ := out
  exact ⟨f manifest, by rw [Dict.get?_mapValues, found]; rfl, stays manifest isOut⟩

theorem demote_outOfService (current manifest : SkillManifest)
    (out : manifest.lifecycle ∈ outOfService) :
    (SkillRegistry.demote current manifest).lifecycle ∈ outOfService := by
  unfold SkillRegistry.demote
  split_ifs
  · exact rolledBack_outOfService manifest
  · exact out

theorem quarantine_outOfService (changed : Finset String) (manifest : SkillManifest)
    (out : manifest.lifecycle ∈ outOfService) :
    (SkillRegistry.quarantine changed manifest).lifecycle ∈ outOfService := by
  unfold SkillRegistry.quarantine
  split_ifs
  · rw [SkillManifest.lifecycle_withLifecycle]
    decide
  · exact out

/-- **A version out of service stays out of it**, unless a rollback restores it. -/
theorem OutOfService.change {registry : SkillRegistry R} {call : SkillCall R}
    {versions : Dict (String × String) SkillManifest} {key : String × String}
    (isOut : OutOfService registry.versions key) (matching : registry.KeysMatch)
    (change : VersionsChange sha256 registry call versions) :
    OutOfService versions key ∨ ∃ skillId version parent, call = .rollback skillId version ∧
      registry.Restores sha256 skillId version parent ∧ parent.key = key := by
  obtain ⟨manifest, found, out⟩ := isOut
  have isOut : OutOfService registry.versions key := ⟨manifest, found, out⟩
  cases change with
  | kept => exact Or.inl isOut
  | registered other fresh =>
    refine Or.inl (isOut.set _ ?_)
    rintro rfl
    exact absurd (Dict.mem_of_get? found) fresh
  | @moved skillId version lifecycle current updated isCurrent notActive allowed same becomes =>
    refine Or.inl (isOut.set _ ?_)
    rintro rfl
    obtain rfl : current = manifest := Option.some.inj (isCurrent.symm.trans found)
    rcases allowed with terminal | next
    · rw [becomes]
      exact terminal
    · rw [forward_outOfService out] at next
      cases next
  | @activated skillId version current updated isCurrent allowed same becomes =>
    refine Or.inl ((isOut.mapValues (demote_outOfService current)).set _ ?_)
    rintro rfl
    obtain rfl : current = manifest := Option.some.inj (isCurrent.symm.trans found)
    rw [forward_outOfService out] at allowed
    cases allowed
  | invalidated changed => exact Or.inl (isOut.mapValues (quarantine_outOfService changed))
  | @rolledBack skillId version failed isFailed alone =>
    exact Or.inl (isOut.set _ fun _ => rolledBack_outOfService failed)
  | @restored skillId version failed parent isFailed restores =>
    have between := isOut.set (skillId, version) fun _ => rolledBack_outOfService failed
    by_cases isParent : parent.key = key
    · exact Or.inr ⟨skillId, version, parent, rfl, restores, isParent⟩
    · refine Or.inl (between.set _ fun same => absurd ?_ isParent)
      exact (restores.key matching).trans same

/-- **What was withdrawn stays withdrawn exactly when no rollback restores it.** -/
theorem withdrawnStays_iff (sha256 : String → String) (calls : List (SkillCall R)) :
    WithdrawnStays sha256 calls ↔ RestoresNothingWithdrawn sha256 calls := by
  have matching : ∀ before : List (SkillCall R), (run (skillStep sha256) {} before).KeysMatch :=
    fun before => run_invariant (P := SkillRegistry.KeysMatch)
      (fun _ call kept => skillStep_keysMatch kept call) keysMatch_empty before
  constructor
  · intro stays before skillId version after split parent restores withdrawn
    -- the rollback leaves the withdrawn parent ACTIVE
    have later : WasWithdrawn sha256 (before ++ [.rollback skillId version]) parent.key := by
      obtain ⟨earlier, rest, rfl, was⟩ := withdrawn
      exact ⟨earlier, rest ++ [.rollback skillId version], List.append_assoc _ _ _, was⟩
    have change := skillStep_change sha256 (run (skillStep sha256) {} before)
      (.rollback skillId version)
    have active : ∃ manifest, (run (skillStep sha256) {}
        (before ++ [.rollback skillId version])).versions.get? parent.key = some manifest ∧
          manifest.lifecycle = .active := by
      rw [run_append, run_cons, run_nil]
      generalize (skillStep sha256 (run (skillStep sha256) {} before)
        (.rollback skillId version)).versions = versions at change ⊢
      cases change with
      | kept _ idle => exact absurd restores (idle parent)
      | rolledBack _ alone => exact absurd restores (alone parent)
      | @restored _ _ failed other _ otherRestores =>
        rw [otherRestores.unique restores, restores.key (matching before)]
        exact ⟨_, Dict.get?_set_self _ _ _, rfl⟩
    obtain ⟨manifest, found, isActive⟩ := active
    refine stays (before ++ [.rollback skillId version]) after ?_ parent.key later manifest found ?_
    · rw [split, List.append_assoc]
      rfl
    rw [isActive]
    decide
  · intro guarded before after split key withdrawn manifest found
    obtain ⟨earlier, between, rfl, was, wasStored, wasOut⟩ := withdrawn
    have out : OutOfService (run (skillStep sha256) (run (skillStep sha256) {} earlier)
        between).versions key := by
      have start : OutOfService (run (skillStep sha256) {} earlier).versions key := by
        refine ⟨was, wasStored, ?_⟩
        rcases wasOut with same | same <;> simp [same, outOfService]
      have kept : (run (skillStep sha256) (run (skillStep sha256) {} earlier) between).KeysMatch ∧
          OutOfService (run (skillStep sha256) (run (skillStep sha256) {} earlier)
            between).versions key := by
        refine run_invariant_of_trace (P := fun registry : SkillRegistry R =>
          registry.KeysMatch ∧ OutOfService registry.versions key) ⟨matching earlier, start⟩ ?_
        rintro ⟨registry, call⟩ member ⟨keys, isOut⟩
        refine ⟨skillStep_keysMatch keys call, ?_⟩
        rcases isOut.change keys (skillStep_change sha256 registry call) with
          stays | ⟨skillId, version, parent, rfl, restores, rfl⟩
        · exact stays
        · -- the rollback would restore what was withdrawn
          obtain ⟨first, rest, rfl, here⟩ := mem_trace (skillStep sha256) member
          have here : registry = run (skillStep sha256) {} (earlier ++ first) := by
            rw [run_append]
            exact here
          rw [here] at restores
          refine absurd ?_ (guarded (earlier ++ first) skillId version (rest ++ after)
            (by rw [split]; simp) parent restores)
          exact ⟨earlier, first, rfl, was, wasStored, wasOut⟩
      exact kept.2
    obtain ⟨later, isLater, isOut⟩ := out
    rw [run_append] at found
    obtain rfl : later = manifest := Option.some.inj (isLater.symm.trans found)
    intro serving
    simp only [outOfService, List.mem_cons, List.not_mem_nil, or_false] at isOut serving
    rcases isOut with same | same | same <;> rw [same] at serving <;> simp at serving

end Runs

namespace Sample

/-- A version of one skill, with the version that it replaces. -/
def skillVersion (version : String) (named : version ≠ "") (parentVersion : Option String) :
    SkillManifest where
  skillId := "skill"
  version
  tenantId := "tenant"
  name := "skill"
  procedure := ["step"]
  permissions := ∅
  domains := {"general"}
  sourceEpisodeIds := ["episode"]
  negativeEpisodeIds := []
  parentVersion
  valid := by simp [SkillManifestData.violation, named]

def first : SkillManifest := skillVersion "1" (by decide) none

def second : SkillManifest := skillVersion "2" (by decide) (some "1")

def third : SkillManifest := skillVersion "3" (by decide) (some "2")

/-- An evaluation that qualifies the manifest. -/
def evaluation (manifest : SkillManifest) : SkillEvaluation Rat where
  artifactId := "evaluation"
  skillFingerprint := manifest.fingerprint id
  heldOutTasks := 20
  baselineSuccess := 0.5
  skillSuccess := 0.8
  harmfulTransferRate := 0
  poisoningDetectionRate := 1

/-- A chain of three versions of which the first two are qualified; the second is rolled back, then
the third. -/
def revived : List (SkillCall Rat) := [
  .register first, .recordEvaluation (evaluation first), .register second,
  .recordEvaluation (evaluation second), .register third, .rollback "skill" "2",
  .rollback "skill" "3"]

/-- A qualified version is quarantined, and the version that replaced it rolled back. -/
def released : List (SkillCall Rat) := [
  .register first, .recordEvaluation (evaluation first), .transition "skill" "1" .quarantined,
  .register second, .rollback "skill" "2"]

/-- The tenant and the lifecycle that a run leaves a version of the skill with. -/
def stateAfter (calls : List (SkillCall Rat)) (version : String) :
    Option (String × String × SkillLifecycle) :=
  ((run (skillStep id) {} calls).versions.get? ("skill", version)).map fun manifest =>
    (manifest.skillId, manifest.tenantId, manifest.lifecycle)

/-- An evaluation recorded last qualifies the manifest it is about and disqualifies no other. -/
theorem qualified_of_recorded {registry : SkillRegistry Rat} {manifest about : SkillManifest}
    {earlier : Dict String (SkillEvaluation Rat)}
    (recorded : registry.evaluations = earlier.set (about.fingerprint id) (evaluation about))
    (known : manifest.fingerprint id = about.fingerprint id ∨
      SkillRegistry.qualified id { evaluations := earlier } manifest = true) :
    registry.qualified id manifest = true := by
  have promotable : (evaluation about).promotable = true := by
    simp only [SkillEvaluation.promotable, evaluation]
    norm_num
  unfold SkillRegistry.qualified at known ⊢
  rw [recorded, Dict.get?_set]
  by_cases here : manifest.fingerprint id = about.fingerprint id
  · simp only [if_pos here, promotable]
  · simpa only [if_neg here] using known.resolve_left here

/-- A version is registered and evaluated. -/
theorem run_evaluated {registry : SkillRegistry Rat} {manifest : SkillManifest}
    (fresh : manifest.key ∉ registry.versions) (rest : List (SkillCall Rat)) :
    run (skillStep id) registry
        (.register manifest :: .recordEvaluation (evaluation manifest) :: rest) =
      run (skillStep id) { registry with
        versions := registry.versions.set manifest.key manifest
        evaluations := registry.evaluations.set (manifest.fingerprint id) (evaluation manifest) }
        rest := by
  have stored := Dict.get?_set_self registry.versions manifest.key manifest
  have evaluated : skillStep id
      { registry with versions := registry.versions.set manifest.key manifest }
      (.recordEvaluation (evaluation manifest)) = _ := skillStep_recordEvaluation stored rfl
  rw [run_cons, run_cons, skillStep_register fresh, evaluated]
  rfl

/-- The registry once the first two versions of the chain are qualified. -/
def chained : SkillRegistry Rat where
  versions := ((Dict.set ∅ first.key first).set second.key second).set third.key third
  evaluations := (Dict.set ∅ (first.fingerprint id) (evaluation first)).set
    (second.fingerprint id) (evaluation second)

theorem run_chained : run (skillStep id) {} (revived.take 5) = chained := by
  have firstFresh : first.key ∉ ({} : SkillRegistry Rat).versions := Dict.get?_eq_none.mp rfl
  have secondFresh : second.key ∉ Dict.set ∅ first.key first := Dict.get?_eq_none.mp rfl
  have thirdFresh : third.key ∉ (Dict.set ∅ first.key first).set second.key second :=
    Dict.get?_eq_none.mp rfl
  show run (skillStep id) {} [.register first, .recordEvaluation (evaluation first),
    .register second, .recordEvaluation (evaluation second), .register third] = _
  rw [run_evaluated firstFresh, run_evaluated secondFresh, run_cons, skillStep_register thirdFresh]
  rfl

/-- The second version of the chain is rolled back. -/
def firstRestored : SkillRegistry Rat :=
  { chained with versions := (chained.versions.set second.key
      (second.withLifecycle .rolledBack)).set first.key (first.withLifecycle .active) }

/-- The third version is rolled back as well, so that both parents are restored. -/
theorem versions_revived : (run (skillStep id) {} revived).versions =
    (firstRestored.versions.set third.key (third.withLifecycle .rolledBack)).set second.key
      ((second.withLifecycle .rolledBack).withLifecycle .active) := by
  have firstQualified : chained.qualified id first = true :=
    qualified_of_recorded rfl (.inr (qualified_of_recorded rfl (.inl rfl)))
  have isSecond : chained.versions.get? ("skill", "2") = some second := rfl
  have secondBack : skillStep id chained (.rollback "skill" "2") = firstRestored :=
    skillStep_rollback isSecond rfl rfl firstQualified
  have secondQualified : firstRestored.qualified id (second.withLifecycle .rolledBack) = true :=
    qualified_of_recorded rfl (.inl rfl)
  have isThird : firstRestored.versions.get? ("skill", "3") = some third := rfl
  have thirdBack : skillStep id firstRestored (.rollback "skill" "3") = _ :=
    skillStep_rollback isThird rfl rfl secondQualified
  have split : revived = revived.take 5 ++ [.rollback "skill" "2", .rollback "skill" "3"] := rfl
  rw [split, run_append, run_chained, run_cons, run_cons, run_nil, secondBack, thirdBack]
  rfl

/-- The registry once the first version is quarantined. -/
def quarantined : SkillRegistry Rat where
  versions := (Dict.set ∅ first.key first).set first.key (first.withLifecycle .quarantined)
  evaluations := Dict.set ∅ (first.fingerprint id) (evaluation first)

theorem run_quarantined : run (skillStep id) {} (released.take 3) = quarantined := by
  have fresh : first.key ∉ ({} : SkillRegistry Rat).versions := Dict.get?_eq_none.mp rfl
  show run (skillStep id) {} [.register first, .recordEvaluation (evaluation first),
    .transition "skill" "1" .quarantined] = _
  rw [run_evaluated fresh, run_cons, run_nil]
  exact congrArg Prod.fst (transition_withdrawn id (by simp) (Dict.get?_set_self ∅ first.key first))

/-- The version that replaced it is rolled back, and the first one restored. -/
theorem versions_released : (run (skillStep id) {} released).versions =
    ((quarantined.versions.set second.key second).set second.key
      (second.withLifecycle .rolledBack)).set first.key
        ((first.withLifecycle .quarantined).withLifecycle .active) := by
  have fresh : second.key ∉ quarantined.versions := Dict.get?_eq_none.mp rfl
  have qualified : SkillRegistry.qualified id
      { quarantined with versions := quarantined.versions.set second.key second }
      (first.withLifecycle .quarantined) = true := qualified_of_recorded rfl (.inl rfl)
  have isSecond := Dict.get?_set_self quarantined.versions second.key second
  have split : released = released.take 3 ++ [.register second, .rollback "skill" "2"] := rfl
  rw [split, run_append, run_quarantined, run_cons, run_cons, run_nil, skillStep_register fresh]
  exact congrArg SkillRegistry.versions (skillStep_rollback isSecond rfl rfl qualified)

end Sample

theorem rollback_leaves_two_active : ¬ ∀ before after, Sample.revived = before ++ after →
    ActiveUnique (run (skillStep id) {} before).versions := by
  intro unique
  have both : ["1", "2"].map (Sample.stateAfter Sample.revived) =
      [some ("skill", "tenant", .active), some ("skill", "tenant", .active)] := by
    simp only [List.map_cons, List.map_nil, Sample.stateAfter, Sample.versions_revived]
    rfl
  obtain ⟨firstState, rest⟩ := List.cons.inj both
  obtain ⟨first, isFirst, firstShown⟩ := Option.map_eq_some_iff.mp firstState
  obtain ⟨second, isSecond, secondShown⟩ := Option.map_eq_some_iff.mp (List.cons.inj rest).1
  simp only [Prod.mk.injEq] at firstShown secondShown
  have same := unique Sample.revived [] (List.append_nil _).symm _ _ _ _ isFirst isSecond
    firstShown.2.2 secondShown.2.2 ⟨firstShown.1.trans secondShown.1.symm,
      firstShown.2.1.trans secondShown.2.1.symm⟩
  exact absurd same (by decide)

theorem rollback_releases_quarantined : ¬ WithdrawnStays id Sample.released := by
  intro stays
  have quarantined : Sample.stateAfter (Sample.released.take 3) "1" =
      some ("skill", "tenant", .quarantined) := by
    rw [Sample.stateAfter, Sample.run_quarantined]
    rfl
  have active : Sample.stateAfter Sample.released "1" = some ("skill", "tenant", .active) := by
    rw [Sample.stateAfter, Sample.versions_released]
    rfl
  obtain ⟨_, isQuarantined, wasShown⟩ := Option.map_eq_some_iff.mp quarantined
  obtain ⟨_, isActive, nowShown⟩ := Option.map_eq_some_iff.mp active
  simp only [Prod.mk.injEq] at wasShown nowShown
  refine stays Sample.released [] (List.append_nil _).symm ("skill", "1") ?_ _ isActive ?_
  · exact ⟨Sample.released.take 3, Sample.released.drop 3, rfl, _, isQuarantined,
      Or.inl wasShown.2.2⟩
  · rw [nowShown.2.2]
    decide

end Dnc.Memory
