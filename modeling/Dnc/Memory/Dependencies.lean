/-
**What depends on a changed fingerprint.**

A dependency names a fingerprint or another record, so a record depends on the changed fingerprints
along chains of records of any length (`DependsOn`). `invalidate_dependencies` makes one pass and
asks each record for a changed fingerprint among its own dependencies.

* `invalidatesDependents_iff`: after it no live record without legal hold depends on what has
  changed, and everything else is as it was, exactly when no such record depended on it through
  other records only.

The pass changes no id and no dependency, so it changes nothing about who depends on what
(`dependsOn_invalidate`).
-/

import Dnc.Memory.Compression
import Dnc.Memory.Stores

namespace Dnc.Memory

open PyLib Logic

section Dependencies

variable {C R : Type} [PyFloat R]

/-- **A record depends on the changed fingerprints**: one of its dependencies is among them, or is
the id of a stored record that depends on them. -/
inductive DependsOn (memory : GovernedMemory C R) (changed : Finset String) :
    MemoryRecord C R → Prop
  | direct {record : MemoryRecord C R} {dependency : String}
      (listed : dependency ∈ record.dependencies) (isChanged : dependency ∈ changed) :
      DependsOn memory changed record
  | derived {record source : MemoryRecord C R} {kind : MemoryKind} {dependency : String}
      (listed : dependency ∈ record.dependencies)
      (stored : memory.lookup kind dependency = some source)
      (depends : DependsOn memory changed source) : DependsOn memory changed record

/-- What an invalidation of everything that depends on the change would do. -/
structure InvalidatesDependents (memory : GovernedMemory C R) (changed : Finset String) : Prop where
  gone : ∀ kind recordId record,
    (memory.invalidateDependencies changed).1.lookup kind recordId = some record →
      record.deleted = false → record.legalHold = false →
        ¬ DependsOn (memory.invalidateDependencies changed).1 changed record
  kept : ∀ kind recordId record, memory.lookup kind recordId = some record →
    ¬ DependsOn memory changed record →
      (memory.invalidateDependencies changed).1.lookup kind recordId = some record

/-- No live record without legal hold depends on the change through other records only: one that
names a record that depends on it has a changed fingerprint among its own dependencies. -/
def DependsDirectly (memory : GovernedMemory C R) (changed : Finset String) : Prop :=
  ∀ kind recordId record, memory.lookup kind recordId = some record →
    record.deleted = false → record.legalHold = false →
    ∀ dependency ∈ record.dependencies, ∀ sourceKind source,
      memory.lookup sourceKind dependency = some source → DependsOn memory changed source →
        ∃ own ∈ record.dependencies, own ∈ changed

variable {memory : GovernedMemory C R} {changed : Finset String}

theorem dependencies_buried (record : MemoryRecord C R) :
    (MemoryStore.buried changed record).dependencies = record.dependencies := by
  unfold MemoryStore.buried
  split_ifs <;> rfl

/-- **An invalidation does not change who depends on what.** -/
theorem dependsOn_invalidate {record other : MemoryRecord C R}
    (same : other.dependencies = record.dependencies) :
    DependsOn (memory.invalidateDependencies changed).1 changed other ↔
      DependsOn memory changed record := by
  constructor
  · intro depends
    induction depends generalizing record with
    | direct listed isChanged => exact .direct (same ▸ listed) isChanged
    | @derived other source kind dependency listed stored _ ih =>
      rw [GovernedMemory.lookup_invalidate] at stored
      obtain ⟨origin, found, rfl⟩ := Option.map_eq_some_iff.mp stored
      exact .derived (same ▸ listed) found (ih (dependencies_buried origin))
  · intro depends
    induction depends generalizing other with
    | direct listed isChanged => exact .direct (same.symm ▸ listed) isChanged
    | @derived record source kind dependency listed stored _ ih =>
      have buried : (memory.invalidateDependencies changed).1.lookup kind dependency =
          some (MemoryStore.buried changed source) := by
        rw [GovernedMemory.lookup_invalidate, stored]
        rfl
      exact .derived (same.symm ▸ listed) buried (ih (dependencies_buried source))

/-- A record without a changed fingerprint of its own stays as it is. -/
theorem lookup_invalidate_of_indirect {kind : MemoryKind} {recordId : String}
    {record : MemoryRecord C R} (stored : memory.lookup kind recordId = some record)
    (indirect : ¬ ∃ own ∈ record.dependencies, own ∈ changed) :
    (memory.invalidateDependencies changed).1.lookup kind recordId = some record := by
  rw [GovernedMemory.lookup_invalidate, stored, Option.map_some, MemoryStore.buried,
    if_neg fun dependent => indirect dependent.2]

/-- A record that is live after an invalidation was not touched by it. -/
theorem live_after_invalidate {kind : MemoryKind} {recordId : String} {record : MemoryRecord C R}
    (stored : (memory.invalidateDependencies changed).1.lookup kind recordId = some record)
    (live : record.deleted = false) :
    memory.lookup kind recordId = some record ∧ ¬ ∃ own ∈ record.dependencies, own ∈ changed := by
  rw [GovernedMemory.lookup_invalidate] at stored
  obtain ⟨origin, found, rfl⟩ := Option.map_eq_some_iff.mp stored
  unfold MemoryStore.buried at live ⊢
  by_cases dependent : MemoryStore.dependent changed origin
  · rw [if_pos dependent] at live
    cases live
  · rw [if_neg dependent] at live ⊢
    exact ⟨found, fun own => dependent ⟨live, own⟩⟩

/-- **An invalidation reaches every dependent exactly when each depends on the change directly.** -/
theorem invalidatesDependents_iff (memory : GovernedMemory C R) (changed : Finset String) :
    InvalidatesDependents memory changed ↔ DependsDirectly memory changed := by
  constructor
  · intro complete kind recordId record stored live free dependency listed sourceKind source isSource
      depends
    by_contra indirect
    have stays := lookup_invalidate_of_indirect stored indirect
    refine complete.gone kind recordId record stays live free ?_
    exact (dependsOn_invalidate rfl).mpr (.derived listed isSource depends)
  · intro directly
    refine ⟨fun kind recordId record stored live free depends => ?_,
      fun kind recordId record stored independent => ?_⟩
    · obtain ⟨found, indirect⟩ := live_after_invalidate stored live
      refine indirect ?_
      cases (dependsOn_invalidate rfl).mp depends with
      | direct listed isChanged => exact ⟨_, listed, isChanged⟩
      | derived listed isSource depends =>
        exact directly kind recordId record found live free _ listed _ _ isSource depends
    · refine lookup_invalidate_of_indirect stored ?_
      rintro ⟨own, listed, isChanged⟩
      exact independent (.direct listed isChanged)

end Dependencies

/-! ### A summary of an invalidated record -/

namespace Sample

/-- A record that depends on a model. -/
def episode : MemoryRecord String Rat where
  recordId := "episode"
  kind := .episodic
  tenantId := "tenant"
  content := some "outcome"
  provenance := ["run"]
  dependencies := ["model"]
  valid := by decide +kernel

/-- What `compress_records` makes of it. -/
def digest : MemoryRecord String Rat where
  toMemoryRecordData := compressedData episode [] "digest" (some "summary")
  valid := by decide +kernel

/-- The memory that holds both. -/
def memory : GovernedMemory String Rat :=
  (GovernedMemory.withStore {} .episodic (MemoryStore.assign {} episode rfl)).withStore .semantic
    (MemoryStore.assign {} digest rfl)

end Sample

/-- The summary of a record that depends on a model outlives the change of the model. -/
theorem digest_survives : ¬ ∀ (memory : GovernedMemory String Rat) (changed : Finset String),
    InvalidatesDependents memory changed := by
  intro complete
  have directly := (invalidatesDependents_iff Sample.memory {"model"}).mp (complete _ _)
  have depends : DependsOn Sample.memory {"model"} Sample.episode :=
    .direct List.mem_cons_self (Finset.mem_singleton_self _)
  obtain ⟨own, listed, isChanged⟩ := directly .semantic "digest" Sample.digest rfl rfl rfl "episode"
    List.mem_cons_self .episodic Sample.episode rfl depends
  rw [List.mem_singleton.mp listed, Finset.mem_singleton] at isChanged
  exact absurd isChanged (by decide)

end Dnc.Memory
