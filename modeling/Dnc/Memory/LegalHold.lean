/-
**Legal hold over runs.**

A record stored under legal hold is to stay as it was stored. `delete` refuses it, and a restore
brings the records of the snapshot back; `invalidate_dependencies` does not look at the hold.

The law is one of the way to the current memory: `held` are the records under legal hold that were
stored on it, and a restore continues on the way that led to its snapshot. `legalHold_iff`: all of
them are in place in every state of a run exactly when no invalidation finds a record under legal
hold that depends on what has changed.
-/

import Dnc.Logic.Run
import Dnc.Memory.Stores

namespace Dnc.Memory

open PyLib Logic

section Hold

variable {C R : Type} [PyFloat R]

/-- A memory with the records under legal hold that were stored on the way to it. -/
structure HeldMemory (C R : Type) [PyFloat R] where
  memory : GovernedMemory C R := {}
  held : List (MemoryRecord C R) := []

/-- A snapshot that was taken, with the records that were held then. -/
structure HeldSnapshot (C R : Type) [PyFloat R] where
  state : Dict String (List (MemoryRecord C R))
  held : List (MemoryRecord C R)

structure MemoryRun (C R : Type) [PyFloat R] where
  current : HeldMemory C R := {}
  snapshots : List (HeldSnapshot C R) := []

/-- A call on the memory; a restore names one of the snapshots taken before. -/
inductive MemoryCall (C R : Type) [PyFloat R] where
  | put (record : MemoryRecord C R)
  | delete (kind : MemoryKind) (recordId tenantId : String)
  | invalidateDependencies (changed : Finset String)
  | retrieve (kind : MemoryKind) (request : Retrieval C R)
  | snapshot
  | restore (index : Nat)

/-- One call as a step; a call that raises changes nothing, and `retrieve` only reads. -/
def memoryStep (state : MemoryRun C R) : MemoryCall C R → MemoryRun C R
  | .put record =>
    match state.current.memory.put record with
    | .error _ => state
    | .ok memory =>
      let held := if record.legalHold then record :: state.current.held else state.current.held
      { state with current := { memory, held } }
  | .delete kind recordId tenantId =>
    match state.current.memory.delete kind recordId tenantId with
    | .error _ => state
    | .ok memory => { state with current := { state.current with memory } }
  | .invalidateDependencies changed =>
    let memory := (state.current.memory.invalidateDependencies changed).1
    { state with current := { state.current with memory } }
  | .retrieve _ _ => state
  | .snapshot =>
    let taken := { state := state.current.memory.snapshot, held := state.current.held }
    { state with snapshots := state.snapshots ++ [taken] }
  | .restore index =>
    match state.snapshots[index]? with
    | none => state
    | some taken =>
      match GovernedMemory.restore taken.state with
      | .error _ => state
      | .ok memory => { state with current := { memory, held := taken.held } }

/-- **Every record that was stored under legal hold is in place**, with all of its fields. -/
def HeldMemory.InPlace (current : HeldMemory C R) : Prop :=
  ∀ record ∈ current.held, current.memory.lookup record.kind record.recordId = some record

/-- An invalidation finds no record under legal hold that depends on what has changed. -/
def SparesHeld (entry : MemoryRun C R × MemoryCall C R) : Prop :=
  match entry.2 with
  | .invalidateDependencies changed =>
    ∀ kind recordId record, entry.1.current.memory.lookup kind recordId = some record →
      record.legalHold = true → ¬ MemoryStore.dependent changed record
  | _ => True

/-! ### What is held is what is stored under legal hold -/

def HeldMemory.Exact (current : HeldMemory C R) : Prop :=
  ∀ record, record ∈ current.held ↔
    record.legalHold = true ∧ current.memory.lookup record.kind record.recordId = some record

theorem HeldMemory.Exact.inPlace {current : HeldMemory C R} (exactly : current.Exact) :
    current.InPlace := fun record member => ((exactly record).mp member).2

namespace HeldMemory.Exact

variable {current : HeldMemory C R} {memory : GovernedMemory C R}

/-- Memories in which every lookup finds the same. -/
theorem of_same (exactly : current.Exact)
    (same : ∀ kind recordId, memory.lookup kind recordId = current.memory.lookup kind recordId) :
    HeldMemory.Exact { memory, held := current.held } := by
  intro record
  rw [same]
  exact exactly record

theorem put (exactly : current.Exact) {record : MemoryRecord C R}
    (stored : current.memory.put record = .ok memory) :
    HeldMemory.Exact
      { memory, held := if record.legalHold then record :: current.held else current.held } := by
  obtain ⟨fresh, found⟩ := GovernedMemory.put_eq_ok stored
  intro other
  show other ∈ (if record.legalHold then record :: current.held else current.held) ↔ _
  rw [found]
  by_cases here : other.kind = record.kind ∧ other.recordId = record.recordId
  · -- nothing was stored under the key of the new record
    have notHeld : other ∉ current.held := by
      intro member
      have was := ((exactly other).mp member).2
      rw [here.1, here.2, fresh] at was
      cases was
    rw [if_pos here, Option.some.injEq]
    constructor
    · intro member
      split_ifs at member with holds
      · rcases List.mem_cons.mp member with rfl | old
        · exact ⟨holds, rfl⟩
        · exact absurd old notHeld
      · exact absurd member notHeld
    · rintro ⟨holds, rfl⟩
      rw [if_pos holds]
      exact List.mem_cons_self
  · rw [if_neg here, ← exactly other]
    split_ifs with holds
    · rw [List.mem_cons]
      refine ⟨fun member => member.resolve_left ?_, Or.inr⟩
      rintro rfl
      exact here ⟨rfl, rfl⟩
    · exact Iff.rfl

theorem delete (exactly : current.Exact) {kind : MemoryKind} {recordId tenantId : String}
    (deleted : current.memory.delete kind recordId tenantId = .ok memory) :
    HeldMemory.Exact { memory, held := current.held } := by
  obtain ⟨record, stored, free, found⟩ := GovernedMemory.delete_eq_ok deleted
  intro other
  rw [exactly other, found]
  by_cases here : other.kind = kind ∧ other.recordId = recordId
  · -- neither the record that was deleted nor its tombstone is under legal hold
    rw [if_pos here, here.1, here.2, stored]
    refine and_congr_right fun holds => iff_of_false ?_ ?_
    · rintro ⟨⟩
      rw [free] at holds
      cases holds
    · rintro ⟨⟩
      rw [MemoryRecord.legalHold_tombstone, free] at holds
      cases holds
  · rw [if_neg here]

theorem invalidate (exactly : current.Exact) {changed : Finset String}
    (spared : ∀ kind recordId record, current.memory.lookup kind recordId = some record →
      record.legalHold = true → ¬ MemoryStore.dependent changed record) :
    HeldMemory.Exact
      { memory := (current.memory.invalidateDependencies changed).1, held := current.held } := by
  intro record
  rw [exactly record, GovernedMemory.lookup_invalidate, Option.map_eq_some_iff]
  refine and_congr_right fun holds => ⟨fun stored => ⟨record, stored, ?_⟩, ?_⟩
  · exact if_neg (spared _ _ _ stored holds)
  · rintro ⟨origin, stored, became⟩
    have wasHeld : origin.legalHold = true := by
      rw [← became] at holds
      unfold MemoryStore.buried at holds
      split_ifs at holds
      · exact holds
      · exact holds
    rw [MemoryStore.buried, if_neg (spared _ _ _ stored wasHeld)] at became
    rw [became] at stored
    exact stored

/-- An invalidation that leaves what is held in place has spared it. -/
theorem spared_of_inPlace (exactly : current.Exact) {changed : Finset String}
    (inPlace : HeldMemory.InPlace
      { memory := (current.memory.invalidateDependencies changed).1, held := current.held })
    {kind : MemoryKind} {recordId : String} {record : MemoryRecord C R}
    (stored : current.memory.lookup kind recordId = some record) (holds : record.legalHold = true) :
    ¬ MemoryStore.dependent changed record := by
  intro depends
  obtain ⟨own, ofKind⟩ := (current.memory.store kind).keyed recordId record stored
  have member : record ∈ current.held := by
    rw [exactly record, own, ofKind]
    exact ⟨holds, stored⟩
  have stays := inPlace record member
  rw [GovernedMemory.lookup_invalidate, own, ofKind, stored, Option.map_some, Option.some.injEq,
    MemoryStore.buried, if_pos depends] at stays
  have live : record.tombstone.deleted = false := stays.symm ▸ depends.1
  cases live

end HeldMemory.Exact

/-! ### Runs -/

/-- What holds of the current memory holds of every snapshot taken. -/
structure MemoryRun.Exact (state : MemoryRun C R) : Prop where
  current : state.current.Exact
  snapshots : ∀ taken ∈ state.snapshots, ∃ memory : GovernedMemory C R,
    taken.state = memory.snapshot ∧ HeldMemory.Exact { memory, held := taken.held }

theorem MemoryRun.exact_empty : ({} : MemoryRun C R).Exact where
  current _ := ⟨fun member => absurd member List.not_mem_nil, fun both => nomatch both.2⟩
  snapshots _ member := absurd member List.not_mem_nil

theorem memoryStep_exact {state : MemoryRun C R} (exactly : state.Exact) {call : MemoryCall C R}
    (spared : SparesHeld (state, call)) : (memoryStep state call).Exact := by
  cases call with
  | put record =>
    cases stored : state.current.memory.put record with
    | error error =>
      simp only [memoryStep, stored]
      exact exactly
    | ok memory =>
      simp only [memoryStep, stored]
      exact ⟨exactly.current.put stored, exactly.snapshots⟩
  | delete kind recordId tenantId =>
    cases deleted : state.current.memory.delete kind recordId tenantId with
    | error error =>
      simp only [memoryStep, deleted]
      exact exactly
    | ok memory =>
      simp only [memoryStep, deleted]
      exact ⟨exactly.current.delete deleted, exactly.snapshots⟩
  | invalidateDependencies changed => exact ⟨exactly.current.invalidate spared, exactly.snapshots⟩
  | retrieve kind request => exact exactly
  | snapshot =>
    refine ⟨exactly.current, fun taken member => ?_⟩
    rcases List.mem_append.mp member with old | new
    · exact exactly.snapshots taken old
    · rw [List.mem_singleton.mp new]
      exact ⟨state.current.memory, rfl, exactly.current⟩
  | restore index =>
    cases found : state.snapshots[index]? with
    | none =>
      simp only [memoryStep, found]
      exact exactly
    | some taken =>
      obtain ⟨captured, same, exactThen⟩ := exactly.snapshots taken (List.mem_of_getElem? found)
      obtain ⟨restored, ran, lookups⟩ := captured.restore_snapshot
      simp only [memoryStep, found, same, ran]
      exact ⟨exactThen.of_same lookups, exactly.snapshots⟩

/-- **One call leaves what is held in place exactly when it spares it.** -/
theorem inPlace_step_iff {state : MemoryRun C R} (exactly : state.Exact) (call : MemoryCall C R) :
    (memoryStep state call).current.InPlace ↔ SparesHeld (state, call) := by
  refine ⟨fun inPlace => ?_, fun spared => (memoryStep_exact exactly spared).current.inPlace⟩
  cases call with
  | invalidateDependencies changed =>
    exact fun kind recordId record stored holds =>
      exactly.current.spared_of_inPlace inPlace stored holds
  | _ => trivial

/-- **Legal hold is honoured throughout a run exactly when every invalidation spares what is held.** -/
theorem legalHold_iff (calls : List (MemoryCall C R)) :
    (∀ before after, calls = before ++ after → (run memoryStep {} before).current.InPlace) ↔
      ∀ entry ∈ trace memoryStep {} calls, SparesHeld entry := by
  have initial : ({} : MemoryRun C R).current.InPlace := MemoryRun.exact_empty.current.inPlace
  refine (forall_reached_iff (P := fun state : MemoryRun C R => state.current.InPlace)).trans ?_
  rw [and_iff_right initial]
  exact trace_law_iff (P := MemoryRun.Exact) MemoryRun.exact_empty
    (fun _ _ exactly spared => memoryStep_exact exactly spared)
    fun _ call exactly => inPlace_step_iff exactly call

end Hold

namespace Sample

/-- A record under legal hold that depends on a model. -/
def heldRecord : MemoryRecord String Rat where
  recordId := "held"
  kind := .semantic
  tenantId := "tenant"
  content := some "evidence"
  provenance := ["source"]
  legalHold := true
  dependencies := ["model"]
  valid := by decide +kernel

end Sample

theorem invalidation_buries_held : ¬ ∀ before after,
    [MemoryCall.put Sample.heldRecord, .invalidateDependencies {"model"}] = before ++ after →
      (run memoryStep {} before).current.InPlace := by
  intro honoured
  have inPlace := honoured _ [] (List.append_nil _).symm Sample.heldRecord List.mem_cons_self
  have live := congrArg (Option.map fun record => record.deleted) inPlace
  revert live
  decide +kernel

end Dnc.Memory
