/-
**Execution states and checkpoints.**

`dnc.state.execution_state` and `dnc.state.checkpoint`. A checkpoint holds a snapshot of the state,
and the snapshot the checkpoints before it. The snapshot is a dictionary in the source; the field
`budgetRemaining` is the value of its key `budget_remaining`, where it has one.

The components of a state are typed, so the checks for `None` find nothing. A copy of a value is the
value; the deep copies of the source keep later changes away from a snapshot.
-/

import Dnc.Scheduler.Scheduler

namespace Dnc.Runtime

open PyLib

/-! ### Snapshots and checkpoints -/

/-- The dictionary of `ExecutionState.to_dict`, over the checkpoint record `γ`. -/
structure Snapshot (R α γ : Type) where
  W : WorkingMemory α
  M : Dict String (ModuleSnapshot R)
  C : γ
  H : HistoryLog α
  stepIndex : Nat
  executionId : String
  rngState : Int
  G : Option Scheduler
  budgetRemaining : Option R

inductive Checkpoint (R α : Type) where
  | mk (stepIndex : Nat) (executionId : String) (esSnapshot : Snapshot R α (List (Checkpoint R α)))
    (provenanceRef : String) (isValid : Bool)

namespace Checkpoint

variable {R α : Type}

def esSnapshot : Checkpoint R α → Snapshot R α (List (Checkpoint R α))
  | mk _ _ snapshot _ _ => snapshot

def stepIndex : Checkpoint R α → Nat
  | mk stepIndex _ _ _ _ => stepIndex

def isValid : Checkpoint R α → Bool
  | mk _ _ _ _ isValid => isValid

/-- `Checkpoint.take`. -/
def take (stepIndex : Nat) (executionId : String)
    (esSnapshot : Snapshot R α (List (Checkpoint R α))) (provenanceRef : String) : Checkpoint R α :=
  mk stepIndex executionId esSnapshot provenanceRef false

/-- `Checkpoint.validate`: on typed components no check fails. -/
def validate : Checkpoint R α → Checkpoint R α
  | mk stepIndex executionId snapshot provenanceRef _ =>
    mk stepIndex executionId snapshot provenanceRef true

@[simp] theorem esSnapshot_validate (checkpoint : Checkpoint R α) :
    checkpoint.validate.esSnapshot = checkpoint.esSnapshot := by
  cases checkpoint
  rfl

/-- A checkpoint is not among the checkpoints of its own snapshot. -/
theorem not_mem_own_record (checkpoint : Checkpoint R α) :
    checkpoint ∉ checkpoint.esSnapshot.C := by
  intro inside
  have smaller := List.sizeOf_lt_of_mem inside
  obtain ⟨stepIndex, executionId, ⟨W, M, C, H, step, id, rng, G, budget⟩, ref, valid⟩ := checkpoint
  simp only [esSnapshot, Checkpoint.mk.sizeOf_spec, Snapshot.mk.sizeOf_spec] at smaller
  omega

end Checkpoint

/-! ### The checkpoint record -/

section Record

variable {R α : Type}

/-- `CheckpointRecord.MAX_CHECKPOINTS`. -/
def maxCheckpoints : Nat := 100

/-- `CheckpointRecord.add`. -/
def addCheckpoint (record : List (Checkpoint R α)) (checkpoint : Checkpoint R α) :
    Except Raised (List (Checkpoint R α)) :=
  if checkpoint.isValid = false then .error (.invalidCheckpoint checkpoint.stepIndex)
  else
    let added := record ++ [checkpoint]
    .ok (if added.length > maxCheckpoints then added.tail else added)

/-- `CheckpointRecord.latest`. -/
def latestCheckpoint (record : List (Checkpoint R α)) : Option (Checkpoint R α) := record.getLast?

/-- The checkpoint that was added is the latest one. -/
theorem latest_addCheckpoint {record next : List (Checkpoint R α)} {checkpoint : Checkpoint R α}
    (added : addCheckpoint record checkpoint = .ok next) :
    latestCheckpoint next = some checkpoint := by
  unfold addCheckpoint at added
  split_ifs at added
  obtain rfl := Except.ok.inj added
  unfold latestCheckpoint
  split_ifs with full
  · rw [List.getLast?_tail, List.getLast?_concat]
    have long : ¬ (record ++ [checkpoint]).length = 1 := by
      unfold maxCheckpoints at full
      omega
    rw [if_neg long]
  · rw [List.getLast?_concat]

/-- What is in a record after an addition was there before, or is what was added. -/
theorem mem_of_addCheckpoint {record next : List (Checkpoint R α)}
    {checkpoint other : Checkpoint R α} (added : addCheckpoint record checkpoint = .ok next)
    (member : other ∈ next) : other ∈ record ∨ other = checkpoint := by
  unfold addCheckpoint at added
  split_ifs at added
  obtain rfl := Except.ok.inj added
  have listed : other ∈ record ++ [checkpoint] := by
    split_ifs at member
    · exact List.mem_of_mem_tail member
    · exact member
  exact (List.mem_append.mp listed).imp_right List.mem_singleton.mp

theorem addCheckpoint_validate (record : List (Checkpoint R α)) (checkpoint : Checkpoint R α) :
    ∃ next, addCheckpoint record checkpoint.validate = .ok next := by
  cases checkpoint
  exact ⟨_, rfl⟩

end Record

/-! ### The state -/

structure ExecutionState (R α : Type) where
  stepIndex : Nat
  executionId : String
  rngState : Int
  W : WorkingMemory α
  M : Dict String (ModuleSnapshot R)
  C : List (Checkpoint R α)
  H : HistoryLog α
  G : Option Scheduler
  budgetRemaining : R

namespace ExecutionState

variable {R α : Type} [PyFloat R]

/-- `ExecutionState()` with the identifier that it generates. -/
def new (executionId : String) : ExecutionState R α where
  stepIndex := 0
  executionId := executionId
  rngState := 0
  W := ∅
  M := ∅
  C := []
  H := {}
  G := none
  budgetRemaining := 1.0

/-- `ExecutionState.pending_count`. -/
def pendingCount (es : ExecutionState R α) : Nat :=
  if es.W.length = 0 then 1
  else (es.W.keys.filter fun instanceId => !es.W.isComplete instanceId).length

/-- `ExecutionState.advance_step`. -/
def advanceStep (es : ExecutionState R α) : ExecutionState R α :=
  { es with stepIndex := es.stepIndex + 1 }

/-- `ExecutionState.to_dict`. -/
def toDict (es : ExecutionState R α) : Snapshot R α (List (Checkpoint R α)) where
  W := es.W
  M := es.M
  C := es.C
  H := es.H
  stepIndex := es.stepIndex
  executionId := es.executionId
  rngState := es.rngState
  G := es.G
  budgetRemaining := none

/-- `ExecutionState.from_dict`. -/
def fromDict (data : Snapshot R α (List (Checkpoint R α))) : ExecutionState R α where
  stepIndex := data.stepIndex
  executionId := data.executionId
  rngState := data.rngState
  W := data.W
  M := data.M
  C := data.C
  H := data.H
  G := data.G
  budgetRemaining := data.budgetRemaining.getD 1.0

/-- `check_invariants`: what it raises, if anything. The components are typed, and a step index is
not negative. -/
def checkInvariants (es : ExecutionState R α) : Option Raised :=
  match es.G with
  | some sched =>
    if sched.inDegree.length = 0 then
      some (.invariantViolation "INV-2: execution graph has no nodes")
    else if sched.hasCycle then
      some (.invariantViolation "INV-2: execution graph contains a cycle. G must be a DAG.")
    else recordViolation es
  | none => recordViolation es
where
  recordViolation (es : ExecutionState R α) : Option Raised :=
    if es.C.length > 100 then
      some (.invariantViolation
        "INV-STATE-3: Checkpoint record length exceeds MAX_CHECKPOINTS=100")
    else none

end ExecutionState

end Dnc.Runtime
