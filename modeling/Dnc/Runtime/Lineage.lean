/-
**A state and its checkpoints.**

A rollback brings back the working memory and the scheduler of a checkpoint, and with them the
checkpoints before it. An invariant of the two that is to survive rollbacks is therefore one of the
state, of its checkpoints, of theirs, and so on: `ExecutionState.Every`.

`act_every` is the rule: the invariant survives every action of the control loop if dispatches keep
it and the graphs that replans install establish it.
-/

import Dnc.Logic.Run
import Dnc.Runtime.Loop
import Dnc.Runtime.Replan

namespace Dnc.Runtime

open PyLib

section Lineage

variable {R α : Type}

/-- The property holds of the snapshot of a checkpoint, and of the checkpoints in it. -/
inductive Checkpoint.Every (P : WorkingMemory α → Option Scheduler → Prop) :
    Checkpoint R α → Prop
  | intro {checkpoint : Checkpoint R α}
      (here : P checkpoint.esSnapshot.W checkpoint.esSnapshot.G)
      (below : ∀ inner ∈ checkpoint.esSnapshot.C, inner.Every P) : checkpoint.Every P

/-- The property holds of a state and of its checkpoints. -/
structure ExecutionState.Every (P : WorkingMemory α → Option Scheduler → Prop)
    (es : ExecutionState R α) : Prop where
  here : P es.W es.G
  below : ∀ checkpoint ∈ es.C, checkpoint.Every P

variable {P : WorkingMemory α → Option Scheduler → Prop} {es next : ExecutionState R α}

theorem ExecutionState.Every.of_record (every : es.Every P) (record : next.C = es.C)
    (here : P next.W next.G) : next.Every P where
  here := here
  below checkpoint member := every.below checkpoint (record ▸ member)

theorem ExecutionState.Every.fromDict [PyFloat R] {checkpoint : Checkpoint R α}
    (every : checkpoint.Every P) :
    (ExecutionState.fromDict checkpoint.esSnapshot : ExecutionState R α).Every P := by
  obtain ⟨here, below⟩ := every
  exact ⟨here, below⟩

theorem Checkpoint.Every.of_snapshot {checkpoint : Checkpoint R α} (every : es.Every P)
    (snapshot : checkpoint.esSnapshot = es.toDict) : checkpoint.Every P := by
  refine ⟨?_, ?_⟩
  · rw [snapshot]
    exact every.here
  · rw [snapshot]
    exact every.below

end Lineage

namespace Session

variable {R α π ω : Type} [PyFloat R] {interpreter : Interpreter α}
  {P : WorkingMemory α → Option Scheduler → Prop} {session : Session R α π ω}

omit [PyFloat R] in
theorem checkpointed_every (every : session.es.Every P) : session.checkpointed.es.Every P := by
  let counted : Session R α π ω :=
    { session with runtime.replanCount := session.runtime.replanCount + 1 }
  obtain ⟨record, added⟩ := addCheckpoint_validate counted.es.C (Checkpoint.take
    counted.es.stepIndex counted.es.executionId counted.es.toDict "PRE_REPLAN")
  have taken : session.checkpointed = { counted with es.C := record } := by
    unfold checkpointed takeCheckpoint
    dsimp only
    rw [added]
  rw [taken]
  refine ⟨every.here, fun checkpoint member => ?_⟩
  rcases mem_of_addCheckpoint added member with old | new
  · exact every.below checkpoint old
  · refine Checkpoint.Every.of_snapshot every ?_
    rw [new, Checkpoint.esSnapshot_validate]
    rfl

theorem rollback_every (every : session.es.Every P) :
    session.rollbackToCheckpoint.2.es.Every P := by
  rw [session.rollbackToCheckpoint_eq]
  cases latest : latestCheckpoint session.es.C with
  | none => exact every
  | some checkpoint =>
    exact ExecutionState.Every.fromDict (every.below checkpoint (List.mem_of_getLast? latest))

variable (interpreter) in
/-- **Actions keep what dispatches keep and installed graphs establish.** -/
theorem act_every (every : session.es.Every P)
    (dispatches : P (act interpreter session .proceed).2.es.W
      (act interpreter session .proceed).2.es.G)
    (installs : ∀ gOld gNew, session.runtime.currentGraph = some gOld →
      newPlan interpreter session = .ok (.ok gNew) →
        P (installGraph interpreter session.checkpointed gOld gNew).2.es.W
          (installGraph interpreter session.checkpointed gOld gNew).2.es.G) (decision : Decision) :
    (act interpreter session decision).2.es.Every P := by
  cases decision with
  | terminate => exact every
  | idle => exact every
  | pause => exact every
  | rollback => exact rollback_every every
  | proceed => exact every.of_record (act_proceed_keeps interpreter session).C dispatches
  | replan =>
    have checkpointed := checkpointed_every every
    show (executeReplan interpreter session).2.es.Every P
    cases allowed : session.replanAllowed with
    | false =>
      rw [executeReplan_blocked interpreter allowed]
      exact every
    | true =>
      rw [executeReplan_allowed interpreter allowed]
      cases planned : newPlan interpreter session with
      | error raised => exact checkpointed
      | ok verdict =>
        cases verdict with
        | error reason => exact checkpointed
        | ok gNew =>
          cases current : session.runtime.currentGraph with
          | none => exact checkpointed
          | some gOld =>
            exact checkpointed.of_record
              (installGraph_keeps interpreter session.checkpointed gOld gNew).C
              (installs gOld gNew current planned)

end Session

end Dnc.Runtime
