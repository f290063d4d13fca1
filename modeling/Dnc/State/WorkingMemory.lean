/-
**Working memory and history.**

`dnc.state.working_memory`: the buffer of every registered instance, and the log of mutations, which
the runtime copies and never writes.
-/

import Dnc.Runtime.Types

namespace Dnc.Runtime

open PyLib

variable {α : Type}

/-! ### Working memory -/

/-- `WorkingMemory`. -/
abbrev WorkingMemory (α : Type) := Dict ModuleInstanceID (Buffer α)

namespace WorkingMemory

/-- `WorkingMemory.register`. -/
def register (memory : WorkingMemory α) (instanceId : ModuleInstanceID) :
    Except Raised (WorkingMemory α) :=
  if instanceId ∈ memory then .error (.alreadyRegistered instanceId)
  else .ok (Dict.set memory instanceId .unboundInput)

/-- `WorkingMemory.is_complete`. -/
def isComplete (memory : WorkingMemory α) (instanceId : ModuleInstanceID) : Bool :=
  match Dict.get? memory instanceId with
  | none => false
  | some buffer => buffer.output.isProper

/-- The loop `for mid in ...: es.W.register(mid)`, with the memory that an exception leaves. -/
def registerAll (memory : WorkingMemory α) :
    List ModuleInstanceID → Except Raised Unit × WorkingMemory α
  | [] => (.ok (), memory)
  | instanceId :: rest =>
    match register memory instanceId with
    | .ok next => registerAll next rest
    | .error raised => (.error raised, memory)

theorem isComplete_iff {memory : WorkingMemory α} {instanceId : ModuleInstanceID} :
    isComplete memory instanceId = true ↔
      ∃ buffer, Dict.get? memory instanceId = some buffer ∧ buffer.output.isProper = true := by
  unfold isComplete
  cases found : Dict.get? memory instanceId with
  | none => simp
  | some buffer => simp

theorem isComplete_set (memory : WorkingMemory α) (instanceId other : ModuleInstanceID)
    (buffer : Buffer α) :
    isComplete (Dict.set memory instanceId buffer) other =
      if other = instanceId then buffer.output.isProper else isComplete memory other := by
  unfold isComplete
  rw [Dict.get?_set]
  by_cases here : other = instanceId
  · rw [if_pos here, if_pos here]
  · rw [if_neg here, if_neg here]

/-- What is complete stays so while the buffer of an incomplete instance is written. -/
theorem isComplete_set_of_complete {memory : WorkingMemory α} {instanceId other : ModuleInstanceID}
    (incomplete : isComplete memory instanceId = false) (complete : isComplete memory other = true)
    (buffer : Buffer α) : isComplete (Dict.set memory instanceId buffer) other = true := by
  have different : other ≠ instanceId := by
    rintro rfl
    cases complete.symm.trans incomplete
  rw [isComplete_set, if_neg different]
  exact complete

/-- The registration of distinct new instances succeeds, adds them, and changes no buffer. -/
theorem registerAll_of_new {memory : WorkingMemory α} {instanceIds : List ModuleInstanceID}
    (distinct : instanceIds.Nodup) (isNew : ∀ instanceId ∈ instanceIds, instanceId ∉ memory) :
    ∃ next, registerAll memory instanceIds = (.ok (), next) ∧
      (∀ instanceId, instanceId ∈ next ↔ instanceId ∈ instanceIds ∨ instanceId ∈ memory) ∧
      ∀ instanceId ∈ memory, Dict.get? next instanceId = Dict.get? memory instanceId := by
  induction instanceIds generalizing memory with
  | nil => exact ⟨memory, rfl, by simp, fun _ _ => rfl⟩
  | cons first rest ih =>
    obtain ⟨fresh, later⟩ := List.nodup_cons.mp distinct
    have firstNew := isNew first List.mem_cons_self
    have restNew : ∀ instanceId ∈ rest, instanceId ∉ Dict.set memory first Buffer.unboundInput := by
      intro instanceId member known
      rcases Dict.mem_set.mp known with rfl | old
      · exact fresh member
      · exact isNew instanceId (List.mem_cons_of_mem _ member) old
    obtain ⟨next, registered, members, kept⟩ := ih later restNew
    refine ⟨next, ?_, fun instanceId => ?_, fun instanceId old => ?_⟩
    · rw [registerAll, register, if_neg firstNew]
      exact registered
    · rw [members, Dict.mem_set, List.mem_cons]
      tauto
    · rw [kept instanceId (Dict.mem_set.mpr (Or.inr old))]
      apply Dict.get?_set_of_ne
      rintro rfl
      exact firstNew old

/-- The registration of an instance that is there raises. -/
theorem registerAll_of_old {memory : WorkingMemory α} {instanceIds : List ModuleInstanceID}
    {instanceId : ModuleInstanceID} (member : instanceId ∈ instanceIds) (old : instanceId ∈ memory) :
    ∃ raised next, registerAll memory instanceIds = (.error raised, next) := by
  induction instanceIds generalizing memory with
  | nil => cases member
  | cons first rest ih =>
    unfold registerAll register
    by_cases known : first ∈ memory
    · rw [if_pos known]
      exact ⟨_, _, rfl⟩
    · rw [if_neg known]
      rcases List.mem_cons.mp member with rfl | later
      · exact absurd old known
      · exact ih later (Dict.mem_set.mpr (Or.inr old))

end WorkingMemory

/-! ### History -/

/-- An entry of the log; the clock of the source never sets its timestamp. -/
structure HistoryEntry (α : Type) where
  index : Nat
  mutationType : String
  targetModule : ModuleInstanceID
  beforeValue : Value α
  afterValue : Value α
  triggerProvenanceRef : Option String

/-- `HistoryLog`. -/
structure HistoryLog (α : Type) where
  entries : List (HistoryEntry α) := []
  indexCounter : Nat := 0

end Dnc.Runtime
