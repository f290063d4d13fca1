/-
**The durable work queue.**

`dnc.persistence.workers.DurableWorkQueue` and its contracts: work items by identifier, a status for
each, the current leases, the accepted results, and the counter that fencing tokens are drawn from.
Every operation returns the queue as it leaves it, together with what it returns or raises; a call
that raises has not changed the queue, except that `reconcile` may stop in the middle of its loop.

Resource amounts are an arbitrary type with a zero and a decidable order. Work items compare equal
when their resource dictionaries are equal as maps.
-/

import Dnc.PyLib.Enum
import Dnc.PyLib.Sorted

namespace Dnc

open PyLib

inductive WorkStatus where
  | ready | leased | completed | failed | reconciliationRequired
deriving DecidableEq, Repr

section Queue

variable (R : Type) [DecidableEq R] [LT R] [DecidableLT R] [Zero R]

structure WorkItem where
  workId : String
  tenantId : String
  taskId : String
  actionId : String
  expectedAggregateVersion : Int
  capability : String
  isolationGrade : String
  deadlineNs : Int
  retryClass : String
  idempotencyKey : String
  traceId : String
  policyLabels : Finset String
  artifactRefs : List String
  requiredResources : Dict String R := ∅
  irreversible : Bool := false
deriving DecidableEq

structure Lease where
  workId : String
  workerId : String
  fencingToken : Int
  expiresAtNs : Int
  heartbeatAtNs : Int
deriving DecidableEq

structure WorkerResult where
  workId : String
  workerId : String
  fencingToken : Int
  outputRef : String
  effectIds : List String
  cleanupComplete : Bool
  fingerprint : String
deriving DecidableEq

structure DurableWorkQueue where
  items : Dict String (WorkItem R) := ∅
  status : Dict String WorkStatus := ∅
  leases : Dict String Lease := ∅
  results : Dict String WorkerResult := ∅
  fencing : Int := 0

variable {R}

/-- `first == second`: the resource dictionaries are compared as maps. -/
def WorkItem.equals (first second : WorkItem R) : Bool :=
  decide ({ first with requiredResources := second.requiredResources } = second ∧
    first.requiredResources.entries.Perm second.requiredResources.entries)

namespace DurableWorkQueue

/-- The first stored item with the tenant and the idempotency key of the given one. -/
def existing (queue : DurableWorkQueue R) (item : WorkItem R) : Option (WorkItem R) :=
  queue.items.values.find? fun value =>
    value.tenantId == item.tenantId && value.idempotencyKey == item.idempotencyKey

/-- `DurableWorkQueue.submit`. -/
def submit (queue : DurableWorkQueue R) (item : WorkItem R) :
    DurableWorkQueue R × Except PyError Bool :=
  match queue.existing item with
  | some existing =>
    if existing.equals item then (queue, .ok false)
    else (queue, .error (.valueError "conflicting work idempotency key"))
  | none =>
    ({ queue with
        items := queue.items.set item.workId item
        status := queue.status.set item.workId .ready }, .ok true)

/-- `any(resources.get(key, 0) < value for key, value in item.required_resources.items())`. -/
def lacksResources (resources : Dict String R) (item : WorkItem R) : Bool :=
  item.requiredResources.entries.any fun entry =>
    decide ((resources.get? entry.1).getD 0 < entry.2)

/-- `DurableWorkQueue.lease`. -/
def lease (queue : DurableWorkQueue R) (workId workerId : String) (nowNs durationNs : Int)
    (resources : Dict String R) : DurableWorkQueue R × Except PyError Lease :=
  match queue.items.get? workId with
  | none => (queue, .error (.keyError workId))
  | some item =>
    if durationNs ≤ 0 then (queue, .error (.valueError "lease duration MUST be positive"))
    else
      match queue.status.get? workId with
      | none => (queue, .error (.keyError workId))
      | some status =>
        if status ≠ .ready then (queue, .error (.valueError "work item is not ready"))
        else if nowNs ≥ item.deadlineNs then
          (queue, .error (.timeoutError "work item deadline expired"))
        else if lacksResources resources item then
          (queue, .error (.valueError "worker resources do not satisfy work item"))
        else
          let lease : Lease := ⟨workId, workerId, queue.fencing + 1, nowNs + durationNs, nowNs⟩
          ({ queue with
              fencing := queue.fencing + 1
              leases := queue.leases.set workId lease
              status := queue.status.set workId .leased }, .ok lease)

/-- `DurableWorkQueue._require_lease`. -/
def requireLease (queue : DurableWorkQueue R) (workId : String) (fencingToken : Int) :
    Except PyError Lease :=
  match queue.leases.get? workId with
  | none => .error (.valueError "stale or missing fencing token")
  | some lease =>
    if lease.fencingToken ≠ fencingToken then
      .error (.valueError "stale or missing fencing token")
    else .ok lease

/-- `DurableWorkQueue.heartbeat`. -/
def heartbeat (queue : DurableWorkQueue R) (workId : String) (fencingToken nowNs durationNs : Int) :
    DurableWorkQueue R × Except PyError Lease :=
  match queue.requireLease workId fencingToken with
  | .error error => (queue, .error error)
  | .ok lease =>
    if durationNs ≤ 0 then (queue, .error (.valueError "heartbeat duration MUST be positive"))
    else if nowNs ≥ lease.expiresAtNs then
      (queue, .error (.timeoutError "lease already expired"))
    else
      let renewed : Lease :=
        ⟨workId, lease.workerId, lease.fencingToken, nowNs + durationNs, nowNs⟩
      ({ queue with leases := queue.leases.set workId renewed }, .ok renewed)

/-- `DurableWorkQueue.complete`. -/
def complete (queue : DurableWorkQueue R) (result : WorkerResult) :
    DurableWorkQueue R × Except PyError Bool :=
  match queue.results.get? result.workId with
  | some previous =>
    if previous ≠ result then
      (queue, .error (.valueError "conflicting duplicate worker result"))
    else (queue, .ok false)
  | none =>
    match queue.requireLease result.workId result.fencingToken with
    | .error error => (queue, .error error)
    | .ok lease =>
      if lease.workerId ≠ result.workerId then
        (queue, .error (.valueError "worker result identity does not own lease"))
      else
        ({ queue with
            results := queue.results.set result.workId result
            status := queue.status.set result.workId .completed
            leases := queue.leases.erase result.workId }, .ok true)

/-- The status `reconcile` gives an item whose lease expired. -/
def abandonedStatus (item : WorkItem R) : WorkStatus :=
  if item.irreversible then .reconciliationRequired else .ready

/-- The loop of `reconcile` over the leases there were when it began. -/
def reconcileLoop (nowNs : Int) : List (String × Lease) → DurableWorkQueue R → List String →
    DurableWorkQueue R × Except PyError (List String)
  | [], queue, changed => (queue, .ok (sortBy id changed))
  | (workId, lease) :: rest, queue, changed =>
    if nowNs ≥ lease.expiresAtNs then
      match queue.items.get? workId with
      | none => (queue, .error (.keyError workId))
      | some item =>
        reconcileLoop nowNs rest
          { queue with
            status := queue.status.set workId (abandonedStatus item)
            leases := queue.leases.erase workId } (changed ++ [workId])
    else reconcileLoop nowNs rest queue changed

/-- `DurableWorkQueue.reconcile`. -/
def reconcile (queue : DurableWorkQueue R) (nowNs : Int) :
    DurableWorkQueue R × Except PyError (List String) :=
  reconcileLoop nowNs queue.leases.entries queue []

/-- `DurableWorkQueue.snapshot`: copies of the four dictionaries and the counter. -/
def snapshot (queue : DurableWorkQueue R) : DurableWorkQueue R := queue

/-- The dictionaries of a backup refer to its work items. -/
def Restorable (state : DurableWorkQueue R) : Prop :=
  state.status.keys.toFinset = state.items.keys.toFinset ∧
    state.leases.keys.toFinset ⊆ state.items.keys.toFinset ∧
    state.results.keys.toFinset ⊆ state.items.keys.toFinset

instance (state : DurableWorkQueue R) : Decidable state.Restorable :=
  inferInstanceAs (Decidable (_ ∧ _ ∧ _))

/-- `DurableWorkQueue.restore`. -/
def restore (queue state : DurableWorkQueue R) : DurableWorkQueue R × Except PyError Unit :=
  if state.Restorable then (state, .ok ())
  else (queue, .error (.valueError "work queue backup references unknown work items"))

/-- The part of `DNCSystem.restore_execution_snapshot` that concerns the queue: the snapshot is
restored into a new queue, whose snapshot is then restored. -/
def restoreExecution (queue state : DurableWorkQueue R) : DurableWorkQueue R × Except PyError Unit :=
  match restore {} state with
  | (_, .error error) => (queue, .error error)
  | (restored, .ok ()) => queue.restore restored.snapshot

end DurableWorkQueue

end Queue

/-! ### What each operation does -/

namespace DurableWorkQueue

variable {R : Type} {queue : DurableWorkQueue R}

/-- A submission is refused, or stores the item as ready. -/
theorem submit_cases [DecidableEq R] (queue : DurableWorkQueue R) (item : WorkItem R) :
    (queue.submit item).1 = queue ∧ (queue.existing item).isSome = true ∨
    queue.existing item = none ∧ queue.submit item =
      ({ queue with
          items := queue.items.set item.workId item
          status := queue.status.set item.workId .ready }, .ok true) := by
  unfold submit
  cases found : queue.existing item with
  | none => exact Or.inr ⟨rfl, rfl⟩
  | some existing =>
    refine Or.inl ⟨?_, rfl⟩
    dsimp only
    split_ifs <;> rfl

/-- A lease is refused, or is granted on an item that is ready, with the next token. -/
theorem lease_cases [LT R] [DecidableLT R] [Zero R] (queue : DurableWorkQueue R)
    (workId workerId : String) (nowNs durationNs : Int) (resources : Dict String R) :
    (∃ error, queue.lease workId workerId nowNs durationNs resources = (queue, .error error)) ∨
    ∃ item, queue.items.get? workId = some item ∧ queue.status.get? workId = some .ready ∧
      queue.lease workId workerId nowNs durationNs resources =
        ({ queue with
            fencing := queue.fencing + 1
            leases := queue.leases.set workId
              ⟨workId, workerId, queue.fencing + 1, nowNs + durationNs, nowNs⟩
            status := queue.status.set workId .leased },
          .ok ⟨workId, workerId, queue.fencing + 1, nowNs + durationNs, nowNs⟩) := by
  unfold lease
  cases found : queue.items.get? workId with
  | none => exact Or.inl ⟨_, rfl⟩
  | some item =>
    dsimp only
    by_cases short : durationNs ≤ 0
    · rw [if_pos short]
      exact Or.inl ⟨_, rfl⟩
    rw [if_neg short]
    cases current : queue.status.get? workId with
    | none => exact Or.inl ⟨_, rfl⟩
    | some status =>
      dsimp only
      by_cases busy : status ≠ .ready
      · rw [if_pos busy]
        exact Or.inl ⟨_, rfl⟩
      rw [if_neg busy]
      have ready : status = .ready := not_not.mp busy
      split_ifs
      · exact Or.inl ⟨_, rfl⟩
      · exact Or.inl ⟨_, rfl⟩
      · exact Or.inr ⟨item, rfl, by rw [ready], rfl⟩

theorem requireLease_eq_ok {workId : String} {fencingToken : Int} {lease : Lease}
    (held : queue.requireLease workId fencingToken = .ok lease) :
    queue.leases.get? workId = some lease ∧ lease.fencingToken = fencingToken := by
  unfold requireLease at held
  cases found : queue.leases.get? workId with
  | none => simp [found] at held
  | some other =>
    rw [found] at held
    dsimp only at held
    split_ifs at held with stale
    obtain rfl := Except.ok.inj held
    exact ⟨rfl, not_not.mp stale⟩

/-- A heartbeat is refused, or renews the lease of its token. -/
theorem heartbeat_cases (queue : DurableWorkQueue R) (workId : String)
    (fencingToken nowNs durationNs : Int) :
    (∃ error, queue.heartbeat workId fencingToken nowNs durationNs = (queue, .error error)) ∨
    ∃ lease renewed : Lease, queue.leases.get? workId = some lease ∧
      lease.fencingToken = fencingToken ∧ renewed.fencingToken = fencingToken ∧
      queue.heartbeat workId fencingToken nowNs durationNs =
        ({ queue with leases := queue.leases.set workId renewed }, .ok renewed) := by
  unfold heartbeat
  cases held : queue.requireLease workId fencingToken with
  | error error => exact Or.inl ⟨error, rfl⟩
  | ok lease =>
    obtain ⟨found, token⟩ := requireLease_eq_ok held
    dsimp only
    split_ifs
    · exact Or.inl ⟨_, rfl⟩
    · exact Or.inl ⟨_, rfl⟩
    · exact Or.inr ⟨lease, ⟨workId, lease.workerId, lease.fencingToken, nowNs + durationNs, nowNs⟩,
        found, token, token, rfl⟩

/-- A completion changes nothing, or accepts the first result of a leased item. -/
theorem complete_cases (queue : DurableWorkQueue R) (result : WorkerResult) :
    ((queue.complete result).1 = queue ∧ (queue.complete result).2 ≠ .ok true) ∨
    ∃ lease, queue.results.get? result.workId = none ∧
      queue.leases.get? result.workId = some lease ∧ lease.fencingToken = result.fencingToken ∧
      queue.complete result =
        ({ queue with
            results := queue.results.set result.workId result
            status := queue.status.set result.workId .completed
            leases := queue.leases.erase result.workId }, .ok true) := by
  unfold complete
  cases previous : queue.results.get? result.workId with
  | some previous =>
    refine Or.inl ?_
    dsimp only
    split_ifs <;> exact ⟨rfl, by simp⟩
  | none =>
    dsimp only
    cases held : queue.requireLease result.workId result.fencingToken with
    | error error => exact Or.inl ⟨rfl, by simp⟩
    | ok lease =>
      obtain ⟨found, token⟩ := requireLease_eq_ok held
      dsimp only
      split_ifs
      · exact Or.inl ⟨rfl, by simp⟩
      · exact Or.inr ⟨lease, rfl, found, token, rfl⟩

/-- Restoring leaves the queue as it is, or makes it the backup. -/
theorem restore_cases (queue state : DurableWorkQueue R) :
    (queue.restore state).1 = queue ∨ (queue.restore state).1 = state := by
  unfold restore
  split_ifs
  · exact Or.inr rfl
  · exact Or.inl rfl

/-- Restoring through a new queue is restoring. -/
theorem restoreExecution_eq (queue state : DurableWorkQueue R) :
    queue.restoreExecution state = queue.restore state := by
  unfold restoreExecution
  by_cases known : state.Restorable
  · have first : restore {} state = (state, .ok ()) := if_pos known
    rw [first]
    rfl
  · have first : restore {} state =
        ({}, .error (.valueError "work queue backup references unknown work items")) := if_neg known
    have second : restore queue state =
        (queue, .error (.valueError "work queue backup references unknown work items")) :=
      if_neg known
    rw [first, second]

end DurableWorkQueue

end Dnc
