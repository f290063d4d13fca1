/-
**Runs of the work queue.**

Calls of `submit`, `lease`, `heartbeat`, `complete` and `reconcile` in any order, with any
arguments and times, from the empty queue. The four dictionaries are *coherent* when statuses and
items have the same keys, leased means holding a lease and completed means holding a result; a later
queue *extends* an earlier one when it keeps its items and results and never makes an irreversible
item ready again. One step keeps coherence and extends the queue (`queueStep_sound`), unless a
submission is accepted for a work identifier that is already stored: `submit` looks for the tenant
and the idempotency key only.

That exception is exact. `lawfulRun_iff`: a run obeys the laws of the queue if and only if no
accepted submission names a stored work identifier. What a backup needs to be restored is kept
without exception (`restorable_queueAfter`).
-/

import Dnc.Logic.Run
import Dnc.Persistence.Workers

namespace Dnc

open PyLib

section Queue

variable {R : Type} {queue : DurableWorkQueue R}

variable (R) in
inductive QueueCall where
  | submit (item : WorkItem R)
  | lease (workId workerId : String) (nowNs durationNs : Int) (resources : Dict String R)
  | heartbeat (workId : String) (fencingToken nowNs durationNs : Int)
  | complete (result : WorkerResult)
  | reconcile (nowNs : Int)

/-! ### One operation -/

/-- Statuses, leases and results agree. -/
structure Coherent (queue : DurableWorkQueue R) : Prop where
  known : ∀ workId, workId ∈ queue.status ↔ workId ∈ queue.items
  leased : ∀ workId, queue.status.get? workId = some .leased ↔ workId ∈ queue.leases
  completed : ∀ workId, queue.status.get? workId = some .completed ↔ workId ∈ queue.results

/-- What is kept for good. -/
structure Extends (first second : DurableWorkQueue R) : Prop where
  items : ∀ workId item, first.items.get? workId = some item → second.items.get? workId = some item
  results : ∀ workId result, first.results.get? workId = some result →
    second.results.get? workId = some result
  spent : ∀ workId item, first.items.get? workId = some item → item.irreversible = true →
    first.status.get? workId ≠ some .ready → second.status.get? workId ≠ some .ready

theorem Extends.refl (queue : DurableWorkQueue R) : Extends queue queue :=
  ⟨fun _ _ => id, fun _ _ => id, fun _ _ _ _ => id⟩

theorem Extends.trans {first second third : DurableWorkQueue R} (before : Extends first second)
    (after : Extends second third) : Extends first third where
  items workId item stored := after.items workId item (before.items workId item stored)
  results workId result stored := after.results workId result (before.results workId result stored)
  spent workId item stored irreversible busy :=
    after.spent workId item (before.items workId item stored) irreversible
      (before.spent workId item stored irreversible busy)

theorem coherent_empty : Coherent ({} : DurableWorkQueue R) where
  known _ := Iff.rfl
  leased workId := ⟨fun leased => by simp at leased, fun member => absurd member List.not_mem_nil⟩
  completed workId :=
    ⟨fun completed => by simp at completed, fun member => absurd member List.not_mem_nil⟩

theorem submit_sound [DecidableEq R] (coherent : Coherent queue) {item : WorkItem R}
    (fresh : queue.existing item = none → item.workId ∉ queue.items) :
    Coherent (queue.submit item).1 ∧ Extends queue (queue.submit item).1 := by
  rcases DurableWorkQueue.submit_cases queue item with ⟨same, _⟩ | ⟨unmatched, accepted⟩
  · rw [same]
    exact ⟨coherent, Extends.refl queue⟩
  rw [accepted]
  have absent : item.workId ∉ queue.items := fresh unmatched
  have unknown : queue.status.get? item.workId = none :=
    Dict.get?_eq_none.mpr fun member => absent ((coherent.known _).mp member)
  have noLease : item.workId ∉ queue.leases := fun member => by
    have leased := (coherent.leased _).mpr member
    rw [unknown] at leased
    exact absurd leased (by simp)
  have noResult : item.workId ∉ queue.results := fun member => by
    have completed := (coherent.completed _).mpr member
    rw [unknown] at completed
    exact absurd completed (by simp)
  refine ⟨⟨fun workId => ?_, fun workId => ?_, fun workId => ?_⟩, ⟨?_, fun _ _ => id, ?_⟩⟩
  · show workId ∈ queue.status.set _ _ ↔ workId ∈ queue.items.set _ _
    rw [Dict.mem_set, Dict.mem_set, coherent.known]
  · show (queue.status.set _ _).get? workId = _ ↔ _
    rw [Dict.get?_set]
    by_cases here : workId = item.workId
    · rw [if_pos here, here]
      exact ⟨fun leased => by simp at leased, fun member => absurd member noLease⟩
    · rw [if_neg here]
      exact coherent.leased workId
  · show (queue.status.set _ _).get? workId = _ ↔ _
    rw [Dict.get?_set]
    by_cases here : workId = item.workId
    · rw [if_pos here, here]
      exact ⟨fun completed => by simp at completed, fun member => absurd member noResult⟩
    · rw [if_neg here]
      exact coherent.completed workId
  · intro workId stored found
    have other : workId ≠ item.workId := fun same =>
      absent (same ▸ Dict.mem_of_get? found)
    show (queue.items.set _ _).get? workId = _
    rw [Dict.get?_set_of_ne _ other, found]
  · intro workId stored found _ busy
    have other : workId ≠ item.workId := fun same =>
      absent (same ▸ Dict.mem_of_get? found)
    show (queue.status.set _ _).get? workId ≠ _
    rw [Dict.get?_set_of_ne _ other]
    exact busy

theorem lease_sound [LT R] [DecidableLT R] [Zero R] (coherent : Coherent queue)
    (workId workerId : String) (nowNs durationNs : Int) (resources : Dict String R) :
    Coherent (queue.lease workId workerId nowNs durationNs resources).1 ∧
      Extends queue (queue.lease workId workerId nowNs durationNs resources).1 := by
  rcases DurableWorkQueue.lease_cases queue workId workerId nowNs durationNs resources with
    ⟨error, refused⟩ | ⟨item, found, ready, accepted⟩
  · rw [refused]
    exact ⟨coherent, Extends.refl queue⟩
  rw [accepted]
  have noResult : workId ∉ queue.results := fun member => by
    have completed := (coherent.completed _).mpr member
    rw [ready] at completed
    exact absurd completed (by simp)
  refine ⟨⟨fun other => ?_, fun other => ?_, fun other => ?_⟩, ⟨fun _ _ => id, fun _ _ => id, ?_⟩⟩
  · show other ∈ queue.status.set _ _ ↔ other ∈ queue.items
    rw [Dict.mem_set, coherent.known]
    exact or_iff_right_of_imp fun same => same ▸ Dict.mem_of_get? found
  · show (queue.status.set _ _).get? other = _ ↔ other ∈ queue.leases.set _ _
    rw [Dict.get?_set, Dict.mem_set]
    by_cases here : other = workId
    · simp [here]
    · rw [if_neg here, coherent.leased]
      exact (or_iff_right here).symm
  · show (queue.status.set _ _).get? other = _ ↔ _
    rw [Dict.get?_set]
    by_cases here : other = workId
    · rw [if_pos here, here]
      exact ⟨fun completed => by simp at completed, fun member => absurd member noResult⟩
    · rw [if_neg here]
      exact coherent.completed other
  · intro other stored _ _ busy
    have different : other ≠ workId := fun same => busy (same ▸ ready)
    show (queue.status.set _ _).get? other ≠ _
    rw [Dict.get?_set_of_ne _ different]
    exact busy

theorem heartbeat_sound (coherent : Coherent queue) (workId : String)
    (fencingToken nowNs durationNs : Int) :
    Coherent (queue.heartbeat workId fencingToken nowNs durationNs).1 ∧
      Extends queue (queue.heartbeat workId fencingToken nowNs durationNs).1 := by
  rcases DurableWorkQueue.heartbeat_cases queue workId fencingToken nowNs durationNs with
    ⟨error, refused⟩ | ⟨lease, renewed, found, _, _, accepted⟩
  · rw [refused]
    exact ⟨coherent, Extends.refl queue⟩
  rw [accepted]
  refine ⟨⟨coherent.known, fun other => ?_, coherent.completed⟩,
    ⟨fun _ _ => id, fun _ _ => id, fun _ _ _ _ => id⟩⟩
  show queue.status.get? other = _ ↔ other ∈ queue.leases.set _ _
  rw [Dict.mem_set, coherent.leased]
  exact (or_iff_right_of_imp fun same => same ▸ Dict.mem_of_get? found).symm

theorem complete_sound (coherent : Coherent queue) (result : WorkerResult) :
    Coherent (queue.complete result).1 ∧ Extends queue (queue.complete result).1 := by
  rcases DurableWorkQueue.complete_cases queue result with
    ⟨same, _⟩ | ⟨lease, unfinished, found, _, accepted⟩
  · rw [same]
    exact ⟨coherent, Extends.refl queue⟩
  rw [accepted]
  have leased : queue.status.get? result.workId = some .leased :=
    (coherent.leased _).mpr (Dict.mem_of_get? found)
  refine ⟨⟨fun other => ?_, fun other => ?_, fun other => ?_⟩, ⟨fun _ _ => id, ?_, ?_⟩⟩
  · show other ∈ queue.status.set _ _ ↔ other ∈ queue.items
    rw [Dict.mem_set, coherent.known]
    refine or_iff_right_of_imp fun same => ?_
    rw [same]
    exact (coherent.known _).mp (Dict.mem_of_get? leased)
  · show (queue.status.set _ _).get? other = _ ↔ other ∈ queue.leases.erase _
    rw [Dict.get?_set, Dict.mem_erase]
    by_cases here : other = result.workId
    · simp [here]
    · rw [if_neg here, coherent.leased]
      exact (and_iff_right here).symm
  · show (queue.status.set _ _).get? other = _ ↔ other ∈ queue.results.set _ _
    rw [Dict.get?_set, Dict.mem_set]
    by_cases here : other = result.workId
    · simp [here]
    · rw [if_neg here, coherent.completed]
      exact (or_iff_right here).symm
  · intro other stored kept
    have different : other ≠ result.workId := fun same => by
      rw [same, unfinished] at kept
      exact absurd kept (by simp)
    show (queue.results.set _ _).get? other = _
    rw [Dict.get?_set_of_ne _ different, kept]
  · intro other stored _ _ busy
    show (queue.status.set _ _).get? other ≠ _
    rw [Dict.get?_set]
    by_cases here : other = result.workId
    · simp [here]
    · rw [if_neg here]
      exact busy

/-- Taking back one expired lease. -/
theorem abandon_sound (coherent : Coherent queue) {workId : String} {item : WorkItem R}
    (found : queue.items.get? workId = some item) (held : workId ∈ queue.leases) :
    Coherent { queue with
      status := queue.status.set workId (DurableWorkQueue.abandonedStatus item)
      leases := queue.leases.erase workId } ∧
    Extends queue { queue with
      status := queue.status.set workId (DurableWorkQueue.abandonedStatus item)
      leases := queue.leases.erase workId } := by
  have leased : queue.status.get? workId = some .leased := (coherent.leased _).mpr held
  have noResult : workId ∉ queue.results := fun member => by
    have completed := (coherent.completed _).mpr member
    rw [leased] at completed
    exact absurd completed (by simp)
  have notLeased : DurableWorkQueue.abandonedStatus item ≠ .leased := by
    unfold DurableWorkQueue.abandonedStatus
    split_ifs <;> simp
  have notCompleted : DurableWorkQueue.abandonedStatus item ≠ .completed := by
    unfold DurableWorkQueue.abandonedStatus
    split_ifs <;> simp
  refine ⟨⟨fun other => ?_, fun other => ?_, fun other => ?_⟩, ⟨fun _ _ => id, fun _ _ => id, ?_⟩⟩
  · show other ∈ queue.status.set _ _ ↔ other ∈ queue.items
    rw [Dict.mem_set, coherent.known]
    exact or_iff_right_of_imp fun same => same ▸ Dict.mem_of_get? found
  · show (queue.status.set _ _).get? other = _ ↔ other ∈ queue.leases.erase _
    rw [Dict.get?_set, Dict.mem_erase]
    by_cases here : other = workId
    · simp [here, notLeased]
    · rw [if_neg here, coherent.leased]
      exact (and_iff_right here).symm
  · show (queue.status.set _ _).get? other = _ ↔ _
    rw [Dict.get?_set]
    by_cases here : other = workId
    · simp [here, notCompleted, noResult]
    · rw [if_neg here]
      exact coherent.completed other
  · intro other stored isStored irreversible busy
    show (queue.status.set _ _).get? other ≠ _
    rw [Dict.get?_set]
    by_cases here : other = workId
    · obtain rfl : item = stored := Option.some.inj (found.symm.trans (here ▸ isStored))
      simp [here, DurableWorkQueue.abandonedStatus, irreversible]
    · rw [if_neg here]
      exact busy

/-- The loop of `reconcile`, over leases that the queue still holds. -/
theorem reconcileLoop_sound (nowNs : Int) {leases : List (String × Lease)} {changed : List String}
    (nodup : (leases.map Prod.fst).Nodup) (coherent : Coherent queue)
    (held : ∀ entry ∈ leases, entry.1 ∈ queue.leases) :
    Coherent (DurableWorkQueue.reconcileLoop nowNs leases queue changed).1 ∧
      Extends queue (DurableWorkQueue.reconcileLoop nowNs leases queue changed).1 := by
  induction leases generalizing queue changed with
  | nil => exact ⟨coherent, Extends.refl queue⟩
  | cons entry rest ih =>
    obtain ⟨workId, lease⟩ := entry
    rw [List.map_cons, List.nodup_cons] at nodup
    have heldRest : ∀ entry ∈ rest, entry.1 ∈ queue.leases := fun entry member =>
      held entry (List.mem_cons_of_mem _ member)
    unfold DurableWorkQueue.reconcileLoop
    by_cases expired : nowNs ≥ lease.expiresAtNs
    · rw [if_pos expired]
      cases found : queue.items.get? workId with
      | none => exact ⟨coherent, Extends.refl queue⟩
      | some item =>
        obtain ⟨next, kept⟩ := abandon_sound coherent found (held _ List.mem_cons_self)
        have later := @ih _ (changed ++ [workId]) nodup.2 next fun entry member => by
          refine Dict.mem_erase.mpr ⟨fun same => ?_, heldRest entry member⟩
          exact nodup.1 (List.mem_map.mpr ⟨entry, member, same⟩)
        exact ⟨later.1, kept.trans later.2⟩
    · rw [if_neg expired]
      exact ih nodup.2 coherent heldRest

theorem restorable_iff : queue.Restorable ↔ (∀ workId, workId ∈ queue.status ↔ workId ∈ queue.items) ∧
    (∀ workId ∈ queue.leases, workId ∈ queue.items) ∧
    ∀ workId ∈ queue.results, workId ∈ queue.items := by
  unfold DurableWorkQueue.Restorable
  simp only [Finset.ext_iff, Finset.subset_iff, List.mem_toFinset]
  rfl

/-- A change at one stored identifier leaves what a backup needs. -/
theorem DurableWorkQueue.Restorable.change {next : DurableWorkQueue R} {workId : String}
    (restorable : queue.Restorable) (stored : workId ∈ queue.items)
    (items : next.items = queue.items)
    (status : next.status = queue.status ∨ ∃ value, next.status = queue.status.set workId value)
    (leases : ∀ other ∈ next.leases, other = workId ∨ other ∈ queue.leases)
    (results : ∀ other ∈ next.results, other = workId ∨ other ∈ queue.results) :
    next.Restorable := by
  obtain ⟨known, leased, completed⟩ := restorable_iff.mp restorable
  refine restorable_iff.mpr ⟨fun other => ?_, fun other member => ?_, fun other member => ?_⟩
  · rw [items]
    rcases status with same | ⟨value, same⟩
    · rw [same]
      exact known other
    · rw [same, Dict.mem_set, known]
      exact or_iff_right_of_imp fun here => here ▸ stored
  · rw [items]
    rcases leases other member with rfl | old
    · exact stored
    · exact leased other old
  · rw [items]
    rcases results other member with rfl | old
    · exact stored
    · exact completed other old

theorem DurableWorkQueue.Restorable.reconcileLoop (nowNs : Int) {leases : List (String × Lease)}
    {changed : List String} (restorable : queue.Restorable) :
    (DurableWorkQueue.reconcileLoop nowNs leases queue changed).1.Restorable := by
  induction leases generalizing queue changed with
  | nil => exact restorable
  | cons entry rest ih =>
    obtain ⟨workId, lease⟩ := entry
    unfold DurableWorkQueue.reconcileLoop
    split_ifs
    · cases found : queue.items.get? workId with
      | none => exact restorable
      | some item =>
        refine ih (restorable.change (Dict.mem_of_get? found) rfl (Or.inr ⟨_, rfl⟩)
          (fun other member => ?_) fun other member => Or.inr member)
        exact Or.inr (Dict.mem_erase.mp member).2
    · exact ih restorable

/-! ### One step -/

variable [DecidableEq R] [LT R] [DecidableLT R] [Zero R]

/-- The queue after a call, whatever the call returns or raises. -/
def queueStep (queue : DurableWorkQueue R) : QueueCall R → DurableWorkQueue R
  | .submit item => (queue.submit item).1
  | .lease workId workerId nowNs durationNs resources =>
    (queue.lease workId workerId nowNs durationNs resources).1
  | .heartbeat workId fencingToken nowNs durationNs =>
    (queue.heartbeat workId fencingToken nowNs durationNs).1
  | .complete result => (queue.complete result).1
  | .reconcile nowNs => (queue.reconcile nowNs).1

/-- The lease that a call returns, if it is a successful `lease`. -/
def granted (queue : DurableWorkQueue R) : QueueCall R → Option Lease
  | .lease workId workerId nowNs durationNs resources =>
    (queue.lease workId workerId nowNs durationNs resources).2.toOption
  | _ => none

/-- A submission that will be accepted names a work identifier that is not stored. -/
def NamesFreshWork (entry : DurableWorkQueue R × QueueCall R) : Prop :=
  match entry.2 with
  | .submit item => entry.1.existing item = none → item.workId ∉ entry.1.items
  | _ => True

/-- **One step** keeps the queue coherent and extends it, if it names no stored work. -/
theorem queueStep_sound (coherent : Coherent queue) {call : QueueCall R}
    (fresh : NamesFreshWork (queue, call)) :
    Coherent (queueStep queue call) ∧ Extends queue (queueStep queue call) := by
  cases call with
  | submit item => exact submit_sound coherent fresh
  | lease workId workerId nowNs durationNs resources =>
    exact lease_sound coherent workId workerId nowNs durationNs resources
  | heartbeat workId fencingToken nowNs durationNs =>
    exact heartbeat_sound coherent workId fencingToken nowNs durationNs
  | complete result => exact complete_sound coherent result
  | reconcile nowNs =>
    exact reconcileLoop_sound nowNs queue.leases.nodup coherent fun entry member =>
      List.mem_map.mpr ⟨entry, member, rfl⟩

/-! ### Runs -/

/-- The queue after the calls, from the empty one. -/
def queueAfter (calls : List (QueueCall R)) : DurableWorkQueue R := Logic.run queueStep {} calls

/-- **The laws of the queue**, over a run: in every state, leased means holding a lease and completed
means holding a result; a stored item never changes; a completed item stays completed with its
result; an irreversible item is leased at most once. -/
structure LawfulRun (calls : List (QueueCall R)) : Prop where
  statuses : ∀ before after, calls = before ++ after → ∀ workId,
    ((queueAfter before).status.get? workId = some .leased ↔
      workId ∈ (queueAfter before).leases) ∧
    ((queueAfter before).status.get? workId = some .completed ↔
      workId ∈ (queueAfter before).results)
  stored : ∀ before middle after, calls = before ++ middle ++ after → ∀ workId item,
    (queueAfter before).items.get? workId = some item →
      (queueAfter (before ++ middle)).items.get? workId = some item
  final : ∀ before middle after, calls = before ++ middle ++ after → ∀ workId,
    (queueAfter before).status.get? workId = some .completed →
      (queueAfter (before ++ middle)).status.get? workId = some .completed ∧
      (queueAfter (before ++ middle)).results.get? workId =
        (queueAfter before).results.get? workId
  once : ∀ before first middle second after,
    calls = before ++ first :: (middle ++ second :: after) → ∀ lease item,
      granted (queueAfter before) first = some lease →
      (queueAfter before).items.get? lease.workId = some item → item.irreversible = true →
      ∀ again, granted (queueAfter (before ++ first :: middle)) second = some again →
        again.workId ≠ lease.workId

/-- Every accepted submission of the run names new work. -/
def FreshRun (calls : List (QueueCall R)) : Prop :=
  ∀ entry ∈ Logic.trace queueStep ({} : DurableWorkQueue R) calls, NamesFreshWork entry

/-- Between two states of a run that names new work, the queue only extends. -/
theorem queueAfter_sound {before middle : List (QueueCall R)} (fresh : FreshRun (before ++ middle)) :
    Coherent (queueAfter before) ∧ Coherent (queueAfter (before ++ middle)) ∧
      Extends (queueAfter before) (queueAfter (before ++ middle)) := by
  unfold FreshRun at fresh
  rw [Logic.trace_append] at fresh
  have start : Coherent (queueAfter before) :=
    Logic.run_invariant_of_trace coherent_empty fun entry member coherent =>
      (queueStep_sound coherent (fresh entry (List.mem_append_left _ member))).1
  have both : Coherent (Logic.run queueStep (queueAfter before) middle) ∧
      Extends (queueAfter before) (Logic.run queueStep (queueAfter before) middle) :=
    Logic.run_invariant_of_trace
      (P := fun queue => Coherent queue ∧ Extends (queueAfter before) queue)
      ⟨start, Extends.refl _⟩ fun entry member kept => by
        have step := queueStep_sound kept.1 (fresh entry (List.mem_append_right _ member))
        exact ⟨step.1, kept.2.trans step.2⟩
  have whole : queueAfter (before ++ middle) = Logic.run queueStep (queueAfter before) middle :=
    Logic.run_append queueStep {} before middle
  rw [whole]
  exact ⟨start, both⟩

theorem FreshRun.left {first second : List (QueueCall R)} (fresh : FreshRun (first ++ second)) :
    FreshRun first := by
  intro entry member
  refine fresh entry ?_
  rw [Logic.trace_append]
  exact List.mem_append_left _ member

/-- A lease is granted on a stored item that is ready; afterwards it is leased. -/
theorem granted_eq_some {call : QueueCall R} {lease : Lease}
    (granted : granted queue call = some lease) :
    queue.status.get? lease.workId = some .ready ∧ lease.fencingToken = queue.fencing + 1 ∧
      (queueStep queue call).status.get? lease.workId = some .leased ∧
      (queueStep queue call).fencing = queue.fencing + 1 ∧
      (queueStep queue call).leases = queue.leases.set lease.workId lease := by
  cases call with
  | lease workId workerId nowNs durationNs resources =>
    rcases DurableWorkQueue.lease_cases queue workId workerId nowNs durationNs resources with
      ⟨error, refused⟩ | ⟨item, found, ready, accepted⟩
    · simp [Dnc.granted, refused, Except.toOption] at granted
    · simp only [Dnc.granted, accepted, Except.toOption, Option.some.injEq] at granted
      subst granted
      simp only [queueStep, accepted]
      exact ⟨ready, trivial, Dict.get?_set_self _ _ _, trivial, trivial⟩
  | _ => simp [Dnc.granted] at granted

theorem lawfulRun_of_fresh {calls : List (QueueCall R)} (fresh : FreshRun calls) :
    LawfulRun calls := by
  refine ⟨?_, ?_, ?_, ?_⟩
  · intro before after split workId
    have sound := queueAfter_sound (split ▸ fresh)
    exact ⟨sound.1.leased workId, sound.1.completed workId⟩
  · intro before middle after split workId item stored
    have sound := queueAfter_sound (FreshRun.left (split ▸ fresh))
    exact sound.2.2.items workId item stored
  · intro before middle after split workId completed
    obtain ⟨start, last, kept⟩ := queueAfter_sound (FreshRun.left (split ▸ fresh))
    obtain ⟨result, found⟩ := Dict.mem_iff_get?.mp ((start.completed workId).mp completed)
    have later := kept.results workId result found
    exact ⟨(last.completed workId).mpr (Dict.mem_of_get? later), later.trans found.symm⟩
  · intro before first middle second after split lease item grantedFirst stored irreversible again
      grantedSecond same
    have cut : calls = (before ++ [first]) ++ middle ++ (second :: after) := by
      rw [split]
      simp
    obtain ⟨_, _, kept⟩ := queueAfter_sound (FreshRun.left (cut ▸ fresh))
    have cutFirst : calls = before ++ [first] ++ (middle ++ second :: after) := by
      rw [split]
      simp
    obtain ⟨_, _, keptFirst⟩ := queueAfter_sound (FreshRun.left (cutFirst ▸ fresh))
    have taken := (granted_eq_some grantedFirst).2.2.1
    have next : queueAfter (before ++ [first]) = queueStep (queueAfter before) first :=
      Logic.run_append queueStep {} before [first]
    have busy : (queueAfter (before ++ [first])).status.get? lease.workId ≠ some .ready := by
      rw [next, taken]
      simp
    have spent := kept.spent lease.workId item (keptFirst.items _ _ stored) irreversible busy
    have ready := (granted_eq_some grantedSecond).1
    have where_ : before ++ first :: middle = before ++ [first] ++ middle := by simp
    rw [where_, same] at ready
    exact spent ready

/-- **The laws hold exactly in the runs whose accepted submissions name new work.** -/
theorem lawfulRun_iff (calls : List (QueueCall R)) : LawfulRun calls ↔ FreshRun calls := by
  refine ⟨fun lawful entry member => ?_, lawfulRun_of_fresh⟩
  obtain ⟨before, after, split, state⟩ := Logic.mem_trace queueStep member
  obtain ⟨queue, call⟩ := entry
  cases call with
  | submit item =>
    intro unmatched present
    have queueIs : queueAfter before = queue := state.symm
    obtain ⟨old, stored⟩ := Dict.mem_iff_get?.mp present
    -- the accepted item replaces the stored one, which differs from it
    have accepted : (queue.submit item).1.items.get? item.workId = some item := by
      rcases DurableWorkQueue.submit_cases queue item with ⟨_, matched⟩ | ⟨_, accepted⟩
      · rw [unmatched] at matched
        exact absurd matched (by simp)
      · rw [accepted]
        exact Dict.get?_set_self _ _ _
    have cut : calls = before ++ [.submit item] ++ after := by
      rw [split]
      simp
    have kept := lawful.stored before [.submit item] after cut item.workId old (queueIs ▸ stored)
    have next : queueAfter (before ++ [.submit item]) = (queue.submit item).1 := by
      rw [← queueIs]
      exact Logic.run_append queueStep {} before [.submit item]
    rw [next, accepted] at kept
    obtain rfl := Option.some.inj kept
    have found := List.find?_eq_none.mp unmatched item (Dict.mem_values.mpr ⟨item.workId, stored⟩)
    exact found (by simp)
  | _ => trivial

/-! ### Backups -/

/-- **One step** keeps what a backup needs. -/
theorem DurableWorkQueue.Restorable.step (restorable : queue.Restorable) (call : QueueCall R) :
    (queueStep queue call).Restorable := by
  have leasedKnown := (restorable_iff.mp restorable).2.1
  cases call with
  | submit item =>
    rcases DurableWorkQueue.submit_cases queue item with ⟨same, -⟩ | ⟨-, accepted⟩
    · rw [queueStep, same]
      exact restorable
    rw [queueStep, accepted]
    obtain ⟨known, leased, completed⟩ := restorable_iff.mp restorable
    refine restorable_iff.mpr ⟨fun other => ?_, fun other member => ?_, fun other member => ?_⟩
    · show other ∈ queue.status.set _ _ ↔ other ∈ queue.items.set _ _
      rw [Dict.mem_set, Dict.mem_set, known]
    · exact Dict.mem_set.mpr (Or.inr (leased other member))
    · exact Dict.mem_set.mpr (Or.inr (completed other member))
  | lease workId workerId nowNs durationNs resources =>
    rcases DurableWorkQueue.lease_cases queue workId workerId nowNs durationNs resources with
      ⟨error, refused⟩ | ⟨item, found, -, accepted⟩
    · rw [queueStep, refused]
      exact restorable
    rw [queueStep, accepted]
    exact restorable.change (Dict.mem_of_get? found) rfl (Or.inr ⟨_, rfl⟩)
      (fun other member => Dict.mem_set.mp member) fun other member => Or.inr member
  | heartbeat workId fencingToken nowNs durationNs =>
    rcases DurableWorkQueue.heartbeat_cases queue workId fencingToken nowNs durationNs with
      ⟨error, refused⟩ | ⟨lease, renewed, found, -, -, accepted⟩
    · rw [queueStep, refused]
      exact restorable
    rw [queueStep, accepted]
    exact restorable.change (leasedKnown workId (Dict.mem_of_get? found)) rfl (Or.inl rfl)
      (fun other member => Dict.mem_set.mp member) fun other member => Or.inr member
  | complete result =>
    rcases DurableWorkQueue.complete_cases queue result with
      ⟨same, -⟩ | ⟨lease, -, found, -, accepted⟩
    · rw [queueStep, same]
      exact restorable
    rw [queueStep, accepted]
    exact restorable.change (leasedKnown result.workId (Dict.mem_of_get? found)) rfl
      (Or.inr ⟨_, rfl⟩) (fun other member => Or.inr (Dict.mem_erase.mp member).2)
      fun other member => Dict.mem_set.mp member
  | reconcile nowNs => exact restorable.reconcileLoop nowNs

/-- **A backup of the queue restores**, after any calls. -/
theorem restorable_queueAfter (calls : List (QueueCall R)) : (queueAfter calls).Restorable := by
  have empty : ({} : DurableWorkQueue R).Restorable :=
    restorable_iff.mpr ⟨fun _ => Iff.rfl, fun _ member => absurd member List.not_mem_nil,
      fun _ member => absurd member List.not_mem_nil⟩
  exact Logic.run_invariant (fun _ call restorable => restorable.step call) empty calls

end Queue

/-! ### Resubmission under another idempotency key -/

/-- A work item of one tenant, for examples. -/
def Sample.work (idempotencyKey : String) : WorkItem Int where
  workId := "work"
  tenantId := "tenant"
  taskId := "task"
  actionId := "action"
  expectedAggregateVersion := 1
  capability := "capability"
  isolationGrade := "I0_NONE"
  deadlineNs := 100
  retryClass := "NONE"
  idempotencyKey := idempotencyKey
  traceId := "trace"
  policyLabels := ∅
  artifactRefs := []
  irreversible := true

/-- A second submission under another key makes leased irreversible work ready again. -/
theorem resubmission_not_lawful :
    ¬ LawfulRun [
      .submit (Sample.work "first"),
      .lease "work" "worker_a" 0 10 ∅,
      .submit (Sample.work "second"),
      .lease "work" "worker_b" 1 10 ∅] := by
  intro lawful
  have stored := lawful.stored [.submit (Sample.work "first")]
    [.lease "work" "worker_a" 0 10 ∅, .submit (Sample.work "second")]
    [.lease "work" "worker_b" 1 10 ∅] rfl "work" (Sample.work "first") (by decide)
  exact absurd stored (by decide)

end Dnc
