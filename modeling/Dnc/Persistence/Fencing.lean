/-
**Fencing tokens.**

Runs that also take snapshots and restore any of those taken before, in place or by way of a new
queue as `DNCSystem.restore_execution_snapshot` does. A lease draws the next value of a counter, and
the counter is part of the snapshot: restoring a snapshot from before a lease rewinds it, and the
next lease issues a token a second time.

Where no restore rewinds the counter (`RestoresCurrent`), the fencing law holds
(`fencing_of_current`). The invariant (`Fenced`) speaks of the tokens issued so far: they rise along
the run up to the counter, every current lease carries the last token issued for its work, and a
snapshot that agrees with the counter holds such leases too. A snapshot from before the last lease
is behind the counter, so nothing is claimed of it.

* `restores_undo`: otherwise such a run is one of work calls alone.
-/

import Dnc.Persistence.WorkerRuns

namespace Dnc

open PyLib

section Queue

variable {R : Type} [DecidableEq R] [LT R] [DecidableLT R] [Zero R]

variable (R) in
/-- A queue and the snapshots taken of it. -/
structure SavedQueue where
  queue : DurableWorkQueue R := {}
  snapshots : List (DurableWorkQueue R) := []

variable (R) in
inductive SavedCall where
  | work (call : QueueCall R)
  | snapshot
  | restore (index : Nat)
  | restoreExecution (index : Nat)

/-- The state after a call, whatever the call returns or raises. -/
def savedStep (state : SavedQueue R) : SavedCall R → SavedQueue R
  | .work call => { state with queue := queueStep state.queue call }
  | .snapshot => { state with snapshots := state.snapshots ++ [state.queue.snapshot] }
  | .restore index =>
    match state.snapshots[index]? with
    | none => state
    | some snapshot => { state with queue := (state.queue.restore snapshot).1 }
  | .restoreExecution index =>
    match state.snapshots[index]? with
    | none => state
    | some snapshot => { state with queue := (state.queue.restoreExecution snapshot).1 }

/-- The work and the token of a successful lease. -/
def issued (entry : SavedQueue R × SavedCall R) : Option (String × Int) :=
  match entry.2 with
  | .work call =>
    (granted entry.1.queue call).map fun lease => (lease.workId, lease.fencingToken)
  | _ => none

/-- The work and the token of a heartbeat that is accepted, or of a result that is. -/
def accepted (entry : SavedQueue R × SavedCall R) : Option (String × Int) :=
  match entry.2 with
  | .work (.heartbeat workId fencingToken nowNs durationNs) =>
    match (entry.1.queue.heartbeat workId fencingToken nowNs durationNs).2 with
    | .ok _ => some (workId, fencingToken)
    | .error _ => none
  | .work (.complete result) =>
    match (entry.1.queue.complete result).2 with
    | .ok true => some (result.workId, result.fencingToken)
    | _ => none
  | _ => none

/-- A restore does not take the counter back: no lease was granted since the snapshot. -/
def RestoresCurrent (entry : SavedQueue R × SavedCall R) : Prop :=
  match entry.2 with
  | .restore index =>
    match entry.1.snapshots[index]? with
    | none => True
    | some snapshot => entry.1.queue.fencing ≤ snapshot.fencing
  | .restoreExecution index =>
    match entry.1.snapshots[index]? with
    | none => True
    | some snapshot => entry.1.queue.fencing ≤ snapshot.fencing
  | _ => True

/-- The last token issued for a work identifier. -/
def latestToken (tokens : List (String × Int)) (workId : String) : Option Int :=
  tokens.reverse.lookup workId

/-! ### The invariant -/

/-- Every lease of the queue carries the last token issued for its work. -/
def LeasesLatest (queue : DurableWorkQueue R) (tokens : List (String × Int)) : Prop :=
  ∀ workId lease, queue.leases.get? workId = some lease →
    latestToken tokens workId = some lease.fencingToken

/-- **The state and the tokens issued so far.** -/
structure Fenced (state : SavedQueue R) (tokens : List (String × Int)) : Prop where
  rising : tokens.Pairwise fun first second => first.2 < second.2
  bounded : ∀ token ∈ tokens, token.2 ≤ state.queue.fencing
  latest : LeasesLatest state.queue tokens
  behind : ∀ snapshot ∈ state.snapshots, snapshot.fencing ≤ state.queue.fencing
  saved : ∀ snapshot ∈ state.snapshots, snapshot.fencing = state.queue.fencing →
    LeasesLatest snapshot tokens

omit [DecidableEq R] [LT R] [DecidableLT R] [Zero R] in
theorem fenced_empty : Fenced ({} : SavedQueue R) [] where
  rising := List.Pairwise.nil
  bounded token member := absurd member List.not_mem_nil
  latest workId lease found := by simp at found
  behind snapshot member := absurd member List.not_mem_nil
  saved snapshot member := absurd member List.not_mem_nil

theorem latestToken_append (tokens : List (String × Int)) (workId other : String) (token : Int) :
    latestToken (tokens ++ [(workId, token)]) other =
      if other = workId then some token else latestToken tokens other := by
  unfold latestToken
  rw [List.reverse_append, List.reverse_singleton, List.singleton_append, lookup_cons_ite]

/-- A lease moves the counter past every token and snapshot. -/
theorem Fenced.grant {state : SavedQueue R} {tokens : List (String × Int)}
    (fenced : Fenced state tokens) {call : QueueCall R} {lease : Lease}
    (granted : granted state.queue call = some lease) :
    Fenced { state with queue := queueStep state.queue call }
      (tokens ++ [(lease.workId, lease.fencingToken)]) := by
  obtain ⟨_, token, _, counter, leases⟩ := granted_eq_some granted
  have above : ∀ token ∈ tokens, token.2 < lease.fencingToken := fun other member => by
    have below := fenced.bounded other member
    omega
  refine ⟨?_, ?_, ?_, ?_, ?_⟩
  · refine List.pairwise_append.mpr ⟨fenced.rising, List.pairwise_singleton _ _, ?_⟩
    intro first member second last
    rw [List.mem_singleton.mp last]
    exact above first member
  · intro other member
    rcases List.mem_append.mp member with old | new
    · have below := fenced.bounded other old
      show other.2 ≤ (queueStep state.queue call).fencing
      omega
    · rw [List.mem_singleton.mp new]
      show lease.fencingToken ≤ (queueStep state.queue call).fencing
      omega
  · intro workId other found
    have lookup : (state.queue.leases.set lease.workId lease).get? workId = some other :=
      leases ▸ found
    rw [Dict.get?_set] at lookup
    rw [latestToken_append]
    split_ifs at lookup ⊢ with here
    · rw [Option.some.inj lookup]
    · exact fenced.latest workId other lookup
  · intro snapshot member
    have below := fenced.behind snapshot member
    show snapshot.fencing ≤ (queueStep state.queue call).fencing
    omega
  · intro snapshot member same
    have below := fenced.behind snapshot member
    have sameCounter : snapshot.fencing = (queueStep state.queue call).fencing := same
    omega

omit [DecidableEq R] [LT R] [DecidableLT R] [Zero R] in
/-- The loop of the reconciliation drops leases and grants none. -/
theorem reconcileLoop_leases (nowNs : Int) (leases : List (String × Lease)) :
    ∀ (queue : DurableWorkQueue R) (changed : List String),
      (DurableWorkQueue.reconcileLoop nowNs leases queue changed).1.fencing = queue.fencing ∧
        ∀ workId lease, (DurableWorkQueue.reconcileLoop nowNs leases queue changed).1.leases.get?
          workId = some lease → queue.leases.get? workId = some lease := by
  induction leases with
  | nil => exact fun queue changed => ⟨rfl, fun _ _ => id⟩
  | cons entry rest ih =>
    intro queue changed
    unfold DurableWorkQueue.reconcileLoop
    split_ifs with expired
    · cases found : queue.items.get? entry.1 with
      | none => exact ⟨rfl, fun _ _ => id⟩
      | some item =>
        obtain ⟨counter, leases⟩ := ih { queue with
          status := queue.status.set entry.1 (DurableWorkQueue.abandonedStatus item)
          leases := queue.leases.erase entry.1 } (changed ++ [entry.1])
        refine ⟨counter, fun workId lease held => ?_⟩
        have before := leases workId lease held
        rw [Dict.get?_erase] at before
        split_ifs at before
        exact before
    · exact ih queue changed

/-- What a call that grants no lease does to the counter and to the leases. -/
theorem queueStep_of_not_granted {queue : DurableWorkQueue R} {call : QueueCall R}
    (none : granted queue call = none) :
    (queueStep queue call).fencing = queue.fencing ∧
      ∀ workId lease, (queueStep queue call).leases.get? workId = some lease →
        ∃ old, queue.leases.get? workId = some old ∧ old.fencingToken = lease.fencingToken := by
  cases call with
  | submit item =>
    rcases DurableWorkQueue.submit_cases queue item with ⟨same, _⟩ | ⟨_, stored⟩
    · simp only [queueStep, same]
      exact ⟨trivial, fun workId lease found => ⟨lease, found, rfl⟩⟩
    · simp only [queueStep, stored]
      exact ⟨trivial, fun workId lease found => ⟨lease, found, rfl⟩⟩
  | lease workId workerId nowNs durationNs resources =>
    rcases DurableWorkQueue.lease_cases queue workId workerId nowNs durationNs resources with
      ⟨error, refused⟩ | ⟨item, _, _, allowed⟩
    · simp only [queueStep, refused]
      exact ⟨trivial, fun workId lease found => ⟨lease, found, rfl⟩⟩
    · simp [granted, allowed, Except.toOption] at none
  | heartbeat workId fencingToken nowNs durationNs =>
    rcases DurableWorkQueue.heartbeat_cases queue workId fencingToken nowNs durationNs with
      ⟨error, refused⟩ | ⟨lease, renewed, found, token, renewedToken, allowed⟩
    · simp only [queueStep, refused]
      exact ⟨trivial, fun workId lease found => ⟨lease, found, rfl⟩⟩
    · simp only [queueStep, allowed]
      refine ⟨trivial, fun other current lookup => ?_⟩
      rw [Dict.get?_set] at lookup
      split_ifs at lookup with here
      · obtain rfl := Option.some.inj lookup
        exact ⟨lease, here ▸ found, token.trans renewedToken.symm⟩
      · exact ⟨current, lookup, rfl⟩
  | complete result =>
    rcases DurableWorkQueue.complete_cases queue result with ⟨same, _⟩ | ⟨lease, _, _, _, stored⟩
    · simp only [queueStep, same]
      exact ⟨trivial, fun workId lease found => ⟨lease, found, rfl⟩⟩
    · simp only [queueStep, stored]
      refine ⟨trivial, fun other current lookup => ?_⟩
      rw [Dict.get?_erase] at lookup
      split_ifs at lookup
      exact ⟨current, lookup, rfl⟩
  | reconcile nowNs =>
    obtain ⟨counter, leases⟩ := reconcileLoop_leases nowNs queue.leases.entries queue []
    exact ⟨counter, fun workId lease found => ⟨lease, leases workId lease found, rfl⟩⟩

omit [DecidableEq R] [LT R] [DecidableLT R] [Zero R] in
/-- A restore that does not take the counter back keeps the invariant. -/
theorem Fenced.restore {state : SavedQueue R} {tokens : List (String × Int)}
    (fenced : Fenced state tokens) {snapshot : DurableWorkQueue R}
    (member : snapshot ∈ state.snapshots) (current : state.queue.fencing ≤ snapshot.fencing) :
    Fenced { state with queue := (state.queue.restore snapshot).1 } tokens := by
  rcases DurableWorkQueue.restore_cases state.queue snapshot with same | replaced
  · rw [same]
    exact fenced
  · have counter : snapshot.fencing = state.queue.fencing :=
      le_antisymm (fenced.behind snapshot member) current
    rw [replaced]
    exact ⟨fenced.rising, fun token old => counter ▸ fenced.bounded token old,
      fenced.saved snapshot member counter,
      fun other saved => counter ▸ fenced.behind other saved,
      fun other saved same => fenced.saved other saved (same.trans counter)⟩

theorem Fenced.step_restore {state : SavedQueue R} {tokens : List (String × Int)}
    (fenced : Fenced state tokens) {index : Nat}
    (current : RestoresCurrent (state, .restore index)) :
    Fenced (savedStep state (.restore index)) tokens := by
  simp only [savedStep]
  simp only [RestoresCurrent] at current
  cases found : state.snapshots[index]? with
  | none => exact fenced
  | some snapshot =>
    rw [found] at current
    exact fenced.restore (List.mem_of_getElem? found) current

/-- The two ways to restore do the same. -/
theorem savedStep_restoreExecution (state : SavedQueue R) (index : Nat) :
    savedStep state (.restoreExecution index) = savedStep state (.restore index) := by
  simp only [savedStep, DurableWorkQueue.restoreExecution_eq]

/-- **One step** keeps the invariant, if it does not take the counter back. -/
theorem Fenced.step {state : SavedQueue R} {tokens : List (String × Int)}
    (fenced : Fenced state tokens) {call : SavedCall R} (current : RestoresCurrent (state, call)) :
    Fenced (savedStep state call) (tokens ++ (issued (state, call)).toList) := by
  cases call with
  | work call =>
    cases grant : granted state.queue call with
    | some lease =>
      have token : issued (state, SavedCall.work call) = some (lease.workId, lease.fencingToken) := by
        simp only [issued, grant, Option.map_some]
      rw [token]
      exact fenced.grant grant
    | none =>
      have token : issued (state, SavedCall.work call) = none := by
        simp only [issued, grant, Option.map_none]
      rw [token, Option.toList_none, List.append_nil]
      obtain ⟨counter, leases⟩ := queueStep_of_not_granted grant
      refine ⟨fenced.rising, fun token old => ?_, fun workId lease found => ?_,
        fun snapshot saved => ?_, fun snapshot saved same => ?_⟩
      · show token.2 ≤ (queueStep state.queue call).fencing
        rw [counter]
        exact fenced.bounded token old
      · obtain ⟨old, held, sameToken⟩ := leases workId lease found
        rw [← sameToken]
        exact fenced.latest workId old held
      · show snapshot.fencing ≤ (queueStep state.queue call).fencing
        rw [counter]
        exact fenced.behind snapshot saved
      · exact fenced.saved snapshot saved (same.trans counter)
  | snapshot =>
    have none : issued (state, SavedCall.snapshot) = none := rfl
    rw [none, Option.toList_none, List.append_nil]
    refine ⟨fenced.rising, fenced.bounded, fenced.latest, fun snapshot saved => ?_,
      fun snapshot saved same => ?_⟩
    · rcases List.mem_append.mp saved with old | new
      · exact fenced.behind snapshot old
      · rw [List.mem_singleton.mp new]
        exact le_refl _
    · rcases List.mem_append.mp saved with old | new
      · exact fenced.saved snapshot old same
      · rw [List.mem_singleton.mp new]
        exact fenced.latest
  | restore index =>
    have none : issued (state, SavedCall.restore index) = none := rfl
    rw [none, Option.toList_none, List.append_nil]
    exact fenced.step_restore current
  | restoreExecution index =>
    have none : issued (state, SavedCall.restoreExecution index) = none := rfl
    rw [none, Option.toList_none, List.append_nil, savedStep_restoreExecution]
    exact fenced.step_restore current

/-! ### Runs -/

/-- The state after the calls, from a new queue. -/
def savedAfter (calls : List (SavedCall R)) : SavedQueue R := Logic.run savedStep {} calls

/-- The tokens that the leases of a run return, in order. -/
def tokensOf (calls : List (SavedCall R)) : List (String × Int) :=
  (Logic.trace savedStep ({} : SavedQueue R) calls).filterMap issued

theorem fenced_run {calls : List (SavedCall R)}
    (current : ∀ entry ∈ Logic.trace savedStep ({} : SavedQueue R) calls, RestoresCurrent entry) :
    Fenced (savedAfter calls) (tokensOf calls) := by
  have observed := Logic.run_observes (f := issued) fenced_empty
    fun entry member tokens fenced => fenced.step (current entry member)
  rw [List.nil_append] at observed
  exact observed

omit [DecidableEq R] [LT R] [DecidableLT R] [Zero R] in
/-- An accepted message carries the token of a lease that the queue holds. -/
theorem accepted_eq_some {state : SavedQueue R} {call : SavedCall R} {workId : String} {token : Int}
    (accepts : accepted (state, call) = some (workId, token)) :
    ∃ lease, state.queue.leases.get? workId = some lease ∧ lease.fencingToken = token := by
  cases call with
  | work call =>
    cases call with
    | heartbeat heldId fencingToken nowNs durationNs =>
      rcases DurableWorkQueue.heartbeat_cases state.queue heldId fencingToken nowNs durationNs with
        ⟨error, refused⟩ | ⟨lease, renewed, found, held, _, allowed⟩
      · simp [accepted, refused] at accepts
      · simp only [accepted, allowed, Option.some.injEq, Prod.mk.injEq] at accepts
        obtain ⟨rfl, rfl⟩ := accepts
        exact ⟨lease, found, held⟩
    | complete result =>
      rcases DurableWorkQueue.complete_cases state.queue result with
        ⟨_, refused⟩ | ⟨lease, _, found, held, stored⟩
      · simp only [accepted] at accepts
        exact absurd accepts (by simp)
      · simp only [accepted, stored, Option.some.injEq, Prod.mk.injEq] at accepts
        obtain ⟨rfl, rfl⟩ := accepts
        exact ⟨lease, found, held⟩
    | _ => simp [accepted] at accepts
  | _ => simp [accepted] at accepts

/-- **The fencing law**, in every run whose restores do not take the counter back: no two leases
return the same token, and a heartbeat or a result is accepted only with the token of the latest
lease of its work. -/
theorem fencing_of_current (calls : List (SavedCall R))
    (current : ∀ entry ∈ Logic.trace savedStep ({} : SavedQueue R) calls, RestoresCurrent entry) :
    ((tokensOf calls).map Prod.snd).Nodup ∧
      ∀ before call after, calls = before ++ call :: after → ∀ workId token,
        accepted (savedAfter before, call) = some (workId, token) →
          latestToken (tokensOf before) workId = some token := by
  refine ⟨?_, fun before call after split workId token accepts => ?_⟩
  · rw [List.Nodup, List.pairwise_map]
    exact (fenced_run current).rising.imp fun below => ne_of_lt below
  · have prefixCurrent : ∀ entry ∈ Logic.trace savedStep ({} : SavedQueue R) before,
        RestoresCurrent entry := fun entry member => by
      refine current entry ?_
      rw [split, Logic.trace_append]
      exact List.mem_append_left _ member
    obtain ⟨lease, found, same⟩ := accepted_eq_some accepts
    rw [← same]
    exact (fenced_run prefixCurrent).latest workId lease found

/-! ### What a restore undoes -/

variable (R) in
/-- The work calls behind a queue, and behind each of its snapshots. -/
structure Timeline where
  calls : List (QueueCall R) := []
  saved : List (List (QueueCall R)) := []

/-- A restore goes back to the calls behind the snapshot. -/
def Timeline.step (timeline : Timeline R) : SavedCall R → Timeline R
  | .work call => { timeline with calls := timeline.calls ++ [call] }
  | .snapshot => { timeline with saved := timeline.saved ++ [timeline.calls] }
  | .restore index | .restoreExecution index =>
    { timeline with calls := timeline.saved[index]?.getD timeline.calls }

/-- The work calls on their own, without a snapshot or a restore. -/
def Timeline.state (timeline : Timeline R) : SavedQueue R where
  queue := queueAfter timeline.calls
  snapshots := timeline.saved.map queueAfter

/-- A queue that work calls lead to can be restored anywhere. -/
theorem restore_queueAfter (queue : DurableWorkQueue R) (calls : List (QueueCall R)) :
    queue.restore (queueAfter calls) = (queueAfter calls, .ok ()) :=
  if_pos (restorable_queueAfter calls)

/-- **One call** moves along the timeline. -/
theorem savedStep_state (timeline : Timeline R) (call : SavedCall R) :
    savedStep timeline.state call = (timeline.step call).state := by
  have restores : ∀ index, savedStep timeline.state (.restore index) =
      (timeline.step (.restore index)).state := by
    intro index
    have listed : timeline.state.snapshots[index]? = timeline.saved[index]?.map queueAfter :=
      List.getElem?_map
    simp only [savedStep, Timeline.step, listed]
    cases timeline.saved[index]? with
    | none => rfl
    | some calls =>
      dsimp only [Option.map_some]
      rw [restore_queueAfter]
      rfl
  cases call with
  | work call =>
    have next : queueStep (queueAfter timeline.calls) call =
        queueAfter (timeline.calls ++ [call]) :=
      (Logic.run_append queueStep {} timeline.calls [call]).symm
    exact congrArg (SavedQueue.mk · _) next
  | snapshot =>
    simp only [savedStep, Timeline.step, Timeline.state, List.map_append]
    rfl
  | restore index => exact restores index
  | restoreExecution index => exact (savedStep_restoreExecution _ index).trans (restores index)

/-- **Restores undo, and nothing else**: a run with snapshots and restores leads where the work
calls lead that no restore has undone, and no snapshot is refused. -/
theorem restores_undo (calls : List (SavedCall R)) :
    let state := Logic.run savedStep {} calls
    state = (Logic.run Timeline.step {} calls).state ∧
      ∀ snapshot ∈ state.snapshots, ∀ queue : DurableWorkQueue R,
        queue.restore snapshot = (snapshot, .ok ()) ∧
          queue.restoreExecution snapshot = (snapshot, .ok ()) := by
  intro state
  have same : state = (Logic.run Timeline.step {} calls).state := by
    induction calls using List.reverseRecOn with
    | nil => rfl
    | append_singleton before call ih =>
      unfold state
      rw [Logic.run_append, Logic.run_append, ih]
      exact savedStep_state _ call
  refine ⟨same, fun snapshot member queue => ?_⟩
  rw [same] at member
  obtain ⟨work, -, rfl⟩ := List.mem_map.mp member
  rw [DurableWorkQueue.restoreExecution_eq]
  exact ⟨restore_queueAfter queue work, restore_queueAfter queue work⟩

end Queue

/-- The law on a run that restores a snapshot taken after the lease. -/
theorem fencing_of_current_restore :
    latestToken (tokensOf [.work (.submit (Sample.work "first")),
      .work (.lease "work" "worker_a" 0 10 ∅), .snapshot, .restore 0]) "work" = some 1 := by
  have law := fencing_of_current [.work (.submit (Sample.work "first")),
    .work (.lease "work" "worker_a" 0 10 ∅), .snapshot, .restore 0,
    .work (.heartbeat "work" 1 5 10)] (by
      intro entry member
      simp only [Logic.trace_cons, Logic.trace_nil, List.mem_cons, List.not_mem_nil, or_false]
        at member
      rcases member with rfl | rfl | rfl | rfl | rfl
      · trivial
      · trivial
      · trivial
      · show (1 : Int) ≤ 1
        exact le_refl _
      · trivial)
  exact law.2 _ _ [] rfl "work" 1 (by decide)

/-- **A restore from before a lease lets its token be issued again**, to another worker. -/
theorem restore_repeats_token :
    tokensOf [.work (.submit (Sample.work "first")), .snapshot,
      .work (.lease "work" "worker_a" 0 10 ∅), .restore 0,
      .work (.lease "work" "worker_b" 0 10 ∅)] = [("work", 1), ("work", 1)] := by
  decide

end Dnc
