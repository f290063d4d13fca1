/-
**Runs that complete their graph.**

A session in DEV mode under the reference policy, with room to replan that it does not need and no
signals, is `Quiet`; the calls of the control loop keep it so. An iteration then dispatches every
runnable node (`Quiet.step_round`), or ends the run when nothing is runnable (`Quiet.step_last`).
What is complete after a number of iterations are the nodes that no longer path leads to, so the
iterations are the rounds of `Logic.Levels`, with one more that ends the run.

`completes_after_longest_path` puts these together.
-/

import Dnc.Logic.Levels
import Dnc.Logic.Run
import Dnc.Runtime.Replan

namespace Dnc.Runtime

open PyLib Logic Relation

namespace Session

variable {R α ω : Type} [PyFloat R] {interpreter : Interpreter α}

/-! ### Quiet sessions -/

/-- DEV mode with the dispatch function, the reference policy with a budget over its threshold, no
replan forced or forbidden by the runtime, no signals, no backpressure, and a record as long as
`CheckpointRecord` allows. -/
structure Quiet (sched : Scheduler) (dispatch : DispatchFn α ω)
    (session : Session R α (RulePolicy R) ω) : Prop where
  mode : session.runtime.providerMode = .dev
  dispatches : session.runtime.moduleDispatchFn = some dispatch
  policy : session.runtime.decisionPolicy = rulePolicy
  room : session.runtime.policyState.replanCount < session.runtime.policyState.maxReplans
  funded : session.runtime.policyState.resourceThreshold ≤ session.es.budgetRemaining
  affordable : session.runtime.costForecaster.shouldTriggerReplan session.runtime.costBudget = false
  replans : session.runtime.replanCount < session.runtime.config.maxReplansPerExecution
  silent : session.runtime.pendingSignals = []
  unpressed : session.runtime.backpressureActive = false
  scheduled : session.es.G = some sched
  record : session.es.C.length ≤ maxCheckpoints

/-- The session after a decision of the reference policy that is not to replan. -/
def prepared (session : Session R α (RulePolicy R) ω) : Session R α (RulePolicy R) ω :=
  { session with runtime.policyState :=
      session.runtime.policyState.setCriticalSection session.runtime.criticalSection }

variable {sched : Scheduler} {dispatch : DispatchFn α ω}
  {session next : Session R α (RulePolicy R) ω} {nodes : List ModuleInstanceID}
  {edges : List (ModuleInstanceID × ModuleInstanceID)}

theorem Quiet.prepared (quiet : Quiet sched dispatch session) :
    Quiet sched dispatch session.prepared :=
  ⟨quiet.mode, quiet.dispatches, quiet.policy, quiet.room, quiet.funded, quiet.affordable,
    quiet.replans, quiet.silent, quiet.unpressed, quiet.scheduled, quiet.record⟩

theorem Quiet.settle (quiet : Quiet sched dispatch session) (decision : Decision) :
    Quiet sched dispatch (session.settle decision) := by
  cases decision <;> exact ⟨quiet.mode, quiet.dispatches, quiet.policy, quiet.room, quiet.funded,
    quiet.affordable, quiet.replans, quiet.silent, quiet.unpressed, quiet.scheduled, quiet.record⟩

theorem SameButBuffers.quiet (kept : SameButBuffers session next)
    (quiet : Quiet sched dispatch session) : Quiet sched dispatch next := by
  have runtime := kept.runtime
  constructor
  · exact runtime ▸ quiet.mode
  · exact runtime ▸ quiet.dispatches
  · exact runtime ▸ quiet.policy
  · exact runtime ▸ quiet.room
  · rw [runtime, kept.budgetRemaining]
    exact quiet.funded
  · exact runtime ▸ quiet.affordable
  · exact runtime ▸ quiet.replans
  · exact runtime ▸ quiet.silent
  · exact runtime ▸ quiet.unpressed
  · exact kept.G.trans quiet.scheduled
  · rw [kept.C]
    exact quiet.record

/-! ### Decisions -/

/-- Where everything in working memory is complete there is nothing to run. -/
theorem Quiet.decide (quiet : Quiet sched dispatch session)
    (running : session.runtime.state = .running) {runnable : List ModuleInstanceID}
    (found : sched.getRunnable session.es.W = .ok runnable)
    (complete : session.es.pendingCount = 0 → runnable = []) (timestamp : R) :
    session.decide (session.observe timestamp) =
      (.ok (if runnable = [] then .terminate else .proceed), session.prepared) := by
  have proceeds : session.prepared.decideToProceed (session.observe timestamp) =
      .ok (if runnable = [] then .terminate else .proceed) := by
    unfold decideToProceed observe
    rw [quiet.silent]
    have scheduled : session.prepared.es.G = some sched := quiet.scheduled
    have next : sched.getRunnable session.prepared.es.W = .ok runnable := found
    rw [if_pos List.isEmpty_nil, scheduled]
    dsimp only
    rw [next]
    cases runnable <;> rfl
  have policy : session.runtime.decisionPolicy = rulePolicy := quiet.policy
  have decided : ∃ policyDecision, session.runtime.decisionPolicy.decide
      (session.runtime.decisionPolicy.setCriticalSection session.runtime.policyState
        session.runtime.criticalSection)
      ⟨(session.observe timestamp).signals, (session.observe timestamp).timestamp, false⟩
      session.es = (policyDecision, session.prepared.runtime.policyState) ∧
        (policyDecision = .proceed ∨ policyDecision = .terminate ∧ runnable = []) := by
    rw [policy]
    cases critical : session.runtime.criticalSection with
    | true =>
      refine ⟨.proceed, ?_, Or.inl rfl⟩
      show RulePolicy.decide (session.runtime.policyState.setCriticalSection true) _ _ = _
      rw [RulePolicy.decide_critical rfl, Session.prepared, critical]
    | false =>
      refine ⟨if session.es.pendingCount = 0 then .terminate else .proceed, ?_, ?_⟩
      · rw [Session.prepared, critical]
        show RulePolicy.decide (session.runtime.policyState.setCriticalSection false) _ session.es =
          (_, session.runtime.policyState.setCriticalSection false)
        exact RulePolicy.decide_quiet rfl quiet.room quiet.funded rfl
      · by_cases done : session.es.pendingCount = 0
        · rw [if_pos done]
          exact Or.inr ⟨rfl, complete done⟩
        · rw [if_neg done]
          exact Or.inl rfl
  obtain ⟨policyDecision, decided, which⟩ := decided
  rw [decide_follows running quiet.affordable quiet.replans decided]
  rcases which with rfl | ⟨rfl, nothing⟩
  · exact congrArg (fun decision => (decision, session.prepared)) proceeds
  · rw [if_pos nothing]
    rfl

/-! ### Dispatch -/

/-- Every call of the dispatch function returns a proper value. -/
def ReturnsProper (dispatch : DispatchFn α ω) : Prop :=
  ∀ world node, ∃ content, (dispatch world node).1 = .ok (.proper content)

/-- The nodes have been dispatched, in this order. -/
structure HasDispatched (dispatch : DispatchFn α ω) (nodes : List ModuleInstanceID)
    (session next : Session R α (RulePolicy R) ω) : Prop where
  same : SameButBuffers session next
  complete : ∀ node, next.es.W.isComplete node = true ↔
    session.es.W.isComplete node = true ∨ node ∈ nodes
  registered : ∀ node, node ∈ next.es.W ↔ node ∈ session.es.W
  others : ∀ node, node ∉ nodes → next.es.W.get? node = session.es.W.get? node
  calls : next.world = nodes.foldl (fun world node => (dispatch world node).2) session.world

omit [PyFloat R] in
/-- An acyclic graph with a node violates no invariant. -/
theorem checkInvariants_none (accepted : sched.Accepted nodes edges) {node : ModuleInstanceID}
    (listed : node ∈ nodes) {es : ExecutionState R α} (scheduled : es.G = some sched)
    (record : es.C.length ≤ maxCheckpoints) : es.checkInvariants = none := by
  have inhabited : sched.inDegree.length ≠ 0 := by
    intro empty
    have member : node ∈ sched.inDegree := (accepted.represents.degreeKeys node).mpr listed
    obtain ⟨degree, found⟩ := Dict.mem_iff_get?.mp member
    have entry := Dict.mem_entries.mpr found
    rw [List.length_eq_zero_iff.mp empty] at entry
    exact List.not_mem_nil entry
  unfold ExecutionState.checkInvariants
  rw [scheduled]
  dsimp only
  rw [if_neg inhabited, accepted.acyclic, if_neg Bool.false_ne_true]
  exact if_neg (not_lt.mpr record)

omit [PyFloat R] in
theorem HasDispatched.nil (session : Session R α (RulePolicy R) ω) :
    HasDispatched dispatch [] session session where
  same := SameButBuffers.refl session
  complete := fun _ => (or_iff_left List.not_mem_nil).symm
  registered := fun _ => Iff.rfl
  others := fun _ _ => rfl
  calls := rfl

omit [PyFloat R] in
theorem HasDispatched.append {last : Session R α (RulePolicy R) ω}
    {front rest : List ModuleInstanceID} (first : HasDispatched dispatch front session next)
    (second : HasDispatched dispatch rest next last) :
    HasDispatched dispatch (front ++ rest) session last where
  same := first.same.trans second.same
  complete := by
    intro node
    rw [second.complete, first.complete, or_assoc, List.mem_append]
  registered := fun node => (second.registered node).trans (first.registered node)
  others := by
    intro node absent
    rw [List.mem_append, not_or] at absent
    exact (second.others node absent.2).trans (first.others node absent.1)
  calls := by rw [second.calls, first.calls, List.foldl_append]

/-- One node: its result is stored. -/
theorem Quiet.storeResult (quiet : Quiet sched dispatch session)
    (accepted : sched.Accepted nodes edges) {node : ModuleInstanceID} (listed : node ∈ nodes)
    (known : node ∈ session.es.W) {world : ω} {content : α}
    (answered : dispatch session.world node = (.ok (.proper content), world)) :
    ∃ next, Session.storeResult { session with world := world } node (.proper content) =
        (.ok (), next) ∧ HasDispatched dispatch [node] session next := by
  obtain ⟨buffer, found⟩ := Dict.mem_iff_get?.mp known
  have valid : ({ session.es with
      W := session.es.W.set node (.completed buffer.input (.proper content)) } :
        ExecutionState R α).checkInvariants = none :=
    checkInvariants_none accepted listed quiet.scheduled quiet.record
  refine ⟨{ session with
    world := world
    es.W := session.es.W.set node (.completed buffer.input (.proper content))
    es.stepIndex := session.es.stepIndex + 1 }, ?_, ⟨rfl, rfl, rfl, rfl⟩, ?_, ?_, ?_, ?_⟩
  · unfold Session.storeResult
    dsimp only
    rw [found]
    dsimp only
    rw [valid]
    rfl
  · intro other
    rw [WorkingMemory.isComplete_set, List.mem_singleton]
    by_cases here : other = node
    · rw [if_pos here]
      exact iff_of_true rfl (Or.inr here)
    · rw [if_neg here]
      exact (or_iff_left here).symm
  · intro other
    exact Dict.mem_set.trans (or_iff_right_of_imp fun same => same ▸ known)
  · intro other absent
    exact Dict.get?_set_of_ne _ (fun here => absent (List.mem_singleton.mpr here)) _
  · show world = (dispatch session.world node).2
    rw [answered]

variable (interpreter) in
/-- **Every runnable node is dispatched.** -/
theorem Quiet.dispatchAll (quiet : Quiet sched dispatch session)
    (accepted : sched.Accepted nodes edges) (proper : ReturnsProper dispatch)
    {runnable : List ModuleInstanceID} (listed : ∀ node ∈ runnable, node ∈ nodes)
    (known : ∀ node ∈ runnable, node ∈ session.es.W) (done : List ModuleInstanceID) :
    ∃ next, dispatchAll interpreter session done runnable = (.ok (done ++ runnable), next) ∧
      HasDispatched dispatch runnable session next := by
  induction runnable generalizing session done with
  | nil =>
    refine ⟨session, ?_, HasDispatched.nil session⟩
    rw [List.append_nil]
    rfl
  | cons node rest ih =>
    obtain ⟨content, answer⟩ := proper session.world node
    have answered : dispatch session.world node =
        (.ok (.proper content), (dispatch session.world node).2) := Prod.ext answer rfl
    obtain ⟨middle, stored, first⟩ := quiet.storeResult accepted (listed node List.mem_cons_self)
      (known node List.mem_cons_self) answered
    have knownAfter : ∀ other ∈ rest, other ∈ middle.es.W := fun other member =>
      (first.registered other).mpr (known other (List.mem_cons_of_mem _ member))
    obtain ⟨next, dispatched, second⟩ := ih (first.same.quiet quiet)
      (fun other member => listed other (List.mem_cons_of_mem _ member)) knownAfter (done ++ [node])
    refine ⟨next, ?_, first.append second⟩
    have result : dispatchResult interpreter session node = (.ok (some (.proper content)),
        { session with world := (dispatch session.world node).2 }) := by
      unfold dispatchResult
      rw [quiet.mode, quiet.dispatches]
      dsimp only
      rw [answer]
      rfl
    unfold Session.dispatchAll
    rw [quiet.unpressed, if_neg Bool.false_ne_true, result]
    dsimp only
    rw [stored]
    dsimp only
    rw [dispatched, List.append_assoc, List.singleton_append]

/-! ### One iteration -/

/-- An edge of the graph. -/
def Precedes (edges : List (ModuleInstanceID × ModuleInstanceID)) (first second : ModuleInstanceID) :
    Prop :=
  (first, second) ∈ edges

/-- The nodes that a round finishes. -/
def FinishedIn (nodes : List ModuleInstanceID) (edges : List (ModuleInstanceID × ModuleInstanceID))
    (before after : ℕ) (node : ModuleInstanceID) : Prop :=
  node ∈ nodes ∧ ¬ Within nodes (Precedes edges) before node ∧
    Within nodes (Precedes edges) after node

/-- What holds after so many iterations from the start. -/
structure Progress (sched : Scheduler) (dispatch : DispatchFn α ω) (nodes : List ModuleInstanceID)
    (edges : List (ModuleInstanceID × ModuleInstanceID)) (longest : ℕ)
    (start : Session R α (RulePolicy R) ω) (rounds : ℕ) (session : Session R α (RulePolicy R) ω) :
    Prop where
  quiet : Quiet sched dispatch session
  registered : ∀ node, node ∈ session.es.W ↔ node ∈ start.es.W
  others : ∀ node, node ∉ nodes → session.es.W.get? node = start.es.W.get? node
  complete : ∀ node ∈ nodes, session.es.W.isComplete node = true ↔
    Within nodes (Precedes edges) rounds node
  state : session.runtime.state = if longest < rounds then .terminated else .running

/-- An iteration returns, and what it dispatches has all its upstream nodes complete. -/
def DispatchesReady (interpreter : Interpreter α)
    (edges : List (ModuleInstanceID × ModuleInstanceID))
    (entry : Session R α (RulePolicy R) ω × R) : Prop :=
  ∃ iteration next, entry.1.step interpreter entry.2 = (.ok iteration, next) ∧
    ∀ node ∈ iteration.dispatched, ∀ upstream, Precedes edges upstream node →
      entry.1.es.W.isComplete upstream = true

omit [PyFloat R] in
/-- Everything registered is complete when nothing is pending. -/
theorem complete_of_pendingCount {es : ExecutionState R α} (none : es.pendingCount = 0)
    {node : ModuleInstanceID} (known : node ∈ es.W) : es.W.isComplete node = true := by
  unfold ExecutionState.pendingCount at none
  split_ifs at none
  have all := List.filter_eq_nil_iff.mp (List.length_eq_zero_iff.mp none)
  simpa using all node known

section Rounds

variable {longest rounds : ℕ} {start : Session R α (RulePolicy R) ω}

omit [PyFloat R] in
/-- What is runnable is finished in the next round. -/
theorem runnable_iff (accepted : sched.Accepted nodes edges)
    (complete : ∀ node ∈ nodes, session.es.W.isComplete node = true ↔
      Within nodes (Precedes edges) rounds node) :
    ∃ runnable, sched.getRunnable session.es.W = .ok runnable ∧ runnable.Nodup ∧
      ∀ node, node ∈ runnable ↔ FinishedIn nodes edges rounds (rounds + 1) node := by
  obtain ⟨runnable, found, distinct, members⟩ := accepted.getRunnable session.es.W
  refine ⟨runnable, found, distinct, fun node => (members node).trans ?_⟩
  unfold FinishedIn
  refine and_congr_right fun listed => ?_
  rw [within_succ_iff listed, ← complete node listed, Bool.not_eq_true]
  refine and_congr_right fun _ => ⟨fun ready before known edge => ?_, fun ready before edge => ?_⟩
  · exact (complete before known).mp (ready before edge)
  · have known := (accepted.represents.within _ edge).1
    exact (complete before known).mpr (ready before known edge)

/-- **A node is runnable as long as the longest path is longer.** -/
theorem runnable_eq_nil_iff (accepted : sched.Accepted nodes edges)
    (greatest : IsGreatest (pathLengths nodes (Precedes edges)) longest)
    {runnable : List ModuleInstanceID}
    (members : ∀ node, node ∈ runnable ↔ FinishedIn nodes edges rounds (rounds + 1) node) :
    runnable = [] ↔ longest ≤ rounds := by
  rw [← all_within_iff greatest]
  constructor
  · rintro rfl node listed
    by_contra left
    obtain ⟨ready, member, before, after⟩ :=
      exists_ready (accepted.represents.hasCycle_iff.mp accepted.acyclic) listed left
    exact List.not_mem_nil ((members ready).mpr ⟨member, before, after⟩)
  · intro all
    rw [List.eq_nil_iff_forall_not_mem]
    intro node member
    obtain ⟨listed, before, -⟩ := (members node).mp member
    exact before (all node listed)

/-- Once the runnable nodes are complete, one more level is. -/
theorem complete_after_round {memory later : WorkingMemory α} {runnable : List ModuleInstanceID}
    (complete : ∀ node ∈ nodes, memory.isComplete node = true ↔
      Within nodes (Precedes edges) rounds node)
    (members : ∀ node, node ∈ runnable ↔ FinishedIn nodes edges rounds (rounds + 1) node)
    (grown : ∀ node, later.isComplete node = true ↔ memory.isComplete node = true ∨ node ∈ runnable)
    (node : ModuleInstanceID) (listed : node ∈ nodes) :
    later.isComplete node = true ↔ Within nodes (Precedes edges) (rounds + 1) node := by
  rw [grown, complete node listed, members]
  unfold FinishedIn
  by_cases before : Within nodes (Precedes edges) rounds node
  · exact iff_of_true (Or.inl before) (before.mono (Nat.le_succ rounds))
  · simp [before, listed]

variable (interpreter) in
/-- Where something is runnable an iteration dispatches it. -/
theorem Quiet.step_round (quiet : Quiet sched dispatch session)
    (running : session.runtime.state = .running) (accepted : sched.Accepted nodes edges)
    (proper : ReturnsProper dispatch) {runnable : List ModuleInstanceID}
    (found : sched.getRunnable session.es.W = .ok runnable) (inhabited : runnable ≠ [])
    (listed : ∀ node ∈ runnable, node ∈ nodes) (known : ∀ node ∈ runnable, node ∈ session.es.W)
    (incomplete : ∀ node ∈ runnable, ¬ session.es.W.isComplete node = true) (timestamp : R) :
    ∃ next, session.step interpreter timestamp = (.ok ⟨.proceed, runnable, .outcomeMet⟩, next) ∧
      HasDispatched dispatch runnable session.prepared next := by
  have pending : session.es.pendingCount = 0 → runnable = [] := by
    intro none
    rw [List.eq_nil_iff_forall_not_mem]
    exact fun node member =>
      incomplete node member (complete_of_pendingCount none (known node member))
  have decided := quiet.decide running found pending timestamp
  rw [if_neg inhabited] at decided
  obtain ⟨next, dispatched, result⟩ :=
    quiet.prepared.dispatchAll interpreter accepted proper listed known []
  have acted : act interpreter session.prepared .proceed = (.ok runnable, next) := by
    unfold act
    rw [quiet.prepared.scheduled]
    dsimp only
    have same : sched.getRunnable session.prepared.es.W = .ok runnable := found
    rw [same]
    exact dispatched
  have assessed : next.assess runnable = .outcomeMet := by
    unfold assess
    rw [if_pos]
    rw [List.all_eq_true]
    exact fun node member => (result.complete node).mpr (Or.inr member)
  refine ⟨next, ?_, result⟩
  unfold Session.step
  rw [decided]
  dsimp only
  rw [acted]
  dsimp only
  rw [assessed]
  rfl

/-- Where nothing is runnable an iteration ends the run. -/
theorem Quiet.step_last (quiet : Quiet sched dispatch session)
    (running : session.runtime.state = .running)
    (found : sched.getRunnable session.es.W = .ok []) (timestamp : R) :
    session.step interpreter timestamp =
      (.ok ⟨.terminate, [], .outcomeMet⟩, session.prepared.settle .terminate) := by
  have decided := quiet.decide running found (fun _ => rfl) timestamp
  rw [if_pos rfl] at decided
  unfold Session.step
  rw [decided]
  rfl

/-- An iteration of a session that is not running any more. -/
theorem step_terminated {session : Session R α (RulePolicy R) ω}
    (ended : session.runtime.state = .terminated) (timestamp : R) :
    session.step interpreter timestamp = (.ok ⟨.terminate, [], .outcomeMet⟩, session) := by
  have notRunning : session.runtime.state ≠ .running := by
    rw [ended]
    decide
  have decided : session.decide (session.observe timestamp) = (.ok .terminate, session) := by
    unfold Session.decide
    exact if_pos notRunning
  have same : session.settle .terminate = session := by
    unfold settle
    rw [← ended]
  unfold step
  rw [decided]
  show (Except.ok (⟨.terminate, [], .outcomeMet⟩ : Iteration), session.settle .terminate) = _
  rw [same]

variable (interpreter) in
/-- **One iteration is one round.** -/
theorem Progress.step (accepted : sched.Accepted nodes edges) (proper : ReturnsProper dispatch)
    (known : ∀ node ∈ nodes, node ∈ start.es.W)
    (greatest : IsGreatest (pathLengths nodes (Precedes edges)) longest)
    (progress : Progress sched dispatch nodes edges longest start rounds session) (timestamp : R) :
    ∃ decision dispatched next, session.step interpreter timestamp =
        (.ok ⟨decision, dispatched, .outcomeMet⟩, next) ∧
      Progress sched dispatch nodes edges longest start (rounds + 1) next ∧
      dispatched.Nodup ∧
      (∀ node, node ∈ dispatched ↔ FinishedIn nodes edges rounds (rounds + 1) node) ∧
      next.world = dispatched.foldl (fun world node => (dispatch world node).2) session.world := by
  obtain ⟨runnable, found, distinct, members⟩ := runnable_iff accepted progress.complete
  have registered : ∀ node ∈ nodes, node ∈ session.es.W := fun node listed =>
    (progress.registered node).mpr (known node listed)
  have nothing := runnable_eq_nil_iff accepted greatest members
  by_cases none : runnable = []
  · subst none
    have unchanged := complete_after_round progress.complete members
      fun node => (or_iff_left List.not_mem_nil).symm
    have last := nothing.mp rfl
    by_cases ended : longest < rounds
    · have state := progress.state
      rw [if_pos ended] at state
      refine ⟨.terminate, [], session, step_terminated state timestamp, ⟨progress.quiet,
        progress.registered, progress.others, unchanged, ?_⟩, List.nodup_nil, members, rfl⟩
      rw [state, if_pos (Nat.lt_succ_of_lt ended)]
    · have running := progress.state
      rw [if_neg ended] at running
      refine ⟨.terminate, [], session.prepared.settle .terminate,
        progress.quiet.step_last running found timestamp, ⟨progress.quiet.prepared.settle .terminate,
          progress.registered, progress.others, unchanged, ?_⟩, List.nodup_nil, members, rfl⟩
      rw [if_pos (Nat.lt_succ_of_le last)]
      rfl
  · have longer : rounds < longest := not_le.mp fun last => none (nothing.mpr last)
    have running := progress.state
    rw [if_neg (Nat.not_lt.mpr longer.le)] at running
    obtain ⟨next, stepped, dispatched⟩ := progress.quiet.step_round interpreter
      running accepted proper found none (fun node member => ((members node).mp member).1)
      (fun node member => registered node ((members node).mp member).1)
      (fun node member complete => by
        obtain ⟨listed, before, -⟩ := (members node).mp member
        exact before ((progress.complete node listed).mp complete)) timestamp
    refine ⟨.proceed, runnable, next, stepped, ⟨dispatched.same.quiet progress.quiet.prepared,
      fun node => (dispatched.registered node).trans (progress.registered node),
      fun node foreign => ?_, complete_after_round progress.complete members dispatched.complete, ?_⟩,
      distinct, members, dispatched.calls⟩
    · have unlisted : node ∉ runnable := fun member => foreign ((members node).mp member).1
      exact (dispatched.others node unlisted).trans (progress.others node foreign)
    · rw [dispatched.same.runtime, if_neg (Nat.not_lt.mpr longer)]
      exact running

/-! ### A whole run -/

/-- The session after an iteration. -/
def iterate (interpreter : Interpreter α) (session : Session R α (RulePolicy R) ω) (timestamp : R) :
    Session R α (RulePolicy R) ω :=
  (session.step interpreter timestamp).2

/-- What an iteration dispatches. -/
def dispatchedBy (interpreter : Interpreter α) (entry : Session R α (RulePolicy R) ω × R) :
    List ModuleInstanceID :=
  match (entry.1.step interpreter entry.2).1 with
  | .ok iteration => iteration.dispatched
  | .error _ => []

theorem finishedIn_split {before middle after : ℕ} (early : before ≤ middle) (late : middle ≤ after)
    {node : ModuleInstanceID} :
    FinishedIn nodes edges before middle node ∨ FinishedIn nodes edges middle after node ↔
      FinishedIn nodes edges before after node := by
  unfold FinishedIn
  constructor
  · rintro (⟨listed, left, finished⟩ | ⟨listed, left, finished⟩)
    · exact ⟨listed, left, finished.mono late⟩
    · exact ⟨listed, fun earlier => left (earlier.mono early), finished⟩
  · rintro ⟨listed, left, finished⟩
    by_cases between : Within nodes (Precedes edges) middle node
    · exact Or.inl ⟨listed, left, between⟩
    · exact Or.inr ⟨listed, between, finished⟩

variable (interpreter) in
/-- **So many iterations are so many rounds.** -/
theorem Progress.run (accepted : sched.Accepted nodes edges) (proper : ReturnsProper dispatch)
    (known : ∀ node ∈ nodes, node ∈ start.es.W)
    (greatest : IsGreatest (pathLengths nodes (Precedes edges)) longest)
    (progress : Progress sched dispatch nodes edges longest start rounds session)
    (timestamps : List R) :
    let entries := trace (iterate interpreter) session timestamps
    let last := run (iterate interpreter) session timestamps
    let dispatched := entries.flatMap (dispatchedBy interpreter)
    Progress sched dispatch nodes edges longest start (rounds + timestamps.length) last ∧
      (∀ entry ∈ entries, DispatchesReady interpreter edges entry) ∧
      dispatched.Nodup ∧
      (∀ node, node ∈ dispatched ↔ FinishedIn nodes edges rounds (rounds + timestamps.length) node) ∧
      last.world = dispatched.foldl (fun world node => (dispatch world node).2) session.world := by
  induction timestamps generalizing session rounds with
  | nil =>
    refine ⟨progress, fun _ member => absurd member List.not_mem_nil, List.nodup_nil,
      fun node => iff_of_false List.not_mem_nil ?_, rfl⟩
    rintro ⟨-, before, after⟩
    exact before after
  | cons timestamp rest ih =>
    obtain ⟨decision, dispatched, next, stepped, progressed, distinct, members, calls⟩ :=
      progress.step interpreter accepted proper known greatest timestamp
    have moved : iterate interpreter session timestamp = next := by
      unfold iterate
      rw [stepped]
    have shown : dispatchedBy interpreter (session, timestamp) = dispatched := by
      unfold dispatchedBy
      rw [stepped]
    obtain ⟨last, ready, laterDistinct, laterMembers, laterCalls⟩ := ih progressed
    have shift : rounds + 1 + rest.length = rounds + (timestamp :: rest).length := by
      rw [List.length_cons]
      omega
    rw [shift] at last laterMembers
    dsimp only
    rw [trace_cons, run_cons, moved, List.flatMap_cons, shown]
    refine ⟨last, List.forall_mem_cons.mpr ⟨⟨_, _, stepped, ?_⟩, ready⟩,
      List.nodup_append.mpr ⟨distinct, laterDistinct, ?_⟩, ?_, ?_⟩
    · intro node member upstream edge
      obtain ⟨listed, -, after⟩ := (members node).mp member
      have both := accepted.represents.within _ edge
      exact (progress.complete upstream both.1).mpr
        ((within_succ_iff listed).mp after upstream both.1 edge)
    · rintro node first other later rfl
      exact ((laterMembers node).mp later).2.1 ((members node).mp first).2.2
    · intro node
      rw [List.mem_append, members, laterMembers]
      exact finishedIn_split (Nat.le_succ rounds) (by rw [← shift]; exact Nat.le_add_right _ _)
    · rw [List.foldl_append, ← calls]
      exact laterCalls

end Rounds

/-- **The run of a quiet session over an acyclic graph.** -/
theorem completes_after_longest_path (interpreter : Interpreter α)
    (accepted : sched.Accepted nodes edges) (quiet : Quiet sched dispatch session)
    (running : session.runtime.state = .running)
    (unbound : ∀ node ∈ nodes, ∃ buffer, session.es.W.get? node = some buffer ∧
      buffer.output = .unbound)
    (proper : ReturnsProper dispatch) :
    ∃ longest, IsGreatest (pathLengths nodes (Precedes edges)) longest ∧ ∀ timestamps : List R,
      let entries := trace (iterate interpreter) session timestamps
      let last := run (iterate interpreter) session timestamps
      let dispatched := entries.flatMap (dispatchedBy interpreter)
      (∀ entry ∈ entries, DispatchesReady interpreter edges entry) ∧
        dispatched.Nodup ∧
        last.world = dispatched.foldl (fun world node => (dispatch world node).2) session.world ∧
        last.runtime.state = (if longest < timestamps.length then .terminated else .running) ∧
        (longest ≤ timestamps.length →
          (∀ node, node ∈ dispatched ↔ node ∈ nodes) ∧
          (∀ node ∈ nodes, last.es.W.isComplete node = true) ∧
          ((∀ node ∈ session.es.W, node ∉ nodes → session.es.W.isComplete node = true) →
            ∀ node ∈ last.es.W, last.es.W.isComplete node = true)) := by
  have acyclic : ∀ node, ¬ TransGen (Precedes edges) node node :=
    accepted.represents.hasCycle_iff.mp accepted.acyclic
  obtain ⟨longest, greatest⟩ : ∃ longest, IsGreatest (pathLengths nodes (Precedes edges)) longest :=
    exists_longest acyclic
  have known : ∀ node ∈ nodes, node ∈ session.es.W := by
    intro node listed
    obtain ⟨buffer, found, -⟩ := unbound node listed
    exact Dict.mem_of_get? found
  have initial : Progress sched dispatch nodes edges longest session 0 session := by
    refine ⟨quiet, fun _ => Iff.rfl, fun _ _ => rfl, fun node listed => ?_, running⟩
    refine iff_of_false ?_ (not_within_zero listed)
    rw [WorkingMemory.isComplete_iff]
    rintro ⟨buffer, found, isProper⟩
    obtain ⟨other, isOther, isUnbound⟩ := unbound node listed
    obtain rfl := Option.some.inj (isOther.symm.trans found)
    rw [isUnbound] at isProper
    cases isProper
  refine ⟨longest, greatest, fun timestamps => ?_⟩
  obtain ⟨last, ready, distinct, members, calls⟩ :=
    initial.run interpreter accepted proper known greatest timestamps
  rw [Nat.zero_add] at last members
  refine ⟨ready, distinct, calls, last.state, fun enough => ?_⟩
  have all := (all_within_iff greatest).mpr enough
  have complete : ∀ node ∈ nodes, (run (iterate interpreter) session timestamps).es.W.isComplete
      node = true := fun node listed => (last.complete node listed).mpr (all node listed)
  refine ⟨fun node => (members node).trans ?_, complete, fun foreign node registered => ?_⟩
  · exact ⟨fun finished => finished.1, fun listed =>
      ⟨listed, not_within_zero listed, all node listed⟩⟩
  · by_cases listed : node ∈ nodes
    · exact complete node listed
    · have before := foreign node ((last.registered node).mp registered) listed
      unfold WorkingMemory.isComplete at before ⊢
      rw [last.others node listed]
      exact before

end Session

/-! ### Two nodes in a row -/

namespace Sample

def nodes : List ModuleInstanceID := [.ofCounter "A" 0, .ofCounter "B" 0]

def edges : List (ModuleInstanceID × ModuleInstanceID) := [(.ofCounter "A" 0, .ofCounter "B" 0)]

def sched : Scheduler := (Scheduler.setGraph nodes edges).toOption.getD ⟨∅, ∅, ∅⟩

def answer : DispatchFn Unit Unit := fun world _ => (.ok (.proper ()), world)

def inARow : Session ℚ Unit (RulePolicy ℚ) Unit where
  runtime := { Runtime.new ⟨3, 50, default_replans_valid⟩ 100 rulePolicy (.new 3) with
    state := .running
    moduleDispatchFn := some answer }
  es := { ExecutionState.new "execution" with
    W := (WorkingMemory.registerAll ∅ nodes).2
    G := some sched }
  world := ()

end Sample

/-- The run over two nodes in a row, until it has ended. -/
theorem inARow_completes :
    ∃ longest, IsGreatest (pathLengths Sample.nodes (Session.Precedes Sample.edges)) longest ∧
      ∀ timestamps : List ℚ,
        (run (Session.iterate Sample.interpreter) Sample.inARow timestamps).runtime.state =
          (if longest < timestamps.length then .terminated else .running) := by
  have built : Scheduler.setGraph Sample.nodes Sample.edges = .ok Sample.sched := by rfl
  have quiet : Session.Quiet Sample.sched Sample.answer Sample.inARow := by
    refine ⟨rfl, rfl, rfl, ?_, ?_, ?_, ?_, rfl, ?_, rfl, ?_⟩ <;> decide +kernel
  have unbound : ∀ node ∈ Sample.nodes, ∃ buffer, Sample.inARow.es.W.get? node = some buffer ∧
      buffer.output = .unbound := by
    have all : ∀ node ∈ Sample.nodes, Sample.inARow.es.W.get? node = some .unboundInput := by
      decide +kernel
    exact fun node listed => ⟨.unboundInput, all node listed, rfl⟩
  obtain ⟨longest, greatest, runs⟩ := Session.completes_after_longest_path Sample.interpreter
    (Scheduler.accepted_of_setGraph built) quiet rfl unbound fun _ _ => ⟨(), rfl⟩
  exact ⟨longest, greatest, fun timestamps => (runs timestamps).2.2.2.1⟩

end Dnc.Runtime
