/-
**What a pending buffer holds up.**

A node whose output is PENDING is as little complete as one that has never run. `get_runnable` goes
on listing it, and every iteration calls it again: the loop polls (`pending_is_polled`). What it
holds up are the nodes behind it, directly or through others.

The second half needs more than the test of the direct upstream nodes. Along a run, whatever has an
output has complete upstream nodes (`Scheduler.Ordered`): dispatches keep that
(`Dispatching.next`), the graphs of replans have no edges (`edges_of_newPlan`), and a rollback
brings back a state that had it (`act_every`). A node is then dispatched only where all nodes that a
path leads from are complete.
-/

import Dnc.Runtime.Dispatches
import Dnc.Runtime.ReplanLimit

namespace Dnc.Runtime

open PyLib Logic Relation

/-! ### Buffers and graphs -/

namespace WorkingMemory

variable {α : Type} {memory : WorkingMemory α} {node : ModuleInstanceID}

/-- The output of the node is PENDING. -/
def IsPending (memory : WorkingMemory α) (node : ModuleInstanceID) : Prop :=
  ∃ buffer, Dict.get? memory node = some buffer ∧ buffer.output = .pending

instance [DecidableEq α] (memory : WorkingMemory α) (node : ModuleInstanceID) :
    Decidable (memory.IsPending node) :=
  decidable_of_iff ((Dict.get? memory node).map Buffer.output = some .pending) (by
    unfold IsPending
    rw [Option.map_eq_some_iff])

theorem IsPending.incomplete (pending : memory.IsPending node) : memory.isComplete node = false := by
  obtain ⟨buffer, found, output⟩ := pending
  unfold isComplete
  rw [found]
  dsimp only
  rw [output]
  rfl

end WorkingMemory

/-- An edge of the graph that the scheduler works on. -/
def Feeds (G : Option Scheduler) (upstream node : ModuleInstanceID) : Prop :=
  ∃ sched, G = some sched ∧ upstream ∈ sched.upstreams node

theorem feeds_some {sched : Scheduler} {upstream node : ModuleInstanceID} :
    Feeds (some sched) upstream node ↔ upstream ∈ sched.upstreams node := by
  constructor
  · rintro ⟨same, current, edge⟩
    obtain rfl := Option.some.inj current
    exact edge
  · exact fun edge => ⟨sched, rfl, edge⟩

section Ordered

variable {α : Type} {sched : Scheduler} {memory : WorkingMemory α} {node : ModuleInstanceID}

/-- Whatever has an output has complete upstream nodes, as where nothing has run yet. -/
def Scheduler.Ordered (sched : Scheduler) (memory : WorkingMemory α) : Prop :=
  ∀ node buffer, Dict.get? memory node = some buffer → buffer.output ≠ .unbound →
    ∀ upstream ∈ sched.upstreams node, memory.isComplete upstream = true

/-- The buffer of an incomplete node whose upstream nodes are complete may be written. -/
theorem Scheduler.Ordered.set (ordered : sched.Ordered memory)
    (incomplete : memory.isComplete node = false)
    (ready : ∀ upstream ∈ sched.upstreams node, memory.isComplete upstream = true)
    (buffer : Buffer α) : sched.Ordered (Dict.set memory node buffer) := by
  intro other stored found bound upstream edge
  apply WorkingMemory.isComplete_set_of_complete incomplete
  rw [Dict.get?_set] at found
  by_cases here : other = node
  · rw [here] at edge
    exact ready upstream edge
  · rw [if_neg here] at found
    exact ordered other stored found bound upstream edge

/-- **Completeness goes back along the edges.** -/
theorem Scheduler.Ordered.complete_before (ordered : sched.Ordered memory)
    (ready : ∀ upstream ∈ sched.upstreams node, memory.isComplete upstream = true)
    {first : ModuleInstanceID} (path : TransGen (Feeds (some sched)) first node) :
    memory.isComplete first = true := by
  induction path using TransGen.head_induction_on with
  | single edge => exact ready _ (feeds_some.mp edge)
  | head edge _ complete =>
    obtain ⟨buffer, found, proper⟩ := WorkingMemory.isComplete_iff.mp complete
    refine ordered _ buffer found ?_ _ (feeds_some.mp edge)
    intro unbound
    rw [unbound] at proper
    cases proper

/-- What a state keeps: its graph has been accepted, and outputs are in the order of the graph. -/
def InOrder (memory : WorkingMemory α) (G : Option Scheduler) : Prop :=
  ∀ sched, G = some sched → (∃ nodes edges, sched.Accepted nodes edges) ∧ sched.Ordered memory

end Ordered

namespace Session

variable {R α π ω : Type} [PyFloat R]

/-! ### Runs in which buffers are completed from outside -/

/-- A call of the run, or the completion of the buffer of a pending node. -/
inductive AsyncCall (R α : Type) where
  | loop (call : LoopCall R)
  | complete (node : ModuleInstanceID) (content : α)

/-- `es.W[node] = Buffer.completed(es.W[node].input, content)`, where the output is PENDING. -/
def completeBuffer (session : Session R α π ω) (node : ModuleInstanceID) (content : α) :
    Session R α π ω :=
  match session.es.W.get? node with
  | some ⟨input, .pending, _⟩ =>
    { session with es.W := session.es.W.set node (.completed input (.proper content)) }
  | _ => session

/-- The session after a call, whether it returns or raises. -/
def asyncStep (interpreter : Interpreter α) (session : Session R α π ω) :
    AsyncCall R α → Session R α π ω
  | .loop call => session.loopStep interpreter call
  | .complete node content => session.completeBuffer node content

/-- The calls of the dispatch function in a call of the run. -/
def dispatches (interpreter : Interpreter α) :
    Session R α π ω × AsyncCall R α → List (Session R α π ω × ModuleInstanceID)
  | (session, .loop (.step timestamp)) => stepDispatches interpreter session timestamp
  | _ => []

/-- **Pending modules block**: where the dispatch function is called for a node, no node with a
pending output is this node, or one before it. -/
def PendingBlocks (dispatch : Session R α π ω × ModuleInstanceID) : Prop :=
  ∀ pending, dispatch.1.es.W.IsPending pending →
    pending ≠ dispatch.2 ∧ ¬ TransGen (Feeds dispatch.1.es.G) pending dispatch.2

/-- What is left of it: no node with a pending output comes before the node. -/
def BlocksDownstream (dispatch : Session R α π ω × ModuleInstanceID) : Prop :=
  ∀ pending, dispatch.1.es.W.IsPending pending →
    ¬ TransGen (Feeds dispatch.1.es.G) pending dispatch.2

/-- A node of the graph with a pending output is among what can run. -/
def PendingStaysRunnable (session : Session R α π ω) : Prop :=
  ∀ sched, session.es.G = some sched → ∀ node, node ∈ sched.inDegree →
    session.es.W.IsPending node →
      ∃ runnable, sched.getRunnable session.es.W = .ok runnable ∧ node ∈ runnable

variable {interpreter : Interpreter α} {session start : Session R α π ω}

/-! ### One dispatch -/

/-- All nodes before a dispatched one are complete. -/
def AfterComplete (dispatch : Session R α π ω × ModuleInstanceID) : Prop :=
  ∀ first, TransGen (Feeds dispatch.1.es.G) first dispatch.2 →
    dispatch.1.es.W.isComplete first = true

/-- What the loop needs of the nodes that it has still to dispatch. -/
structure Dispatching (sched : Scheduler) (session : Session R α π ω)
    (nodes : List ModuleInstanceID) : Prop where
  scheduled : session.es.G = some sched
  ordered : sched.Ordered session.es.W
  distinct : nodes.Nodup
  incomplete : ∀ node ∈ nodes, session.es.W.isComplete node = false
  ready : ∀ node ∈ nodes, ∀ upstream ∈ sched.upstreams node,
    session.es.W.isComplete upstream = true

section Loop

variable {sched : Scheduler} {node : ModuleInstanceID} {rest : List ModuleInstanceID}

omit [PyFloat R] in
theorem Dispatching.tail (dispatching : Dispatching sched session (node :: rest)) :
    Dispatching sched session rest where
  scheduled := dispatching.scheduled
  ordered := dispatching.ordered
  distinct := (List.nodup_cons.mp dispatching.distinct).2
  incomplete := fun other member => dispatching.incomplete other (List.mem_cons_of_mem _ member)
  ready := fun other member => dispatching.ready other (List.mem_cons_of_mem _ member)

omit [PyFloat R] in
theorem Dispatching.of_world {nodes : List ModuleInstanceID}
    (dispatching : Dispatching sched session nodes) (world : ω) :
    Dispatching sched { session with world := world } nodes :=
  ⟨dispatching.scheduled, dispatching.ordered, dispatching.distinct, dispatching.incomplete,
    dispatching.ready⟩

omit [PyFloat R] in
/-- A result is written into the buffer of its node. -/
theorem storeResult_memory (session : Session R α π ω) (node : ModuleInstanceID)
    (result : Value α) :
    (storeResult session node result).2.es.W = session.es.W ∨
      ∃ buffer, (storeResult session node result).2.es.W = Dict.set session.es.W node buffer := by
  unfold storeResult
  split
  · exact Or.inl rfl
  · dsimp only
    split <;> exact Or.inr ⟨_, rfl⟩

omit [PyFloat R] in
/-- **One dispatch**, whatever it returns: the nodes behind this one can still be dispatched. -/
theorem Dispatching.next (dispatching : Dispatching sched session (node :: rest))
    (result : Value α) : Dispatching sched (storeResult session node result).2 rest := by
  have tail := dispatching.tail
  have scheduled := (storeResult_keeps session node result).G.trans dispatching.scheduled
  rcases storeResult_memory session node result with same | ⟨buffer, written⟩
  · constructor
    · exact scheduled
    · rw [same]
      exact tail.ordered
    · exact tail.distinct
    · rw [same]
      exact tail.incomplete
    · rw [same]
      exact tail.ready
  · have incomplete := dispatching.incomplete node List.mem_cons_self
    have ready := dispatching.ready node List.mem_cons_self
    constructor
    · exact scheduled
    · rw [written]
      exact dispatching.ordered.set incomplete ready buffer
    · exact tail.distinct
    · intro other member
      have different : other ≠ node := by
        rintro rfl
        exact (List.nodup_cons.mp dispatching.distinct).1 member
      rw [written, WorkingMemory.isComplete_set, if_neg different]
      exact tail.incomplete other member
    · intro other member upstream edge
      rw [written]
      exact WorkingMemory.isComplete_set_of_complete incomplete
        (tail.ready other member upstream edge) buffer

variable (interpreter) in
omit [PyFloat R] in
/-- **The loop over the runnable nodes** leaves outputs in order, and whatever it dispatches has
complete nodes before it. -/
theorem Dispatching.loop {nodes : List ModuleInstanceID}
    (dispatching : Dispatching sched session nodes) (done : List ModuleInstanceID) :
    sched.Ordered (dispatchAll interpreter session done nodes).2.es.W ∧
      ∀ dispatch ∈ loopDispatches interpreter session nodes, AfterComplete dispatch := by
  induction nodes generalizing session done with
  | nil => exact ⟨dispatching.ordered, fun _ member => absurd member List.not_mem_nil⟩
  | cons node rest ih =>
    have here : ∀ first, TransGen (Feeds session.es.G) first node →
        session.es.W.isComplete first = true := by
      rw [dispatching.scheduled]
      exact fun first path => dispatching.ordered.complete_before
        (dispatching.ready node List.mem_cons_self) path
    unfold dispatchAll loopDispatches
    split_ifs with pressed
    · exact ⟨dispatching.ordered, fun _ member => absurd member List.not_mem_nil⟩
    · obtain ⟨world, called⟩ := dispatchResult_keeps interpreter session node
      cases result : dispatchResult interpreter session node with
      | mk answer after =>
        rw [result] at called
        obtain rfl : after = { session with world := world } := called
        have going := dispatching.of_world world
        cases answer with
        | error raised =>
          exact ⟨going.ordered, List.forall_mem_singleton.mpr here⟩
        | ok output =>
          cases output with
          | none => exact ih going.tail done
          | some value =>
            have next := going.next value
            dsimp only
            cases storing : storeResult { session with world := world } node value with
            | mk done last =>
              rw [storing] at next
              cases done with
              | error raised => exact ⟨next.ordered, List.forall_mem_singleton.mpr here⟩
              | ok _ =>
                obtain ⟨ordered, later⟩ := ih next _
                exact ⟨ordered, List.forall_mem_cons.mpr ⟨here, later⟩⟩

end Loop

/-! ### One iteration -/

omit [PyFloat R] in
/-- What can run can be dispatched one after the other. -/
theorem dispatching_runnable {sched : Scheduler} (scheduled : session.es.G = some sched)
    (inOrder : InOrder session.es.W session.es.G) :
    ∃ runnable, sched.getRunnable session.es.W = .ok runnable ∧
      Dispatching sched session runnable := by
  obtain ⟨⟨nodes, edges, accepted⟩, ordered⟩ := inOrder sched scheduled
  obtain ⟨runnable, found, distinct, members⟩ := accepted.getRunnable session.es.W
  refine ⟨runnable, found, scheduled, ordered, distinct, ?_, ?_⟩
  · exact fun node member => ((members node).mp member).2.1
  · exact fun node member upstream edge => ((members node).mp member).2.2 upstream
      ((accepted.represents.upstream upstream node).mp edge)

omit [PyFloat R] in
/-- **A pending node can run**: it has an output, so the nodes before it are complete. -/
theorem pendingStaysRunnable_of_inOrder (inOrder : InOrder session.es.W session.es.G) :
    session.PendingStaysRunnable := by
  intro sched scheduled node listed pending
  obtain ⟨⟨nodes, edges, accepted⟩, ordered⟩ := inOrder sched scheduled
  obtain ⟨runnable, found, -, members⟩ := accepted.getRunnable session.es.W
  refine ⟨runnable, found, (members node).mpr
    ⟨(accepted.represents.degreeKeys node).mp listed, pending.incomplete, fun upstream edge => ?_⟩⟩
  obtain ⟨buffer, known, output⟩ := pending
  refine ordered node buffer known ?_ upstream ((accepted.represents.upstream upstream node).mpr edge)
  rw [output]
  exact nofun

variable (interpreter) in
theorem inOrder_proceed (inOrder : InOrder session.es.W session.es.G) :
    InOrder (act interpreter session .proceed).2.es.W (act interpreter session .proceed).2.es.G := by
  unfold act
  cases scheduled : session.es.G with
  | none =>
    rw [scheduled] at inOrder
    rw [scheduled]
    exact inOrder
  | some sched =>
    obtain ⟨runnable, found, dispatching⟩ := dispatching_runnable scheduled inOrder
    dsimp only
    rw [found]
    dsimp only
    rw [(dispatchAll_keeps interpreter session [] runnable).G]
    intro current same
    obtain rfl := Option.some.inj (scheduled.symm.trans same)
    exact ⟨(inOrder sched scheduled).1, (dispatching.loop interpreter []).1⟩

variable (interpreter) in
omit [PyFloat R] in
/-- Where there are no edges, every memory is in order. -/
theorem inOrder_installGraph (inOrder : InOrder session.es.W session.es.G)
    (gOld : ExecutionGraph R) {gNew : ExecutionGraph R} (unlinked : gNew.edges = []) :
    InOrder (installGraph interpreter session gOld gNew).2.es.W
      (installGraph interpreter session gOld gNew).2.es.G := by
  have any : ∀ {sched : Scheduler}, Scheduler.setGraph gNew.getVertices gNew.edges = .ok sched →
      ∀ memory : WorkingMemory α, InOrder memory (some sched) := by
    intro sched built memory current same
    obtain rfl := Option.some.inj same
    have accepted := Scheduler.accepted_of_setGraph built
    refine ⟨⟨_, _, accepted⟩, fun node buffer _ _ upstream edge => ?_⟩
    have listed := (accepted.represents.upstream upstream node).mp edge
    rw [unlinked] at listed
    cases listed
  unfold installGraph
  dsimp only
  cases built : Scheduler.setGraph gNew.getVertices gNew.edges with
  | error raised => exact inOrder
  | ok sched =>
    dsimp only
    split <;> exact any built _

/-- A replan asks for a plan of the one word `replan`. -/
theorem edges_of_newPlan {gNew : ExecutionGraph R} (lower : interpreter.lower "replan" = "replan")
    (planned : newPlan interpreter session = .ok (.ok gNew)) : gNew.edges = [] := by
  refine edges_of_plan_word ?_ planned
  rw [lower]
  decide

/-- **An iteration** keeps states in order. -/
theorem inOrder_step (lower : interpreter.lower "replan" = "replan")
    (every : session.es.Every InOrder) (timestamp : R) :
    (session.step interpreter timestamp).2.es.Every InOrder := by
  have kept := session.decide_keeps (session.observe timestamp)
  have decided : (session.decide (session.observe timestamp)).2.es.Every InOrder := by
    rw [kept.es]
    exact every
  apply step_rule interpreter (P := fun next => next.es.Every InOrder)
  · exact fun _ _ => decided
  · intro decision _
    refine act_every interpreter decided (inOrder_proceed interpreter decided.here)
      (fun gOld gNew _ planned => ?_) decision
    exact inOrder_installGraph interpreter (checkpointed_every decided).here gOld
      (edges_of_newPlan lower planned)
  · intro next decision every
    cases decision <;> exact every

omit [PyFloat R] in
/-- The buffer of a pending node may be completed at any time. -/
theorem inOrder_completeBuffer (every : session.es.Every InOrder) (node : ModuleInstanceID)
    (content : α) : (session.completeBuffer node content).es.Every InOrder := by
  unfold completeBuffer
  split
  · rename_i input metadata found
    refine every.of_record rfl fun sched scheduled => ?_
    obtain ⟨accepted, ordered⟩ := every.here sched scheduled
    have pending : session.es.W.IsPending node := ⟨_, found, rfl⟩
    refine ⟨accepted, ordered.set pending.incomplete ?_ _⟩
    exact ordered node _ found nofun
  · exact every

/-- **A call** keeps states in order. -/
theorem inOrder_asyncStep (lower : interpreter.lower "replan" = "replan")
    (every : session.es.Every InOrder) (call : AsyncCall R α) :
    (asyncStep interpreter session call).es.Every InOrder := by
  cases call with
  | complete node content => exact inOrder_completeBuffer every node content
  | loop call =>
    cases call with
    | step timestamp => exact inOrder_step lower every timestamp
    | registerModule contract =>
      unfold asyncStep loopStep registerModule
      dsimp only
      split <;> exact every
    | resume =>
      unfold asyncStep loopStep resume
      dsimp only
      split_ifs <;> exact every
    | recordStep | charge | setReplanThreshold => exact every

variable (interpreter) in
omit [PyFloat R] in
theorem afterComplete_act (inOrder : InOrder session.es.W session.es.G) (decision : Decision) :
    ∀ dispatch ∈ actDispatches interpreter session decision, AfterComplete dispatch := by
  cases decision with
  | replan | idle | pause | rollback | terminate => exact fun _ member => absurd member List.not_mem_nil
  | proceed =>
    unfold actDispatches
    cases scheduled : session.es.G with
    | none => exact fun _ member => absurd member List.not_mem_nil
    | some sched =>
      obtain ⟨runnable, found, dispatching⟩ := dispatching_runnable scheduled inOrder
      dsimp only
      rw [found]
      exact (dispatching.loop interpreter []).2

variable (interpreter) in
/-- **What a call of the run dispatches** has complete nodes before it. -/
theorem afterComplete_dispatches (every : session.es.Every InOrder) (call : AsyncCall R α) :
    ∀ dispatch ∈ dispatches interpreter (session, call), AfterComplete dispatch := by
  cases call with
  | complete => exact fun _ member => absurd member List.not_mem_nil
  | loop call =>
    cases call with
    | step timestamp =>
      have kept := session.decide_keeps (session.observe timestamp)
      have inOrder : InOrder (session.decide (session.observe timestamp)).2.es.W
          (session.decide (session.observe timestamp)).2.es.G := by
        rw [kept.es]
        exact every.here
      show ∀ dispatch ∈ stepDispatches interpreter session timestamp, AfterComplete dispatch
      unfold stepDispatches
      cases deciding : session.decide (session.observe timestamp) with
      | mk answer after =>
        rw [deciding] at inOrder
        cases answer with
        | error raised => exact fun _ member => absurd member List.not_mem_nil
        | ok decision => exact afterComplete_act interpreter inOrder decision
    | registerModule | resume | recordStep | charge | setReplanThreshold =>
      exact fun _ member => absurd member List.not_mem_nil

/-! ### Runs -/

variable {dispatch : DispatchFn α ω}

variable (interpreter) in
/-- The calls of a call of the run. -/
theorem called_asyncStep (devMode : DispatchesBy dispatch session) (call : AsyncCall R α) :
    Called dispatch session (dispatches interpreter (session, call))
      (asyncStep interpreter session call) := by
  cases call with
  | complete node content =>
    have same : SameWorld session (session.completeBuffer node content) := by
      unfold completeBuffer
      split <;> exact ⟨rfl, rfl, rfl⟩
    exact same.called devMode
  | loop call =>
    cases call with
    | step timestamp => exact called_step interpreter devMode timestamp
    | registerModule contract =>
      have same : SameWorld session (session.registerModule contract).2 := by
        unfold registerModule
        split <;> exact ⟨rfl, rfl, rfl⟩
      exact same.called devMode
    | resume =>
      have same : SameWorld session session.resume := by
        unfold resume
        split_ifs <;> exact ⟨rfl, rfl, rfl⟩
      exact same.called devMode
    | recordStep | charge | setReplanThreshold => exact ⟨⟨devMode.mode, devMode.function⟩, rfl⟩

variable (interpreter) in
/-- **The calls of a run.** -/
theorem called_run (devMode : DispatchesBy dispatch start) (calls : List (AsyncCall R α)) :
    Called dispatch start
      ((trace (asyncStep interpreter) start calls).flatMap (dispatches interpreter))
      (run (asyncStep interpreter) start calls) := by
  induction calls using List.reverseRecOn with
  | nil => exact ⟨devMode, rfl⟩
  | append_singleton calls call ih =>
    have last := called_asyncStep interpreter ih.devMode call
    rw [run_append, trace_append, List.flatMap_append]
    refine ⟨last.devMode, last.world.trans ?_⟩
    rw [ih.world, trace_cons, trace_nil, List.flatMap_singleton]
    unfold worldAfter
    rw [List.foldl_append]

/-- **What a pending buffer holds up.** In every run in DEV mode from a state whose graph has been
accepted and whose outputs are in its order, with any dispatch function, policy, costs, replans and
rollbacks, and with buffers completed from outside at any time: no node is dispatched while a node
before it is pending, and a pending node of the graph can run. -/
theorem pending_blocks_downstream (interpreter : Interpreter α)
    (lower : interpreter.lower "replan" = "replan") {sched : Scheduler}
    {nodes : List ModuleInstanceID} {edges : List (ModuleInstanceID × ModuleInstanceID)}
    (devMode : DispatchesBy dispatch start) (scheduled : start.es.G = some sched)
    (accepted : sched.Accepted nodes edges) (ordered : sched.Ordered start.es.W)
    (record : start.es.C = []) (calls : List (AsyncCall R α)) :
    let entries := trace (asyncStep interpreter) start calls
    let dispatched := entries.flatMap (dispatches interpreter)
    (run (asyncStep interpreter) start calls).world = worldAfter dispatch start.world dispatched ∧
      (∀ call ∈ dispatched, BlocksDownstream call) ∧
      ∀ entry ∈ entries, entry.1.PendingStaysRunnable := by
  have initial : start.es.Every InOrder := by
    refine ⟨fun current same => ?_, fun checkpoint member => ?_⟩
    · obtain rfl := Option.some.inj (scheduled.symm.trans same)
      exact ⟨⟨nodes, edges, accepted⟩, ordered⟩
    · rw [record] at member
      cases member
  have along : ∀ entry ∈ trace (asyncStep interpreter) start calls, entry.1.es.Every InOrder := by
    intro entry member
    obtain ⟨before, after, -, reached⟩ := mem_trace _ member
    rw [reached]
    exact run_invariant (P := fun session : Session R α π ω => session.es.Every InOrder)
      (fun session call every => inOrder_asyncStep lower every call) initial before
  refine ⟨(called_run interpreter devMode calls).world, fun call member => ?_, fun entry member =>
    pendingStaysRunnable_of_inOrder (along entry member).here⟩
  obtain ⟨entry, inTrace, here⟩ := List.mem_flatMap.mp member
  intro pending isPending path
  have complete := afterComplete_dispatches interpreter (along entry inTrace) entry.2 call here
    pending path
  exact Bool.noConfusion (complete.symm.trans isPending.incomplete)

end Session

/-! ### A node that is asked twice -/

namespace Sample

/-- Nothing is ready yet. -/
def notYet : DispatchFn Unit Unit := fun world _ => (.ok .pending, world)

def pair : List ModuleInstanceID := [.ofCounter "A" 0, .ofCounter "B" 0]

def pairSched : Scheduler :=
  (Scheduler.setGraph pair [(.ofCounter "A" 0, .ofCounter "B" 0)]).toOption.getD ⟨∅, ∅, ∅⟩

/-- Two nodes in a row, the first of which is waited for. -/
def waiting : Session ℚ Unit (RulePolicy ℚ) Unit where
  runtime := { Runtime.new ⟨3, 50, default_replans_valid⟩ 100 rulePolicy (.new 3) with
    state := .running
    moduleDispatchFn := some notYet }
  es := { ExecutionState.new "execution" with
    W := (WorkingMemory.registerAll ∅ pair).2
    G := some pairSched }
  world := ()

/-- The first node is asked twice, then completed from outside, and the second one is asked. -/
def asking : List (Session.AsyncCall ℚ Unit) :=
  [.loop (.step 0), .loop (.step 0), .complete (.ofCounter "A" 0) (), .loop (.step 0)]

end Sample

/-- While the first of the two nodes is pending, the second one is not dispatched. -/
theorem waiting_blocks_second :
    Session.DispatchesBy Sample.notYet Sample.waiting ∧
      ∀ call ∈ (trace (Session.asyncStep Sample.interpreter) Sample.waiting Sample.asking).flatMap
        (Session.dispatches Sample.interpreter), Session.BlocksDownstream call := by
  have built : Scheduler.setGraph Sample.pair [(.ofCounter "A" 0, .ofCounter "B" 0)] =
      .ok Sample.pairSched := by rfl
  have unbound : ∀ entry ∈ Sample.waiting.es.W.entries, entry.2.output = .unbound := by
    decide +kernel
  have ordered : Sample.pairSched.Ordered Sample.waiting.es.W := by
    intro node buffer found bound
    exact absurd (unbound (node, buffer) (Dict.mem_entries.mpr found)) bound
  have devMode : Session.DispatchesBy Sample.notYet Sample.waiting := ⟨rfl, rfl⟩
  exact ⟨devMode, (Session.pending_blocks_downstream Sample.interpreter rfl devMode rfl
    (Scheduler.accepted_of_setGraph built) ordered rfl Sample.asking).2.1⟩

/-- The first node is pending when it is asked for the second time. -/
theorem pending_is_polled :
    ¬ ∀ call ∈ (trace (Session.asyncStep Sample.interpreter) Sample.waiting Sample.asking).flatMap
      (Session.dispatches Sample.interpreter), Session.PendingBlocks call := by
  intro blocks
  have asked : ∃ call ∈ (trace (Session.asyncStep Sample.interpreter) Sample.waiting
      Sample.asking).flatMap (Session.dispatches Sample.interpreter),
        call.1.es.W.IsPending call.2 := by
    decide +kernel
  obtain ⟨call, member, pending⟩ := asked
  exact (blocks call member call.2 pending).1 rfl

end Dnc.Runtime
