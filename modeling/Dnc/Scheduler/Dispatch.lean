/-
**One scheduler, many graphs.**

`dnc.scheduler.scheduler` with the order that `get_dispatch_order` keeps: `set_graph` rebuilds the
tables in place, and leaves the kept order as it is. A cycle clears the tables before the exception;
an edge with an unknown node leaves what was built before it.

* `setGraph_cases`: a graph is accepted as by a new scheduler, or what is left of it where it is not.
* `dispatch_law_iff`: along a run every order and every list of runnable nodes is that of the graph
  accepted last, and no exception leaves part of a graph, exactly when every call finds the
  scheduler in step with that graph.
-/

import Dnc.Logic.Run
import Dnc.Scheduler.Scheduler

namespace Dnc.Runtime

open PyLib Logic Relation

/-- A `Scheduler` with `_dispatch_order`. -/
structure CachedScheduler where
  tables : Scheduler := {}
  dispatchOrder : Option (List ModuleInstanceID) := none

namespace CachedScheduler

/-- The loop over the edges, with the tables that an exception leaves. -/
def addEdges (tables : Scheduler) :
    List (ModuleInstanceID × ModuleInstanceID) → Except Raised Unit × Scheduler
  | [] => (.ok (), tables)
  | edge :: rest =>
    match tables.addEdge edge with
    | .ok next => addEdges next rest
    | .error raised => (.error raised, tables)

/-- `Scheduler.set_graph`. -/
def setGraph (sched : CachedScheduler) (nodes : List ModuleInstanceID)
    (edges : List (ModuleInstanceID × ModuleInstanceID)) : Except Raised Unit × CachedScheduler :=
  match addEdges (.ofNodes nodes) edges with
  | (.error raised, tables) => (.error raised, { sched with tables := tables })
  | (.ok (), tables) =>
    match tables.rejectCycle with
    | .ok tables => (.ok (), { sched with tables := tables })
    | .error raised => (.error raised, { sched with tables := {} })

/-- `Scheduler.get_dispatch_order`. -/
def getDispatchOrder (sched : CachedScheduler) :
    Except Raised (List ModuleInstanceID) × CachedScheduler :=
  match sched.dispatchOrder with
  | some order => (.ok order, sched)
  | none =>
    match sched.tables.getDispatchOrder with
    | .ok order => (.ok order, { sched with dispatchOrder := some order })
    | .error raised => (.error raised, sched)

/-- `Scheduler.get_runnable`. -/
def getRunnable {α : Type} (sched : CachedScheduler) (memory : WorkingMemory α) :
    Except Raised (List ModuleInstanceID) × CachedScheduler :=
  match sched.getDispatchOrder with
  | (.error raised, next) => (.error raised, next)
  | (.ok order, next) =>
    (.ok (order.filter fun node =>
      !memory.isComplete node && sched.tables.arePreconditionsMet memory node), next)

end CachedScheduler

/-! ### The tables of an accepted graph -/

section Tables

variable {sched : Scheduler} {nodes : List ModuleInstanceID}
  {edges : List (ModuleInstanceID × ModuleInstanceID)}

/-- **The dispatch order is a topological order of the graph.** -/
theorem Scheduler.Accepted.topological (accepted : sched.Accepted nodes edges) :
    sched.getDispatchOrder = .ok sched.visitOrder ∧
      TopologicalOrder nodes.dedup (fun first second => (first, second) ∈ edges)
        sched.visitOrder := by
  have represents := accepted.represents
  have counts : ∀ node ∈ sched.inDegree.keys, sched.degree node =
      pendingPredecessors sched.inDegree.keys sched.successors [] node :=
    fun node _ => represents.counts node
  have complete : sched.visitOrder.length = sched.inDegree.length := by
    simpa [Scheduler.hasCycle] using accepted.acyclic
  have keysLength : sched.inDegree.length = sched.inDegree.keys.length :=
    (List.length_map Prod.fst).symm
  have acyclic := (kahn_complete_iff represents.finiteGraph counts).mp (complete.trans keysLength)
  have order := kahnOrder_topological represents.finiteGraph counts acyclic
  have distinct : sched.inDegree.keys.Nodup := sched.inDegree.nodup
  have keysPerm : sched.inDegree.keys.Perm nodes.dedup := by
    rw [List.perm_ext_iff_of_nodup distinct nodes.nodup_dedup]
    intro node
    rw [List.mem_dedup]
    exact represents.degreeKeys node
  refine ⟨?_, order.perm.trans keysPerm, fun first second edge => ?_⟩
  · unfold Scheduler.getDispatchOrder
    rw [if_neg (not_not.mpr complete)]
  · exact order.forward first second (represents.edge_iff.mpr edge)

theorem Scheduler.Accepted.arePreconditionsMet {α : Type} (accepted : sched.Accepted nodes edges)
    (memory : WorkingMemory α) (node : ModuleInstanceID) :
    sched.arePreconditionsMet memory node = true ↔
      ∀ upstream, (upstream, node) ∈ edges → memory.isComplete upstream = true := by
  rw [Scheduler.arePreconditionsMet, List.all_eq_true]
  simp only [accepted.represents.upstream]

/-- The empty tables are those of the graph without nodes. -/
theorem Scheduler.accepted_empty : ({} : Scheduler).Accepted [] [] :=
  ⟨Scheduler.represents_ofNodes [], by decide⟩

end Tables

namespace CachedScheduler

section SetGraph

variable {sched : CachedScheduler} {nodes : List ModuleInstanceID}
  {edges : List (ModuleInstanceID × ModuleInstanceID)}

/-- The loop over the edges of the model of one graph. -/
theorem addEdges_eq (tables : Scheduler) (edges : List (ModuleInstanceID × ModuleInstanceID)) :
    edges.foldlM Scheduler.addEdge tables =
      (addEdges tables edges).1.map fun _ => (addEdges tables edges).2 := by
  induction edges generalizing tables with
  | nil => rfl
  | cons edge rest ih =>
    rw [List.foldlM_cons, addEdges]
    cases added : tables.addEdge edge with
    | error raised => rfl
    | ok next => exact ih next

/-- What `set_graph` does: the graph is accepted, its cycle clears the tables, or an unknown node
leaves what was built. -/
theorem setGraph_cases (sched : CachedScheduler) (nodes : List ModuleInstanceID)
    (edges : List (ModuleInstanceID × ModuleInstanceID)) :
    (∃ tables, tables.Accepted nodes edges ∧
        sched.setGraph nodes edges = (.ok (), { sched with tables := tables })) ∨
      ((∀ edge ∈ edges, edge.1 ∈ nodes ∧ edge.2 ∈ nodes) ∧
        ∃ raised, sched.setGraph nodes edges = (.error raised, { sched with tables := {} })) ∨
      (¬ ∀ edge ∈ edges, edge.1 ∈ nodes ∧ edge.2 ∈ nodes) ∧
        ∃ raised, sched.setGraph nodes edges =
          (.error raised, { sched with tables := (addEdges (.ofNodes nodes) edges).2 }) := by
  obtain ⟨built, succeeds⟩ := (Scheduler.represents_ofNodes nodes).addEdges edges
  rw [addEdges_eq] at built succeeds
  unfold setGraph
  rcases added : addEdges (.ofNodes nodes) edges with ⟨raised | done, tables⟩
  · rw [added] at succeeds
    refine Or.inr (Or.inr ⟨fun within => ?_, raised, rfl⟩)
    obtain ⟨next, same⟩ := succeeds.mpr within
    cases same
  · rw [added] at succeeds built
    have within := succeeds.mp ⟨tables, rfl⟩
    have represents : tables.Represents nodes edges := built tables rfl
    dsimp only
    cases cyclic : tables.hasCycle with
    | true =>
      refine Or.inr (Or.inl ⟨within, ?_⟩)
      rw [Scheduler.rejectCycle, cyclic]
      exact ⟨_, rfl⟩
    | false =>
      refine Or.inl ⟨tables, ⟨represents, cyclic⟩, ?_⟩
      rw [Scheduler.rejectCycle, cyclic]
      rfl

/-- The nodes stay in the tables. -/
theorem mem_addEdges {tables : Scheduler} {node : ModuleInstanceID} (known : node ∈ tables.inDegree)
    (edges : List (ModuleInstanceID × ModuleInstanceID)) :
    node ∈ (addEdges tables edges).2.inDegree := by
  induction edges generalizing tables with
  | nil => exact known
  | cons edge rest ih =>
    rw [addEdges]
    cases added : tables.addEdge edge with
    | error raised => exact known
    | ok next =>
      apply ih
      obtain ⟨-, ⟨-, rfl⟩ | ⟨-, rfl⟩⟩ := Scheduler.addEdge_cases added
      · exact known
      · unfold Scheduler.insertEdge
        exact Dict.mem_set.mpr (Or.inr known)

/-- What is built before an unknown node is empty exactly where there is no node. -/
theorem addEdges_ofNodes_eq_empty :
    (addEdges (.ofNodes nodes) edges).2 = {} ↔ nodes = [] := by
  constructor
  · intro empty
    by_contra some
    obtain ⟨node, listed⟩ := List.exists_mem_of_ne_nil nodes some
    have known : node ∈ (Scheduler.ofNodes nodes).inDegree :=
      ((Scheduler.represents_ofNodes nodes).degreeKeys node).mpr listed
    have left := mem_addEdges known edges
    rw [empty] at left
    exact absurd left List.not_mem_nil
  · rintro rfl
    cases edges with
    | nil => rfl
    | cons edge rest => rfl

end SetGraph

end CachedScheduler

/-! ### Runs -/

/-- The calls of a scheduler. -/
inductive DispatchCall (α : Type) where
  | setGraph (nodes : List ModuleInstanceID) (edges : List (ModuleInstanceID × ModuleInstanceID))
  | getDispatchOrder
  | getRunnable (memory : WorkingMemory α)

/-- A scheduler with the graph that it accepted last, and whether `set_graph` has raised since. -/
structure Dispatching where
  sched : CachedScheduler := {}
  nodes : List ModuleInstanceID := []
  edges : List (ModuleInstanceID × ModuleInstanceID) := []
  raised : Bool := false

namespace Dispatching

variable {α : Type}

/-- A call, with what it makes of the graph accepted last. -/
def perform (state : Dispatching) : DispatchCall α → Dispatching
  | .setGraph nodes edges =>
    match state.sched.setGraph nodes edges with
    | (.ok (), next) => { sched := next, nodes := nodes, edges := edges }
    | (.error _, next) => { state with sched := next, raised := true }
  | .getDispatchOrder => { state with sched := state.sched.getDispatchOrder.2 }
  | .getRunnable memory => { state with sched := (state.sched.getRunnable memory).2 }

/-- A topological order of the graph accepted last. -/
def Orders (state : Dispatching) (order : List ModuleInstanceID) : Prop :=
  TopologicalOrder state.nodes.dedup (fun first second => (first, second) ∈ state.edges) order

/-- **What a call owes**: an exception of `set_graph` leaves no tables; `get_dispatch_order` returns
a topological order of the graph accepted last, and `get_runnable`, in that order, the incomplete
nodes whose upstream nodes are complete. -/
def Law : Dispatching × DispatchCall α → Prop
  | (state, .setGraph nodes edges) => ∀ raised next,
      state.sched.setGraph nodes edges = (.error raised, next) → next.tables = {}
  | (state, .getDispatchOrder) =>
    ∃ order, state.sched.getDispatchOrder.1 = .ok order ∧ state.Orders order
  | (state, .getRunnable memory) =>
    ∃ order runnable, state.sched.getDispatchOrder.1 = .ok order ∧ state.Orders order ∧
      (state.sched.getRunnable memory).1 = .ok runnable ∧ runnable.Sublist order ∧
      ∀ node, node ∈ runnable ↔ node ∈ state.nodes ∧ memory.isComplete node = false ∧
        ∀ upstream, (upstream, node) ∈ state.edges → memory.isComplete upstream = true

/-- The kept order, if there is one, is one of the graph accepted last; without one the tables have
not been cleared, or the graph has no nodes. -/
def OrderInStep (state : Dispatching) : Prop :=
  match state.sched.dispatchOrder with
  | some order => state.Orders order
  | none => state.raised = false ∨ state.nodes = []

/-- **When a call finds the scheduler in step**: no edge of a graph with nodes has an unknown node,
and the order and the tables that are read are those of the graph accepted last, or the tables make
no difference. -/
def InStep : Dispatching × DispatchCall α → Prop
  | (_, .setGraph nodes edges) => (∀ edge ∈ edges, edge.1 ∈ nodes ∧ edge.2 ∈ nodes) ∨ nodes = []
  | (state, .getDispatchOrder) => state.OrderInStep
  | (state, .getRunnable memory) => state.OrderInStep ∧
      (state.raised = false ∨ ∀ edge ∈ state.edges, memory.isComplete edge.2 = false →
        memory.isComplete edge.1 = true)

/-- The tables are those of the graph accepted last, or cleared by an exception. -/
structure Sound (state : Dispatching) : Prop where
  within : ∀ edge ∈ state.edges, edge.1 ∈ state.nodes ∧ edge.2 ∈ state.nodes
  accepted : state.raised = false → state.sched.tables.Accepted state.nodes state.edges
  cleared : state.raised = true → state.sched.tables = {}

section Step

variable {state : Dispatching}

theorem sound_start : Sound {} :=
  ⟨List.forall_mem_nil _, fun _ => Scheduler.accepted_empty, nofun⟩

theorem Orders.mem_iff {order : List ModuleInstanceID} (orders : state.Orders order)
    (node : ModuleInstanceID) : node ∈ order ↔ node ∈ state.nodes :=
  orders.perm.mem_iff.trans List.mem_dedup

theorem tables_getDispatchOrder (sched : CachedScheduler) :
    sched.getDispatchOrder.2.tables = sched.tables := by
  unfold CachedScheduler.getDispatchOrder
  cases sched.dispatchOrder with
  | some order => rfl
  | none => cases sched.tables.getDispatchOrder <;> rfl

theorem getRunnable_snd (sched : CachedScheduler) (memory : WorkingMemory α) :
    (sched.getRunnable memory).2 = sched.getDispatchOrder.2 := by
  unfold CachedScheduler.getRunnable
  rcases sched.getDispatchOrder with ⟨raised | order, next⟩ <;> rfl

/-- A call in step keeps the tables sound. -/
theorem Sound.perform (sound : state.Sound) {call : DispatchCall α} (inStep : InStep (state, call)) :
    (state.perform call).Sound := by
  have untouched : ∀ sched : CachedScheduler, sched.tables = state.sched.tables →
      Sound { state with sched := sched } := fun sched same =>
    ⟨sound.within, fun fresh => same ▸ sound.accepted fresh, fun stale => same ▸ sound.cleared stale⟩
  cases call with
  | setGraph nodes edges =>
    unfold Dispatching.perform
    dsimp only
    obtain ⟨tables, accepted, set⟩ | ⟨-, raised, set⟩ | ⟨unknown, raised, set⟩ :=
      CachedScheduler.setGraph_cases state.sched nodes edges
    · rw [set]
      exact ⟨accepted.represents.within, fun _ => accepted, nofun⟩
    · rw [set]
      exact ⟨sound.within, nofun, fun _ => rfl⟩
    · have empty : nodes = [] := Or.resolve_left inStep unknown
      rw [set]
      exact ⟨sound.within, nofun, fun _ => CachedScheduler.addEdges_ofNodes_eq_empty.mpr empty⟩
  | getDispatchOrder => exact untouched _ (tables_getDispatchOrder state.sched)
  | getRunnable memory =>
    exact untouched _ <| by rw [getRunnable_snd, tables_getDispatchOrder]

/-- **The order that is returned is one of the graph accepted last exactly in step.** -/
theorem Sound.order_iff (sound : state.Sound) :
    (∃ order, state.sched.getDispatchOrder.1 = .ok order ∧ state.Orders order) ↔
      state.OrderInStep := by
  unfold CachedScheduler.getDispatchOrder OrderInStep
  cases kept : state.sched.dispatchOrder with
  | some order =>
    constructor
    · rintro ⟨other, same, orders⟩
      obtain rfl := Except.ok.inj same
      exact orders
    · exact fun orders => ⟨order, rfl, orders⟩
  | none =>
    dsimp only
    cases stale : state.raised with
    | false =>
      obtain ⟨found, orders⟩ := (sound.accepted stale).topological
      rw [found]
      exact iff_of_true ⟨_, rfl, orders⟩ (Or.inl rfl)
    | true =>
      obtain ⟨found, orders⟩ := Scheduler.accepted_empty.topological
      rw [sound.cleared stale, found]
      constructor
      · rintro ⟨order, same, other⟩
        obtain rfl := Except.ok.inj same
        refine Or.inr (List.eq_nil_iff_forall_not_mem.mpr fun node listed => ?_)
        have visited := orders.perm.mem_iff.mp ((other.mem_iff node).mpr listed)
        exact absurd visited List.not_mem_nil
      · rintro (fresh | empty)
        · cases fresh
        · refine ⟨_, rfl, ?_, fun first second edge => ?_⟩
          · rw [empty]
            exact orders.perm
          · have listed := (sound.within _ edge).1
            rw [empty] at listed
            cases listed

theorem getRunnable_fst {order : List ModuleInstanceID}
    (found : state.sched.getDispatchOrder.1 = .ok order) (memory : WorkingMemory α) :
    (state.sched.getRunnable memory).1 = .ok (order.filter fun node =>
      !memory.isComplete node && state.sched.tables.arePreconditionsMet memory node) := by
  unfold CachedScheduler.getRunnable
  rcases given : state.sched.getDispatchOrder with ⟨raised | other, next⟩
  · rw [given] at found
    cases found
  · rw [given] at found
    obtain rfl := Except.ok.inj found
    rfl

/-- Where the tables are those of the graph, or make no difference, the test of the upstream nodes
is that of the graph. -/
theorem Sound.arePreconditionsMet_iff (sound : state.Sound) {memory : WorkingMemory α}
    (current : state.raised = false ∨ ∀ edge ∈ state.edges, memory.isComplete edge.2 = false →
      memory.isComplete edge.1 = true) {node : ModuleInstanceID}
    (incomplete : memory.isComplete node = false) :
    state.sched.tables.arePreconditionsMet memory node = true ↔
      ∀ upstream, (upstream, node) ∈ state.edges → memory.isComplete upstream = true := by
  cases stale : state.raised with
  | false => exact (sound.accepted stale).arePreconditionsMet memory node
  | true =>
    have all := current.resolve_left (by rw [stale]; decide)
    rw [sound.cleared stale]
    exact iff_of_true rfl fun upstream edge => all (upstream, node) edge incomplete

theorem Sound.runnable_iff (sound : state.Sound) (memory : WorkingMemory α) :
    Law (state, .getRunnable memory) ↔ InStep (state, .getRunnable memory) := by
  constructor
  · rintro ⟨order, runnable, found, orders, listed, -, members⟩
    refine ⟨sound.order_iff.mp ⟨order, found, orders⟩, ?_⟩
    cases stale : state.raised with
    | false => exact Or.inl rfl
    | true =>
      refine Or.inr fun edge member incomplete => ?_
      rw [getRunnable_fst found, sound.cleared stale] at listed
      obtain rfl := Except.ok.inj listed
      have known := (orders.mem_iff edge.2).mpr (sound.within edge member).2
      have chosen := (members edge.2).mp <| List.mem_filter.mpr ⟨known, by rw [incomplete]; rfl⟩
      exact chosen.2.2 edge.1 member
  · rintro ⟨inStep, current⟩
    obtain ⟨order, found, orders⟩ := sound.order_iff.mpr inStep
    refine ⟨order, _, found, orders, getRunnable_fst found memory, List.filter_sublist,
      fun node => ?_⟩
    rw [List.mem_filter, orders.mem_iff, Bool.and_eq_true, Bool.not_eq_true']
    refine and_congr_right fun _ => and_congr_right fun incomplete => ?_
    exact sound.arePreconditionsMet_iff current incomplete

/-- **A call owes what the law says exactly where it finds the scheduler in step.** -/
theorem Sound.law_iff (sound : state.Sound) (call : DispatchCall α) :
    Law (state, call) ↔ InStep (state, call) := by
  cases call with
  | setGraph nodes edges =>
    unfold Law InStep
    dsimp only
    obtain ⟨tables, accepted, set⟩ | ⟨within, raised, set⟩ | ⟨unknown, raised, set⟩ :=
      CachedScheduler.setGraph_cases state.sched nodes edges
    · rw [set]
      exact iff_of_true (fun _ _ same => nomatch same) (Or.inl accepted.represents.within)
    · rw [set]
      refine iff_of_true ?_ (Or.inl within)
      rintro _ _ ⟨⟩
      rfl
    · rw [set, ← @CachedScheduler.addEdges_ofNodes_eq_empty nodes edges]
      constructor
      · exact fun cleared => Or.inr (cleared _ _ rfl)
      · rintro (within | empty)
        · exact absurd within unknown
        · rintro _ _ ⟨⟩
          exact empty
  | getDispatchOrder => exact sound.order_iff
  | getRunnable memory => exact sound.runnable_iff memory

end Step

/-- **Every order and every list of runnable nodes of a run is that of the graph accepted last, and
no exception leaves part of a graph, exactly when every call finds the scheduler in step.** -/
theorem dispatch_law_iff (calls : List (DispatchCall α)) :
    (∀ entry ∈ trace perform {} calls, Law entry) ↔
      ∀ entry ∈ trace perform {} calls, InStep entry :=
  trace_law_iff sound_start (fun _ _ sound inStep => sound.perform inStep)
    fun _ call sound => sound.law_iff call

/-- The order of the first graph is returned for the second, whose edge it reverses. -/
theorem stale_order_returned :
    let first : ModuleInstanceID := .ofCounter "first" 0
    let second : ModuleInstanceID := .ofCounter "second" 0
    let calls : List (DispatchCall Unit) :=
      [.setGraph [first, second] [(first, second)], .getDispatchOrder,
        .setGraph [first, second] [(second, first)], .getDispatchOrder]
    ¬ ∀ entry ∈ trace perform {} calls, Law entry := by
  intro first second calls law
  have last : (run perform {} (calls.take 3), DispatchCall.getDispatchOrder) ∈
      trace perform {} calls := List.getLast_mem (l := trace perform {} calls) (by decide)
  obtain ⟨order, found, orders⟩ := law _ last
  have kept : (run perform {} (calls.take 3)).sched.getDispatchOrder.1 = .ok [first, second] := by
    decide
  obtain rfl := Except.ok.inj (found.symm.trans kept)
  have reversed : (second, first) ∈ (run perform {} (calls.take 3)).edges := by decide
  exact absurd (orders.forward second first reversed) (by decide)

end Dispatching

end Dnc.Runtime
