/-
**The scheduler.**

`dnc.scheduler.scheduler`: the graph as adjacency lists, and which nodes can run. The loops of
`_has_cycle` and `get_dispatch_order` are Kahn's algorithm (`Logic.Kahn`) over the lists that
`set_graph` builds, so `set_graph` accepts exactly the acyclic graphs over the given nodes
(`setGraph_ok_iff`), and every node is in the dispatch order once (`Accepted.getDispatchOrder`).

The dispatch order that the source caches is computed here at every call: a scheduler is given its
graph once.
-/

import Dnc.Logic.Kahn
import Dnc.State.WorkingMemory

namespace Dnc.Runtime

open PyLib Logic Relation

structure Scheduler where
  graph : Dict ModuleInstanceID (List ModuleInstanceID) := ∅
  reverse : Dict ModuleInstanceID (List ModuleInstanceID) := ∅
  inDegree : Dict ModuleInstanceID Int := ∅
deriving DecidableEq

namespace Scheduler

/-- `self._graph.get(node, [])`. -/
def successors (sched : Scheduler) (node : ModuleInstanceID) : List ModuleInstanceID :=
  (sched.graph.get? node).getD []

/-- `self._reverse.get(node, [])`. -/
def upstreams (sched : Scheduler) (node : ModuleInstanceID) : List ModuleInstanceID :=
  (sched.reverse.get? node).getD []

/-- The degree of a node in the copy of `self._in_degree`. -/
def degree (sched : Scheduler) (node : ModuleInstanceID) : Int := (sched.inDegree.get? node).getD 0

/-- The nodes that the loop of Kahn's algorithm visits, in order. -/
def visitOrder (sched : Scheduler) : List ModuleInstanceID :=
  kahnOrder sched.inDegree.keys sched.successors sched.degree

/-- `Scheduler._has_cycle`. -/
def hasCycle (sched : Scheduler) : Bool := decide (sched.visitOrder.length ≠ sched.inDegree.length)

/-- The body of the loop over the edges in `set_graph`. -/
def addEdge (sched : Scheduler) (edge : ModuleInstanceID × ModuleInstanceID) :
    Except Raised Scheduler :=
  if edge.1 ∉ sched.graph ∨ edge.2 ∉ sched.graph then .error (.unknownNode edge.1 edge.2)
  else if edge.2 ∈ sched.successors edge.1 then .ok sched
  else .ok {
    graph := sched.graph.set edge.1 (sched.successors edge.1 ++ [edge.2])
    reverse := sched.reverse.set edge.2 (sched.upstreams edge.2 ++ [edge.1])
    inDegree := sched.inDegree.set edge.2 (sched.degree edge.2 + 1) }

/-- The scheduler before the loop over the edges. -/
def ofNodes (nodes : List ModuleInstanceID) : Scheduler where
  graph := .ofItems (nodes.map fun node => (node, []))
  reverse := .ofItems (nodes.map fun node => (node, []))
  inDegree := .ofItems (nodes.map fun node => (node, 0))

/-- The check at the end of `set_graph`. -/
def rejectCycle (sched : Scheduler) : Except Raised Scheduler :=
  if sched.hasCycle then
    .error (.dagCycle ("Edge list creates a cycle in the execution graph. " ++
      "INV-2 violation: G must be a DAG."))
  else .ok sched

/-- `Scheduler.set_graph` of a new scheduler. -/
def setGraph (nodes : List ModuleInstanceID) (edges : List (ModuleInstanceID × ModuleInstanceID)) :
    Except Raised Scheduler := do
  let sched ← edges.foldlM addEdge (ofNodes nodes)
  rejectCycle sched

/-- `Scheduler.get_dispatch_order`. -/
def getDispatchOrder (sched : Scheduler) : Except Raised (List ModuleInstanceID) :=
  if sched.visitOrder.length ≠ sched.inDegree.length then
    .error (.dagCycle "Cycle detected during topological sort")
  else .ok sched.visitOrder

section Memory

variable {α : Type} (sched : Scheduler) (memory : WorkingMemory α)

/-- `Scheduler._are_preconditions_met`. -/
def arePreconditionsMet (node : ModuleInstanceID) : Bool :=
  (sched.upstreams node).all fun upstream => memory.isComplete upstream

/-- `Scheduler.get_runnable`. -/
def getRunnable : Except Raised (List ModuleInstanceID) := do
  let order ← sched.getDispatchOrder
  return order.filter fun node => !memory.isComplete node && sched.arePreconditionsMet memory node

end Memory

/-! ### What `set_graph` builds -/

/-- The adjacency lists are those of the edges. -/
structure Represents (sched : Scheduler) (nodes : List ModuleInstanceID)
    (edges : List (ModuleInstanceID × ModuleInstanceID)) : Prop where
  graphKeys : ∀ node, node ∈ sched.graph ↔ node ∈ nodes
  degreeKeys : ∀ node, node ∈ sched.inDegree ↔ node ∈ nodes
  within : ∀ edge ∈ edges, edge.1 ∈ nodes ∧ edge.2 ∈ nodes
  successor : ∀ first second, second ∈ sched.successors first ↔ (first, second) ∈ edges
  upstream : ∀ first second, first ∈ sched.upstreams second ↔ (first, second) ∈ edges
  successorsDistinct : ∀ node, (sched.successors node).Nodup
  upstreamsDistinct : ∀ node, (sched.upstreams node).Nodup
  degree : ∀ node, sched.degree node = (sched.upstreams node).length

section Represents

variable {sched next : Scheduler} {nodes : List ModuleInstanceID}
  {edges : List (ModuleInstanceID × ModuleInstanceID)}

/-- A dictionary with one value for every key. -/
theorem get?_ofItems_const {β : Type} (value : β) (node : ModuleInstanceID) :
    (Dict.ofItems (nodes.map fun node => (node, value))).get? node =
      if node ∈ nodes then some value else none := by
  have along : ∀ (rest : List ModuleInstanceID) (dict : Dict ModuleInstanceID β),
      ((rest.map fun node => (node, value)).foldl
        (fun dict item => dict.set item.1 item.2) dict).get? node =
        if node ∈ rest then some value else dict.get? node := by
    intro rest
    induction rest with
    | nil => exact fun dict => rfl
    | cons first rest ih =>
      intro dict
      rw [List.map_cons, List.foldl_cons, ih, Dict.get?_set]
      by_cases later : node ∈ rest
      · simp [later]
      · simp [later]
  exact along nodes ∅

theorem represents_ofNodes (nodes : List ModuleInstanceID) :
    Represents (ofNodes nodes) nodes [] := by
  have members : ∀ {β : Type} (value : β) (node : ModuleInstanceID),
      node ∈ Dict.ofItems (nodes.map fun node => (node, value)) ↔ node ∈ nodes := by
    intro β value node
    rw [Dict.mem_iff_get?, get?_ofItems_const]
    by_cases listed : node ∈ nodes <;> simp [listed]
  have successors : ∀ node, (ofNodes nodes).successors node = [] := by
    intro node
    rw [Scheduler.successors, ofNodes, get?_ofItems_const]
    split_ifs <;> rfl
  have upstreams : ∀ node, (ofNodes nodes).upstreams node = [] := by
    intro node
    rw [Scheduler.upstreams, ofNodes, get?_ofItems_const]
    split_ifs <;> rfl
  constructor
  · exact members []
  · exact members 0
  · exact List.forall_mem_nil _
  · intro first second
    rw [successors]
    exact iff_of_false List.not_mem_nil List.not_mem_nil
  · intro first second
    rw [upstreams]
    exact iff_of_false List.not_mem_nil List.not_mem_nil
  · intro node
    rw [successors]
    exact List.nodup_nil
  · intro node
    rw [upstreams]
    exact List.nodup_nil
  · intro node
    rw [upstreams, Scheduler.degree, ofNodes, get?_ofItems_const]
    split_ifs <;> rfl

/-- The tables with a new edge. -/
def insertEdge (sched : Scheduler) (first second : ModuleInstanceID) : Scheduler where
  graph := sched.graph.set first (sched.successors first ++ [second])
  reverse := sched.reverse.set second (sched.upstreams second ++ [first])
  inDegree := sched.inDegree.set second (sched.degree second + 1)

theorem successors_insertEdge (sched : Scheduler) (first second node : ModuleInstanceID) :
    (sched.insertEdge first second).successors node =
      if node = first then sched.successors first ++ [second] else sched.successors node := by
  unfold insertEdge
  rw [Scheduler.successors, Dict.get?_set]
  split_ifs <;> rfl

theorem upstreams_insertEdge (sched : Scheduler) (first second node : ModuleInstanceID) :
    (sched.insertEdge first second).upstreams node =
      if node = second then sched.upstreams second ++ [first] else sched.upstreams node := by
  unfold insertEdge
  rw [Scheduler.upstreams, Dict.get?_set]
  split_ifs <;> rfl

theorem degree_insertEdge (sched : Scheduler) (first second node : ModuleInstanceID) :
    (sched.insertEdge first second).degree node =
      if node = second then sched.degree second + 1 else sched.degree node := by
  unfold insertEdge
  rw [Scheduler.degree, Dict.get?_set]
  split_ifs <;> rfl

/-- **What the loop over the edges does with one**: an edge that is there changes nothing. -/
theorem addEdge_cases {first second : ModuleInstanceID}
    (added : sched.addEdge (first, second) = .ok next) :
    (first ∈ sched.graph ∧ second ∈ sched.graph) ∧
      (second ∈ sched.successors first ∧ next = sched ∨
        second ∉ sched.successors first ∧ next = sched.insertEdge first second) := by
  unfold addEdge at added
  split_ifs at added with unknown known
  · rw [not_or, not_not, not_not] at unknown
    exact ⟨unknown, Or.inl ⟨known, (Except.ok.inj added).symm⟩⟩
  · rw [not_or, not_not, not_not] at unknown
    exact ⟨unknown, Or.inr ⟨known, (Except.ok.inj added).symm⟩⟩

/-- The order of the edges and their repetition do not matter. -/
theorem Represents.of_mem_iff {others : List (ModuleInstanceID × ModuleInstanceID)}
    (represents : sched.Represents nodes edges) (same : ∀ edge, edge ∈ others ↔ edge ∈ edges) :
    sched.Represents nodes others where
  graphKeys := represents.graphKeys
  degreeKeys := represents.degreeKeys
  within := fun edge member => represents.within edge ((same edge).mp member)
  successor := fun _ _ => (represents.successor _ _).trans (same _).symm
  upstream := fun _ _ => (represents.upstream _ _).trans (same _).symm
  successorsDistinct := represents.successorsDistinct
  upstreamsDistinct := represents.upstreamsDistinct
  degree := represents.degree

theorem Represents.insertEdge (represents : sched.Represents nodes edges)
    {first second : ModuleInstanceID} (firstListed : first ∈ nodes) (secondListed : second ∈ nodes)
    (isNew : second ∉ sched.successors first) :
    (sched.insertEdge first second).Represents nodes (edges ++ [(first, second)]) := by
  have isNewUpstream : first ∉ sched.upstreams second := fun old =>
    isNew ((represents.successor first second).mpr ((represents.upstream first second).mp old))
  constructor
  · intro node
    unfold Scheduler.insertEdge
    rw [Dict.mem_set, represents.graphKeys]
    exact or_iff_right_of_imp fun same => same ▸ firstListed
  · intro node
    unfold Scheduler.insertEdge
    rw [Dict.mem_set, represents.degreeKeys]
    exact or_iff_right_of_imp fun same => same ▸ secondListed
  · intro edge member
    rcases List.mem_append.mp member with old | new
    · exact represents.within edge old
    · rw [List.mem_singleton.mp new]
      exact ⟨firstListed, secondListed⟩
  · intro start target
    rw [successors_insertEdge, List.mem_append, List.mem_singleton, Prod.mk.injEq]
    by_cases here : start = first
    · rw [if_pos here, List.mem_append, List.mem_singleton, here, represents.successor]
      simp
    · rw [if_neg here, represents.successor]
      simp [here]
  · intro start target
    rw [upstreams_insertEdge, List.mem_append, List.mem_singleton, Prod.mk.injEq]
    by_cases here : target = second
    · rw [if_pos here, List.mem_append, List.mem_singleton, here, represents.upstream]
      simp
    · rw [if_neg here, represents.upstream]
      simp [here]
  · intro node
    rw [successors_insertEdge]
    split_ifs
    · rw [← List.concat_eq_append]
      exact (represents.successorsDistinct first).concat isNew
    · exact represents.successorsDistinct node
  · intro node
    rw [upstreams_insertEdge]
    split_ifs
    · rw [← List.concat_eq_append]
      exact (represents.upstreamsDistinct second).concat isNewUpstream
    · exact represents.upstreamsDistinct node
  · intro node
    rw [degree_insertEdge, upstreams_insertEdge]
    split_ifs
    · rw [represents.degree, List.length_append, List.length_singleton, Nat.cast_add, Nat.cast_one]
    · exact represents.degree node

theorem Represents.addEdge (represents : sched.Represents nodes edges)
    {edge : ModuleInstanceID × ModuleInstanceID} (added : sched.addEdge edge = .ok next) :
    next.Represents nodes (edges ++ [edge]) := by
  obtain ⟨first, second⟩ := edge
  obtain ⟨⟨firstKnown, secondKnown⟩, ⟨known, rfl⟩ | ⟨isNew, rfl⟩⟩ := addEdge_cases added
  · have old : (first, second) ∈ edges := (represents.successor first second).mp known
    apply represents.of_mem_iff
    intro edge
    rw [List.mem_append, List.mem_singleton]
    exact or_iff_left_of_imp fun equal => equal ▸ old
  · exact represents.insertEdge ((represents.graphKeys first).mp firstKnown)
      ((represents.graphKeys second).mp secondKnown) isNew

/-- Edges among the nodes are added without an exception. -/
theorem Represents.addEdge_ok (represents : sched.Represents nodes edges)
    {edge : ModuleInstanceID × ModuleInstanceID} :
    (∃ next, sched.addEdge edge = .ok next) ↔ edge.1 ∈ nodes ∧ edge.2 ∈ nodes := by
  unfold Scheduler.addEdge
  rw [← represents.graphKeys, ← represents.graphKeys]
  split_ifs with unknown known
  · refine iff_of_false (fun ⟨_, same⟩ => nomatch same) fun both => ?_
    exact unknown.elim (fun absent => absent both.1) fun absent => absent both.2
  · exact iff_of_true ⟨_, rfl⟩ (by simpa using unknown)
  · exact iff_of_true ⟨_, rfl⟩ (by simpa using unknown)

/-- The loop over the edges. -/
theorem Represents.addEdges (represents : sched.Represents nodes edges)
    (more : List (ModuleInstanceID × ModuleInstanceID)) :
    (∀ next, more.foldlM Scheduler.addEdge sched = .ok next → next.Represents nodes (edges ++ more)) ∧
      ((∃ next, more.foldlM Scheduler.addEdge sched = .ok next) ↔
        ∀ edge ∈ more, edge.1 ∈ nodes ∧ edge.2 ∈ nodes) := by
  induction more generalizing sched edges with
  | nil =>
    constructor
    · intro next same
      rw [List.append_nil, ← Except.ok.inj same]
      exact represents
    · exact iff_of_true ⟨sched, rfl⟩ (List.forall_mem_nil _)
  | cons edge rest ih =>
    rw [List.foldlM_cons, List.forall_mem_cons, ← represents.addEdge_ok]
    cases added : sched.addEdge edge with
    | error raised =>
      constructor
      · exact fun next same => nomatch same
      · exact iff_of_false (fun ⟨_, same⟩ => nomatch same) fun both => nomatch both.1
    | ok middle =>
      obtain ⟨built, succeeds⟩ := ih (represents.addEdge added)
      constructor
      · intro next ran
        have whole := built next ran
        rwa [List.append_assoc] at whole
      · exact succeeds.trans (and_iff_right ⟨middle, rfl⟩).symm

theorem Represents.finiteGraph (represents : sched.Represents nodes edges) :
    FiniteGraph sched.inDegree.keys sched.successors where
  distinct := sched.inDegree.nodup
  simple := fun node _ => represents.successorsDistinct node
  closed := fun node _ next edge => (represents.degreeKeys next).mpr
    (represents.within _ ((represents.successor node next).mp edge)).2

/-- The degree of a node counts its predecessors. -/
theorem Represents.counts (represents : sched.Represents nodes edges) (node : ModuleInstanceID) :
    sched.degree node = pendingPredecessors sched.inDegree.keys sched.successors [] node := by
  have same : (sched.inDegree.keys.filter fun other =>
      decide (other ∉ ([] : List ModuleInstanceID) ∧ node ∈ sched.successors other)).Perm
        (sched.upstreams node) := by
    have keys : sched.inDegree.keys.Nodup := sched.inDegree.nodup
    rw [List.perm_ext_iff_of_nodup (keys.filter _) (represents.upstreamsDistinct node)]
    intro other
    rw [List.mem_filter, represents.upstream, decide_eq_true_eq, represents.successor]
    constructor
    · exact fun both => both.2.2
    · exact fun edge => ⟨(represents.degreeKeys other).mpr (represents.within _ edge).1,
        List.not_mem_nil, edge⟩
  rw [represents.degree, pendingPredecessors, List.countP_eq_length_filter, same.length_eq]

theorem Represents.edge_iff (represents : sched.Represents nodes edges)
    {first second : ModuleInstanceID} :
    Logic.Edge sched.inDegree.keys sched.successors first second ↔ (first, second) ∈ edges := by
  unfold Logic.Edge
  rw [represents.successor]
  exact and_iff_right_of_imp fun edge =>
    (represents.degreeKeys first).mpr (represents.within _ edge).1

/-- **The check finds the cycles of the edges.** -/
theorem Represents.hasCycle_iff (represents : sched.Represents nodes edges) :
    sched.hasCycle = false ↔
      ∀ node, ¬ TransGen (fun first second => (first, second) ∈ edges) node node := by
  have edgesSame : Logic.Edge sched.inDegree.keys sched.successors =
      fun first second => (first, second) ∈ edges := by
    funext first second
    exact propext represents.edge_iff
  have keysLength : sched.inDegree.length = sched.inDegree.keys.length :=
    (List.length_map Prod.fst).symm
  rw [hasCycle, decide_eq_false_iff_not, not_not, keysLength, visitOrder,
    kahn_complete_iff represents.finiteGraph fun node _ => represents.counts node, edgesSame]

end Represents

/-- A scheduler whose graph `set_graph` has accepted. -/
structure Accepted (sched : Scheduler) (nodes : List ModuleInstanceID)
    (edges : List (ModuleInstanceID × ModuleInstanceID)) : Prop where
  represents : sched.Represents nodes edges
  acyclic : sched.hasCycle = false

section Accepted

variable {sched : Scheduler} {nodes : List ModuleInstanceID}
  {edges : List (ModuleInstanceID × ModuleInstanceID)}

theorem accepted_of_setGraph (built : setGraph nodes edges = .ok sched) :
    sched.Accepted nodes edges := by
  unfold setGraph at built
  cases added : edges.foldlM addEdge (ofNodes nodes) with
  | error raised =>
    rw [added] at built
    cases built
  | ok middle =>
    rw [added] at built
    have represents := ((represents_ofNodes nodes).addEdges edges).1 middle added
    have checked : middle.rejectCycle = .ok sched := built
    unfold rejectCycle at checked
    split_ifs at checked with cyclic
    obtain rfl := Except.ok.inj checked
    exact ⟨represents, by simpa using cyclic⟩

/-- **`set_graph` accepts the acyclic graphs over the nodes.** -/
theorem setGraph_ok_iff : (∃ sched, setGraph nodes edges = .ok sched) ↔
    (∀ edge ∈ edges, edge.1 ∈ nodes ∧ edge.2 ∈ nodes) ∧
      ∀ node, ¬ TransGen (fun first second => (first, second) ∈ edges) node node := by
  obtain ⟨built, succeeds⟩ := (represents_ofNodes nodes).addEdges edges
  constructor
  · rintro ⟨sched, set⟩
    have accepted := accepted_of_setGraph set
    exact ⟨accepted.represents.within, accepted.represents.hasCycle_iff.mp accepted.acyclic⟩
  · rintro ⟨within, acyclic⟩
    obtain ⟨sched, added⟩ := succeeds.mpr within
    have none := (built sched added).hasCycle_iff.mpr acyclic
    refine ⟨sched, ?_⟩
    unfold setGraph
    rw [added]
    show sched.rejectCycle = .ok sched
    rw [rejectCycle, none]
    rfl

/-- Every node is in the dispatch order once. -/
theorem Accepted.getDispatchOrder (accepted : sched.Accepted nodes edges) :
    ∃ order, sched.getDispatchOrder = .ok order ∧ order.Nodup ∧
      ∀ node, node ∈ order ↔ node ∈ nodes := by
  have represents := accepted.represents
  have complete : sched.visitOrder.length = sched.inDegree.length := by
    simpa [hasCycle] using accepted.acyclic
  refine ⟨sched.visitOrder, ?_, ?_, fun node => ?_⟩
  · unfold Scheduler.getDispatchOrder
    rw [if_neg (not_not.mpr complete)]
  · exact kahnOrder_nodup represents.finiteGraph fun node _ => represents.counts node
  · have perm := kahnOrder_perm represents.finiteGraph (fun node _ => represents.counts node) <|
      (kahn_complete_iff represents.finiteGraph fun node _ => represents.counts node).mp <| by
        rw [← visitOrder, complete]
        exact (List.length_map Prod.fst).symm
    exact perm.mem_iff.trans (represents.degreeKeys node)

/-- **What can run: the incomplete nodes whose upstream nodes are complete.** -/
theorem Accepted.getRunnable {α : Type} (accepted : sched.Accepted nodes edges)
    (memory : WorkingMemory α) :
    ∃ runnable, sched.getRunnable memory = .ok runnable ∧ runnable.Nodup ∧
      ∀ node, node ∈ runnable ↔ node ∈ nodes ∧ memory.isComplete node = false ∧
        ∀ upstream, (upstream, node) ∈ edges → memory.isComplete upstream = true := by
  obtain ⟨order, found, distinct, members⟩ := accepted.getDispatchOrder
  refine ⟨order.filter fun node => !memory.isComplete node && sched.arePreconditionsMet memory node,
    ?_, distinct.filter _, fun node => ?_⟩
  · unfold Scheduler.getRunnable
    rw [found]
    rfl
  · rw [List.mem_filter, members, Bool.and_eq_true, Bool.not_eq_true', arePreconditionsMet,
      List.all_eq_true]
    simp only [accepted.represents.upstream]

end Accepted

end Scheduler

end Dnc.Runtime
