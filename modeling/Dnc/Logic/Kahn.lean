/-
**Kahn's algorithm.**

A queue of nodes without unvisited predecessors: the first is visited, every successor loses a
predecessor, and those with none left are queued. `Visiting` is the invariant: a node's degree is
the number of its unvisited predecessors, and it is zero exactly for what is visited or queued.

* `kahn_visiting`: with a unit of fuel for every unvisited node the queue runs empty.
* `kahn_complete_iff`: every node is visited exactly when the edges have no cycle. What is left
  unvisited is a core of the edges, and a core is never entered (`kahn_avoids`).
* `kahnOrder_topological`: without cycles the order of the visits is one in which every edge goes
  forward.
-/

import Dnc.Logic.Acyclic
import Mathlib.Data.List.Perm.Subperm
import Mathlib.Data.Finset.Card

namespace Logic

open Relation

variable {α : Type} [DecidableEq α]

/-! ### The algorithm -/

/-- Every neighbor loses a predecessor and is queued when it has none left. -/
def release (neighbors : List α) (degree : α → Int) (queue : List α) : (α → Int) × List α :=
  neighbors.foldl (fun state neighbor =>
    let degree := Function.update state.1 neighbor (state.1 neighbor - 1)
    if degree neighbor = 0 then (degree, state.2 ++ [neighbor]) else (degree, state.2))
    (degree, queue)

/-- The nodes in the order of their visits. -/
def kahn (succ : α → List α) : Nat → (α → Int) → List α → List α
  | 0, _, _ => []
  | _ + 1, _, [] => []
  | fuel + 1, degree, node :: queue =>
    let released := release (succ node) degree queue
    node :: kahn succ fuel released.1 released.2

/-- The order of the visits from the nodes without predecessors. -/
def kahnOrder (nodes : List α) (succ : α → List α) (degree : α → Int) : List α :=
  kahn succ nodes.length degree (nodes.filter fun node => degree node = 0)

/-- One round of the loop. -/
theorem release_cons (neighbor : α) (rest : List α) (degree : α → Int) (queue : List α) :
    release (neighbor :: rest) degree queue =
      release rest (Function.update degree neighbor (degree neighbor - 1))
        (if degree neighbor = 1 then queue ++ [neighbor] else queue) := by
  unfold release
  rw [List.foldl_cons]
  congr 1
  by_cases one : degree neighbor = 1
  · simp [one]
  · have nonzero : ¬ degree neighbor - 1 = 0 := fun zero => one (by omega)
    simp [one, nonzero]

theorem release_eq {neighbors : List α} (distinct : neighbors.Nodup) (degree : α → Int)
    (queue : List α) :
    release neighbors degree queue =
      (fun node => degree node - if node ∈ neighbors then 1 else 0,
        queue ++ neighbors.filter fun node => degree node = 1) := by
  induction neighbors generalizing degree queue with
  | nil => simp [release]
  | cons neighbor rest ih =>
    obtain ⟨fresh, later⟩ := List.nodup_cons.mp distinct
    have others : ∀ node ∈ rest,
        Function.update degree neighbor (degree neighbor - 1) node = degree node := by
      rintro node member
      apply Function.update_of_ne
      rintro rfl
      exact fresh member
    have filtered : (rest.filter fun node =>
        Function.update degree neighbor (degree neighbor - 1) node = 1) =
          rest.filter fun node => degree node = 1 :=
      List.filter_congr fun node member => by rw [others node member]
    rw [release_cons, ih later, filtered]
    refine Prod.ext ?_ ?_
    · funext node
      by_cases here : node = neighbor
      · subst here
        simp [fresh]
      · simp [here]
    · by_cases one : degree neighbor = 1
      · simp [one]
      · simp [one]

/-! ### The invariant -/

/-- A finite graph without parallel edges, given by its successors. -/
structure FiniteGraph (nodes : List α) (succ : α → List α) : Prop where
  distinct : nodes.Nodup
  simple : ∀ node ∈ nodes, (succ node).Nodup
  closed : ∀ node ∈ nodes, ∀ next ∈ succ node, next ∈ nodes

/-- The edges among the nodes. -/
def Edge (nodes : List α) (succ : α → List α) (first second : α) : Prop :=
  first ∈ nodes ∧ second ∈ succ first

/-- The number of unvisited predecessors. -/
def pendingPredecessors (nodes : List α) (succ : α → List α) (visited : List α) (node : α) : Nat :=
  nodes.countP fun other => other ∉ visited ∧ node ∈ succ other

structure Visiting (nodes : List α) (succ : α → List α) (visited : List α) (degree : α → Int)
    (queue : List α) : Prop where
  distinct : (visited ++ queue).Nodup
  listed : ∀ node ∈ visited ++ queue, node ∈ nodes
  counts : ∀ node ∈ nodes, degree node = pendingPredecessors nodes succ visited node
  zero : ∀ node ∈ nodes, node ∈ visited ++ queue ↔ degree node = 0

section Steps

variable {nodes visited queue : List α} {succ : α → List α} {degree : α → Int} {node : α}

theorem pendingPredecessors_eq_zero {node : α} :
    pendingPredecessors nodes succ visited node = 0 ↔
      ∀ other, Edge nodes succ other node → other ∈ visited := by
  unfold pendingPredecessors Edge
  rw [List.countP_eq_zero]
  constructor
  · rintro none other ⟨listed, edge⟩
    by_contra unvisited
    exact none other listed (decide_eq_true ⟨unvisited, edge⟩)
  · intro all other listed pending
    obtain ⟨unvisited, edge⟩ := of_decide_eq_true pending
    exact unvisited (all other ⟨listed, edge⟩)

/-- A visit takes one from the count of each successor. -/
theorem pendingPredecessors_visit (graph : FiniteGraph nodes succ) (member : node ∈ nodes)
    (unvisited : node ∉ visited) (other : α) :
    pendingPredecessors nodes succ visited other =
      pendingPredecessors nodes succ (visited ++ [node]) other +
        if other ∈ succ node then 1 else 0 := by
  have split := List.perm_cons_erase member
  have apart : ∀ first ∈ nodes.erase node, first ≠ node := by
    rintro first inRest rfl
    exact graph.distinct.not_mem_erase inRest
  have rest : (nodes.erase node).countP (fun first => first ∉ visited ++ [node] ∧ other ∈ succ first) =
      (nodes.erase node).countP fun first => first ∉ visited ∧ other ∈ succ first := by
    apply List.countP_congr
    intro first inRest
    simp [apart first inRest]
  unfold pendingPredecessors
  rw [split.countP_eq, split.countP_eq, List.countP_cons, List.countP_cons, rest]
  by_cases edge : other ∈ succ node
  · simp [edge, unvisited]
  · simp [edge]

theorem Visiting.visit (graph : FiniteGraph nodes succ)
    (visiting : Visiting nodes succ visited degree (node :: queue)) :
    Visiting nodes succ (visited ++ [node]) (release (succ node) degree queue).1
      (release (succ node) degree queue).2 := by
  have listed : node ∈ nodes := visiting.listed node (by simp)
  have unvisited : node ∉ visited := by
    have apart := (List.nodup_append.mp visiting.distinct).2.2
    exact fun old => apart node old node List.mem_cons_self rfl
  have counts : ∀ other ∈ nodes, degree other =
      pendingPredecessors nodes succ (visited ++ [node]) other +
        if other ∈ succ node then 1 else 0 := by
    intro other member
    rw [visiting.counts other member, pendingPredecessors_visit graph listed unvisited other]
    split_ifs <;> simp
  have split : visited ++ [node] ++ queue = visited ++ (node :: queue) := by simp
  have fresh : ∀ other ∈ (succ node).filter (fun other => degree other = 1),
      other ∈ nodes ∧ other ∉ visited ++ (node :: queue) := by
    intro other chosen
    obtain ⟨edge, one⟩ := List.mem_filter.mp chosen
    have inNodes := graph.closed node listed other edge
    refine ⟨inNodes, fun old => ?_⟩
    rw [(visiting.zero other inNodes).mp old] at one
    cases of_decide_eq_true one
  rw [release_eq (graph.simple node listed)]
  constructor
  · rw [← List.append_assoc, split, List.nodup_append]
    refine ⟨visiting.distinct, (graph.simple node listed).filter _, ?_⟩
    rintro other old _ new rfl
    exact (fresh other new).2 old
  · intro other member
    rw [← List.append_assoc, split, List.mem_append] at member
    rcases member with old | new
    · exact visiting.listed other old
    · exact (fresh other new).1
  · intro other member
    show degree other - (if other ∈ succ node then 1 else 0) = _
    rw [counts other member]
    omega
  · intro other member
    rw [← List.append_assoc, split, List.mem_append, visiting.zero other member, List.mem_filter]
    show degree other = 0 ∨ _ ↔ degree other - (if other ∈ succ node then 1 else 0) = 0
    have same := counts other member
    by_cases edge : other ∈ succ node
    · simp only [edge, if_true, true_and, decide_eq_true_eq] at same ⊢
      omega
    · simp [edge]

/-- **With a unit of fuel for every unvisited node the queue runs empty.** -/
theorem kahn_visiting (graph : FiniteGraph nodes succ) {fuel : Nat}
    (enough : nodes.length ≤ visited.length + fuel)
    (visiting : Visiting nodes succ visited degree queue) :
    ∃ last, Visiting nodes succ (visited ++ kahn succ fuel degree queue) last [] := by
  induction fuel generalizing visited degree queue with
  | zero =>
    have within := (visiting.distinct.subperm fun node => visiting.listed node).length_le
    rw [List.length_append] at within
    have empty : queue = [] := List.length_eq_zero_iff.mp (by omega)
    subst empty
    exact ⟨degree, by simpa [kahn] using visiting⟩
  | succ fuel ih =>
    cases queue with
    | nil => exact ⟨degree, by simpa [kahn] using visiting⟩
    | cons node queue =>
      have room : nodes.length ≤ (visited ++ [node]).length + fuel := by
        rw [List.length_append, List.length_singleton]
        omega
      obtain ⟨last, done⟩ := ih room (visiting.visit graph)
      rw [List.append_assoc] at done
      exact ⟨last, done⟩

/-- A set in which every node has a predecessor in the set is not entered. -/
theorem kahn_avoids (graph : FiniteGraph nodes succ) {S : Set α}
    (core : Core (fun second first => Edge nodes succ first second) S) {fuel : Nat}
    (visiting : Visiting nodes succ visited degree queue) (apart : ∀ node ∈ visited, node ∉ S) :
    ∀ node ∈ kahn succ fuel degree queue, node ∉ S := by
  induction fuel generalizing visited degree queue with
  | zero => exact fun node member => nomatch member
  | succ fuel ih =>
    cases queue with
    | nil => exact fun node member => nomatch member
    | cons first queue =>
      have outside : first ∉ S := by
        intro inside
        obtain ⟨previous, previousInside, edge⟩ := core.next first inside
        have listed : first ∈ nodes := visiting.listed first (by simp)
        have none := visiting.counts first listed
        rw [(visiting.zero first listed).mp (by simp)] at none
        have visitedBefore := pendingPredecessors_eq_zero.mp (Int.natCast_eq_zero.mp none.symm)
        exact apart previous (visitedBefore previous edge) previousInside
      have extended : ∀ node ∈ visited ++ [first], node ∉ S := by
        intro node member
        rcases List.mem_append.mp member with old | new
        · exact apart node old
        · rwa [List.mem_singleton.mp new]
      intro node member
      rcases List.mem_cons.mp member with rfl | later
      · exact outside
      · exact ih (visiting.visit graph) extended node later

/-- What is visited has had all its predecessors visited. -/
theorem kahn_forward (graph : FiniteGraph nodes succ) {fuel : Nat} {before after : List α}
    (visiting : Visiting nodes succ visited degree queue)
    (split : kahn succ fuel degree queue = before ++ node :: after) :
    ∀ previous, Edge nodes succ previous node → previous ∈ visited ++ before := by
  induction fuel generalizing visited degree queue before with
  | zero => exact absurd split.symm (List.append_ne_nil_of_right_ne_nil _ (List.cons_ne_nil _ _))
  | succ fuel ih =>
    cases queue with
    | nil => exact absurd split.symm (List.append_ne_nil_of_right_ne_nil _ (List.cons_ne_nil _ _))
    | cons first queue =>
      cases before with
      | nil =>
        obtain ⟨rfl, -⟩ := List.cons.inj split
        have listed : first ∈ nodes := visiting.listed first (by simp)
        have none := visiting.counts first listed
        rw [(visiting.zero first listed).mp (by simp)] at none
        rw [List.append_nil]
        exact pendingPredecessors_eq_zero.mp (Int.natCast_eq_zero.mp none.symm)
      | cons earlier before =>
        obtain ⟨rfl, later⟩ := List.cons.inj split
        intro previous edge
        have here := ih (visiting.visit graph) later previous edge
        rwa [List.append_assoc] at here

end Steps

/-! ### The whole run -/

/-- An order of the nodes in which every edge goes forward. -/
structure TopologicalOrder (nodes : List α) (E : α → α → Prop) (order : List α) : Prop where
  perm : order.Perm nodes
  forward : ∀ first second, E first second → order.idxOf first < order.idxOf second

section Order

variable {nodes : List α} {succ : α → List α} {degree : α → Int}

/-- The queue of the nodes without predecessors starts the algorithm. -/
theorem visiting_start (graph : FiniteGraph nodes succ)
    (counts : ∀ node ∈ nodes, degree node = pendingPredecessors nodes succ [] node) :
    Visiting nodes succ [] degree (nodes.filter fun node => degree node = 0) := by
  constructor
  · exact graph.distinct.filter _
  · exact fun node member => List.mem_of_mem_filter member
  · exact counts
  · intro node member
    rw [List.nil_append, List.mem_filter, decide_eq_true_eq]
    exact and_iff_right member

theorem kahnOrder_visiting (graph : FiniteGraph nodes succ)
    (counts : ∀ node ∈ nodes, degree node = pendingPredecessors nodes succ [] node) :
    ∃ last, Visiting nodes succ (kahnOrder nodes succ degree) last [] :=
  kahn_visiting graph (by simp) (visiting_start graph counts)

theorem kahnOrder_nodup (graph : FiniteGraph nodes succ)
    (counts : ∀ node ∈ nodes, degree node = pendingPredecessors nodes succ [] node) :
    (kahnOrder nodes succ degree).Nodup := by
  obtain ⟨last, done⟩ := kahnOrder_visiting graph counts
  exact (List.nodup_append.mp done.distinct).1

theorem kahnOrder_subset (graph : FiniteGraph nodes succ)
    (counts : ∀ node ∈ nodes, degree node = pendingPredecessors nodes succ [] node) :
    kahnOrder nodes succ degree ⊆ nodes := by
  obtain ⟨last, done⟩ := kahnOrder_visiting graph counts
  exact fun node member => done.listed node (List.mem_append_left _ member)

/-- **Without cycles every node is visited.** -/
theorem kahnOrder_perm (graph : FiniteGraph nodes succ)
    (counts : ∀ node ∈ nodes, degree node = pendingPredecessors nodes succ [] node)
    (acyclic : ∀ node, ¬ TransGen (Edge nodes succ) node node) :
    (kahnOrder nodes succ degree).Perm nodes := by
  obtain ⟨last, done⟩ := kahnOrder_visiting graph counts
  rw [List.perm_ext_iff_of_nodup (kahnOrder_nodup graph counts) graph.distinct]
  refine fun node => ⟨fun member => kahnOrder_subset graph counts member, fun member => ?_⟩
  by_contra left
  -- the nodes that are left all have a predecessor that is left
  have core : Core (fun second first => Edge nodes succ first second)
      {other | other ∈ nodes ∧ other ∉ kahnOrder nodes succ degree} := by
    refine ⟨⟨node, member, left⟩, ?_⟩
    rintro other ⟨listed, unvisited⟩
    by_contra none
    have visitedAll : ∀ previous, Edge nodes succ previous other →
        previous ∈ kahnOrder nodes succ degree := by
      intro previous edge
      by_contra unvisitedToo
      exact none ⟨previous, ⟨edge.1, unvisitedToo⟩, edge⟩
    have count := done.counts other listed
    rw [pendingPredecessors_eq_zero.mpr visitedAll] at count
    have visited := (done.zero other listed).mpr count
    rw [List.append_nil] at visited
    exact unvisited visited
  have finite : {other | other ∈ nodes ∧ other ∉ kahnOrder nodes succ degree}.Finite :=
    (List.finite_toSet nodes).subset fun other both => both.1
  obtain ⟨other, -, cycle⟩ := core.exists_cycle finite
  exact acyclic other (transGen_swap.mp cycle)

/-- **Without cycles the visits are in a topological order.** -/
theorem kahnOrder_topological (graph : FiniteGraph nodes succ)
    (counts : ∀ node ∈ nodes, degree node = pendingPredecessors nodes succ [] node)
    (acyclic : ∀ node, ¬ TransGen (Edge nodes succ) node node) :
    TopologicalOrder nodes (Edge nodes succ) (kahnOrder nodes succ degree) := by
  have perm := kahnOrder_perm graph counts acyclic
  refine ⟨perm, fun first second edge => ?_⟩
  have listed := perm.mem_iff.mpr (graph.closed first edge.1 second edge.2)
  obtain ⟨before, after, split, fresh⟩ := List.eq_append_cons_of_mem listed
  have earlier := kahn_forward graph (visiting_start graph counts) split first edge
  rw [List.nil_append] at earlier
  rw [split, List.idxOf_append_of_mem earlier, List.idxOf_append_of_notMem fresh, List.idxOf_cons_self]
  exact (List.idxOf_lt_length_of_mem earlier).trans_le (Nat.le_add_right _ _)

/-- **Every node is visited exactly when there is no cycle.** -/
theorem kahn_complete_iff (graph : FiniteGraph nodes succ)
    (counts : ∀ node ∈ nodes, degree node = pendingPredecessors nodes succ [] node) :
    (kahnOrder nodes succ degree).length = nodes.length ↔
      ∀ node, ¬ TransGen (Edge nodes succ) node node := by
  constructor
  · intro complete node cycle
    have whole : (kahnOrder nodes succ degree).Perm nodes :=
      ((kahnOrder_nodup graph counts).subperm (kahnOrder_subset graph counts)).perm_of_length_le
        complete.ge
    have reversed : TransGen (fun second first => Edge nodes succ first second) node node :=
      transGen_swap.mpr cycle
    have core := core_of_cycle reversed
    have listed : node ∈ nodes := by
      obtain ⟨next, edge, -⟩ := TransGen.head'_iff.mp cycle
      exact edge.1
    exact kahn_avoids graph core (visiting_start graph counts) (fun _ member => nomatch member) node
      (whole.mem_iff.mpr listed) ⟨reversed, reversed⟩
  · exact fun acyclic => (kahnOrder_perm graph counts acyclic).length_eq

end Order

end Logic
