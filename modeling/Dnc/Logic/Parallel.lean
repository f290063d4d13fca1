/-
**Kahn's algorithm with parallel edges.**

A successor may be listed more than once, and loses a predecessor for every listing. The visits are
those of the graph without the repetitions (`kahnOrder_parallel`): a successor is queued at its last
listing, when no edge from an unvisited node is left, that is, when no unvisited predecessor is.
So every node is visited exactly when the edges have no cycle (`parallel_complete_iff`), and then in
a topological order (`parallel_topological`).
-/

import Dnc.Logic.Kahn
import Mathlib.Algebra.BigOperators.Group.List.Basic
import Mathlib.Algebra.GroupWithZero.Nat
import Mathlib.Data.List.Dedup

namespace Logic

open Relation

variable {α : Type} [DecidableEq α]

/-- The number of edges from unvisited nodes. -/
def pendingEdges (nodes : List α) (succ : α → List α) (visited : List α) (node : α) : Nat :=
  (nodes.map fun other => if other ∈ visited then 0 else (succ other).count node).sum

/-- The successors without repetitions. -/
def simpleSucc (succ : α → List α) (node : α) : List α := (succ node).dedup

theorem count_cons_cast (first : α) (rest : List α) (node : α) :
    (List.count node (first :: rest) : Int) = rest.count node + if node = first then 1 else 0 := by
  rw [List.count_cons]
  by_cases here : node = first
  · simp [here]
  · simp [here, Ne.symm here]

theorem update_sub_one (degree : α → Int) (first node : α) :
    Function.update degree first (degree first - 1) node =
      degree node - if node = first then 1 else 0 := by
  by_cases here : node = first
  · rw [here]
    simp
  · simp [here]

/-- The loop over neighbors that may be listed more than once. -/
theorem release_parallel {neighbors : List α} {degree : α → Int}
    (counted : ∀ node ∈ neighbors, (neighbors.count node : Int) ≤ degree node) (queue : List α) :
    release neighbors degree queue =
      (fun node => degree node - neighbors.count node,
        queue ++ neighbors.dedup.filter fun node => degree node = neighbors.count node) := by
  induction neighbors generalizing degree queue with
  | nil => simp [release]
  | cons neighbor rest ih =>
    have counts := count_cons_cast neighbor rest
    have updated := update_sub_one degree neighbor
    have later : ∀ node ∈ rest, (rest.count node : Int) ≤
        Function.update degree neighbor (degree neighbor - 1) node := by
      intro node member
      have bound := counted node (List.mem_cons_of_mem _ member)
      rw [counts] at bound
      rw [updated]
      omega
    have filtered : (rest.dedup.filter fun node =>
        Function.update degree neighbor (degree neighbor - 1) node = rest.count node) =
          rest.dedup.filter fun node => degree node = List.count node (neighbor :: rest) := by
      apply List.filter_congr
      intro node _
      rw [updated, counts, decide_eq_decide]
      omega
    rw [release_cons, ih later, filtered]
    refine Prod.ext ?_ ?_
    · funext node
      show Function.update degree neighbor (degree neighbor - 1) node - (rest.count node : Int) =
        degree node - (List.count node (neighbor :: rest) : Int)
      rw [updated, counts]
      omega
    · show (if degree neighbor = 1 then queue ++ [neighbor] else queue) ++ _ = _
      have here := counted neighbor List.mem_cons_self
      rw [counts, if_pos rfl] at here
      by_cases again : neighbor ∈ rest
      · -- listed again: not queued yet
        have positive := List.count_pos_iff.mpr again
        rw [if_neg (by omega), List.dedup_cons_of_mem again]
      · have none : rest.count neighbor = 0 := List.count_eq_zero_of_not_mem again
        have last : (List.count neighbor (neighbor :: rest) : Int) = 1 := by
          rw [counts, if_pos rfl, none]
          rfl
        rw [List.dedup_cons_of_notMem again, List.filter_cons, last]
        by_cases one : degree neighbor = 1
        · simp [one]
        · simp [one]

section Steps

variable {nodes visited queue : List α} {succ : α → List α} {degree simple : α → Int} {node : α}

theorem edge_simpleSucc {first second : α} :
    Edge nodes (simpleSucc succ) first second ↔ Edge nodes succ first second := by
  unfold Edge simpleSucc
  rw [List.mem_dedup]

theorem pendingEdges_eq_zero {other : α} :
    pendingEdges nodes succ visited other = 0 ↔
      pendingPredecessors nodes (simpleSucc succ) visited other = 0 := by
  rw [pendingPredecessors_eq_zero]
  unfold pendingEdges
  rw [List.sum_eq_zero_iff_forall_eq_nat, List.forall_mem_map]
  constructor
  · intro none previous edge
    by_contra unvisited
    have zero := none previous edge.1
    rw [if_neg unvisited, List.count_eq_zero] at zero
    exact zero (List.mem_dedup.mp edge.2)
  · intro all previous listed
    split_ifs with done
    · rfl
    · refine List.count_eq_zero.mpr fun edge => done (all previous ⟨listed, ?_⟩)
      exact List.mem_dedup.mpr edge

/-- A visit takes one from the count for every listing. -/
theorem pendingEdges_visit (distinct : nodes.Nodup) (member : node ∈ nodes)
    (unvisited : node ∉ visited) (other : α) :
    pendingEdges nodes succ visited other =
      pendingEdges nodes succ (visited ++ [node]) other + (succ node).count other := by
  have split := List.perm_cons_erase member
  have rest : ((nodes.erase node).map fun first =>
      if first ∈ visited ++ [node] then 0 else (succ first).count other) =
        (nodes.erase node).map fun first => if first ∈ visited then 0 else (succ first).count other := by
    apply List.map_congr_left
    intro first inRest
    have apart : first ≠ node := by
      rintro rfl
      exact distinct.not_mem_erase inRest
    simp [apart]
  unfold pendingEdges
  rw [(split.map _).sum_eq, (split.map _).sum_eq, List.map_cons, List.map_cons, List.sum_cons,
    List.sum_cons, rest, if_neg unvisited, if_pos (by simp)]
  omega

/-- **The visits are those without the repetitions.** -/
theorem kahn_parallel (graph : FiniteGraph nodes (simpleSucc succ)) {fuel : Nat}
    (counts : ∀ node ∈ nodes, degree node = pendingEdges nodes succ visited node)
    (visiting : Visiting nodes (simpleSucc succ) visited simple queue) :
    kahn succ fuel degree queue = kahn (simpleSucc succ) fuel simple queue := by
  induction fuel generalizing visited degree simple queue with
  | zero => rfl
  | succ fuel ih =>
    cases queue with
    | nil => rfl
    | cons node queue =>
      have listed : node ∈ nodes := visiting.listed node (by simp)
      have unvisited : node ∉ visited := by
        have apart := (List.nodup_append.mp visiting.distinct).2.2
        exact fun old => apart node old node List.mem_cons_self rfl
      have known : ∀ other ∈ succ node, other ∈ nodes := fun other edge =>
        graph.closed node listed other (List.mem_dedup.mpr edge)
      have before : ∀ other, pendingEdges nodes succ visited other =
          pendingEdges nodes succ (visited ++ [node]) other + (succ node).count other :=
        pendingEdges_visit graph.distinct listed unvisited
      have counted : ∀ other ∈ succ node, ((succ node).count other : Int) ≤ degree other := by
        intro other edge
        rw [counts other (known other edge), before other]
        exact_mod_cast Nat.le_add_left _ _
      have released := release_parallel counted queue
      have simplified := release_eq (graph.simple node listed) simple queue
      -- the last edge to a successor goes with its last predecessor
      have sameQueue : (release (succ node) degree queue).2 =
          (release (simpleSucc succ node) simple queue).2 := by
        rw [released, simplified]
        refine congrArg (queue ++ ·) (List.filter_congr fun other member => ?_)
        have edge : other ∈ succ node := List.mem_dedup.mp member
        have left := pendingPredecessors_visit graph listed unvisited other
        rw [if_pos (show other ∈ simpleSucc succ node from member)] at left
        rw [counts other (known other edge), visiting.counts other (known other edge), before other,
          left, decide_eq_decide]
        have zero := @pendingEdges_eq_zero _ _ nodes (visited ++ [node]) succ other
        omega
      show node :: kahn succ fuel _ _ = node :: kahn (simpleSucc succ) fuel _ _
      rw [sameQueue]
      refine congrArg (node :: ·) (ih (fun other member => ?_) (visiting.visit graph))
      rw [released]
      show degree other - _ = _
      rw [counts other member, before other]
      omega

end Steps

section Order

variable {nodes : List α} {succ : α → List α} {degree : α → Int}

/-- The degrees that the algorithm starts with, without the repetitions. -/
def simpleDegree (nodes : List α) (succ : α → List α) (node : α) : Int :=
  pendingPredecessors nodes (simpleSucc succ) [] node

theorem kahnOrder_parallel (graph : FiniteGraph nodes (simpleSucc succ))
    (counts : ∀ node ∈ nodes, degree node = pendingEdges nodes succ [] node) :
    kahnOrder nodes succ degree =
      kahnOrder nodes (simpleSucc succ) (simpleDegree nodes succ) := by
  have queue : (nodes.filter fun node => degree node = 0) =
      nodes.filter fun node => simpleDegree nodes succ node = 0 := by
    apply List.filter_congr
    intro node listed
    unfold simpleDegree
    rw [counts node listed, decide_eq_decide, Int.natCast_eq_zero, Int.natCast_eq_zero]
    exact pendingEdges_eq_zero
  unfold kahnOrder
  rw [queue]
  exact kahn_parallel graph counts (visiting_start graph fun _ _ => rfl)

/-- **Every node is visited exactly when there is no cycle.** -/
theorem parallel_complete_iff (graph : FiniteGraph nodes (simpleSucc succ))
    (counts : ∀ node ∈ nodes, degree node = pendingEdges nodes succ [] node) :
    (kahnOrder nodes succ degree).length = nodes.length ↔
      ∀ node, ¬ TransGen (Edge nodes succ) node node := by
  have edges : Edge nodes (simpleSucc succ) = Edge nodes succ := by
    funext first second
    exact propext edge_simpleSucc
  have complete := @kahn_complete_iff _ _ _ _ (simpleDegree nodes succ) graph fun _ _ => rfl
  rw [kahnOrder_parallel graph counts, complete, edges]

/-- **Without cycles the visits are in a topological order.** -/
theorem parallel_topological (graph : FiniteGraph nodes (simpleSucc succ))
    (counts : ∀ node ∈ nodes, degree node = pendingEdges nodes succ [] node)
    (acyclic : ∀ node, ¬ TransGen (Edge nodes succ) node node) :
    TopologicalOrder nodes (Edge nodes succ) (kahnOrder nodes succ degree) := by
  have edges : Edge nodes (simpleSucc succ) = Edge nodes succ := by
    funext first second
    exact propext edge_simpleSucc
  rw [kahnOrder_parallel graph counts, ← edges]
  exact kahnOrder_topological graph (fun _ _ => rfl) (edges ▸ acyclic)

/-- Nothing is visited twice, and only nodes are. -/
theorem parallel_visits (graph : FiniteGraph nodes (simpleSucc succ))
    (counts : ∀ node ∈ nodes, degree node = pendingEdges nodes succ [] node) :
    (kahnOrder nodes succ degree).Nodup ∧ kahnOrder nodes succ degree ⊆ nodes := by
  rw [kahnOrder_parallel graph counts]
  exact ⟨kahnOrder_nodup graph fun _ _ => rfl, kahnOrder_subset graph fun _ _ => rfl⟩

end Order

end Logic
