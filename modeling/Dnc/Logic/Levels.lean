/-
**Rounds over an acyclic graph.**

In every round the nodes are finished whose predecessors were finished before it. After a number of
rounds a node is finished exactly when no path to it has more nodes than there were rounds
(`Within`): `within_succ_iff` is one round. While a node is left, a round finishes a node
(`exists_ready`), and nothing is left from the length of the longest path on (`all_within_iff`).
-/

import Dnc.Logic.Acyclic
import Mathlib.Data.List.Chain
import Mathlib.Data.Finset.Card
import Mathlib.Order.Lattice.Nat

namespace Logic

open Relation

section Paths

variable {α : Type} {nodes : List α} {r : α → α → Prop}

/-- A path among the nodes. -/
structure IsPath (nodes : List α) (r : α → α → Prop) (path : List α) : Prop where
  chain : path.IsChain r
  within : ∀ node ∈ path, node ∈ nodes

/-- The lengths of the paths, counted in nodes. -/
def pathLengths (nodes : List α) (r : α → α → Prop) : Set ℕ :=
  {length | ∃ path, IsPath nodes r path ∧ path.length = length}

/-- No path to the node has more nodes than this. -/
def Within (nodes : List α) (r : α → α → Prop) (rounds : ℕ) (node : α) : Prop :=
  ∀ front, IsPath nodes r (front ++ [node]) → front.length < rounds

/-! ### Paths -/

theorem IsPath.concat {front : List α} {first second : α} (path : IsPath nodes r (front ++ [first]))
    (listed : second ∈ nodes) (edge : r first second) :
    IsPath nodes r ((front ++ [first]) ++ [second]) where
  chain := by
    rw [List.append_assoc, List.singleton_append]
    exact List.isChain_append_cons_cons.mpr ⟨path.chain, edge, List.isChain_singleton _⟩
  within := by
    intro node member
    rcases List.mem_append.mp member with before | last
    · exact path.within node before
    · exact List.mem_singleton.mp last ▸ listed

theorem IsPath.of_concat {front : List α} {first second : α}
    (path : IsPath nodes r ((front ++ [first]) ++ [second])) :
    IsPath nodes r (front ++ [first]) ∧ r first second := by
  have chain := path.chain
  rw [List.append_assoc, List.singleton_append] at chain
  obtain ⟨before, edge, -⟩ := List.isChain_append_cons_cons.mp chain
  exact ⟨⟨before, fun node member => path.within node (List.mem_append_left _ member)⟩, edge⟩

theorem isPath_singleton {node : α} (listed : node ∈ nodes) : IsPath nodes r ([] ++ [node]) :=
  ⟨List.isChain_singleton _, fun _ member => List.mem_singleton.mp member ▸ listed⟩

/-- On a path no node comes back. -/
theorem IsPath.nodup (acyclic : ∀ node, ¬ TransGen r node node) {path : List α}
    (isPath : IsPath nodes r path) : path.Nodup := by
  have along : path.Pairwise (TransGen r) :=
    List.isChain_iff_pairwise.mp (isPath.chain.imp fun _ _ edge => TransGen.single edge)
  apply along.imp
  rintro first second reached rfl
  exact acyclic first reached

theorem IsPath.length_le (acyclic : ∀ node, ¬ TransGen r node node) {path : List α}
    (isPath : IsPath nodes r path) : path.length ≤ nodes.length :=
  ((isPath.nodup acyclic).subperm isPath.within).length_le

/-- **There is a longest path.** -/
theorem exists_longest (acyclic : ∀ node, ¬ TransGen r node node) :
    ∃ longest, IsGreatest (pathLengths nodes r) longest := by
  have bounded : BddAbove (pathLengths nodes r) := by
    refine ⟨nodes.length, ?_⟩
    rintro length ⟨path, isPath, rfl⟩
    exact isPath.length_le acyclic
  have inhabited : (pathLengths nodes r).Nonempty :=
    ⟨0, [], ⟨List.isChain_nil, List.forall_mem_nil _⟩, rfl⟩
  exact ⟨_, Nat.sSup_mem inhabited bounded, fun length member => le_csSup bounded member⟩

/-! ### Rounds -/

theorem not_within_zero {node : α} (listed : node ∈ nodes) : ¬ Within nodes r 0 node := by
  intro within
  exact absurd (within [] (isPath_singleton listed)) (Nat.not_lt_zero _)

theorem Within.mono {before after : ℕ} {node : α} (within : Within nodes r before node)
    (later : before ≤ after) : Within nodes r after node :=
  fun front isPath => (within front isPath).trans_le later

/-- **One round finishes the nodes whose predecessors are finished.** -/
theorem within_succ_iff {rounds : ℕ} {node : α} (listed : node ∈ nodes) :
    Within nodes r (rounds + 1) node ↔
      ∀ before ∈ nodes, r before node → Within nodes r rounds before := by
  constructor
  · intro within before member edge front isPath
    have longer := within (front ++ [before]) (isPath.concat listed edge)
    rw [List.length_append, List.length_singleton] at longer
    omega
  · intro earlier front isPath
    rcases List.eq_nil_or_concat front with rfl | ⟨start, before, rfl⟩
    · exact Nat.succ_pos _
    · rw [List.concat_eq_append] at isPath ⊢
      obtain ⟨shorter, edge⟩ := isPath.of_concat
      have member : before ∈ nodes :=
        shorter.within before (List.mem_append_right _ (List.mem_singleton_self before))
      have bound := earlier before member edge start shorter
      rw [List.length_append, List.length_singleton]
      omega

/-- **While a node is left, a round finishes a node.** Otherwise the nodes that are left would be a
core of the reversed edges. -/
theorem exists_ready (acyclic : ∀ node, ¬ TransGen r node node) {rounds : ℕ} {node : α}
    (listed : node ∈ nodes) (left : ¬ Within nodes r rounds node) :
    ∃ ready ∈ nodes, ¬ Within nodes r rounds ready ∧ Within nodes r (rounds + 1) ready := by
  by_contra none
  push Not at none
  have core : Core (Function.swap r) {other | other ∈ nodes ∧ ¬ Within nodes r rounds other} := by
    refine ⟨⟨node, listed, left⟩, ?_⟩
    rintro other ⟨member, pending⟩
    have blocked := none other member pending
    rw [within_succ_iff member] at blocked
    push Not at blocked
    obtain ⟨before, known, edge, unfinished⟩ := blocked
    exact ⟨before, ⟨known, unfinished⟩, edge⟩
  have finite : {other | other ∈ nodes ∧ ¬ Within nodes r rounds other}.Finite :=
    nodes.finite_toSet.subset fun other both => both.1
  obtain ⟨start, -, cycle⟩ := core.exists_cycle finite
  exact acyclic start (transGen_swap.mp cycle)

/-- **Nothing is left from the length of the longest path on.** -/
theorem all_within_iff {longest rounds : ℕ} (greatest : IsGreatest (pathLengths nodes r) longest) :
    (∀ node ∈ nodes, Within nodes r rounds node) ↔ longest ≤ rounds := by
  constructor
  · intro all
    obtain ⟨path, isPath, rfl⟩ := greatest.1
    rcases List.eq_nil_or_concat path with rfl | ⟨front, last, rfl⟩
    · exact Nat.zero_le _
    · rw [List.concat_eq_append] at isPath ⊢
      have member := isPath.within last (List.mem_append_right _ (List.mem_singleton_self last))
      have bound := all last member front isPath
      rw [List.length_append, List.length_singleton]
      omega
  · intro enough node listed front isPath
    have bound := greatest.2 ⟨front ++ [node], isPath, rfl⟩
    rw [List.length_append, List.length_singleton] at bound
    omega

end Paths

end Logic
