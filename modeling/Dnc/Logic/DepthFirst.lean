/-
**Depth-first search for a cycle.**

The recursive search with a set of visited nodes and the set of the nodes on the current path: a
successor on the path closes a cycle. `Searching` is the invariant: the path leads to the node that
is searched, and what is visited off the path has only such successors and is on no cycle.

* `search_spec`: with a unit of fuel for every unvisited node the search from a node returns, finds
  a cycle only if there is one, and otherwise has finished the node.
* `searchRoots_iff`: the searches from all nodes find a cycle exactly when the edges have one.
-/

import Mathlib.Data.Finset.Card
import Mathlib.Data.List.Basic
import Mathlib.Logic.Relation

namespace Logic

open Relation

variable {α : Type} [DecidableEq α]

/-! ### The algorithm -/

/-- The sets that the search updates. -/
structure Search (α : Type) where
  visited : List α
  path : List α

/-- The loop over the neighbors of a node, given the search from one of them. -/
def searchAll (search : α → Search α → Option (Bool × Search α)) :
    List α → Search α → Option (Bool × Search α)
  | [], state => some (false, state)
  | next :: rest, state =>
    if next ∉ state.visited then
      match search next state with
      | some (false, state) => searchAll search rest state
      | other => other
    else if next ∈ state.path then some (true, state)
    else searchAll search rest state

/-- The search from a node; without fuel there is no result. -/
def search (succ : α → List α) : Nat → α → Search α → Option (Bool × Search α)
  | 0, _, _ => none
  | fuel + 1, node, state =>
    match searchAll (search succ fuel) (succ node) ⟨node :: state.visited, node :: state.path⟩ with
    | some (false, state) => some (false, { state with path := state.path.erase node })
    | other => other

/-- The searches from the nodes that none before has visited, up to the first cycle. -/
def searchRoots (succ : α → List α) (fuel : Nat) : List α → Search α → Option Bool
  | [], _ => some false
  | node :: rest, state =>
    if node ∉ state.visited then
      match search succ fuel node state with
      | some (false, state) => searchRoots succ fuel rest state
      | some (true, _) => some true
      | none => none
    else searchRoots succ fuel rest state

/-! ### The invariant -/

/-- Visited, and no longer on the path. -/
def Search.Finished (state : Search α) (node : α) : Prop :=
  node ∈ state.visited ∧ node ∉ state.path

/-- What holds whenever a node is searched: the path is visited, and what is finished has finished
successors and is on no cycle. -/
structure Searching (succ : α → List α) (state : Search α) : Prop where
  onPath : ∀ node ∈ state.path, node ∈ state.visited
  closed : ∀ node, state.Finished node → ∀ next ∈ succ node, state.Finished next
  acyclic : ∀ node, state.Finished node → ¬ TransGen (fun first second => second ∈ succ first)
    node node

/-- What a search leaves: either there is a cycle, or the path is as before and more is visited. -/
def Searched (nodes : List α) (succ : α → List α) (state : Search α) (goals : List α) :
    Bool × Search α → Prop
  | (true, _) => ∃ node ∈ nodes, TransGen (fun first second => second ∈ succ first) node node
  | (false, last) => Searching succ last ∧ last.path = state.path ∧
      state.visited ⊆ last.visited ∧ ∀ goal ∈ goals, last.Finished goal

section Spec

variable {nodes : List α} {succ : α → List α} {state : Search α}

/-- The number of nodes that are not visited. -/
def unvisited (nodes : List α) (state : Search α) : Nat :=
  nodes.countP fun node => node ∉ state.visited

theorem unvisited_le {later : Search α} (grown : state.visited ⊆ later.visited) :
    unvisited nodes later ≤ unvisited nodes state := by
  apply List.countP_mono_left
  intro node _ fresh
  rw [decide_eq_true_eq] at fresh ⊢
  exact fun old => fresh (grown old)

theorem unvisited_visit {node : α} (listed : node ∈ nodes) (fresh : node ∉ state.visited)
    (path : List α) :
    unvisited nodes ⟨node :: state.visited, path⟩ < unvisited nodes state := by
  have split := List.perm_cons_erase listed
  have rest : (nodes.erase node).countP (fun other => other ∉ node :: state.visited) ≤
      (nodes.erase node).countP fun other => other ∉ state.visited := by
    apply List.countP_mono_left
    intro other _ unseen
    rw [decide_eq_true_eq] at unseen ⊢
    exact fun old => unseen (List.mem_cons_of_mem _ old)
  calc unvisited nodes ⟨node :: state.visited, path⟩
      = (nodes.erase node).countP fun other => other ∉ node :: state.visited := by
        unfold unvisited
        rw [split.countP_eq, List.countP_cons_of_neg (by simp)]
    _ < (nodes.erase node).countP (fun other => other ∉ state.visited) + 1 := by omega
    _ = unvisited nodes state := by
        unfold unvisited
        rw [split.countP_eq, List.countP_cons_of_pos (by simpa using fresh)]

omit [DecidableEq α] in
/-- What is finished leads to finished nodes only. -/
theorem Searching.finished_of_path (searching : Searching succ state) {first last : α}
    (finished : state.Finished first)
    (path : ReflTransGen (fun first second => second ∈ succ first) first last) :
    state.Finished last := by
  induction path with
  | refl => exact finished
  | tail _ edge ih => exact searching.closed _ ih _ edge

omit [DecidableEq α] in
/-- The node enters the path. -/
theorem Searching.enter (searching : Searching succ state) {node : α}
    (fresh : node ∉ state.visited) :
    Searching succ ⟨node :: state.visited, node :: state.path⟩ := by
  have same : ∀ other, Search.Finished ⟨node :: state.visited, node :: state.path⟩ other ↔
      state.Finished other := by
    intro other
    unfold Search.Finished
    rw [List.mem_cons, List.mem_cons]
    constructor
    · rintro ⟨here | old, off⟩
      · exact absurd (Or.inl here) off
      · exact ⟨old, fun on => off (Or.inr on)⟩
    · rintro ⟨old, off⟩
      refine ⟨Or.inr old, ?_⟩
      rintro (rfl | on)
      · exact fresh old
      · exact off on
  constructor
  · intro other on
    rcases List.mem_cons.mp on with rfl | old
    · exact List.mem_cons_self
    · exact List.mem_cons_of_mem _ (searching.onPath other old)
  · intro other finished next edge
    exact (same next).mpr (searching.closed other ((same other).mp finished) next edge)
  · exact fun other finished => searching.acyclic other ((same other).mp finished)

/-- The node leaves the path when all its successors are finished. -/
theorem Searching.leave {node : α} {visited path : List α}
    (searching : Searching succ ⟨visited, node :: path⟩) (off : node ∉ path)
    (successors : ∀ next ∈ succ node, Search.Finished ⟨visited, node :: path⟩ next) :
    Searching succ ⟨visited, path⟩ ∧ Search.Finished ⟨visited, path⟩ node := by
  have weaker : ∀ other, Search.Finished ⟨visited, node :: path⟩ other →
      Search.Finished ⟨visited, path⟩ other :=
    fun other finished => ⟨finished.1, fun on => finished.2 (List.mem_cons_of_mem _ on)⟩
  have here : Search.Finished ⟨visited, path⟩ node :=
    ⟨searching.onPath node List.mem_cons_self, off⟩
  have cases : ∀ other, Search.Finished ⟨visited, path⟩ other →
      other = node ∨ Search.Finished ⟨visited, node :: path⟩ other := by
    intro other finished
    by_cases same : other = node
    · exact Or.inl same
    · refine Or.inr ⟨finished.1, fun on => ?_⟩
      rcases List.mem_cons.mp on with rfl | old
      · exact same rfl
      · exact finished.2 old
  refine ⟨⟨?_, ?_, ?_⟩, here⟩
  · exact fun other on => searching.onPath other (List.mem_cons_of_mem _ on)
  · intro other finished next edge
    rcases cases other finished with rfl | old
    · exact weaker next (successors next edge)
    · exact weaker next (searching.closed other old next edge)
  · intro other finished cycle
    rcases cases other finished with rfl | old
    · -- a cycle through the node returns from a finished successor to the path
      obtain ⟨next, edge, back⟩ := TransGen.head'_iff.mp cycle
      have onCycle := searching.finished_of_path (successors next edge) back
      exact onCycle.2 List.mem_cons_self
    · exact searching.acyclic other old cycle

omit [DecidableEq α] in
/-- Where the path leads to a node, it leads to its neighbors with the node. -/
theorem leads_neighbor {path : List α} {node next : α}
    (leads : ∀ other ∈ path, TransGen (fun first second => second ∈ succ first) other node)
    (edge : next ∈ succ node) : ∀ other ∈ node :: path,
      TransGen (fun first second => second ∈ succ first) other next := by
  intro other on
  rcases List.mem_cons.mp on with rfl | old
  · exact TransGen.single edge
  · exact (leads other old).tail edge

/-- What the search owes for a node, with fuel for the unvisited nodes. -/
def Visits (nodes : List α) (succ : α → List α) (fuel : Nat)
    (visit : α → Search α → Option (Bool × Search α)) : Prop :=
  ∀ node ∈ nodes, ∀ state : Search α, node ∉ state.visited → unvisited nodes state ≤ fuel →
    Searching succ state →
    (∀ other ∈ state.path, TransGen (fun first second => second ∈ succ first) other node) →
    ∃ result, visit node state = some result ∧ Searched nodes succ state [node] result

/-- **The loop over the neighbors** of the node that ends the path. -/
theorem searchAll_spec {visit : α → Search α → Option (Bool × Search α)} {fuel : Nat}
    (visits : Visits nodes succ fuel visit) {goals : List α}
    (listed : ∀ goal ∈ goals, goal ∈ nodes) (enough : unvisited nodes state ≤ fuel)
    (searching : Searching succ state)
    (leads : ∀ goal ∈ goals, ∀ other ∈ state.path,
      TransGen (fun first second => second ∈ succ first) other goal) :
    ∃ result, searchAll visit goals state = some result ∧ Searched nodes succ state goals result := by
  induction goals generalizing state with
  | nil => exact ⟨_, rfl, searching, rfl, List.Subset.refl _, List.forall_mem_nil _⟩
  | cons next rest ih =>
    rw [List.forall_mem_cons] at listed leads
    unfold searchAll
    by_cases seen : next ∈ state.visited
    · rw [if_neg (not_not.mpr seen)]
      by_cases on : next ∈ state.path
      · rw [if_pos on]
        exact ⟨_, rfl, next, listed.1, leads.1 next on⟩
      · rw [if_neg on]
        obtain ⟨result, ran, spec⟩ := ih listed.2 enough searching leads.2
        refine ⟨result, ran, ?_⟩
        rcases result with ⟨_ | _, last⟩
        · obtain ⟨done, same, grown, all⟩ := spec
          refine ⟨done, same, grown, List.forall_mem_cons.mpr ⟨⟨grown seen, ?_⟩, all⟩⟩
          rwa [same]
        · exact spec
    · rw [if_pos seen]
      obtain ⟨found, ran, spec⟩ := visits next listed.1 state seen enough searching leads.1
      rw [ran]
      rcases found with ⟨_ | _, after⟩
      · obtain ⟨done, same, grown, reached⟩ := spec
        obtain ⟨result, ranRest, specRest⟩ := ih listed.2 ((unvisited_le grown).trans enough) done
          (same ▸ leads.2)
        refine ⟨result, ranRest, ?_⟩
        rcases result with ⟨_ | _, last⟩
        · obtain ⟨doneRest, sameRest, grownRest, all⟩ := specRest
          have kept : last.Finished next := by
            obtain ⟨visited, off⟩ := reached next List.mem_cons_self
            exact ⟨grownRest visited, sameRest ▸ off⟩
          exact ⟨doneRest, sameRest.trans same, List.Subset.trans grown grownRest,
            List.forall_mem_cons.mpr ⟨kept, all⟩⟩
        · exact specRest
      · exact ⟨_, rfl, spec⟩

/-- **The search from a node**, on a path that leads to it. -/
theorem search_spec (closed : ∀ node ∈ nodes, ∀ next ∈ succ node, next ∈ nodes) (fuel : Nat) :
    Visits nodes succ fuel (search succ fuel) := by
  induction fuel with
  | zero =>
    intro node listed state fresh enough _ _
    have some := unvisited_visit listed fresh []
    omega
  | succ fuel ih =>
    intro node listed state fresh enough searching leads
    have room := unvisited_visit listed fresh (node :: state.path)
    obtain ⟨result, ran, spec⟩ := searchAll_spec ih (closed node listed)
      (Nat.le_of_lt_succ (room.trans_le enough)) (searching.enter fresh)
      fun next edge => leads_neighbor leads edge
    unfold search
    rw [ran]
    rcases result with ⟨_ | _, last, path⟩
    · obtain ⟨done, same, grown, all⟩ := spec
      obtain rfl : path = node :: state.path := same
      have off : node ∉ state.path := fun on => fresh (searching.onPath node on)
      obtain ⟨left, finished⟩ := done.leave off all
      refine ⟨_, rfl, ?_⟩
      show Searching succ ⟨last, (node :: state.path).erase node⟩ ∧ _
      rw [List.erase_cons_head]
      exact ⟨left, rfl, List.Subset.trans (List.subset_cons_self _ _) grown,
        List.forall_mem_singleton.mpr finished⟩
    · exact ⟨_, rfl, spec⟩

/-- The searches from the roots, each with an empty path. -/
theorem searchRoots_spec (closed : ∀ node ∈ nodes, ∀ next ∈ succ node, next ∈ nodes)
    {fuel : Nat} {roots : List α} (listed : ∀ root ∈ roots, root ∈ nodes)
    (enough : unvisited nodes state ≤ fuel) (searching : Searching succ state)
    (atRoot : state.path = []) :
    ∃ found, searchRoots succ fuel roots state = some found ∧
      (found = true → ∃ node ∈ nodes,
        TransGen (fun first second => second ∈ succ first) node node) ∧
      (found = false → ∀ root ∈ roots,
        ¬ TransGen (fun first second => second ∈ succ first) root root) := by
  induction roots generalizing state with
  | nil => exact ⟨false, rfl, nofun, fun _ => List.forall_mem_nil _⟩
  | cons root rest ih =>
    rw [List.forall_mem_cons] at listed
    unfold searchRoots
    by_cases seen : root ∈ state.visited
    · rw [if_neg (not_not.mpr seen)]
      obtain ⟨found, ran, cycle, none⟩ := ih listed.2 enough searching atRoot
      have here := searching.acyclic root ⟨seen, by rw [atRoot]; exact List.not_mem_nil⟩
      exact ⟨found, ran, cycle, fun clean => List.forall_mem_cons.mpr ⟨here, none clean⟩⟩
    · rw [if_pos seen]
      obtain ⟨result, ran, spec⟩ := search_spec closed fuel root listed.1 state seen enough searching
        (by rw [atRoot]; exact List.forall_mem_nil _)
      rw [ran]
      rcases result with ⟨_ | _, after⟩
      · obtain ⟨done, same, grown, reached⟩ := spec
        obtain ⟨found, ranRest, cycle, none⟩ :=
          ih listed.2 ((unvisited_le grown).trans enough) done (same.trans atRoot)
        have here := done.acyclic root (reached root List.mem_cons_self)
        exact ⟨found, ranRest, cycle, fun clean => List.forall_mem_cons.mpr ⟨here, none clean⟩⟩
      · exact ⟨true, rfl, fun _ => spec, nofun⟩

/-- **The searches from all nodes find a cycle exactly when there is one.** -/
theorem searchRoots_iff (closed : ∀ node ∈ nodes, ∀ next ∈ succ node, next ∈ nodes)
    {fuel : Nat} (enough : nodes.length ≤ fuel) :
    ∃ found, searchRoots succ fuel nodes ⟨[], []⟩ = some found ∧
      (found = true ↔ ∃ node ∈ nodes,
        TransGen (fun first second => second ∈ succ first) node node) := by
  have start : Searching succ (⟨[], []⟩ : Search α) :=
    ⟨List.forall_mem_nil _, fun _ finished => absurd finished.1 List.not_mem_nil,
      fun _ finished => absurd finished.1 List.not_mem_nil⟩
  obtain ⟨found, ran, cycle, none⟩ := searchRoots_spec closed (fun _ member => member)
    (List.countP_le_length.trans enough) start rfl
  refine ⟨found, ran, cycle, ?_⟩
  rintro ⟨node, listed, loop⟩
  cases found with
  | true => rfl
  | false => exact absurd loop (none rfl node listed)

end Spec

end Logic
