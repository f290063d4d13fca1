/-
**What a plan that is returned meets.**

`GraphValidator.validate` lists five checks and makes three: that there are vertices, that the graph
has no cycle, and that it stays within the budget. A sub-goal that no affordable module serves is
passed over by the builder, and the verdict is SUCCESS all the same.

* `bestContract_eq_some_iff`: the first contract of the highest score is chosen among those that
  offer what the sub-goal needs and are affordable.
* `mem_edges_build`: the edges join the instances of positions that follow each other.
* `checklist_iff`: a plan meets the checklist exactly when, for each sub-goal in turn, some module is
  affordable with what the modules before it have left of the budget.

An instance carries the position of its sub-goal (`ofCounter_inj`), so a path through as many
vertices as there are sub-goals takes every position (`position_eq`).
-/

import Dnc.Logic.Pareto
import Dnc.Planner.Pipeline
import Std.Data.String.ToNat

namespace Dnc.Runtime

open PyLib Logic Relation

/-! ### The selection -/

section Selection

variable {R : Type} [PyFloat R]

/-- The score of a contract for a sub-goal. -/
def contractScore (goal : SubGoal) (contract : ModuleContract R) : R :=
  contract.costWeight +
    0.1 * (((goal.requiredCapabilities ∩ contract.capabilities).card : Int) : R)

/-- The contract offers something the sub-goal needs, if it needs anything, its score counts, and
its cost is within the budget. -/
structure CanServe (goal : SubGoal) (remainingBudget : R) (contract : ModuleContract R) : Prop where
  offers : goal.requiredCapabilities ≠ ∅ → goal.requiredCapabilities ∩ contract.capabilities ≠ ∅
  counts : -1.0 < contractScore goal contract
  affordable : contract.costWeight ≤ remainingBudget

/-- The contract can serve, and it is the first with the highest score among those that can. -/
def ServesBest (goal : SubGoal) (remainingBudget : R) (contracts : List (ModuleContract R))
    (contract : ModuleContract R) : Prop :=
  FirstBest (CanServe goal remainingBudget) (contractScore goal) contracts contract

/-- For each sub-goal in turn some contract can serve it, with what the best ones for the sub-goals
before have left of the budget. -/
def Affordable (contracts : List (ModuleContract R)) : R → List SubGoal → Prop
  | _, [] => True
  | remainingBudget, goal :: rest =>
    ∃ contract, ServesBest goal remainingBudget contracts contract ∧
      Affordable contracts (remainingBudget - contract.costWeight) rest

/-- A contract that the inner loop of the selection does not pass over for any score. -/
def Eligible (goal : SubGoal) (remainingBudget : R) (contract : ModuleContract R) : Prop :=
  (goal.requiredCapabilities ≠ ∅ → goal.requiredCapabilities ∩ contract.capabilities ≠ ∅) ∧
    contract.costWeight ≤ remainingBudget

instance (goal : SubGoal) (remainingBudget : R) : DecidablePred (Eligible goal remainingBudget) :=
  fun contract => inferInstanceAs (Decidable (_ ∧ contract.costWeight ≤ remainingBudget))

variable {goal : SubGoal} {remainingBudget : R} {contracts : List (ModuleContract R)}

theorem canServe_iff {contract : ModuleContract R} : CanServe goal remainingBudget contract ↔
    Eligible goal remainingBudget contract ∧ -1.0 < contractScore goal contract :=
  ⟨fun can => ⟨⟨can.offers, can.affordable⟩, can.counts⟩,
    fun both => ⟨both.1.1, both.2, both.1.2⟩⟩

/-- The inner loop keeps the first contract of the highest score. -/
theorem bestContract_eq (goal : SubGoal) (remainingBudget : R)
    (contracts : List (ModuleContract R)) :
    bestContract goal remainingBudget contracts =
      firstBest (Eligible goal remainingBudget) (contractScore goal) (-1.0) contracts := by
  unfold bestContract firstBest
  congr 2
  funext best contract
  unfold keepBetter Eligible
  dsimp only
  by_cases foreign : goal.requiredCapabilities ≠ ∅ ∧
      goal.requiredCapabilities ∩ contract.capabilities = ∅
  · rw [if_pos foreign, if_neg fun all => all.1.1 foreign.1 foreign.2]
  · have offers : goal.requiredCapabilities ≠ ∅ →
        goal.requiredCapabilities ∩ contract.capabilities ≠ ∅ :=
      fun needs none => foreign ⟨needs, none⟩
    rw [if_neg foreign]
    refine if_congr ?_ rfl rfl
    exact ⟨fun both => ⟨⟨offers, both.2⟩, both.1⟩, fun all => ⟨all.2, all.1.2⟩⟩

/-- **The inner loop chooses the best contract.** -/
theorem bestContract_eq_some_iff {contract : ModuleContract R} :
    bestContract goal remainingBudget contracts = some contract ↔
      ServesBest goal remainingBudget contracts contract := by
  rw [bestContract_eq, firstBest_eq_some_iff]
  unfold ServesBest
  rw [show CanServe goal remainingBudget = _ from funext fun _ => propext canServe_iff]

/-- **Every sub-goal has a module exactly when they are affordable in turn.** -/
theorem affordable_iff {registry : ModuleRegistry R} {goals : List SubGoal} :
    Affordable registry.listAll remainingBudget goals ↔
      ∀ selection ∈ select goals registry remainingBudget, selection.2 ≠ none := by
  induction goals generalizing remainingBudget with
  | nil => exact iff_of_true trivial fun _ member => nomatch member
  | cons goal rest ih =>
    unfold Affordable select
    simp only [← bestContract_eq_some_iff]
    cases found : bestContract goal remainingBudget registry.listAll with
    | none =>
      refine iff_of_false ?_ ?_
      · rintro ⟨_, ⟨⟩, -⟩
      · exact fun all => all _ List.mem_cons_self rfl
    | some chosen =>
      simp only [Option.some.injEq, exists_eq_left', List.forall_mem_cons, ih]
      simp

/-- What is selected for a sub-goal is a contract of the registry that offers what it needs. -/
theorem offers_of_select {registry : ModuleRegistry R} {goals : List SubGoal}
    {contract : ModuleContract R}
    (selected : (goal, some contract) ∈ select goals registry remainingBudget) :
    contract ∈ registry.listAll ∧ (goal.requiredCapabilities ≠ ∅ →
      goal.requiredCapabilities ∩ contract.capabilities ≠ ∅) := by
  induction goals generalizing remainingBudget with
  | nil => cases selected
  | cons first rest ih =>
    unfold select at selected
    cases found : bestContract first remainingBudget registry.listAll with
    | none =>
      rw [found] at selected
      rcases List.mem_cons.mp selected with here | later
      · cases here
      · exact ih later
    | some chosen =>
      rw [found] at selected
      rcases List.mem_cons.mp selected with here | later
      · cases here
        have best := bestContract_eq_some_iff.mp found
        exact ⟨best.mem, best.isEligible.offers⟩
      · exact ih later

theorem map_fst_select (goals : List SubGoal) (registry : ModuleRegistry R) (remainingBudget : R) :
    (select goals registry remainingBudget).map Prod.fst = goals := by
  induction goals generalizing remainingBudget with
  | nil => rfl
  | cons goal rest ih =>
    unfold select
    split <;> rw [List.map_cons, ih]

end Selection

/-! ### The sub-goals -/

section SubGoals

variable {R α : Type}

/-- Numbered sub-goals are told apart. -/
theorem goalIds_nodup (interpreter : Interpreter α) (taskDescription : String)
    (registry : ModuleRegistry R) :
    ((analyze interpreter taskDescription registry).map SubGoal.goalId).Nodup := by
  unfold analyze
  dsimp only
  split_ifs with unknown
  · exact List.nodup_singleton _
  · rw [List.map_map]
    refine List.Nodup.map_on ?_ ?_
    · rintro ⟨first, firstIndex⟩ isFirst ⟨second, secondIndex⟩ isSecond same
      have texts := congrArg String.toList
        (show s!"goal_{firstIndex}" = s!"goal_{secondIndex}" from same)
      simp only [toString, String.toList_append, List.append_cancel_left_eq] at texts
      have indices : firstIndex = secondIndex := Nat.repr_injective (String.toList_injective texts)
      rw [List.mk_mem_zipIdx_iff_getElem?] at isFirst isSecond
      subst indices
      rw [Option.some.inj (isFirst.symm.trans isSecond)]
    · exact List.Nodup.of_map Prod.snd (by
        rw [List.zipIdx_map_snd]
        exact List.nodup_range' ..)

/-- A sub-goal needs one capability at most. -/
theorem requiredCapabilities_analyze {interpreter : Interpreter α} {taskDescription : String}
    {registry : ModuleRegistry R} {goal : SubGoal}
    (member : goal ∈ analyze interpreter taskDescription registry) :
    goal.requiredCapabilities = ∅ ∨ ∃ token, goal.requiredCapabilities = {token} := by
  unfold analyze at member
  dsimp only at member
  split_ifs at member with unknown
  · rw [List.mem_singleton.mp member]
    exact Or.inl rfl
  · obtain ⟨⟨token, index⟩, -, rfl⟩ := List.mem_map.mp member
    exact Or.inr ⟨token, rfl⟩

end SubGoals

/-! ### The graph -/

section Graph

variable {R : Type} [PyFloat R]

/-- An instance tells its type and its counter. -/
theorem ofCounter_inj {first second : String} {firstCounter secondCounter : Nat} :
    ModuleInstanceID.ofCounter first firstCounter = .ofCounter second secondCounter ↔
      first = second ∧ firstCounter = secondCounter := by
  constructor
  · intro same
    have types : first = second := congrArg ModuleInstanceID.typeId same
    subst types
    have names : s!"dnc:{first}:{firstCounter}" = s!"dnc:{first}:{secondCounter}" :=
      Uuid.named.inj (congrArg ModuleInstanceID.uuid same)
    have texts := congrArg String.toList names
    simp only [toString, String.toList_append, List.append_cancel_left_eq] at texts
    exact ⟨rfl, Nat.repr_injective (String.toList_injective texts)⟩
  · rintro ⟨rfl, rfl⟩
    rfl

/-- The vertex of the contract that was selected for the sub-goal at a position. -/
def vertexAt (index : Nat) (contract : ModuleContract R) : VertexAssignment R where
  instanceId := .ofCounter contract.moduleTypeId.name index
  typeId := contract.moduleTypeId
  costEstimate := contract.costWeight
  preferenceScore := 1.0

variable {selections : List (SubGoal × Option (ModuleContract R))}

omit [PyFloat R] in
theorem mem_placeModules {goal : SubGoal} {contract : ModuleContract R}
    {instanceId : ModuleInstanceID} :
    (goal, contract, instanceId) ∈ placeModules selections ↔
      ∃ index, selections[index]? = some (goal, some contract) ∧
        instanceId = .ofCounter contract.moduleTypeId.name index := by
  unfold placeModules
  rw [List.mem_filterMap]
  constructor
  · rintro ⟨⟨⟨other, selected⟩, index⟩, listed, placed⟩
    rw [List.mk_mem_zipIdx_iff_getElem?] at listed
    obtain ⟨chosen, rfl, shown⟩ := Option.map_eq_some_iff.mp placed
    simp only [Prod.mk.injEq] at shown
    obtain ⟨rfl, rfl, rfl⟩ := shown
    exact ⟨index, listed, rfl⟩
  · rintro ⟨index, listed, rfl⟩
    exact ⟨((goal, some contract), index), List.mk_mem_zipIdx_iff_getElem?.mpr listed, rfl⟩

/-- **The vertices are those of the selected contracts.** -/
theorem mem_vertices_build {vertex : VertexAssignment R} :
    vertex ∈ (build selections).vertices ↔ ∃ index goal contract,
      selections[index]? = some (goal, some contract) ∧ vertex = vertexAt index contract := by
  show vertex ∈ (placeModules selections).map _ ↔ _
  rw [List.mem_map]
  constructor
  · rintro ⟨⟨goal, contract, instanceId⟩, placed, rfl⟩
    obtain ⟨index, listed, rfl⟩ := mem_placeModules.mp placed
    exact ⟨index, goal, contract, listed, rfl⟩
  · rintro ⟨index, goal, contract, listed, rfl⟩
    exact ⟨_, mem_placeModules.mpr ⟨index, listed, rfl⟩, rfl⟩

/-- The instances by the identifiers of their sub-goals. -/
def instanceMap (selections : List (SubGoal × Option (ModuleContract R))) :
    Dict String ModuleInstanceID :=
  .ofItems ((placeModules selections).map fun (goal, _, instanceId) => (goal.goalId, instanceId))

omit [PyFloat R] in
/-- A sub-goal has one position. -/
theorem index_eq_of_goalId (distinct : (selections.map fun selection => selection.1.goalId).Nodup)
    {first second : Nat} {selection other : SubGoal × Option (ModuleContract R)}
    (isFirst : selections[first]? = some selection) (isSecond : selections[second]? = some other)
    (same : selection.1.goalId = other.1.goalId) : first = second := by
  obtain ⟨inside, -⟩ := List.getElem?_eq_some_iff.mp isFirst
  have inside' : first < (selections.map fun selection => selection.1.goalId).length := by
    rwa [List.length_map]
  refine (List.getElem?_inj inside' distinct).mp ?_
  rw [List.getElem?_map, List.getElem?_map, isFirst, isSecond, Option.map_some, Option.map_some,
    same]

omit [PyFloat R] in
theorem entries_instanceMap
    (distinct : (selections.map fun selection => selection.1.goalId).Nodup) :
    (instanceMap selections).entries =
      (placeModules selections).map fun (goal, _, instanceId) => (goal.goalId, instanceId) := by
  refine Dict.entries_ofItems ?_
  rw [List.map_map, List.Nodup, List.pairwise_map]
  unfold placeModules
  rw [List.pairwise_filterMap]
  have positions : selections.zipIdx.Pairwise fun first second =>
      first.1.1.goalId ≠ second.1.1.goalId := by
    rw [← List.zipIdx_map_fst 0 selections, List.map_map, List.Nodup, List.pairwise_map] at distinct
    exact distinct
  refine positions.imp fun {first second} apart placed isPlaced other isOther => ?_
  obtain ⟨-, -, rfl⟩ := Option.map_eq_some_iff.mp isPlaced
  obtain ⟨-, -, rfl⟩ := Option.map_eq_some_iff.mp isOther
  exact apart

omit [PyFloat R] in
/-- A sub-goal has an instance where a contract was selected for it. -/
theorem get?_instanceMap (distinct : (selections.map fun selection => selection.1.goalId).Nodup)
    {index : Nat} {goal : SubGoal} {selected : Option (ModuleContract R)}
    (listed : selections[index]? = some (goal, selected)) :
    (instanceMap selections).get? goal.goalId =
      selected.map fun contract => .ofCounter contract.moduleTypeId.name index := by
  cases selected with
  | none =>
    rw [Option.map_none, Dict.get?_eq_none]
    intro member
    obtain ⟨instanceId, found⟩ := Dict.mem_iff_get?.mp member
    rw [← Dict.mem_entries, entries_instanceMap distinct] at found
    obtain ⟨⟨other, contract, _⟩, placed, shown⟩ := List.mem_map.mp found
    obtain ⟨otherIndex, isOther, -⟩ := mem_placeModules.mp placed
    have same := index_eq_of_goalId distinct isOther listed (Prod.mk.inj shown).1
    rw [same, listed] at isOther
    cases isOther
  | some contract =>
    rw [Option.map_some, ← Dict.mem_entries, entries_instanceMap distinct]
    exact List.mem_map.mpr ⟨_, mem_placeModules.mpr ⟨index, listed, rfl⟩, rfl⟩

/-- **The edges join the instances of positions that follow each other.** -/
theorem mem_edges_build (distinct : (selections.map fun selection => selection.1.goalId).Nodup)
    {upstream downstream : ModuleInstanceID} :
    (upstream, downstream) ∈ (build selections).edges ↔
      ∃ index goal contract nextGoal nextContract,
        selections[index]? = some (goal, some contract) ∧
        selections[index + 1]? = some (nextGoal, some nextContract) ∧
        upstream = .ofCounter contract.moduleTypeId.name index ∧
        downstream = .ofCounter nextContract.moduleTypeId.name (index + 1) := by
  show (upstream, downstream) ∈ (selections.zip selections.tail).filterMap _ ↔ _
  rw [List.mem_filterMap]
  constructor
  · rintro ⟨⟨previous, current⟩, paired, joined⟩
    obtain ⟨index, here⟩ := List.mem_iff_getElem?.mp paired
    rw [List.getElem?_zip_eq_some, List.getElem?_tail] at here
    obtain ⟨goal, selected⟩ := previous
    obtain ⟨nextGoal, nextSelected⟩ := current
    have isUpstream := get?_instanceMap distinct here.1
    have isDownstream := get?_instanceMap distinct here.2
    cases nextSelected with
    | none => cases joined
    | some nextContract =>
      obtain ⟨first, isFirst, rest⟩ := Option.bind_eq_some_iff.mp joined
      obtain ⟨second, isSecond, shown⟩ := Option.bind_eq_some_iff.mp rest
      obtain ⟨rfl, rfl⟩ := Prod.mk.inj (Option.some.inj shown)
      obtain ⟨contract, rfl, named⟩ := Option.map_eq_some_iff.mp (isUpstream.symm.trans isFirst)
      exact ⟨index, goal, contract, nextGoal, nextContract, here.1, here.2, named.symm,
        Option.some.inj (isSecond.symm.trans isDownstream)⟩
  · rintro ⟨index, goal, contract, nextGoal, nextContract, here, next, rfl, rfl⟩
    refine ⟨((goal, some contract), (nextGoal, some nextContract)), ?_, ?_⟩
    · rw [List.mem_iff_getElem?]
      exact ⟨index, List.getElem?_zip_eq_some.mpr ⟨here, by rwa [List.getElem?_tail]⟩⟩
    · have isUpstream := get?_instanceMap distinct here
      have isDownstream := get?_instanceMap distinct next
      exact Option.bind_eq_some_iff.mpr ⟨_, isUpstream,
        Option.bind_eq_some_iff.mpr ⟨_, isDownstream, rfl⟩⟩

end Graph

/-! ### The checklist -/

section Plan

variable {R α : Type} [PyFloat R]

/-- The vertex stands for a contract of the registry that offers what the sub-goal needs. -/
def Serves (registry : ModuleRegistry R) (goal : SubGoal) (vertex : VertexAssignment R) : Prop :=
  ∃ contract ∈ registry.listAll, contract.moduleTypeId = vertex.typeId ∧
    goal.requiredCapabilities ⊆ contract.capabilities

/-- Every sub-goal has a vertex that serves it, and the vertices of consecutive ones are joined. -/
def Satisfied (registry : ModuleRegistry R) (subGoals : List SubGoal) (graph : ExecutionGraph R) :
    Prop :=
  ∃ vertexOf : Nat → VertexAssignment R,
    (∀ index goal, subGoals[index]? = some goal →
      vertexOf index ∈ graph.vertices ∧ Serves registry goal (vertexOf index)) ∧
    ∀ index, index + 1 < subGoals.length →
      ((vertexOf index).instanceId, (vertexOf (index + 1)).instanceId) ∈ graph.edges

/-- **The planner's checklist**: the graph has vertices and no cycle, stays within the budget and
satisfies the sub-goals. -/
structure Checklist (registry : ModuleRegistry R) (resourceBudget : R) (subGoals : List SubGoal)
    (graph : ExecutionGraph R) : Prop where
  nonempty : graph.vertices ≠ []
  acyclic : ∀ node, ¬ TransGen (fun first second => (first, second) ∈ graph.edges) node node
  withinBudget : graph.totalCost ≤ resourceBudget
  satisfied : Satisfied registry subGoals graph

/-- What the validator does check. -/
theorem checked_of_validatePlan {graph : ExecutionGraph R} {resourceBudget : R}
    (checked : validatePlan graph resourceBudget = .ok none) :
    graph.vertices ≠ [] ∧
      (∀ node, ¬ TransGen (fun first second => (first, second) ∈ graph.edges) node node) ∧
      graph.totalCost ≤ resourceBudget := by
  obtain ⟨sched, built⟩ := setGraph_of_validatePlan checked
  refine ⟨?_, (Scheduler.setGraph_ok_iff.mp ⟨sched, built⟩).2, ?_⟩
  · intro none
    unfold validatePlan at checked
    rw [none] at checked
    cases checked
  · unfold validatePlan at checked
    by_contra above
    rw [not_le] at above
    by_cases empty : graph.vertices.isEmpty = true
    · rw [if_pos empty] at checked
      cases checked
    · rw [if_neg empty, built] at checked
      simp only [if_pos above] at checked
      cases checked

/-- Positions that go up by one, and stay below their number, are the numbers from zero on. -/
theorem position_eq {length : Nat} {position : Nat → Nat}
    (below : ∀ index, index < length → position index < length)
    (next : ∀ index, index + 1 < length → position (index + 1) = position index + 1) :
    ∀ index, index < length → position index = index := by
  have shifted : ∀ index, index < length → position index = position 0 + index := by
    intro index
    induction index with
    | zero => exact fun _ => rfl
    | succ index ih =>
      intro inside
      rw [next index inside, ih (by omega)]
      rfl
  intro index inside
  have last := below (length - 1) (by omega)
  rw [shifted (length - 1) (by omega)] at last
  rw [shifted index inside]
  omega

section Selections

variable {registry : ModuleRegistry R} {selections : List (SubGoal × Option (ModuleContract R))}

/-- The vertex at a position, where a contract is selected for it. -/
def selectedVertex (selections : List (SubGoal × Option (ModuleContract R)))
    (other : VertexAssignment R) (index : Nat) : VertexAssignment R :=
  (selections[index]?.bind Prod.snd).elim other (vertexAt index)

/-- A selection that passes no sub-goal over has a chain of vertices that serve them. -/
theorem satisfied_of_selected
    (distinct : (selections.map fun selection => selection.1.goalId).Nodup)
    (serves : ∀ goal contract, (goal, some contract) ∈ selections →
      contract ∈ registry.listAll ∧ goal.requiredCapabilities ⊆ contract.capabilities)
    (nonempty : (build selections).vertices ≠ [])
    (selected : ∀ selection ∈ selections, selection.2 ≠ none) :
    Satisfied registry (selections.map Prod.fst) (build selections) := by
  obtain ⟨other, -⟩ := List.exists_mem_of_ne_nil _ nonempty
  have chosen : ∀ index : Nat, index < selections.length → ∃ goal contract,
      selections[index]? = some (goal, some contract) ∧
        selectedVertex selections other index = vertexAt index contract := by
    intro index inside
    have present : ∃ selection, selections[index]? = some selection :=
      ⟨_, List.getElem?_eq_getElem inside⟩
    obtain ⟨⟨goal, contract⟩, listed⟩ := present
    cases contract with
    | none => exact absurd rfl (selected _ (List.mem_of_getElem? listed))
    | some contract =>
      refine ⟨goal, contract, listed, ?_⟩
      rw [selectedVertex, listed, Option.bind_some, Option.elim_some]
  refine ⟨selectedVertex selections other, fun index goal found => ?_, fun index inside => ?_⟩
  · rw [List.getElem?_map] at found
    obtain ⟨selection, here, named⟩ := Option.map_eq_some_iff.mp found
    obtain ⟨inside, -⟩ := List.getElem?_eq_some_iff.mp here
    obtain ⟨same, contract, listed, isVertex⟩ := chosen index inside
    obtain rfl : (same, some contract) = selection := Option.some.inj (listed.symm.trans here)
    obtain rfl : same = goal := named
    rw [isVertex]
    obtain ⟨member, offers⟩ := serves _ _ (List.mem_of_getElem? listed)
    exact ⟨mem_vertices_build.mpr ⟨index, same, contract, listed, rfl⟩, contract, member, rfl, offers⟩
  · rw [List.length_map] at inside
    obtain ⟨goal, contract, listed, isVertex⟩ := chosen index (by omega)
    obtain ⟨nextGoal, nextContract, nextListed, isNext⟩ := chosen (index + 1) inside
    rw [isVertex, isNext]
    exact (mem_edges_build distinct).mpr
      ⟨index, goal, contract, nextGoal, nextContract, listed, nextListed, rfl, rfl⟩

/-- A chain of as many vertices as there are sub-goals takes every position. -/
theorem selected_of_satisfied
    (distinct : (selections.map fun selection => selection.1.goalId).Nodup)
    (satisfied : Satisfied registry (selections.map Prod.fst) (build selections)) :
    ∀ selection ∈ selections, selection.2 ≠ none := by
  obtain ⟨vertexOf, isVertex, joined⟩ := satisfied
  rw [List.length_map] at joined
  have placed : ∀ index, index < selections.length → ∃ position goal contract,
      selections[position]? = some (goal, some contract) ∧
        vertexOf index = vertexAt position contract := by
    intro index inside
    have found : (selections.map Prod.fst)[index]? = some selections[index].1 := by
      rw [List.getElem?_map, List.getElem?_eq_getElem inside, Option.map_some]
    exact mem_vertices_build.mp (isVertex index _ found).1
  choose! position goal contract listed shown using placed
  have stays : ∀ index, index < selections.length → position index = index := by
    refine position_eq (fun index inside => ?_) fun index inside => ?_
    · exact (List.getElem?_eq_some_iff.mp (listed index inside)).1
    · have edge := joined index inside
      rw [shown index (by omega), shown (index + 1) inside] at edge
      obtain ⟨at', _, _, _, _, _, _, isUpstream, isDownstream⟩ := (mem_edges_build distinct).mp edge
      rw [(ofCounter_inj.mp isUpstream).2, (ofCounter_inj.mp isDownstream).2]
  rintro selection member none
  obtain ⟨index, here⟩ := List.mem_iff_getElem?.mp member
  obtain ⟨inside, -⟩ := List.getElem?_eq_some_iff.mp here
  have taken := listed index inside
  rw [stays index inside, here] at taken
  rw [Option.some.inj taken] at none
  cases none

end Selections

/-- **A plan meets the checklist exactly when every sub-goal is affordable in its turn.** -/
theorem checklist_iff {interpreter : Interpreter α} {taskDescription : String}
    {registry : ModuleRegistry R} {resourceBudget : R} {graph : ExecutionGraph R}
    (planned : plan interpreter taskDescription registry resourceBudget = .ok (.ok graph)) :
    Checklist registry resourceBudget (analyze interpreter taskDescription registry) graph ↔
      Affordable registry.listAll resourceBudget
        (analyze interpreter taskDescription registry) := by
  obtain ⟨built, checked⟩ := eq_build_of_plan planned
  obtain ⟨nonempty, acyclic, withinBudget⟩ := checked_of_validatePlan checked
  have goals := map_fst_select (analyze interpreter taskDescription registry) registry resourceBudget
  have distinct : ((select (analyze interpreter taskDescription registry) registry
      resourceBudget).map fun selection => selection.1.goalId).Nodup := by
    have ids := goalIds_nodup interpreter taskDescription registry
    rw [← goals, List.map_map] at ids
    exact ids
  have serves : ∀ goal contract, (goal, some contract) ∈ select (analyze interpreter taskDescription
      registry) registry resourceBudget →
      contract ∈ registry.listAll ∧ goal.requiredCapabilities ⊆ contract.capabilities := by
    intro goal contract selected
    obtain ⟨member, offers⟩ := offers_of_select selected
    refine ⟨member, ?_⟩
    have isGoal : goal ∈ analyze interpreter taskDescription registry := by
      rw [← goals]
      exact List.mem_map_of_mem selected
    rcases requiredCapabilities_analyze isGoal with none | ⟨token, one⟩
    · rw [none]
      exact Finset.empty_subset _
    · rw [one, Finset.singleton_subset_iff]
      by_contra absent
      refine offers (by rw [one]; exact Finset.singleton_ne_empty token) ?_
      rw [one, Finset.singleton_inter_of_notMem absent]
  rw [affordable_iff, built]
  have asked : Satisfied registry (analyze interpreter taskDescription registry) =
      Satisfied registry ((select (analyze interpreter taskDescription registry) registry
        resourceBudget).map Prod.fst) := by
    rw [goals]
  constructor
  · intro checklist
    have satisfied := checklist.satisfied
    rw [asked] at satisfied
    exact selected_of_satisfied distinct satisfied
  · intro selected
    rw [built] at nonempty acyclic withinBudget
    refine ⟨nonempty, acyclic, withinBudget, ?_⟩
    rw [asked]
    exact satisfied_of_selected distinct serves nonempty selected

end Plan

namespace Sample

/-- Texts are lower case already. -/
def lowerCase : Interpreter Unit where
  str := fun _ => ""
  lower := id
  setOrder := id
  setOrder_perm := List.Perm.refl

/-- A module that costs `1` and offers one capability. -/
def offering (name capability : String) : ModuleContract ℚ where
  moduleTypeId := ⟨name, "v1"⟩
  outputSignature := "object"
  capabilities := {capability}
  costWeight := 1

def twoModules : ModuleRegistry ℚ :=
  ⟨.ofItems [(⟨"A", "v1"⟩, offering "A" "alpha"), (⟨"B", "v1"⟩, offering "B" "beta")]⟩

/-- The vertices and edges of the plan for two words. -/
def sizes (resourceBudget : ℚ) : Option (Nat × Nat) :=
  match plan lowerCase "alpha beta" twoModules resourceBudget with
  | .ok (.ok graph) => some (graph.vertices.length, graph.edges.length)
  | _ => none

theorem plan_of_sizes {resourceBudget : ℚ} {vertices edges : Nat}
    (shown : sizes resourceBudget = some (vertices, edges)) : ∃ graph : ExecutionGraph ℚ,
      plan lowerCase "alpha beta" twoModules resourceBudget = .ok (.ok graph) ∧
        graph.edges.length = edges := by
  unfold sizes at shown
  split at shown
  · rename_i graph planned
    exact ⟨graph, planned, (Prod.mk.inj (Option.some.inj shown)).2⟩
  · cases shown

end Sample

theorem checklist_iff_two_modules : ∃ graph : ExecutionGraph ℚ,
    plan Sample.lowerCase "alpha beta" Sample.twoModules 3 = .ok (.ok graph) ∧
      (Checklist Sample.twoModules 3 (analyze Sample.lowerCase "alpha beta" Sample.twoModules) graph ↔
        Affordable Sample.twoModules.listAll 3
          (analyze Sample.lowerCase "alpha beta" Sample.twoModules)) := by
  obtain ⟨graph, planned, -⟩ := Sample.plan_of_sizes
    (show Sample.sizes 3 = some (2, 1) by decide +kernel)
  exact ⟨graph, planned, checklist_iff planned⟩

/-- **A sub-goal without a module does not fail the plan**: the budget is spent on the first of two
words, and the graph of one vertex is returned. -/
theorem plan_passes_subGoal_over : ∃ graph : ExecutionGraph ℚ,
    plan Sample.lowerCase "alpha beta" Sample.twoModules 1 = .ok (.ok graph) ∧
      ¬ Checklist Sample.twoModules 1 (analyze Sample.lowerCase "alpha beta" Sample.twoModules)
        graph := by
  obtain ⟨graph, planned, noEdges⟩ := Sample.plan_of_sizes
    (show Sample.sizes 1 = some (1, 0) by decide +kernel)
  refine ⟨graph, planned, fun checklist => ?_⟩
  obtain ⟨vertexOf, -, joined⟩ := checklist.satisfied
  have two : (analyze Sample.lowerCase "alpha beta" Sample.twoModules).length = 2 := by
    decide +kernel
  have edge := joined 0 (by omega)
  rw [List.eq_nil_of_length_eq_zero noEdges] at edge
  cases edge

end Dnc.Runtime
