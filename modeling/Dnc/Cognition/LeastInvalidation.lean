/-
**What one invalidation does to a state.**

The loop of `invalidate_from` leaves off at a round that adds nothing, and the set it has found is
the least set of identifiers that holds the root and everything that depends on one of its elements
(`isLeast_invalidClosure`). The call writes that set into the state: CURRENT items of the set become
INVALID, the views over it are listed, the event log grows by one entry, and the rest stays.

Writing is an action of sets of identifiers: writing one set and then another is writing their union
(`MarkedOver.trans`). An invalidation changes nothing that the loop looks at, so a later one finds
the set it would have found before. That invalidations can be repeated and swapped, the event log
apart, are then the laws of unions.
-/

import Dnc.Cognition.Invalidation

namespace Dnc.Cognition

open PyLib Logic Relation

namespace CognitiveState

/-! ### The set -/

/-- What depends on an element of the set is in the set. -/
def DependentsClosed (state : CognitiveState) (ids : Set String) : Prop :=
  ∀ first second, state.DependsOn first second → second ∈ ids → first ∈ ids

theorem length_dependencyRules_le (state : CognitiveState) :
    state.dependencyRules.length ≤ state.epistemicItems.length + state.relations.length := by
  rw [dependencyRules, List.length_append, List.length_map, List.length_map]
  exact Nat.add_le_add_left (List.length_filter_le _ _) _

/-- The loop leaves off at a round that adds nothing. -/
theorem invalidClosure_stops (state : CognitiveState) (itemId : String) :
    ∃ rounds ≤ state.epistemicItems.length + state.relations.length,
      state.invalidationRound^[rounds] {itemId} = state.invalidClosure itemId ∧
      state.invalidationRound (state.invalidClosure itemId) = state.invalidClosure itemId := by
  rw [invalidClosure, invalidationRound_eq]
  exact saturate_stops (List.countP_le_length.trans state.length_dependencyRules_le)

/-- **The loop finds the least set that holds the root and is closed under dependents.** -/
theorem isLeast_invalidClosure (state : CognitiveState) (itemId : String) :
    IsLeast {ids : Set String | itemId ∈ ids ∧ state.DependentsClosed ids}
      ↑(state.invalidClosure itemId) := by
  have least := isLeast_saturate {itemId} state.length_dependencyRules_le
  rw [fires_dependencyRules, Finset.coe_singleton] at least
  rw [invalidClosure, invalidationRound_eq]
  simp only [Set.singleton_subset_iff] at least
  exact least

/-! ### Writing a set into a state -/

section Marking

variable {state next last : CognitiveState} {first second : Finset String}

/-- The next state is the state with the set written into it, whatever their event logs. -/
structure MarkedOver (state : CognitiveState) (invalid : Finset String) (next : CognitiveState) :
    Prop where
  items : next.epistemicItems = state.invalidateItems invalid
  views : next.invalidatedViews =
    sortedElems (state.invalidatedViews.toFinset ∪ (state.viewsOver invalid).toFinset)
  rest : { next.toCognitiveStateData with epistemicItems := [], invalidatedViews := [],
                                          eventLog := [] } =
    { state.toCognitiveStateData with epistemicItems := [], invalidatedViews := [], eventLog := [] }

/-- Equal states, their event logs apart. -/
def SameButLog (first second : CognitiveState) : Prop :=
  { first.toCognitiveStateData with eventLog := [] } =
    { second.toCognitiveStateData with eventLog := [] }

theorem MarkedOver.relations (marked : state.MarkedOver first next) :
    next.relations = state.relations :=
  congrArg (fun data => data.relations) marked.rest

theorem MarkedOver.materializedViews (marked : state.MarkedOver first next) :
    next.materializedViews = state.materializedViews :=
  congrArg (fun data => data.materializedViews) marked.rest

theorem MarkedOver.itemIds (marked : state.MarkedOver first next) : next.itemIds = state.itemIds := by
  rw [CognitiveState.itemIds, marked.items, itemIds_invalidateItems]

/-- States with one set written into one state. -/
theorem MarkedOver.unique (marked : state.MarkedOver first next)
    (other : state.MarkedOver first last) : SameButLog next last := by
  have items := marked.items.trans other.items.symm
  have views := marked.views.trans other.views.symm
  have rest := marked.rest.trans other.rest.symm
  unfold SameButLog
  cases next with
  | mk nextData nextValid =>
    cases last with
    | mk lastData lastValid =>
      cases nextData
      cases lastData
      simp only [CognitiveStateData.mk.injEq] at items views rest ⊢
      tauto

/-- The item as an invalidation of the set leaves it. -/
def markedItem (ids : Finset String) (item : EpistemicItem) : EpistemicItem :=
  if item.itemId ∈ ids ∧ item.invalidationStatus = .current then
    item.withInvalidationStatus .invalid
  else item

theorem invalidateItems_eq (state : CognitiveState) (ids : Finset String) :
    state.invalidateItems ids = state.epistemicItems.map (markedItem ids) := rfl

/-- An item marked over one set and then over another is marked over both. -/
theorem markedItem_markedItem (item : EpistemicItem) :
    markedItem second (markedItem first item) = markedItem (first ∪ second) item := by
  by_cases current : item.invalidationStatus = .current
  · by_cases early : item.itemId ∈ first
    · have marked : markedItem first item = item.withInvalidationStatus .invalid :=
        if_pos ⟨early, current⟩
      have joined : markedItem (first ∪ second) item = item.withInvalidationStatus .invalid :=
        if_pos ⟨Finset.mem_union_left _ early, current⟩
      rw [marked, joined]
      exact if_neg fun again => nomatch again.2
    · have kept : markedItem first item = item := if_neg fun both => early both.1
      rw [kept]
      unfold markedItem
      simp only [Finset.mem_union, or_iff_right early]
  · have kept : ∀ ids : Finset String, markedItem ids item = item := fun _ =>
      if_neg fun both => current both.2
    rw [kept first, kept second, kept (first ∪ second)]

theorem MarkedOver.invalidateItems (marked : state.MarkedOver first next) :
    next.invalidateItems second = state.invalidateItems (first ∪ second) := by
  rw [invalidateItems_eq, marked.items, invalidateItems_eq, invalidateItems_eq, List.map_map]
  exact List.map_congr_left fun item _ => markedItem_markedItem item

theorem toFinset_viewsOver_union (state : CognitiveState) (first second : Finset String) :
    (state.viewsOver (first ∪ second)).toFinset =
      (state.viewsOver first).toFinset ∪ (state.viewsOver second).toFinset := by
  ext viewId
  simp only [List.mem_toFinset, Finset.mem_union, mem_viewsOver]
  constructor
  · rintro ⟨dependencies, found, itemId, listed, early | late⟩
    · exact Or.inl ⟨dependencies, found, itemId, listed, early⟩
    · exact Or.inr ⟨dependencies, found, itemId, listed, late⟩
  · rintro (⟨dependencies, found, itemId, listed, early⟩ | ⟨dependencies, found, itemId, listed, late⟩)
    · exact ⟨dependencies, found, itemId, listed, Or.inl early⟩
    · exact ⟨dependencies, found, itemId, listed, Or.inr late⟩

/-- **Writing one set and then another is writing their union.** -/
theorem MarkedOver.trans (marked : state.MarkedOver first next)
    (again : next.MarkedOver second last) : state.MarkedOver (first ∪ second) last where
  items := again.items.trans marked.invalidateItems
  views := by
    have same : (next.viewsOver second).toFinset = (state.viewsOver second).toFinset := by
      unfold viewsOver
      rw [marked.materializedViews]
    rw [again.views, marked.views, toFinset_sortedElems, same, toFinset_viewsOver_union,
      Finset.union_assoc]
  rest := again.rest.trans marked.rest

/-- The dependencies stay. -/
theorem MarkedOver.dependsOn (marked : state.MarkedOver first next) :
    next.DependsOn = state.DependsOn := by
  have same : ∀ item, (markedItem first item).itemId = item.itemId ∧
      (markedItem first item).dependsOn = item.dependsOn := by
    intro item
    unfold markedItem
    split_ifs <;> exact ⟨rfl, rfl⟩
  funext dependent dependency
  refine propext (or_congr ?_ (by rw [marked.relations]))
  rw [marked.items, invalidateItems_eq]
  constructor
  · rintro ⟨item, member, named, depends⟩
    obtain ⟨origin, listed, rfl⟩ := List.mem_map.mp member
    exact ⟨origin, listed, (same origin).1.symm.trans named, (same origin).2 ▸ depends⟩
  · rintro ⟨item, listed, named, depends⟩
    exact ⟨_, List.mem_map_of_mem listed, (same item).1.trans named, (same item).2.symm ▸ depends⟩

/-- A later invalidation finds the set it would have found before. -/
theorem MarkedOver.invalidClosure (marked : state.MarkedOver first next) (itemId : String) :
    next.invalidClosure itemId = state.invalidClosure itemId := by
  ext other
  rw [mem_invalidClosure, mem_invalidClosure, marked.dependsOn]

/-- A call on an item of the state returns, and writes the set that the loop has found. -/
theorem invalidateFrom_returns {itemId : String} (known : itemId ∈ state.itemIds)
    (reason : String) : ∃ next, state.invalidateFrom itemId reason = .ok next ∧
      state.MarkedOver (state.invalidClosure itemId) next ∧
      next.eventLog = state.eventLog ++
        [invalidationEvent itemId (state.invalidClosure itemId) reason] := by
  let data : CognitiveStateData := { state.toCognitiveStateData with
    epistemicItems := state.invalidateItems (state.invalidClosure itemId)
    invalidatedViews := sortedElems (state.invalidatedViews.toFinset ∪
      (state.viewsOver (state.invalidClosure itemId)).toFinset)
    eventLog := state.eventLog ++
      [invalidationEvent itemId (state.invalidClosure itemId) reason] }
  -- the constructor looks at the tenants of the items, which marking keeps
  have tenants : (∃ item ∈ data.epistemicItems, item.tenantId ≠ data.task.tenantId) ↔
      ∃ item ∈ state.epistemicItems, item.tenantId ≠ state.task.tenantId := by
    have same : ∀ item, (markedItem (state.invalidClosure itemId) item).tenantId =
        item.tenantId := by
      intro item
      unfold markedItem
      split_ifs <;> rfl
    show (∃ item ∈ state.epistemicItems.map (markedItem _), item.tenantId ≠ _) ↔ _
    constructor
    · rintro ⟨_, member, foreign⟩
      obtain ⟨item, listed, rfl⟩ := List.mem_map.mp member
      exact ⟨item, listed, same item ▸ foreign⟩
    · rintro ⟨item, listed, foreign⟩
      exact ⟨_, List.mem_map_of_mem listed, (same item).symm ▸ foreign⟩
  have valid : data.violation = none := by
    have before := state.valid
    unfold CognitiveStateData.violation at before ⊢
    simp only [tenants]
    exact before
  refine ⟨⟨data, valid⟩, ?_, ⟨rfl, rfl, rfl⟩, rfl⟩
  unfold invalidateFrom
  rw [if_neg (not_not.mpr known)]
  exact ofData_eq_ok.mpr rfl

end Marking

/-! ### The call -/

/-- What the call leaves, as a caller sees it. -/
structure InvalidatedOver (state : CognitiveState) (ids : Set String) (next : CognitiveState) :
    Prop where
  /-- The CURRENT items of the set are INVALID, and every other item is as it was. -/
  items : List.Forall₂ (fun before after =>
      (before.itemId ∈ ids ∧ before.invalidationStatus = .current →
        after = before.withInvalidationStatus .invalid) ∧
      (¬ (before.itemId ∈ ids ∧ before.invalidationStatus = .current) → after = before))
    state.epistemicItems next.epistemicItems
  /-- The views that touch the set are listed beside those that were. -/
  views : ∀ viewId, viewId ∈ next.invalidatedViews ↔ viewId ∈ state.invalidatedViews ∨
    ∃ dependencies, state.materializedViews.get? viewId = some dependencies ∧
      ∃ itemId ∈ dependencies, itemId ∈ ids
  logged : ∃ entry, next.eventLog = state.eventLog ++ [entry]
  /-- Every other field is as it was. -/
  rest : { next.toCognitiveStateData with epistemicItems := state.epistemicItems,
                                          invalidatedViews := state.invalidatedViews,
                                          eventLog := state.eventLog } = state.toCognitiveStateData

theorem MarkedOver.invalidatedOver {state next : CognitiveState} {ids : Finset String}
    (marked : state.MarkedOver ids next) (logged : ∃ entry, next.eventLog = state.eventLog ++ [entry]) :
    state.InvalidatedOver ↑ids next where
  items := by
    rw [marked.items, invalidateItems_eq, List.forall₂_map_right_iff, List.forall₂_same]
    exact fun item _ => ⟨fun hit => if_pos hit, fun miss => if_neg miss⟩
  views viewId := by
    rw [marked.views, mem_sortedElems, Finset.mem_union, List.mem_toFinset, List.mem_toFinset,
      mem_viewsOver]
    rfl
  logged := logged
  rest := congrArg (fun data : CognitiveStateData => { data with
    epistemicItems := state.epistemicItems, invalidatedViews := state.invalidatedViews,
    eventLog := state.eventLog }) marked.rest

/-- **One invalidation.** The loop stops; its set is the least one around the root that is closed
under dependents; the call writes that set and nothing else; and, the event log apart, repeating it
changes nothing and any other invalidation can be swapped with it. -/
structure LeastInvalidation (state : CognitiveState) (itemId : String) : Prop where
  stops : ∃ rounds ≤ state.epistemicItems.length + state.relations.length,
    state.invalidationRound^[rounds] {itemId} = state.invalidClosure itemId ∧
    state.invalidationRound (state.invalidClosure itemId) = state.invalidClosure itemId
  least : IsLeast {ids : Set String | itemId ∈ ids ∧ state.DependentsClosed ids}
    ↑(state.invalidClosure itemId)
  writes : ∀ reason, ∃ next, state.invalidateFrom itemId reason = .ok next ∧
    state.InvalidatedOver ↑(state.invalidClosure itemId) next
  idempotent : ∀ reason again next, state.invalidateFrom itemId reason = .ok next →
    ∃ last, next.invalidateFrom itemId again = .ok last ∧ SameButLog last next
  commutes : ∀ other ∈ state.itemIds, ∀ reason otherReason,
    ∃ next otherNext last otherLast, state.invalidateFrom itemId reason = .ok next ∧
      next.invalidateFrom other otherReason = .ok last ∧
      state.invalidateFrom other otherReason = .ok otherNext ∧
      otherNext.invalidateFrom itemId reason = .ok otherLast ∧ SameButLog last otherLast

theorem invalidateFrom_least (state : CognitiveState) (itemId : String)
    (known : itemId ∈ state.itemIds) : state.LeastInvalidation itemId where
  stops := state.invalidClosure_stops itemId
  least := state.isLeast_invalidClosure itemId
  writes reason := by
    obtain ⟨next, returned, marked, logged⟩ := invalidateFrom_returns known reason
    exact ⟨next, returned, marked.invalidatedOver ⟨_, logged⟩⟩
  idempotent reason again next returned := by
    obtain ⟨same, isNext, marked, -⟩ := invalidateFrom_returns known reason
    obtain rfl : same = next := Except.ok.inj (isNext.symm.trans returned)
    have stillKnown : itemId ∈ same.itemIds := by rwa [marked.itemIds]
    obtain ⟨last, isLast, markedAgain, -⟩ := invalidateFrom_returns stillKnown again
    rw [marked.invalidClosure] at markedAgain
    have both := marked.trans markedAgain
    rw [Finset.union_self] at both
    exact ⟨last, isLast, both.unique marked⟩
  commutes other otherKnown reason otherReason := by
    obtain ⟨next, isNext, marked, -⟩ := invalidateFrom_returns known reason
    obtain ⟨otherNext, isOtherNext, otherMarked, -⟩ := invalidateFrom_returns otherKnown otherReason
    have later : other ∈ next.itemIds := by rwa [marked.itemIds]
    have otherLater : itemId ∈ otherNext.itemIds := by rwa [otherMarked.itemIds]
    obtain ⟨last, isLast, markedLast, -⟩ := invalidateFrom_returns later otherReason
    obtain ⟨otherLast, isOtherLast, otherMarkedLast, -⟩ := invalidateFrom_returns otherLater reason
    rw [marked.invalidClosure] at markedLast
    rw [otherMarked.invalidClosure] at otherMarkedLast
    have first := marked.trans markedLast
    have second := otherMarked.trans otherMarkedLast
    rw [Finset.union_comm] at second
    exact ⟨next, otherNext, last, otherLast, isNext, isLast, isOtherNext, isOtherLast,
      first.unique second⟩

end CognitiveState

namespace Sample

/-- Two claims that depend on each other. -/
def circular : CognitiveState where
  task := task
  epistemicItems := [claim "a" a_named ["b"], claim "b" b_named ["a"]]
  valid := by decide

end Sample

theorem invalidateFrom_least_circular : Sample.circular.LeastInvalidation "a" :=
  Sample.circular.invalidateFrom_least "a" (by decide)

end Dnc.Cognition
