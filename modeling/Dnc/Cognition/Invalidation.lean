/-
**Invalidation and later appends.**

An invalidation marks everything that depends on an item, and the views over it. `InvalidationSound`
is what it establishes: no CURRENT item depends on an INVALID one, over any number of dependencies,
and every view over an INVALID item is listed. `invalidate_from` keeps this; the operations that
append a dependency or a view do not look at the status of what is depended on.

`invalidationSound_iff`: in a run, every state is sound exactly when no append brings a dependency of
a CURRENT item on an INVALID one (`KeepsInvalidation`). What an append does to the paths is
`reach_of_source`: new edges leave from one identifier only.
-/

import Dnc.Cognition.State
import Dnc.Logic.Run

namespace Dnc.Cognition

open PyLib Logic Relation

namespace CognitiveState

structure InvalidationSound (state : CognitiveState) : Prop where
  items : ∀ item ∈ state.epistemicItems, item.invalidationStatus = .current →
    ∀ other ∈ state.epistemicItems, other.invalidationStatus = .invalid →
      ¬ TransGen state.DependsOn item.itemId other.itemId
  views : ∀ viewId dependencies, state.materializedViews.get? viewId = some dependencies →
    ∀ item ∈ state.epistemicItems, item.invalidationStatus = .invalid →
      item.itemId ∈ dependencies → viewId ∈ state.invalidatedViews

/-- The identifier is an INVALID item's, or depends on one. -/
def Tainted (state : CognitiveState) (itemId : String) : Prop :=
  ∃ item ∈ state.epistemicItems, item.invalidationStatus = .invalid ∧
    ReflTransGen state.DependsOn itemId item.itemId

/-- The identifier is a CURRENT item's, or one depends on it. -/
def ReliedOn (state : CognitiveState) (itemId : String) : Prop :=
  ∃ item ∈ state.epistemicItems, item.invalidationStatus = .current ∧
    ReflTransGen state.DependsOn item.itemId itemId

/-- The condition on a call that succeeds. -/
def AppendsSoundly (state : CognitiveState) : StateCall → Prop
  | .withEpistemicItem item =>
    (item.invalidationStatus = .current ∨ state.ReliedOn item.itemId →
        ∀ itemId ∈ item.dependsOn, ¬ state.Tainted itemId) ∧
      (item.invalidationStatus = .invalid → ¬ state.ReliedOn item.itemId)
  | .withRelation relation =>
    relation.relationType = .dependsOn → state.ReliedOn relation.sourceId →
      ¬ state.Tainted relation.targetId
  | .withMaterializedView viewId dependencyItemIds =>
    ∀ item ∈ state.epistemicItems, item.invalidationStatus = .invalid →
      item.itemId ∈ dependencyItemIds → viewId ∈ state.invalidatedViews
  | _ => True

end CognitiveState

/-- No append brings a dependency of a CURRENT item on an INVALID one, or an unlisted view over an
INVALID item. -/
def KeepsInvalidation (entry : CognitiveState × StateCall) : Prop :=
  ∀ next, entry.1.apply entry.2 = .ok next → entry.1.AppendsSoundly entry.2

/-! ### One call -/

namespace CognitiveState

variable {state next : CognitiveState}

/-- Views name items, and relations leave from items. -/
structure Anchored (state : CognitiveState) : Prop where
  views : ∀ viewId dependencies, state.materializedViews.get? viewId = some dependencies →
    ∀ itemId ∈ dependencies, itemId ∈ state.itemIds
  relations : ∀ relation ∈ state.relations, relation.sourceId ∈ state.itemIds

theorem mem_itemIds {itemId : String} :
    itemId ∈ state.itemIds ↔ ∃ item ∈ state.epistemicItems, item.itemId = itemId :=
  List.mem_map

/-- Dependencies leave from items. -/
theorem Anchored.source (anchored : state.Anchored) {first second : String}
    (depends : state.DependsOn first second) : first ∈ state.itemIds := by
  rcases depends with ⟨item, member, rfl, -⟩ | ⟨relation, member, -, rfl, -⟩
  · exact mem_itemIds.mpr ⟨item, member, rfl⟩
  · exact anchored.relations relation member

/-- The soundness of a state is a matter of its items, relations and views. -/
theorem InvalidationSound.of_same (sound : state.InvalidationSound)
    (items : next.epistemicItems = state.epistemicItems)
    (relations : next.relations = state.relations)
    (views : next.materializedViews = state.materializedViews)
    (listed : next.invalidatedViews = state.invalidatedViews) : next.InvalidationSound := by
  have edges : next.DependsOn = state.DependsOn := by
    unfold DependsOn
    rw [items, relations]
  refine ⟨?_, ?_⟩
  · rw [items, edges]
    exact sound.items
  · rw [items, views, listed]
    exact sound.views

/-- What a new item adds to the dependencies. -/
theorem dependsOn_withEpistemicItem {item : EpistemicItem}
    (added : state.withEpistemicItem item = .ok next) (first second : String) :
    next.DependsOn first second ↔
      state.DependsOn first second ∨ (first = item.itemId ∧ second ∈ item.dependsOn) := by
  obtain ⟨-, left⟩ := withEpistemicItem_eq_ok added
  have items : next.epistemicItems = state.epistemicItems ++ [item] := by rw [left]
  have relations : next.relations = state.relations := by rw [left]
  unfold DependsOn
  rw [items, relations]
  constructor
  · rintro (⟨other, member, sameId, depends⟩ | viaRelation)
    · rcases List.mem_append.mp member with old | new
      · exact Or.inl (Or.inl ⟨other, old, sameId, depends⟩)
      · rw [List.mem_singleton.mp new] at sameId depends
        exact Or.inr ⟨sameId.symm, depends⟩
    · exact Or.inl (Or.inr viaRelation)
  · rintro ((⟨other, member, sameId, depends⟩ | viaRelation) | ⟨rfl, depends⟩)
    · exact Or.inl ⟨other, List.mem_append_left _ member, sameId, depends⟩
    · exact Or.inr viaRelation
    · exact Or.inl ⟨item, List.mem_append_right _ (List.mem_singleton_self item), rfl, depends⟩

theorem withEpistemicItem_sound_iff (anchored : state.Anchored) (sound : state.InvalidationSound)
    {item : EpistemicItem} (added : state.withEpistemicItem item = .ok next) :
    next.InvalidationSound ↔ state.AppendsSoundly (.withEpistemicItem item) := by
  obtain ⟨isNew, left⟩ := withEpistemicItem_eq_ok added
  have items : next.epistemicItems = state.epistemicItems ++ [item] := by rw [left]
  have views : next.materializedViews = state.materializedViews := by rw [left]
  have listed : next.invalidatedViews = state.invalidatedViews := by rw [left]
  have edges := dependsOn_withEpistemicItem added
  have paths := reach_of_source edges
  constructor
  · intro soundNext
    refine ⟨fun relied itemId depends tainted => ?_, fun invalid relied => ?_⟩
    · obtain ⟨other, otherMember, otherInvalid, toOther⟩ := tainted
      have otherListed : other ∈ next.epistemicItems := items ▸ List.mem_append_left _ otherMember
      rcases relied with isCurrent | ⟨user, userMember, userCurrent, toItem⟩
      · refine soundNext.items item (items ▸ List.mem_append_right _ (List.mem_singleton_self item))
          isCurrent other otherListed otherInvalid ((paths _ _).mpr (Or.inr ?_))
        exact ⟨ReflTransGen.refl, itemId, depends, toOther⟩
      · refine soundNext.items user (items ▸ List.mem_append_left _ userMember) userCurrent other
          otherListed otherInvalid ((paths _ _).mpr (Or.inr ?_))
        exact ⟨toItem, itemId, depends, toOther⟩
    · obtain ⟨user, userMember, userCurrent, toItem⟩ := relied
      have path : TransGen state.DependsOn user.itemId item.itemId := by
        rcases reflTransGen_iff_eq_or_transGen.mp toItem with same | path
        · exact absurd (mem_itemIds.mpr ⟨user, userMember, same.symm⟩) isNew
        · exact path
      exact soundNext.items user (items ▸ List.mem_append_left _ userMember) userCurrent item
        (items ▸ List.mem_append_right _ (List.mem_singleton_self item)) invalid
        ((paths _ _).mpr (Or.inl path))
  · rintro ⟨untainted, notRelied⟩
    refine ⟨fun first firstMember isCurrent second secondMember isInvalid path => ?_,
      fun viewId dependencies found other otherMember isInvalid depends => ?_⟩
    · rw [items, List.mem_append, List.mem_singleton] at firstMember secondMember
      rcases (paths _ _).mp path with old | ⟨toItem, itemId, depends, fromItem⟩
      · rcases firstMember with firstOld | rfl
        · rcases secondMember with secondOld | rfl
          · exact sound.items first firstOld isCurrent second secondOld isInvalid old
          · exact notRelied isInvalid ⟨first, firstOld, isCurrent, old.to_reflTransGen⟩
        · obtain ⟨middle, edge, -⟩ := TransGen.head'_iff.mp old
          exact isNew (anchored.source edge)
      · have relied : item.invalidationStatus = .current ∨ state.ReliedOn item.itemId := by
          rcases firstMember with firstOld | rfl
          · exact Or.inr ⟨first, firstOld, isCurrent, toItem⟩
          · exact Or.inl isCurrent
        rcases secondMember with secondOld | rfl
        · exact untainted relied itemId depends ⟨second, secondOld, isInvalid, fromItem⟩
        · -- the new item is INVALID, so an older item is the CURRENT one
          rcases relied with isCurrent | relied
          · rw [isInvalid] at isCurrent
            cases isCurrent
          · exact notRelied isInvalid relied
    · rw [views] at found
      rw [items, List.mem_append, List.mem_singleton] at otherMember
      rcases otherMember with otherOld | rfl
      · rw [listed]
        exact sound.views viewId dependencies found other otherOld isInvalid depends
      · exact absurd (anchored.views viewId dependencies found _ depends) isNew

/-- The item that a relation makes its source depend on, if any. -/
def targetsOf (relation : EpistemicRelation) : List String :=
  if relation.relationType = .dependsOn then [relation.targetId] else []

theorem mem_targetsOf {relation : EpistemicRelation} {second : String} :
    second ∈ targetsOf relation ↔
      relation.relationType = .dependsOn ∧ relation.targetId = second := by
  unfold targetsOf
  by_cases depends : relation.relationType = .dependsOn <;> simp [depends, eq_comm]

/-- What a new relation adds to the dependencies. -/
theorem dependsOn_withRelation {relation : EpistemicRelation}
    (added : state.withRelation relation = .ok next) (first second : String) :
    next.DependsOn first second ↔ state.DependsOn first second ∨
      (first = relation.sourceId ∧ second ∈ targetsOf relation) := by
  obtain ⟨-, -, left⟩ := withRelation_eq_ok added
  have items : next.epistemicItems = state.epistemicItems := by rw [left]
  have relations : next.relations = state.relations ++ [relation] := by rw [left]
  unfold DependsOn
  rw [items, relations, mem_targetsOf]
  constructor
  · rintro (viaItem | ⟨other, member, depends, isSource, isTarget⟩)
    · exact Or.inl (Or.inl viaItem)
    · rcases List.mem_append.mp member with old | new
      · exact Or.inl (Or.inr ⟨other, old, depends, isSource, isTarget⟩)
      · rw [List.mem_singleton.mp new] at depends isSource isTarget
        exact Or.inr ⟨isSource.symm, depends, isTarget⟩
  · rintro ((viaItem | ⟨other, member, depends, isSource, isTarget⟩) | ⟨rfl, depends, isTarget⟩)
    · exact Or.inl viaItem
    · exact Or.inr ⟨other, List.mem_append_left _ member, depends, isSource, isTarget⟩
    · exact Or.inr ⟨relation, List.mem_append_right _ (List.mem_singleton_self relation), depends,
        rfl, isTarget⟩

theorem withRelation_sound_iff (sound : state.InvalidationSound) {relation : EpistemicRelation}
    (added : state.withRelation relation = .ok next) :
    next.InvalidationSound ↔ state.AppendsSoundly (.withRelation relation) := by
  obtain ⟨-, -, left⟩ := withRelation_eq_ok added
  have items : next.epistemicItems = state.epistemicItems := by rw [left]
  have views : next.materializedViews = state.materializedViews := by rw [left]
  have listed : next.invalidatedViews = state.invalidatedViews := by rw [left]
  have edges := dependsOn_withRelation added
  have paths := reach_of_source edges
  constructor
  · rintro soundNext depends ⟨user, userMember, isCurrent, toSource⟩
      ⟨other, otherMember, isInvalid, fromTarget⟩
    refine soundNext.items user (items ▸ userMember) isCurrent other (items ▸ otherMember) isInvalid
      ((paths _ _).mpr (Or.inr ⟨toSource, relation.targetId, ?_, fromTarget⟩))
    exact mem_targetsOf.mpr ⟨depends, rfl⟩
  · intro untainted
    refine ⟨fun first firstMember isCurrent second secondMember isInvalid path => ?_, ?_⟩
    · rw [items] at firstMember secondMember
      rcases (paths _ _).mp path with old | ⟨toSource, target, isTarget, fromTarget⟩
      · exact sound.items first firstMember isCurrent second secondMember isInvalid old
      · obtain ⟨depends, rfl⟩ := mem_targetsOf.mp isTarget
        exact untainted depends ⟨first, firstMember, isCurrent, toSource⟩
          ⟨second, secondMember, isInvalid, fromTarget⟩
    · rw [items, views, listed]
      exact sound.views

theorem withMaterializedView_sound_iff (sound : state.InvalidationSound) {viewId : String}
    {dependencyItemIds : List String}
    (registered : state.withMaterializedView viewId dependencyItemIds = .ok next) :
    next.InvalidationSound ↔
      state.AppendsSoundly (.withMaterializedView viewId dependencyItemIds) := by
  obtain ⟨-, left⟩ := withMaterializedView_eq_ok registered
  have items : next.epistemicItems = state.epistemicItems := by rw [left]
  have relations : next.relations = state.relations := by rw [left]
  have views : next.materializedViews = state.materializedViews.set viewId dependencyItemIds := by
    rw [left]
  have listed : next.invalidatedViews = state.invalidatedViews := by rw [left]
  have edges : next.DependsOn = state.DependsOn := by
    unfold DependsOn
    rw [items, relations]
  constructor
  · intro soundNext item member isInvalid depends
    rw [← listed]
    refine soundNext.views viewId dependencyItemIds ?_ item (items ▸ member) isInvalid depends
    rw [views, Dict.get?_set_self]
  · intro lists
    refine ⟨?_, fun other dependencies found item member isInvalid depends => ?_⟩
    · rw [items, edges]
      exact sound.items
    · rw [items] at member
      rw [views, Dict.get?_set] at found
      rw [listed]
      by_cases same : other = viewId
      · rw [if_pos same] at found
        rw [same]
        exact lists item member isInvalid (Option.some.inj found ▸ depends)
      · rw [if_neg same] at found
        exact sound.views other dependencies found item member isInvalid depends

/-- An item of the new state, and the item it was. -/
theorem mem_invalidateItems {invalid : Finset String} {item : EpistemicItem}
    (member : item ∈ state.invalidateItems invalid) :
    ∃ origin ∈ state.epistemicItems, item.itemId = origin.itemId ∧
      item.dependsOn = origin.dependsOn ∧
      ((item.invalidationStatus = .invalid ∧ origin.itemId ∈ invalid) ∨
        (item.invalidationStatus = origin.invalidationStatus ∧
          ¬ (origin.itemId ∈ invalid ∧ origin.invalidationStatus = .current))) := by
  obtain ⟨origin, listed, rfl⟩ := List.mem_map.mp member
  refine ⟨origin, listed, ?_⟩
  by_cases hit : origin.itemId ∈ invalid ∧ origin.invalidationStatus = .current
  · rw [if_pos hit]
    exact ⟨rfl, rfl, Or.inl ⟨rfl, hit.1⟩⟩
  · rw [if_neg hit]
    exact ⟨rfl, rfl, Or.inr ⟨rfl, hit⟩⟩

/-- **An invalidation keeps the state sound**: what it marks is closed under dependants. -/
theorem invalidateFrom_sound (sound : state.InvalidationSound) {itemId reason : String}
    (invalidated : state.invalidateFrom itemId reason = .ok next) : next.InvalidationSound := by
  obtain ⟨-, left⟩ := invalidateFrom_eq_ok invalidated
  have items : next.epistemicItems = state.invalidateItems (state.invalidClosure itemId) := by rw [left]
  have relations : next.relations = state.relations := by rw [left]
  have views : next.materializedViews = state.materializedViews := by rw [left]
  have listed : next.invalidatedViews = sortedElems (state.invalidatedViews.toFinset ∪
      (state.viewsOver (state.invalidClosure itemId)).toFinset) := by rw [left]
  have edges : ∀ first second, next.DependsOn first second → state.DependsOn first second := by
    rintro first second (⟨item, member, rfl, depends⟩ | viaRelation)
    · rw [items] at member
      obtain ⟨origin, isItem, sameId, sameDepends, -⟩ := mem_invalidateItems member
      exact Or.inl ⟨origin, isItem, sameId.symm, sameDepends ▸ depends⟩
    · rw [relations] at viaRelation
      exact Or.inr viaRelation
  refine ⟨fun first firstMember isCurrent second secondMember isInvalid path => ?_,
    fun viewId dependencies found item member isInvalid depends => ?_⟩
  · rw [items] at firstMember secondMember
    obtain ⟨user, isUser, userId, -, userStatus⟩ := mem_invalidateItems firstMember
    obtain ⟨other, isOther, otherId, -, otherStatus⟩ := mem_invalidateItems secondMember
    rw [userId, otherId] at path
    have before : TransGen state.DependsOn user.itemId other.itemId :=
      TransGen.mono edges _ _ path
    -- the CURRENT item was CURRENT, and is outside the marked set
    rcases userStatus with ⟨marked, -⟩ | ⟨sameStatus, notHit⟩
    · rw [isCurrent] at marked
      cases marked
    have userCurrent : user.invalidationStatus = .current := sameStatus ▸ isCurrent
    rcases otherStatus with ⟨-, inClosure⟩ | ⟨otherSame, -⟩
    · refine notHit ⟨mem_invalidClosure.mpr ?_, userCurrent⟩
      exact before.to_reflTransGen.trans (mem_invalidClosure.mp inClosure)
    · exact sound.items user isUser userCurrent other isOther (otherSame ▸ isInvalid) before
  · rw [items] at member
    rw [views] at found
    rw [listed, mem_sortedElems, Finset.mem_union, List.mem_toFinset, List.mem_toFinset]
    obtain ⟨origin, isItem, sameId, -, status⟩ := mem_invalidateItems member
    rcases status with ⟨-, inClosure⟩ | ⟨sameStatus, -⟩
    · refine Or.inr (mem_viewsOver.mpr ⟨dependencies, found, item.itemId, depends, ?_⟩)
      exact sameId ▸ inClosure
    · exact Or.inl (sound.views viewId dependencies found origin isItem (sameStatus ▸ isInvalid)
        (sameId ▸ depends))

theorem initial_anchored (task : TaskSpec) : (initial task).Anchored where
  views _ _ found := nomatch found
  relations _ member := absurd member List.not_mem_nil

theorem initial_sound (task : TaskSpec) : (initial task).InvalidationSound where
  items _ member := absurd member List.not_mem_nil
  views _ _ found := nomatch found

/-- The identifiers only grow, so old views and relations stay anchored. -/
theorem Anchored.of_grows (anchored : state.Anchored)
    (ids : ∀ itemId ∈ state.itemIds, itemId ∈ next.itemIds)
    (views : ∀ viewId dependencies, next.materializedViews.get? viewId = some dependencies →
      state.materializedViews.get? viewId = some dependencies ∨
        ∀ itemId ∈ dependencies, itemId ∈ state.itemIds)
    (relations : ∀ relation ∈ next.relations,
      relation ∈ state.relations ∨ relation.sourceId ∈ state.itemIds) : next.Anchored := by
  refine ⟨fun viewId dependencies found itemId depends => ids itemId ?_,
    fun relation member => ids relation.sourceId ?_⟩
  · rcases views viewId dependencies found with old | known
    · exact anchored.views viewId dependencies old itemId depends
    · exact known itemId depends
  · rcases relations relation member with old | known
    · exact anchored.relations relation old
    · exact known

/-- Where only the items change, their identifiers decide. -/
theorem Anchored.of_items (anchored : state.Anchored)
    (ids : ∀ itemId ∈ state.itemIds, itemId ∈ next.itemIds)
    (relations : next.relations = state.relations)
    (views : next.materializedViews = state.materializedViews) : next.Anchored := by
  apply anchored.of_grows ids
  · intro viewId dependencies found
    rw [views] at found
    exact Or.inl found
  · intro relation member
    rw [relations] at member
    exact Or.inl member

theorem Anchored.of_same (anchored : state.Anchored)
    (items : next.epistemicItems = state.epistemicItems)
    (relations : next.relations = state.relations)
    (views : next.materializedViews = state.materializedViews) : next.Anchored := by
  refine anchored.of_items ?_ relations views
  intro itemId listed
  rwa [itemIds, items]

theorem itemIds_invalidateItems (invalid : Finset String) :
    (state.invalidateItems invalid).map (fun item => item.itemId) = state.itemIds := by
  unfold invalidateItems itemIds
  rw [List.map_map]
  refine List.map_congr_left fun item _ => ?_
  rw [Function.comp_apply]
  by_cases hit : item.itemId ∈ invalid ∧ item.invalidationStatus = .current
  · rw [if_pos hit]
    rfl
  · rw [if_neg hit]

theorem anchored_of_ok (anchored : state.Anchored) {call : StateCall}
    (called : state.apply call = .ok next) : next.Anchored := by
  cases call with
  | withEpistemicItem item =>
    obtain ⟨-, left⟩ := withEpistemicItem_eq_ok called
    refine anchored.of_items ?_ (by rw [left]) (by rw [left])
    intro itemId listed
    rw [itemIds, left, List.map_append]
    exact List.mem_append_left _ listed
  | withEvidence evidence =>
    have left := withEvidence_eq_ok called
    exact anchored.of_same (by rw [left]) (by rw [left]) (by rw [left])
  | withRelation relation =>
    obtain ⟨source, -, left⟩ := withRelation_eq_ok called
    apply anchored.of_grows
    · intro itemId listed
      rwa [itemIds, left]
    · intro viewId dependencies found
      rw [left] at found
      exact Or.inl found
    · intro other member
      rw [left] at member
      rcases List.mem_append.mp member with old | new
      · exact Or.inl old
      · rw [List.mem_singleton.mp new]
        exact Or.inr source
  | withHypothesis hypothesis =>
    have left := withHypothesis_eq_ok called
    exact anchored.of_same (by rw [left]) (by rw [left]) (by rw [left])
  | withActionTransition actionId nextState =>
    rcases withActionTransition_eq_ok called with ⟨-, rfl⟩ | ⟨-, -, left⟩
    · exact anchored
    · exact anchored.of_same (by rw [left]) (by rw [left]) (by rw [left])
  | invalidateFrom itemId reason =>
    obtain ⟨-, left⟩ := invalidateFrom_eq_ok called
    refine anchored.of_items ?_ (by rw [left]) (by rw [left])
    intro other listed
    rwa [itemIds, left, itemIds_invalidateItems]
  | withMaterializedView viewId dependencyItemIds =>
    obtain ⟨known, left⟩ := withMaterializedView_eq_ok called
    apply anchored.of_grows
    · intro itemId listed
      rwa [itemIds, left]
    · intro other dependencies found
      rw [left, Dict.get?_set] at found
      by_cases same : other = viewId
      · rw [if_pos same] at found
        exact Or.inr (Option.some.inj found ▸ known)
      · rw [if_neg same] at found
        exact Or.inl found
    · intro relation member
      rw [left] at member
      exact Or.inl member

/-- A call that returns leaves a sound state exactly when it appends soundly. -/
theorem sound_iff_of_ok (anchored : state.Anchored) (sound : state.InvalidationSound)
    {call : StateCall} (called : state.apply call = .ok next) :
    next.InvalidationSound ↔ state.AppendsSoundly call := by
  cases call with
  | withEpistemicItem item => exact withEpistemicItem_sound_iff anchored sound called
  | withRelation relation => exact withRelation_sound_iff sound called
  | withMaterializedView viewId dependencyItemIds =>
    exact withMaterializedView_sound_iff sound called
  | withEvidence evidence =>
    have left := withEvidence_eq_ok called
    exact iff_of_true
      (sound.of_same (by rw [left]) (by rw [left]) (by rw [left]) (by rw [left])) trivial
  | withHypothesis hypothesis =>
    have left := withHypothesis_eq_ok called
    exact iff_of_true
      (sound.of_same (by rw [left]) (by rw [left]) (by rw [left]) (by rw [left])) trivial
  | withActionTransition actionId nextState =>
    rcases withActionTransition_eq_ok called with ⟨-, rfl⟩ | ⟨-, -, left⟩
    · exact iff_of_true sound trivial
    · exact iff_of_true
        (sound.of_same (by rw [left]) (by rw [left]) (by rw [left]) (by rw [left])) trivial
  | invalidateFrom itemId reason => exact iff_of_true (invalidateFrom_sound sound called) trivial

end CognitiveState

open CognitiveState

theorem stateStep_anchored {state : CognitiveState} (anchored : state.Anchored)
    (call : StateCall) : (stateStep state call).Anchored := by
  unfold stateStep
  cases called : state.apply call with
  | ok next => exact anchored_of_ok anchored called
  | error _ => exact anchored

theorem stateStep_sound_iff {state : CognitiveState} (anchored : state.Anchored)
    (sound : state.InvalidationSound) (call : StateCall) :
    (stateStep state call).InvalidationSound ↔ KeepsInvalidation (state, call) := by
  unfold stateStep KeepsInvalidation
  cases called : state.apply call with
  | ok next =>
    refine (sound_iff_of_ok anchored sound called).trans ⟨fun appends _ _ => appends, ?_⟩
    exact fun appends => appends next rfl
  | error _ => exact iff_of_true sound fun _ same => nomatch same

/-- **Invalidation is sound throughout a run exactly when every append is.** -/
theorem invalidationSound_iff (task : TaskSpec) (calls : List StateCall) :
    (∀ before after, calls = before ++ after →
        (run stateStep (initial task) before).InvalidationSound) ↔
      ∀ entry ∈ trace stateStep (initial task) calls, KeepsInvalidation entry := by
  rw [forall_reached_iff, and_iff_right (initial_sound task)]
  apply trace_law_iff (P := fun state => state.Anchored ∧ state.InvalidationSound)
    ⟨initial_anchored task, initial_sound task⟩
  · rintro state call ⟨anchored, sound⟩ condition
    exact ⟨stateStep_anchored anchored call, (stateStep_sound_iff anchored sound call).mpr condition⟩
  · rintro state call ⟨anchored, sound⟩
    exact stateStep_sound_iff anchored sound call

namespace Sample

/-- A claim is invalidated, and another one that depends on it appended. -/
def lateDependency : List StateCall := [
  .withEpistemicItem (claim "a" a_named []), .invalidateFrom "a" "withdrawn",
  .withEpistemicItem (claim "b" b_named ["a"])]

end Sample

theorem dependency_after_invalidation :
    ¬ (run stateStep (initial Sample.task) Sample.lateDependency).InvalidationSound := by
  intro sound
  have listed : (run stateStep (initial Sample.task) Sample.lateDependency).epistemicItems =
      [(Sample.claim "a" (by decide) []).withInvalidationStatus .invalid,
        Sample.claim "b" (by decide) ["a"]] := by
    rfl
  refine sound.items (Sample.claim "b" (by decide) ["a"]) ?_ rfl
    ((Sample.claim "a" (by decide) []).withInvalidationStatus .invalid) ?_ rfl
    (TransGen.single (Or.inl ⟨Sample.claim "b" (by decide) ["a"], ?_, rfl, List.mem_singleton_self _⟩))
  all_goals rw [listed]; simp

end Dnc.Cognition
