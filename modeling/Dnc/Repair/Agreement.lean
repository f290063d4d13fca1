/-
**Two analyses of what a claim supports.**

`dnc.repair.engine` computes a dependency cut of the claims and views of a cognitive state, and
`CognitiveState.invalidate_from` a closure over its items and relations. They do not follow the same
dependencies: the cut knows views as artifacts, and no relations; it raises on cycles and on
identifiers that are not distinct.

`analysesAgree_iff` says when they mark the same claims and views, from a root that is an item.
-/

import Dnc.Cognition.State
import Dnc.Logic.Run
import Dnc.Repair.Analysis

namespace Dnc.Repair

open PyLib Logic Relation
open Cognition

/-- `cognitive_artifacts`. -/
def cognitiveArtifacts (state : CognitiveState) : Except PyError (List RepairArtifact) := do
  let claims ← state.epistemicItems.mapM fun item =>
    RepairArtifact.ofData { artifactId := item.itemId, kind := .claim, dependsOn := item.dependsOn }
  let views ← state.materializedViews.entries.mapM fun (viewId, dependencies) =>
    RepairArtifact.ofData { artifactId := viewId, kind := .output, dependsOn := dependencies }
  return claims ++ views

/-- `affected_claim_ids` of `execute_localized_repair`. -/
def affectedClaimIds (state : CognitiveState) (cut : DependencyCut) : List String :=
  cut.topologicalOrder.filter fun artifactId => artifactId ∈ state.itemIds

/-- `affected_view_ids` of `execute_localized_repair`. -/
def affectedViewIds (state : CognitiveState) (cut : DependencyCut) : List String :=
  cut.topologicalOrder.filter fun viewId => viewId ∈ state.materializedViews

/-- The cut from the root is computed, and marks the items and views that `invalidate_from` does. -/
def AnalysesAgree (state : CognitiveState) (rootItemId : String) : Prop :=
  ∃ artifacts cut, cognitiveArtifacts state = .ok artifacts ∧
    dependencyCut artifacts [rootItemId] = .ok cut ∧
    (∀ itemId, itemId ∈ affectedClaimIds state cut ↔
      itemId ∈ state.itemIds ∧ itemId ∈ state.invalidClosure rootItemId) ∧
    ∀ viewId, viewId ∈ affectedViewIds state cut ↔
      viewId ∈ state.viewsOver (state.invalidClosure rootItemId)

/-! ### When they agree -/

/-- The dependencies that a cut follows: of an item, and of a view. -/
def CutDependsOn (state : CognitiveState) (first second : String) : Prop :=
  (∃ item ∈ state.epistemicItems, item.itemId = first ∧ second ∈ item.dependsOn) ∨
    ∃ dependencies, state.materializedViews.get? first = some dependencies ∧
      second ∈ dependencies

/-- The identifier depends on the root over a DEPENDS_ON relation. -/
def RelatedTo (state : CognitiveState) (rootItemId first : String) : Prop :=
  ∃ relation ∈ state.relations, relation.relationType = .dependsOn ∧
    ReflTransGen state.DependsOn first relation.sourceId ∧
    ReflTransGen state.DependsOn relation.targetId rootItemId

/-- The claims and views are artifacts that a cut can order. -/
structure Orderable (state : CognitiveState) (rootItemId : String) : Prop where
  items : ∀ item ∈ state.epistemicItems, item.itemId ∉ item.dependsOn
  views : ∀ viewId dependencies, state.materializedViews.get? viewId = some dependencies →
    viewId ≠ "" ∧ viewId ∉ dependencies
  unique : (state.itemIds ++ state.materializedViews.keys).Nodup
  acyclic : ∀ first, ReflTransGen (CutDependsOn state) first rootItemId →
    ¬ TransGen (CutDependsOn state) first first

/-- Every dependency that one analysis follows, and the other does not, is backed by some that both
follow. -/
structure Backed (state : CognitiveState) (rootItemId : String) : Prop where
  itemRelations : ∀ item ∈ state.epistemicItems, RelatedTo state rootItemId item.itemId →
    ReflTransGen (CutDependsOn state) item.itemId rootItemId
  viewRelations : ∀ viewId dependencies,
    state.materializedViews.get? viewId = some dependencies →
    ∀ itemId ∈ dependencies, RelatedTo state rootItemId itemId →
      ReflTransGen (CutDependsOn state) viewId rootItemId
  itemViews : ∀ item ∈ state.epistemicItems, ∀ viewId ∈ item.dependsOn,
    viewId ∈ state.materializedViews → ReflTransGen (CutDependsOn state) viewId rootItemId →
      ReflTransGen state.DependsOn item.itemId rootItemId
  viewViews : ∀ first dependencies, state.materializedViews.get? first = some dependencies →
    ∀ viewId ∈ dependencies, viewId ∈ state.materializedViews →
      ReflTransGen (CutDependsOn state) viewId rootItemId →
      ∃ itemId ∈ dependencies, ReflTransGen state.DependsOn itemId rootItemId

section Artifacts

variable {state : CognitiveState} {artifacts : List RepairArtifact}

theorem ofData_eq_ok {data : RepairArtifactData} {artifact : RepairArtifact} :
    RepairArtifact.ofData data = .ok artifact ↔ artifact.toRepairArtifactData = data := by
  constructor
  · intro made
    obtain ⟨valid, rfl⟩ := construct_eq_ok made
    rfl
  · rintro rfl
    exact construct_of_valid artifact.valid

theorem ofData_total {data : RepairArtifactData} (named : data.artifactId ≠ "")
    (loopFree : data.artifactId ∉ data.dependsOn) :
    ∃ artifact, RepairArtifact.ofData data = .ok artifact := by
  have valid : data.violation = none := by
    rw [RepairArtifactData.violation, if_neg named, if_neg loopFree]
  exact ⟨⟨data, valid⟩, ofData_eq_ok.mpr rfl⟩

/-- An artifact that was built does not depend on itself. -/
theorem RepairArtifact.loopFree (artifact : RepairArtifact) :
    artifact.artifactId ≠ "" ∧ artifact.artifactId ∉ artifact.dependsOn := by
  have valid := artifact.valid
  unfold RepairArtifactData.violation at valid
  by_cases named : artifact.artifactId = ""
  · rw [if_pos named] at valid
    cases valid
  · rw [if_neg named] at valid
    by_cases loops : artifact.artifactId ∈ artifact.dependsOn
    · rw [if_pos loops] at valid
      cases valid
    · exact ⟨named, loops⟩

theorem cognitiveArtifacts_eq_ok (built : cognitiveArtifacts state = .ok artifacts) :
    ∃ claims views, artifacts = claims ++ views ∧
      List.Forall₂ (fun (item : EpistemicItem) (artifact : RepairArtifact) =>
        artifact.toRepairArtifactData =
          { artifactId := item.itemId, kind := .claim, dependsOn := item.dependsOn })
        state.epistemicItems claims ∧
      List.Forall₂ (fun (entry : String × List String) (artifact : RepairArtifact) =>
        artifact.toRepairArtifactData =
          { artifactId := entry.1, kind := .output, dependsOn := entry.2 })
        state.materializedViews.entries views := by
  unfold cognitiveArtifacts at built
  obtain ⟨claims, builtClaims, rest⟩ := bind_eq_ok.mp built
  obtain ⟨views, builtViews, whole⟩ := bind_eq_ok.mp rest
  refine ⟨claims, views, (Except.ok.inj whole).symm, ?_, ?_⟩
  · exact (mapM_eq_ok.mp builtClaims).imp fun _ _ made => ofData_eq_ok.mp made
  · exact (mapM_eq_ok.mp builtViews).imp fun _ _ made => ofData_eq_ok.mp made

/-- **When the artifacts are built.** -/
theorem cognitiveArtifacts_ok_iff :
    (∃ artifacts, cognitiveArtifacts state = .ok artifacts) ↔
      (∀ item ∈ state.epistemicItems, item.itemId ∉ item.dependsOn) ∧
      ∀ viewId dependencies, state.materializedViews.get? viewId = some dependencies →
        viewId ≠ "" ∧ viewId ∉ dependencies := by
  constructor
  · rintro ⟨artifacts, built⟩
    obtain ⟨claims, views, -, fromItems, fromViews⟩ := cognitiveArtifacts_eq_ok built
    refine ⟨fun item member => ?_, fun viewId dependencies found => ?_⟩
    · obtain ⟨artifact, -, same⟩ := forall₂_mem_left fromItems member
      have free := artifact.loopFree.2
      rwa [same] at free
    · obtain ⟨artifact, -, same⟩ := forall₂_mem_left fromViews (Dict.mem_entries.mpr found)
      have free := artifact.loopFree
      rwa [same] at free
  · rintro ⟨items, views⟩
    have named : ∀ item : EpistemicItem, item.itemId ≠ "" := by
      intro item empty
      have valid := item.valid
      rw [EpistemicItemData.violation, if_pos empty] at valid
      cases valid
    have eachClaim : ∀ item ∈ state.epistemicItems, ∃ artifact, RepairArtifact.ofData
        { artifactId := item.itemId, kind := .claim, dependsOn := item.dependsOn } = .ok artifact :=
      fun item member => ofData_total (named item) (items item member)
    have eachView : ∀ entry ∈ state.materializedViews.entries, ∃ artifact, RepairArtifact.ofData
        { artifactId := entry.1, kind := .output, dependsOn := entry.2 } = .ok artifact := by
      intro entry member
      obtain ⟨isNamed, loopFree⟩ := views entry.1 entry.2 (Dict.mem_entries.mp member)
      exact ofData_total isNamed loopFree
    obtain ⟨claims, builtClaims⟩ := mapM_total eachClaim
    obtain ⟨outputs, builtViews⟩ := mapM_total eachView
    exact ⟨claims ++ outputs, bind_eq_ok.mpr ⟨claims, builtClaims,
      bind_eq_ok.mpr ⟨outputs, builtViews, rfl⟩⟩⟩

theorem cognitiveArtifacts_ids (built : cognitiveArtifacts state = .ok artifacts) :
    (artifacts.map fun artifact => artifact.artifactId) =
      state.itemIds ++ state.materializedViews.keys := by
  obtain ⟨claims, views, rfl, fromItems, fromViews⟩ := cognitiveArtifacts_eq_ok built
  rw [List.map_append, CognitiveState.itemIds, Dict.keys]
  congr 1 <;> symm
  · rw [← List.forall₂_eq_eq_eq, List.forall₂_map_left_iff, List.forall₂_map_right_iff]
    exact fromItems.imp fun _ _ same => by rw [same]
  · rw [← List.forall₂_eq_eq_eq, List.forall₂_map_left_iff, List.forall₂_map_right_iff]
    exact fromViews.imp fun _ _ same => by rw [same]

/-- The artifacts carry the dependencies of the items and views. -/
theorem cognitiveArtifacts_dependsOn (built : cognitiveArtifacts state = .ok artifacts) :
    DependsOn artifacts = CutDependsOn state := by
  obtain ⟨claims, views, rfl, fromItems, fromViews⟩ := cognitiveArtifacts_eq_ok built
  funext first second
  refine propext ⟨?_, ?_⟩
  · rintro ⟨artifact, member, rfl, depends⟩
    rcases List.mem_append.mp member with isClaim | isView
    · obtain ⟨item, listed, same⟩ := forall₂_mem_right fromItems isClaim
      rw [same] at depends ⊢
      exact Or.inl ⟨item, listed, rfl, depends⟩
    · obtain ⟨entry, listed, same⟩ := forall₂_mem_right fromViews isView
      rw [same] at depends ⊢
      exact Or.inr ⟨entry.2, Dict.mem_entries.mp listed, depends⟩
  · rintro (⟨item, listed, rfl, depends⟩ | ⟨dependencies, found, depends⟩)
    · obtain ⟨artifact, member, same⟩ := forall₂_mem_left fromItems listed
      exact ⟨artifact, List.mem_append_left _ member, by rw [same], by rw [same]; exact depends⟩
    · obtain ⟨artifact, member, same⟩ := forall₂_mem_left fromViews (Dict.mem_entries.mpr found)
      exact ⟨artifact, List.mem_append_right _ member, by rw [same], by rw [same]; exact depends⟩

end Artifacts

section Agreement

variable {state : CognitiveState} {rootItemId : String}

section Cut

variable {artifacts : List RepairArtifact} {cut : DependencyCut}
  (built : cognitiveArtifacts state = .ok artifacts)
  (computed : dependencyCut artifacts [rootItemId] = .ok cut)

include built computed

/-- What the cut marks, where there is one. -/
theorem mem_cut {artifactId : String} : artifactId ∈ cut.topologicalOrder ↔
    ReflTransGen (CutDependsOn state) artifactId rootItemId := by
  rw [mem_topologicalOrder computed, mem_affectedBy, cognitiveArtifacts_dependsOn built]
  simp only [List.mem_singleton, exists_eq_left]

theorem mem_affectedClaimIds {itemId : String} : itemId ∈ affectedClaimIds state cut ↔
    itemId ∈ state.itemIds ∧ ReflTransGen (CutDependsOn state) itemId rootItemId := by
  rw [affectedClaimIds, List.mem_filter, mem_cut built computed, decide_eq_true_eq, and_comm]

theorem mem_affectedViewIds {viewId : String} : viewId ∈ affectedViewIds state cut ↔
    viewId ∈ state.materializedViews ∧ ReflTransGen (CutDependsOn state) viewId rootItemId := by
  rw [affectedViewIds, List.mem_filter, mem_cut built computed, decide_eq_true_eq, and_comm]

end Cut

/-- When there is a cut. -/
theorem cut_ok_iff (known : rootItemId ∈ state.itemIds) :
    (∃ artifacts cut, cognitiveArtifacts state = .ok artifacts ∧
      dependencyCut artifacts [rootItemId] = .ok cut) ↔ Orderable state rootItemId := by
  constructor
  · rintro ⟨artifacts, cut, built, computed⟩
    obtain ⟨items, views⟩ := cognitiveArtifacts_ok_iff.mp ⟨artifacts, built⟩
    obtain ⟨unique, -, acyclic⟩ := dependencyCut_ok_iff.mp ⟨cut, computed⟩
    rw [cognitiveArtifacts_ids built] at unique
    refine ⟨items, views, unique, fun first path => ?_⟩
    rw [← cognitiveArtifacts_dependsOn built] at path ⊢
    exact acyclic first (mem_affectedBy.mpr ⟨rootItemId, List.mem_singleton_self _, path⟩)
  · intro orderable
    obtain ⟨artifacts, built⟩ := cognitiveArtifacts_ok_iff.mpr ⟨orderable.items, orderable.views⟩
    have ids := cognitiveArtifacts_ids built
    have computes : ∃ cut, dependencyCut artifacts [rootItemId] = .ok cut := by
      refine dependencyCut_ok_iff.mpr ⟨?_, fun rootId isRoot => ?_, fun artifactId isAffected => ?_⟩
      · rw [ids]
        exact orderable.unique
      · rw [ids, List.mem_singleton.mp isRoot]
        exact List.mem_append_left _ known
      · obtain ⟨rootId, isRoot, path⟩ := mem_affectedBy.mp isAffected
        rw [List.mem_singleton.mp isRoot] at path
        rw [cognitiveArtifacts_dependsOn built] at path ⊢
        exact orderable.acyclic artifactId path
    obtain ⟨cut, computed⟩ := computes
    exact ⟨artifacts, cut, built, computed⟩

/-- What depends on the root does so over a relation or over dependencies that a cut follows. -/
theorem related_or_cut {first : String} (path : ReflTransGen state.DependsOn first rootItemId) :
    RelatedTo state rootItemId first ∨ ReflTransGen (CutDependsOn state) first rootItemId := by
  induction path using ReflTransGen.head_induction_on with
  | refl => exact Or.inr ReflTransGen.refl
  | head edge rest ih =>
    rcases edge with ⟨item, member, rfl, depends⟩ | ⟨relation, member, isDependency, rfl, rfl⟩
    · rcases ih with ⟨relation, listed, isDependency, toSource, fromTarget⟩ | cutPath
      · exact Or.inl ⟨relation, listed, isDependency,
          toSource.head (Or.inl ⟨item, member, rfl, depends⟩), fromTarget⟩
      · exact Or.inr (cutPath.head (Or.inl ⟨item, member, rfl, depends⟩))
    · exact Or.inl ⟨relation, member, isDependency, ReflTransGen.refl, rest⟩

theorem RelatedTo.depends {first : String} (related : RelatedTo state rootItemId first) :
    ReflTransGen state.DependsOn first rootItemId := by
  obtain ⟨relation, member, isDependency, toSource, fromTarget⟩ := related
  exact toSource.trans (fromTarget.head (Or.inr ⟨relation, member, isDependency, rfl, rfl⟩))

/-- What the cut marks, the closure does: by induction on the path to the root. -/
theorem Backed.depends (backed : Backed state rootItemId)
    (unique : (state.itemIds ++ state.materializedViews.keys).Nodup)
    (known : rootItemId ∈ state.itemIds) {first : String}
    (path : ReflTransGen (CutDependsOn state) first rootItemId) :
    (first ∈ state.itemIds → ReflTransGen state.DependsOn first rootItemId) ∧
      ∀ dependencies, state.materializedViews.get? first = some dependencies →
        ∃ itemId ∈ dependencies, ReflTransGen state.DependsOn itemId rootItemId := by
  have apart : ∀ itemId ∈ state.itemIds, itemId ∉ state.materializedViews :=
    fun itemId isItem isView => (List.nodup_append'.mp unique).2.2 isItem isView
  induction path using ReflTransGen.head_induction_on with
  | refl =>
    refine ⟨fun _ => ReflTransGen.refl, fun dependencies found => ?_⟩
    exact absurd (Dict.mem_of_get? found) (apart rootItemId known)
  | @head first second edge rest ih =>
    -- what is depended on is an item or a view
    have isKnown : second ∉ state.materializedViews → second ∈ state.itemIds := by
      intro notView
      rcases rest.cases_head with rfl | ⟨_, ⟨item, member, rfl, -⟩ | ⟨dependencies, found, -⟩, -⟩
      · exact known
      · exact List.mem_map_of_mem member
      · exact absurd (Dict.mem_of_get? found) notView
    rcases edge with ⟨item, member, rfl, depends⟩ | ⟨dependencies, found, depends⟩
    · have isItem : item.itemId ∈ state.itemIds := List.mem_map_of_mem member
      refine ⟨fun _ => ?_, fun dependencies found => ?_⟩
      · by_cases isView : second ∈ state.materializedViews
        · exact backed.itemViews item member second depends isView rest
        · exact (ih.1 (isKnown isView)).head (Or.inl ⟨item, member, rfl, depends⟩)
      · exact absurd (Dict.mem_of_get? found) (apart item.itemId isItem)
    · refine ⟨fun isItem => absurd (Dict.mem_of_get? found) (apart first isItem),
        fun other same => ?_⟩
      obtain rfl : dependencies = other := Option.some.inj (found.symm.trans same)
      by_cases isView : second ∈ state.materializedViews
      · exact backed.viewViews first dependencies found second depends isView rest
      · exact ⟨second, depends, ih.1 (isKnown isView)⟩

/-- **The analyses agree exactly where a cut can be ordered and both follow enough.** -/
theorem analysesAgree_iff (state : CognitiveState) (rootItemId : String)
    (known : rootItemId ∈ state.itemIds) :
    AnalysesAgree state rootItemId ↔ Orderable state rootItemId ∧ Backed state rootItemId := by
  constructor
  · rintro ⟨artifacts, cut, built, computed, claims, views⟩
    refine ⟨(cut_ok_iff known).mp ⟨artifacts, cut, built, computed⟩, ?_⟩
    have sameItem : ∀ item ∈ state.epistemicItems,
        (ReflTransGen (CutDependsOn state) item.itemId rootItemId ↔
          ReflTransGen state.DependsOn item.itemId rootItemId) := by
      intro item member
      have isItem : item.itemId ∈ state.itemIds := List.mem_map_of_mem member
      have same := claims item.itemId
      rw [mem_affectedClaimIds built computed, CognitiveState.mem_invalidClosure] at same
      exact and_congr_right_iff.mp same isItem
    have sameView : ∀ viewId dependencies,
        state.materializedViews.get? viewId = some dependencies →
        (ReflTransGen (CutDependsOn state) viewId rootItemId ↔
          ∃ itemId ∈ dependencies, ReflTransGen state.DependsOn itemId rootItemId) := by
      intro viewId dependencies found
      have same := views viewId
      rw [mem_affectedViewIds built computed, CognitiveState.mem_viewsOver,
        and_iff_right (Dict.mem_of_get? found)] at same
      simpa only [found, Option.some.injEq, exists_eq_left', CognitiveState.mem_invalidClosure]
        using same
    constructor
    · intro item member related
      exact (sameItem item member).mpr related.depends
    · intro viewId dependencies found itemId depends related
      exact (sameView viewId dependencies found).mpr ⟨itemId, depends, related.depends⟩
    · intro item member viewId depends isView path
      exact (sameItem item member).mp (path.head (Or.inl ⟨item, member, rfl, depends⟩))
    · intro first dependencies found viewId depends isView path
      exact (sameView first dependencies found).mp
        (path.head (Or.inr ⟨dependencies, found, depends⟩))
  · rintro ⟨orderable, backed⟩
    obtain ⟨artifacts, cut, built, computed⟩ := (cut_ok_iff known).mpr orderable
    refine ⟨artifacts, cut, built, computed, fun itemId => ?_, fun viewId => ?_⟩
    · rw [mem_affectedClaimIds built computed, CognitiveState.mem_invalidClosure]
      refine and_congr_right fun isItem => ⟨fun path => ?_, fun path => ?_⟩
      · exact (backed.depends orderable.unique known path).1 isItem
      · rcases related_or_cut path with related | cutPath
        · obtain ⟨item, member, rfl⟩ := List.mem_map.mp isItem
          exact backed.itemRelations item member related
        · exact cutPath
    · rw [mem_affectedViewIds built computed, CognitiveState.mem_viewsOver]
      constructor
      · rintro ⟨isView, path⟩
        obtain ⟨dependencies, found⟩ := Dict.mem_iff_get?.mp isView
        obtain ⟨itemId, depends, onward⟩ :=
          (backed.depends orderable.unique known path).2 dependencies found
        exact ⟨dependencies, found, itemId, depends,
          CognitiveState.mem_invalidClosure.mpr onward⟩
      · rintro ⟨dependencies, found, itemId, depends, marked⟩
        refine ⟨Dict.mem_of_get? found, ?_⟩
        rcases related_or_cut (CognitiveState.mem_invalidClosure.mp marked) with related | cutPath
        · exact backed.viewRelations viewId dependencies found itemId depends related
        · exact cutPath.head (Or.inr ⟨dependencies, found, depends⟩)

end Agreement

namespace Sample

/-- b depends on a. -/
def relation : EpistemicRelation :=
  ⟨{ relationId := "r", relationType := .dependsOn, sourceId := "b", targetId := "a" }, by decide⟩

/-- The claim b depends on the claim a over a relation only. -/
def related : CognitiveState := run stateStep (.initial Cognition.Sample.task) [
  .withEpistemicItem (Cognition.Sample.claim "a" Cognition.Sample.a_named []),
  .withEpistemicItem (Cognition.Sample.claim "b" Cognition.Sample.b_named []),
  .withRelation relation]

/-- The claim b depends on the claim a by its own field. -/
def dependent : CognitiveState := run stateStep (.initial Cognition.Sample.task) [
  .withEpistemicItem (Cognition.Sample.claim "a" Cognition.Sample.a_named []),
  .withEpistemicItem (Cognition.Sample.claim "b" Cognition.Sample.b_named ["a"])]

/-- The only dependency of `dependent`. -/
theorem dependent_cut {first second : String} (edge : CutDependsOn dependent first second) :
    first = "b" ∧ second = "a" := by
  have items : dependent.epistemicItems = [Cognition.Sample.claim "a" (by decide) [],
      Cognition.Sample.claim "b" (by decide) ["a"]] := by rfl
  rcases edge with ⟨item, member, rfl, depends⟩ | ⟨dependencies, found, -⟩
  · rw [items, List.mem_cons, List.mem_singleton] at member
    rcases member with rfl | rfl
    · exact absurd depends List.not_mem_nil
    · exact ⟨rfl, List.mem_singleton.mp depends⟩
  · exact nomatch (show (none : Option (List String)) = some dependencies from found)

end Sample

theorem relation_missed :
    (Sample.related.itemIds ++ Sample.related.materializedViews.keys).Nodup ∧
      "a" ∈ Sample.related.itemIds ∧ ¬ AnalysesAgree Sample.related "a" := by
  have items : Sample.related.epistemicItems = [Cognition.Sample.claim "a" (by decide) [],
      Cognition.Sample.claim "b" (by decide) []] := by rfl
  refine ⟨by decide, by decide, ?_⟩
  rintro ⟨artifacts, cut, built, computed, claims, -⟩
  have marked : "b" ∈ Sample.related.invalidClosure "a" := by decide +kernel
  have isClaim := (claims "b").mpr ⟨by decide, marked⟩
  obtain ⟨-, path⟩ := (mem_affectedClaimIds built computed).mp isClaim
  rcases path.cases_head with same | ⟨_, ⟨item, member, -, depends⟩ | ⟨dependencies, found, -⟩, -⟩
  · exact absurd same (by decide)
  · rw [items, List.mem_cons, List.mem_singleton] at member
    rcases member with rfl | rfl <;> exact absurd depends List.not_mem_nil
  · exact nomatch (show (none : Option (List String)) = some dependencies from found)

theorem analysesAgree_dependent : AnalysesAgree Sample.dependent "a" := by
  refine (analysesAgree_iff Sample.dependent "a" (by decide)).mpr ⟨?_, ?_⟩
  · constructor
    · intro item member loops
      have edge := Sample.dependent_cut (Or.inl ⟨item, member, rfl, loops⟩)
      exact absurd (edge.1.symm.trans edge.2) (by decide)
    · exact fun viewId dependencies found => nomatch
        (show (none : Option (List String)) = some dependencies from found)
    · decide
    · intro first _ cycle
      obtain ⟨_, edge, -⟩ := TransGen.head'_iff.mp cycle
      obtain ⟨_, -, last⟩ := TransGen.tail'_iff.mp cycle
      exact absurd ((Sample.dependent_cut edge).1.symm.trans (Sample.dependent_cut last).2)
        (by decide)
  · constructor
    · exact fun _ _ ⟨_, member, _⟩ => absurd member List.not_mem_nil
    · exact fun _ _ _ _ _ ⟨_, member, _⟩ => absurd member List.not_mem_nil
    · exact fun _ _ _ _ isView => absurd isView List.not_mem_nil
    · exact fun _ _ _ _ _ isView => absurd isView List.not_mem_nil

end Dnc.Repair
