/-
**Localized repair.**

`dnc.repair.engine.execute_localized_repair` recomputes the claims of a dependency cut in order,
marks them CURRENT and files their old revisions. It checks that the views of the cut rest on
CURRENT claims, but not that the recomputed claims do: an invalid claim that is not in the cut may
support one that the repair declares CURRENT.

`repairsSoundly_iff`: a repair that reports success has the effect it is for, exactly when no
recomputed claim depends on a claim outside the cut that is not CURRENT. `repairState_eq_ok` is what
a repair that goes through leaves of the cognitive state.
-/

import Dnc.Repair.Agreement

namespace Dnc.Repair

open PyLib Logic Relation
open Cognition

inductive RepairAction where
  | localRepair | rollback | recompute | ask | abstain
deriving DecidableEq, Repr

structure RepairOutcome where
  success : Bool
  action : RepairAction
  affectedIds : List String
  reverifiedIds : List String
  preservedIds : List String
  snapshotId : String
  reasonCodes : List String
  avoidedRecomputation : Int := 0
deriving DecidableEq

/-- The callbacks of a repair. A callback may keep a state, so what it answers may depend on the
number of items before. -/
structure Callbacks where
  recompute : Nat → EpistemicItem → Except PyError EpistemicItem
  verify : Nat → EpistemicItem → Except PyError Bool

section Repair

variable (callbacks : Callbacks) (original : CognitiveState) (rootItemId : String)
  (cut : DependencyCut)

/-- The cut of a repair. -/
def repairCut : Except PyError DependencyCut := do
  dependencyCut (← cognitiveArtifacts original) [rootItemId]

/-- `original_by_id`. -/
def originalById : Dict String EpistemicItem :=
  .ofItems (original.epistemicItems.map fun item => (item.itemId, item))

/-- `original_by_id[item_id]`. -/
def itemById (itemId : String) : Except PyError EpistemicItem :=
  match (originalById original).get? itemId with
  | none => .error (.keyError itemId)
  | some item => .ok item

/-- The checks of a recomputed item. -/
def reverify (index : Nat) (itemId : String) (repaired : EpistemicItem) :
    Except PyError EpistemicItem :=
  if repaired.itemId ≠ itemId ∨ repaired.tenantId ≠ original.task.tenantId then
    .error (.valueError "recomputed item identity or tenant changed")
  else
    let repaired := repaired.withInvalidationStatus .current
    match callbacks.verify index repaired with
    | .error error => .error error
    | .ok false => .error (.valueError s!"reverification failed: {itemId}")
    | .ok true => .ok repaired

/-- One round of the loop over the affected claims. -/
def recomputeItem (index : Nat) (itemId : String) : Except PyError EpistemicItem := do
  reverify callbacks original index itemId
    (← callbacks.recompute index (← itemById original itemId))

/-- `repaired_by_id`, in the order of the loop. -/
def recomputeItems : Except PyError (List (String × EpistemicItem)) :=
  (affectedClaimIds original cut).zipIdx.mapM fun (itemId, index) => do
    return (itemId, ← recomputeItem callbacks original index itemId)

/-- `repaired_items`. -/
def repairedItems (recomputed : List (String × EpistemicItem)) : List EpistemicItem :=
  original.epistemicItems.map fun item => ((Dict.ofItems recomputed).get? item.itemId).getD item

/-- `repaired_item_ids`. -/
def currentIds (items : List EpistemicItem) : Finset String :=
  ((items.filter fun item => item.invalidationStatus = .current).map fun item =>
    item.itemId).toFinset

/-- The check of one affected view. -/
def checkView (current : Finset String) (viewId : String) : Except PyError Unit :=
  match original.materializedViews.get? viewId with
  | none => .error (.keyError viewId)
  | some dependencies =>
    if dependencies.toFinset ⊆ current then .ok ()
    else .error (.valueError s!"repair closure incomplete: {viewId}")

/-- `invalidated_revisions`. -/
def invalidatedRevisions : Except PyError (List EpistemicItem) :=
  (affectedClaimIds original cut).mapM fun itemId => do
    return (← itemById original itemId).withInvalidationStatus .invalid

def repairEvent : PyDict :=
  ⟨[("event", .str "localized_repair"), ("root", .str rootItemId),
    ("affected", .textTuple cut.affectedIds)], by
      rw [PyData.wellFormed_dict]
      refine ⟨(show ["event", "root", "affected"].Nodup by decide), ?_⟩
      simp [PyData.wellFormed]⟩

/-- The fields of the state after a repair. -/
def repairedData (recomputed : List (String × EpistemicItem)) (revisions : List EpistemicItem) :
    CognitiveStateData :=
  { original.toCognitiveStateData with
    epistemicItems := repairedItems original recomputed
    epistemicHistory := original.epistemicHistory ++ revisions
    invalidatedViews := original.invalidatedViews.filter fun viewId => viewId ∉ cut.affectedIds
    eventLog := original.eventLog ++ [repairEvent rootItemId cut] }

/-- What `execute_localized_repair` tries. -/
def repairState : Except PyError CognitiveState := do
  let recomputed ← recomputeItems callbacks original cut
  (affectedViewIds original cut).forM
    (checkView original (currentIds (repairedItems original recomputed)))
  let revisions ← invalidatedRevisions original cut
  CognitiveState.ofData (repairedData original rootItemId cut recomputed revisions)

end Repair

/-! ### The engine -/

/-- The system that is repaired: its cognitive state, and the rest. -/
structure RepairSystem (Rest : Type) where
  cognitiveState : Option CognitiveState
  rest : Rest

/-- What the engine calls of the system around its cognitive state: the cycle of `snapshot()`,
`capture_execution_snapshot` and `restore_execution_snapshot`. -/
structure SnapshotCalls (Rest Snapshot : Type) where
  cycle : RepairSystem Rest → Int
  capture : RepairSystem Rest → String → Except PyError Snapshot
  restore : RepairSystem Rest → Snapshot → Except PyError Unit × RepairSystem Rest

section Engine

variable {Rest Snapshot : Type} (calls : SnapshotCalls Rest Snapshot) (callbacks : Callbacks)
  (system : RepairSystem Rest) (rootItemId : String)

def repairSnapshotId : String := s!"repair:{rootItemId}:{calls.cycle system}"

/-- `execute_localized_repair`: what it returns or raises, and the system after it. -/
def executeLocalizedRepair : Except PyError RepairOutcome × RepairSystem Rest :=
  match system.cognitiveState with
  | none => (.error (.valueError "localized repair requires cognitive state"), system)
  | some original =>
    match repairCut original rootItemId with
    | .error error => (.error error, system)
    | .ok cut =>
      let snapshotId := repairSnapshotId calls system rootItemId
      match calls.capture system snapshotId with
      | .error error => (.error error, system)
      | .ok snapshot =>
        match repairState callbacks original rootItemId cut with
        | .ok repaired =>
          (.ok {
            success := true
            action := .localRepair
            affectedIds := cut.affectedIds
            reverifiedIds := affectedClaimIds original cut ++ affectedViewIds original cut
            preservedIds := cut.unaffectedIds
            snapshotId := snapshotId
            reasonCodes := ["REPAIR_CLOSURE_VERIFIED"]
            avoidedRecomputation := cut.unaffectedIds.length },
          { system with cognitiveState := some repaired })
        | .error raised =>
          match calls.restore system snapshot with
          | (.error error, restored) => (.error error, restored)
          | (.ok (), restored) =>
            (.ok {
              success := false
              action := .rollback
              affectedIds := cut.affectedIds
              reverifiedIds := []
              preservedIds := cut.unaffectedIds
              snapshotId := snapshotId
              reasonCodes := [raised.typeName, raised.message] },
            restored)

/-! ### What a repair is for -/

/-- **The effect of a repair**: the claims of the cut are CURRENT and rest on CURRENT claims, its
views are valid again, nothing else is touched, and the old revision of each of its claims is filed
once. -/
structure Repaired (before after : CognitiveState) (affectedIds : List String) : Prop where
  current : ∀ item ∈ after.epistemicItems, item.itemId ∈ affectedIds →
    item.invalidationStatus = .current
  inputs : ∀ item ∈ after.epistemicItems, item.itemId ∈ affectedIds →
    ∀ input ∈ after.epistemicItems, input.itemId ∈ item.dependsOn →
      input.invalidationStatus = .current
  views : ∀ viewId ∈ after.invalidatedViews, viewId ∉ affectedIds
  outside : List.Forall₂ (fun old new : EpistemicItem =>
    new.itemId = old.itemId ∧ (old.itemId ∉ affectedIds → new = old))
    before.epistemicItems after.epistemicItems
  history : ∃ revisions, after.epistemicHistory = before.epistemicHistory ++ revisions ∧
    revisions.Perm ((before.epistemicItems.filter fun item => item.itemId ∈ affectedIds).map
      fun item => item.withInvalidationStatus .invalid)

/-- A repair that reports success has its effect. -/
def RepairsSoundly : Prop :=
  ∀ outcome, (executeLocalizedRepair calls callbacks system rootItemId).1 = .ok outcome →
    outcome.success = true →
    ∃ before after, system.cognitiveState = some before ∧
      (executeLocalizedRepair calls callbacks system rootItemId).2.cognitiveState = some after ∧
      Repaired before after outcome.affectedIds

/-- The views of the cut rest on claims of the cut and on CURRENT ones. -/
def ViewsRest (original : CognitiveState) (cut : DependencyCut) : Prop :=
  ∀ viewId ∈ cut.affectedIds, ∀ dependencies,
    original.materializedViews.get? viewId = some dependencies → ∀ itemId ∈ dependencies,
      itemId ∈ affectedClaimIds original cut ∨
        ∃ item ∈ original.epistemicItems, item.itemId = itemId ∧
          item.invalidationStatus = .current

/-- Nothing stops the repair: there is a cut and a snapshot, the callbacks give every claim of the
cut, and its views rest on these and on CURRENT claims. -/
structure Completes (original : CognitiveState) (cut : DependencyCut)
    (recomputed : List (String × EpistemicItem)) : Prop where
  active : system.cognitiveState = some original
  isCut : repairCut original rootItemId = .ok cut
  captured : ∃ snapshot,
    calls.capture system (repairSnapshotId calls system rootItemId) = .ok snapshot
  answered : recomputeItems callbacks original cut = .ok recomputed
  views : ViewsRest original cut

/-- Where nothing stops the repair, no recomputed claim depends on a claim outside the cut that is
not CURRENT. -/
def InputsCurrent : Prop :=
  ∀ original cut recomputed,
    Completes calls callbacks system rootItemId original cut recomputed →
    ∀ entry ∈ recomputed, ∀ input ∈ original.epistemicItems, input.itemId ∈ entry.2.dependsOn →
      input.itemId ∉ cut.affectedIds → input.invalidationStatus = .current

end Engine

/-! ### What a repair leaves -/

section Leaves

variable {callbacks : Callbacks} {original : CognitiveState} {rootItemId : String}
  {cut : DependencyCut} {recomputed : List (String × EpistemicItem)}

theorem itemById_eq_ok (unique : original.itemIds.Nodup) {itemId : String} {item : EpistemicItem} :
    itemById original itemId = .ok item ↔ item ∈ original.epistemicItems ∧ item.itemId = itemId := by
  have distinct : ((original.epistemicItems.map fun item => (item.itemId, item)).map Prod.fst).Nodup := by
    rw [List.map_map]
    exact unique
  have found : (originalById original).get? itemId = some item ↔
      item ∈ original.epistemicItems ∧ item.itemId = itemId := by
    rw [← Dict.mem_entries, originalById, Dict.entries_ofItems distinct, List.mem_map]
    constructor
    · rintro ⟨listed, member, same⟩
      cases same
      exact ⟨member, rfl⟩
    · rintro ⟨member, rfl⟩
      exact ⟨item, member, rfl⟩
  rw [← found]
  unfold itemById
  cases (originalById original).get? itemId <;> simp

/-- The items of a cut: each identifier belongs to one item or view, and the cut names it once. -/
theorem repairCut_unique (computed : repairCut original rootItemId = .ok cut) :
    original.itemIds.Nodup ∧ (affectedClaimIds original cut).Nodup ∧
      cut.topologicalOrder = cut.affectedIds := by
  obtain ⟨artifacts, built, computed⟩ := bind_eq_ok.mp computed
  obtain ⟨unique, -, -⟩ := dependencyCut_ok_iff.mp ⟨cut, computed⟩
  rw [cognitiveArtifacts_ids built] at unique
  obtain ⟨distinct, same⟩ := nodup_affectedIds computed
  refine ⟨(List.nodup_append'.mp unique).1, ?_, same⟩
  rw [affectedClaimIds, same]
  exact distinct.filter _

theorem mem_affectedClaims (computed : repairCut original rootItemId = .ok cut) {itemId : String} :
    itemId ∈ affectedClaimIds original cut ↔ itemId ∈ cut.affectedIds ∧ itemId ∈ original.itemIds := by
  rw [affectedClaimIds, (repairCut_unique computed).2.2, List.mem_filter, decide_eq_true_eq]

theorem reverify_eq_ok {index : Nat} {itemId : String} {answer item : EpistemicItem}
    (checked : reverify callbacks original index itemId answer = .ok item) :
    item.itemId = itemId ∧ item.tenantId = original.task.tenantId ∧
      item.invalidationStatus = .current := by
  unfold reverify at checked
  split_ifs at checked with changed
  rw [not_or, not_not, not_not] at changed
  dsimp only at checked
  split at checked
  · cases checked
  · cases checked
  · obtain rfl := Except.ok.inj checked
    exact ⟨changed.1, changed.2, rfl⟩

/-- What the callbacks give for the claims of the cut. -/
theorem recomputeItems_eq_ok (ran : recomputeItems callbacks original cut = .ok recomputed) :
    recomputed.map Prod.fst = affectedClaimIds original cut ∧
      ∀ entry ∈ recomputed, entry.2.itemId = entry.1 ∧
        entry.2.tenantId = original.task.tenantId ∧ entry.2.invalidationStatus = .current := by
  have rounds := mapM_eq_ok.mp ran
  have each : List.Forall₂ (fun (indexed : String × Nat) (entry : String × EpistemicItem) =>
      indexed.1 = entry.1 ∧ entry.2.itemId = entry.1 ∧
        entry.2.tenantId = original.task.tenantId ∧ entry.2.invalidationStatus = .current)
      (affectedClaimIds original cut).zipIdx recomputed := by
    refine rounds.imp ?_
    rintro ⟨itemId, index⟩ entry round
    obtain ⟨item, repairs, same⟩ := bind_eq_ok.mp round
    obtain rfl := Except.ok.inj same
    have rounded : recomputeItem callbacks original index itemId = .ok item := repairs
    obtain ⟨_, -, asked⟩ := bind_eq_ok.mp rounded
    obtain ⟨_, -, checked⟩ := bind_eq_ok.mp asked
    exact ⟨rfl, reverify_eq_ok checked⟩
  constructor
  · have names : (affectedClaimIds original cut).zipIdx.map Prod.fst = recomputed.map Prod.fst := by
      rw [← List.forall₂_eq_eq_eq, List.forall₂_map_left_iff, List.forall₂_map_right_iff]
      exact each.imp fun _ _ facts => facts.1
    rw [← names, List.zipIdx_map_fst]
  · intro entry member
    obtain ⟨_, -, -, facts⟩ := forall₂_mem_right each member
    exact facts

/-- A repaired item is a recomputed one, or it was there before. -/
theorem repairedItems_each (computed : repairCut original rootItemId = .ok cut)
    (ran : recomputeItems callbacks original cut = .ok recomputed) :
    List.Forall₂ (fun old new : EpistemicItem =>
        (old.itemId ∈ cut.affectedIds ∧ (old.itemId, new) ∈ recomputed) ∨
          (old.itemId ∉ cut.affectedIds ∧ new = old))
      original.epistemicItems (repairedItems original recomputed) := by
  obtain ⟨names, -⟩ := recomputeItems_eq_ok ran
  have distinct : (recomputed.map Prod.fst).Nodup := by
    rw [names]
    exact (repairCut_unique computed).2.1
  rw [repairedItems, List.forall₂_map_right_iff]
  refine List.forall₂_same.mpr fun item member => ?_
  have isItem : item.itemId ∈ original.itemIds := List.mem_map_of_mem member
  cases found : (Dict.ofItems recomputed).get? item.itemId with
  | some new =>
    have listed := Dict.mem_entries.mpr found
    rw [Dict.entries_ofItems distinct] at listed
    have affected : item.itemId ∈ affectedClaimIds original cut := by
      rw [← names]
      exact List.mem_map_of_mem listed
    exact Or.inl ⟨((mem_affectedClaims computed).mp affected).1, listed⟩
  | none =>
    refine Or.inr ⟨fun affected => ?_, rfl⟩
    have isClaim := (mem_affectedClaims computed).mpr ⟨affected, isItem⟩
    rw [← names] at isClaim
    obtain ⟨entry, listed, same⟩ := List.mem_map.mp isClaim
    rw [← Dict.entries_ofItems distinct] at listed
    have stored := Dict.mem_entries.mp listed
    rw [same, found] at stored
    cases stored

/-- The CURRENT claims after the loop. -/
theorem mem_currentIds (computed : repairCut original rootItemId = .ok cut)
    (ran : recomputeItems callbacks original cut = .ok recomputed) {itemId : String} :
    itemId ∈ currentIds (repairedItems original recomputed) ↔
      itemId ∈ affectedClaimIds original cut ∨
        ∃ item ∈ original.epistemicItems, item.itemId = itemId ∧
          item.invalidationStatus = .current := by
  have each := repairedItems_each computed ran
  obtain ⟨-, facts⟩ := recomputeItems_eq_ok ran
  rw [currentIds, List.mem_toFinset, List.mem_map]
  constructor
  · rintro ⟨new, kept, rfl⟩
    obtain ⟨listed, isCurrent⟩ := List.mem_filter.mp kept
    obtain ⟨old, member, ⟨affected, recomputes⟩ | ⟨-, rfl⟩⟩ := forall₂_mem_right each listed
    · left
      have named : new.itemId = old.itemId := (facts _ recomputes).1
      rw [named]
      exact (mem_affectedClaims computed).mpr ⟨affected, List.mem_map_of_mem member⟩
    · exact Or.inr ⟨new, member, rfl, of_decide_eq_true isCurrent⟩
  · intro known
    have isItem : ∃ old ∈ original.epistemicItems, old.itemId = itemId ∧
        (itemId ∈ cut.affectedIds ∨ old.invalidationStatus = .current) := by
      rcases known with isClaim | ⟨old, member, named, isCurrent⟩
      · obtain ⟨affected, isItem⟩ := (mem_affectedClaims computed).mp isClaim
        obtain ⟨old, member, named⟩ := List.mem_map.mp isItem
        exact ⟨old, member, named, Or.inl affected⟩
      · exact ⟨old, member, named, Or.inr isCurrent⟩
    obtain ⟨old, member, rfl, reason⟩ := isItem
    obtain ⟨new, listed, ⟨-, recomputes⟩ | ⟨outside, rfl⟩⟩ := forall₂_mem_left each member
    · obtain ⟨named, -, isCurrent⟩ := facts _ recomputes
      exact ⟨new, List.mem_filter.mpr ⟨listed, decide_eq_true isCurrent⟩, named⟩
    · have isCurrent := reason.resolve_left outside
      exact ⟨new, List.mem_filter.mpr ⟨listed, decide_eq_true isCurrent⟩, rfl⟩

/-- The old revisions that are filed: one for each claim of the cut. -/
theorem invalidatedRevisions_perm (computed : repairCut original rootItemId = .ok cut) :
    ∃ revisions, invalidatedRevisions original cut = .ok revisions ∧
      revisions.Perm ((original.epistemicItems.filter fun item => item.itemId ∈ cut.affectedIds).map
        fun item => item.withInvalidationStatus .invalid) := by
  obtain ⟨unique, distinct, -⟩ := repairCut_unique computed
  have each : ∀ itemId ∈ affectedClaimIds original cut, ∃ revision,
      (do return (← itemById original itemId).withInvalidationStatus .invalid :
        Except PyError EpistemicItem) = .ok revision := by
    intro itemId isClaim
    obtain ⟨-, isItem⟩ := (mem_affectedClaims computed).mp isClaim
    obtain ⟨item, member, rfl⟩ := List.mem_map.mp isItem
    exact ⟨_, bind_eq_ok.mpr ⟨item, (itemById_eq_ok unique).mpr ⟨member, rfl⟩, rfl⟩⟩
  obtain ⟨revisions, filed⟩ := mapM_total each
  have origins : List.Forall₂ (fun itemId (revision : EpistemicItem) =>
      revision.itemId = itemId ∧ ∃ item ∈ original.epistemicItems, item.itemId = itemId ∧
        item.withInvalidationStatus .invalid = revision)
      (affectedClaimIds original cut) revisions := by
    refine (mapM_eq_ok.mp filed).imp fun itemId revision round => ?_
    obtain ⟨item, found, same⟩ := bind_eq_ok.mp round
    obtain rfl := Except.ok.inj same
    obtain ⟨member, named⟩ := (itemById_eq_ok unique).mp found
    exact ⟨named, item, member, named, rfl⟩
  have names : revisions.map (fun revision => revision.itemId) = affectedClaimIds original cut := by
    symm
    rw [← List.forall₂_eq_eq_eq, List.forall₂_map_right_iff]
    exact origins.imp fun _ _ origin => origin.1.symm
  refine ⟨revisions, filed, (List.perm_ext_iff_of_nodup ?_ ?_).mpr fun revision => ?_⟩
  · refine List.Nodup.of_map (fun revision : EpistemicItem => revision.itemId) ?_
    rw [names]
    exact distinct
  · refine List.Nodup.of_map (fun revision : EpistemicItem => revision.itemId) ?_
    rw [List.map_map]
    exact (List.filter_sublist.map _).nodup unique
  · rw [List.mem_map]
    constructor
    · intro listed
      obtain ⟨itemId, isClaim, -, item, member, rfl, revised⟩ := forall₂_mem_right origins listed
      have affected := ((mem_affectedClaims computed).mp isClaim).1
      exact ⟨item, List.mem_filter.mpr ⟨member, decide_eq_true affected⟩, revised⟩
    · rintro ⟨item, kept, rfl⟩
      obtain ⟨member, affected⟩ := List.mem_filter.mp kept
      have isClaim := (mem_affectedClaims computed).mpr
        ⟨of_decide_eq_true affected, List.mem_map_of_mem member⟩
      obtain ⟨revision, listed, -, other, isOther, named, revised⟩ :=
        forall₂_mem_left origins isClaim
      obtain rfl : other = item := List.inj_on_of_nodup_map unique isOther member named
      rw [revised]
      exact listed

theorem checkView_eq_ok {current : Finset String} {viewId : String} :
    checkView original current viewId = .ok () ↔
      ∃ dependencies, original.materializedViews.get? viewId = some dependencies ∧
        ∀ itemId ∈ dependencies, itemId ∈ current := by
  unfold checkView
  cases found : original.materializedViews.get? viewId with
  | none => simp
  | some dependencies =>
    by_cases closed : dependencies.toFinset ⊆ current
    · simp only [if_pos closed, Option.some.injEq, exists_eq_left', true_iff]
      exact fun itemId member => closed (List.mem_toFinset.mpr member)
    · simp only [if_neg closed, Option.some.injEq, exists_eq_left', reduceCtorEq, false_iff]
      exact fun all => closed fun itemId member => all itemId (List.mem_toFinset.mp member)

/-- The state after a repair passes the checks of its constructor. -/
theorem repairedData_valid (computed : repairCut original rootItemId = .ok cut)
    (ran : recomputeItems callbacks original cut = .ok recomputed) {revisions : List EpistemicItem}
    (filed : invalidatedRevisions original cut = .ok revisions) :
    (repairedData original rootItemId cut recomputed revisions).violation = none := by
  have valid := original.valid
  unfold CognitiveStateData.violation at valid ⊢
  rw [check_eq_none, check_eq_none, check_eq_none] at valid ⊢
  obtain ⟨items, history, evidence, numbers⟩ := valid
  obtain ⟨-, facts⟩ := recomputeItems_eq_ok ran
  refine ⟨?_, ?_, evidence, numbers⟩
  · rintro ⟨new, listed, foreign⟩
    obtain ⟨old, member, ⟨-, recomputes⟩ | ⟨-, rfl⟩⟩ :=
      forall₂_mem_right (repairedItems_each computed ran) listed
    · exact foreign (facts _ recomputes).2.1
    · exact items ⟨new, member, foreign⟩
  · rintro ⟨revision, listed, foreign⟩
    rcases List.mem_append.mp listed with old | isNew
    · exact history ⟨revision, old, foreign⟩
    · obtain ⟨others, same, perm⟩ := invalidatedRevisions_perm computed
      obtain rfl : others = revisions := Except.ok.inj (same.symm.trans filed)
      obtain ⟨item, kept, rfl⟩ := List.mem_map.mp (perm.mem_iff.mp isNew)
      exact items ⟨item, List.mem_of_mem_filter kept, foreign⟩

/-- **What a repair that goes through leaves of the cognitive state**, and when it goes through. -/
theorem repairState_eq_ok (computed : repairCut original rootItemId = .ok cut)
    {after : CognitiveState} :
    repairState callbacks original rootItemId cut = .ok after ↔
      ∃ recomputed revisions, recomputeItems callbacks original cut = .ok recomputed ∧
        ViewsRest original cut ∧ invalidatedRevisions original cut = .ok revisions ∧
        after.toCognitiveStateData = repairedData original rootItemId cut recomputed revisions := by
  have order := (repairCut_unique computed).2.2
  have closed : ∀ {recomputed}, recomputeItems callbacks original cut = .ok recomputed →
      ((affectedViewIds original cut).forM
        (checkView original (currentIds (repairedItems original recomputed))) = .ok () ↔
        ViewsRest original cut) := by
    intro recomputed ran
    rw [forM_eq_ok]
    simp only [ViewsRest, checkView_eq_ok, mem_currentIds computed ran, affectedViewIds, order,
      List.mem_filter, decide_eq_true_eq]
    constructor
    · intro all viewId affected dependencies found
      obtain ⟨others, same, closed⟩ := all viewId ⟨affected, Dict.mem_of_get? found⟩
      obtain rfl : others = dependencies := Option.some.inj (same.symm.trans found)
      exact closed
    · rintro all viewId ⟨affected, isView⟩
      obtain ⟨dependencies, found⟩ := Dict.mem_iff_get?.mp isView
      exact ⟨dependencies, found, all viewId affected dependencies found⟩
  unfold repairState
  constructor
  · intro went
    obtain ⟨recomputed, ran, went⟩ := bind_eq_ok.mp went
    obtain ⟨_, checked, went⟩ := bind_eq_ok.mp went
    obtain ⟨revisions, filed, built⟩ := bind_eq_ok.mp went
    exact ⟨recomputed, revisions, ran, (closed ran).mp checked, filed,
      CognitiveState.ofData_eq_ok.mp built⟩
  · rintro ⟨recomputed, revisions, ran, views, filed, leaves⟩
    exact bind_eq_ok.mpr ⟨recomputed, ran, bind_eq_ok.mpr ⟨(), (closed ran).mpr views,
      bind_eq_ok.mpr ⟨revisions, filed, CognitiveState.ofData_eq_ok.mpr leaves⟩⟩⟩

/-- A claim of the cut is a recomputed one afterwards. -/
theorem recomputed_of_affected (computed : repairCut original rootItemId = .ok cut)
    (ran : recomputeItems callbacks original cut = .ok recomputed) {item : EpistemicItem}
    (listed : item ∈ repairedItems original recomputed) (affected : item.itemId ∈ cut.affectedIds) :
    (item.itemId, item) ∈ recomputed := by
  obtain ⟨-, facts⟩ := recomputeItems_eq_ok ran
  obtain ⟨old, -, ⟨-, recomputes⟩ | ⟨outside, rfl⟩⟩ :=
    forall₂_mem_right (repairedItems_each computed ran) listed
  · have named : item.itemId = old.itemId := (facts _ recomputes).1
    rw [named]
    exact recomputes
  · exact absurd affected outside

/-- Every recomputed claim is among the items afterwards. -/
theorem repaired_of_recomputed (computed : repairCut original rootItemId = .ok cut)
    (ran : recomputeItems callbacks original cut = .ok recomputed) {entry : String × EpistemicItem}
    (listed : entry ∈ recomputed) :
    entry.1 ∈ cut.affectedIds ∧ entry.2 ∈ repairedItems original recomputed := by
  obtain ⟨names, -⟩ := recomputeItems_eq_ok ran
  have isClaim : entry.1 ∈ affectedClaimIds original cut := by
    rw [← names]
    exact List.mem_map_of_mem listed
  obtain ⟨affected, isItem⟩ := (mem_affectedClaims computed).mp isClaim
  obtain ⟨old, isOld, named⟩ := List.mem_map.mp isItem
  refine ⟨affected, ?_⟩
  obtain ⟨new, inAfter, ⟨-, recomputes⟩ | ⟨notAffected, -⟩⟩ :=
    forall₂_mem_left (repairedItems_each computed ran) isOld
  · have distinct : (recomputed.map Prod.fst).Nodup := by
      rw [names]
      exact (repairCut_unique computed).2.1
    have same : (old.itemId, new) = entry :=
      List.inj_on_of_nodup_map distinct recomputes listed named
    rw [← same]
    exact inAfter
  · rw [named] at notAffected
    exact absurd affected notAffected

/-- The state that a repair leaves is repaired where the recomputed claims depend on CURRENT ones. -/
theorem repaired_iff (computed : repairCut original rootItemId = .ok cut)
    (ran : recomputeItems callbacks original cut = .ok recomputed) {revisions : List EpistemicItem}
    (filed : invalidatedRevisions original cut = .ok revisions) {after : CognitiveState}
    (leaves : after.toCognitiveStateData = repairedData original rootItemId cut recomputed revisions) :
    Repaired original after cut.affectedIds ↔
      ∀ entry ∈ recomputed, ∀ input ∈ original.epistemicItems, input.itemId ∈ entry.2.dependsOn →
        input.itemId ∉ cut.affectedIds → input.invalidationStatus = .current := by
  obtain ⟨-, facts⟩ := recomputeItems_eq_ok ran
  have each := repairedItems_each computed ran
  have items : after.epistemicItems = repairedItems original recomputed := by rw [leaves]; rfl
  have history : after.epistemicHistory = original.epistemicHistory ++ revisions := by
    rw [leaves]; rfl
  have views : after.invalidatedViews =
      original.invalidatedViews.filter fun viewId => viewId ∉ cut.affectedIds := by rw [leaves]; rfl
  have isRecomputed : ∀ item ∈ after.epistemicItems, item.itemId ∈ cut.affectedIds →
      (item.itemId, item) ∈ recomputed := by
    rw [items]
    exact fun item => recomputed_of_affected computed ran
  constructor
  · intro repaired entry listed input member depends outside
    obtain ⟨affected, isEntry⟩ := repaired_of_recomputed computed ran listed
    have keeps : input ∈ after.epistemicItems := by
      obtain ⟨new, inAfter, -, same⟩ := forall₂_mem_left repaired.outside member
      rw [← same outside]
      exact inAfter
    rw [← items] at isEntry
    refine repaired.inputs entry.2 isEntry ?_ input keeps depends
    rw [(facts entry listed).1]
    exact affected
  · intro inputs
    refine ⟨fun item listed affected => ?_, fun item listed affected input isInput depends => ?_,
      fun viewId listed => ?_, ?_, ⟨revisions, history, ?_⟩⟩
    · exact (facts _ (isRecomputed item listed affected)).2.2
    · by_cases inCut : input.itemId ∈ cut.affectedIds
      · exact (facts _ (isRecomputed input isInput inCut)).2.2
      · rw [items] at isInput
        obtain ⟨old, member, ⟨isAffected, recomputes⟩ | ⟨-, rfl⟩⟩ := forall₂_mem_right each isInput
        · have named : input.itemId = old.itemId := (facts _ recomputes).1
          rw [named] at inCut
          exact absurd isAffected inCut
        · exact inputs _ (isRecomputed item listed affected) input member depends inCut
    · rw [views] at listed
      exact of_decide_eq_true (List.mem_filter.mp listed).2
    · rw [items]
      refine each.imp fun old new origin => ?_
      rcases origin with ⟨affected, recomputes⟩ | ⟨-, rfl⟩
      · exact ⟨(facts _ recomputes).1, fun outside => absurd affected outside⟩
      · exact ⟨rfl, fun _ => rfl⟩
    · obtain ⟨others, same, perm⟩ := invalidatedRevisions_perm computed
      obtain rfl : others = revisions := Except.ok.inj (same.symm.trans filed)
      exact perm

end Leaves

/-! ### The whole call -/

section Call

variable {Rest Snapshot : Type} {calls : SnapshotCalls Rest Snapshot} {callbacks : Callbacks}
  {system : RepairSystem Rest} {rootItemId : String}

/-- A repair that nothing stops reports success. -/
theorem Completes.success {original : CognitiveState} {cut : DependencyCut}
    {recomputed : List (String × EpistemicItem)}
    (completes : Completes calls callbacks system rootItemId original cut recomputed) :
    ∃ outcome revisions after,
      (executeLocalizedRepair calls callbacks system rootItemId).1 = .ok outcome ∧
      outcome.success = true ∧ outcome.affectedIds = cut.affectedIds ∧
      (executeLocalizedRepair calls callbacks system rootItemId).2.cognitiveState = some after ∧
      invalidatedRevisions original cut = .ok revisions ∧
      after.toCognitiveStateData = repairedData original rootItemId cut recomputed revisions := by
  obtain ⟨active, isCut, ⟨snapshot, captured⟩, answered, views⟩ := completes
  obtain ⟨revisions, filed, -⟩ := invalidatedRevisions_perm isCut
  let after : CognitiveState :=
    ⟨repairedData original rootItemId cut recomputed revisions, repairedData_valid isCut answered filed⟩
  have went : repairState callbacks original rootItemId cut = .ok after :=
    (repairState_eq_ok isCut).mpr ⟨recomputed, revisions, answered, views, filed, rfl⟩
  unfold executeLocalizedRepair
  simp only [active, isCut, captured, went]
  exact ⟨_, revisions, after, rfl, rfl, rfl, rfl, filed, rfl⟩

/-- A repair that reports success was stopped by nothing. -/
theorem completes_of_success {outcome : RepairOutcome}
    (returned : (executeLocalizedRepair calls callbacks system rootItemId).1 = .ok outcome)
    (success : outcome.success = true) :
    ∃ original cut recomputed,
      Completes calls callbacks system rootItemId original cut recomputed := by
  unfold executeLocalizedRepair at returned
  cases active : system.cognitiveState with
  | none =>
    rw [active] at returned
    cases returned
  | some original =>
    simp only [active] at returned
    cases isCut : repairCut original rootItemId with
    | error error =>
      rw [isCut] at returned
      cases returned
    | ok cut =>
      simp only [isCut] at returned
      cases captured : calls.capture system (repairSnapshotId calls system rootItemId) with
      | error error =>
        rw [captured] at returned
        cases returned
      | ok snapshot =>
        simp only [captured] at returned
        cases went : repairState callbacks original rootItemId cut with
        | ok after =>
          obtain ⟨recomputed, _, answered, views, -, -⟩ := (repairState_eq_ok isCut).mp went
          exact ⟨original, cut, recomputed, active, isCut, ⟨snapshot, captured⟩, answered, views⟩
        | error raised =>
          simp only [went] at returned
          cases restored : calls.restore system snapshot with
          | mk result last =>
            rw [restored] at returned
            cases result with
            | error error => cases returned
            | ok done =>
              obtain rfl := Except.ok.inj returned
              cases success

variable (calls callbacks system rootItemId) in
/-- **A repair that reports success has its effect, exactly when no recomputed claim depends on a
claim outside the cut that is not CURRENT.** -/
theorem repairsSoundly_iff :
    RepairsSoundly calls callbacks system rootItemId ↔
      InputsCurrent calls callbacks system rootItemId := by
  constructor
  · intro sound original cut recomputed completes
    obtain ⟨outcome, revisions, after, returned, success, affected, last, filed, leaves⟩ :=
      completes.success
    obtain ⟨before, left, isBefore, isAfter, repaired⟩ := sound outcome returned success
    obtain rfl : before = original := Option.some.inj (isBefore.symm.trans completes.active)
    obtain rfl : left = after := Option.some.inj (isAfter.symm.trans last)
    rw [affected] at repaired
    exact (repaired_iff completes.isCut completes.answered filed leaves).mp repaired
  · intro inputs outcome returned success
    obtain ⟨original, cut, recomputed, completes⟩ := completes_of_success returned success
    obtain ⟨other, revisions, after, same, -, affected, last, filed, leaves⟩ := completes.success
    obtain rfl : other = outcome := Except.ok.inj (same.symm.trans returned)
    rw [affected]
    exact ⟨original, after, completes.active, last,
      (repaired_iff completes.isCut completes.answered filed leaves).mpr
        (inputs original cut recomputed completes)⟩

end Call

/-! ### An invalid claim beside the cut -/

namespace Sample

/-- The claim c depends on a and on b, and b is invalidated. -/
def halfInvalid : CognitiveState := run stateStep (.initial Cognition.Sample.task) [
  .withEpistemicItem (Cognition.Sample.claim "a" Cognition.Sample.a_named []),
  .withEpistemicItem (Cognition.Sample.claim "b" Cognition.Sample.b_named []),
  .withEpistemicItem (Cognition.Sample.claim "c" (by decide) ["a", "b"]),
  .invalidateFrom "b" "withdrawn"]

def keeping : Callbacks := ⟨fun _ item => .ok item, fun _ _ => .ok true⟩

def repairCalls : SnapshotCalls Unit Unit :=
  ⟨fun _ => 0, fun _ _ => .ok (), fun system _ => (.ok (), system)⟩

end Sample

/-- The repair of a declares c CURRENT, whose other input stays invalid. -/
theorem invalid_input_kept :
    ¬ RepairsSoundly Sample.repairCalls Sample.keeping ⟨some Sample.halfInvalid, ()⟩ "a" := by
  intro sound
  have returned : (executeLocalizedRepair Sample.repairCalls Sample.keeping
      ⟨some Sample.halfInvalid, ()⟩ "a").1 = .ok {
        success := true, action := .localRepair, affectedIds := ["a", "c"],
        reverifiedIds := ["a", "c"], preservedIds := ["b"], snapshotId := "repair:a:0",
        reasonCodes := ["REPAIR_CLOSURE_VERIFIED"], avoidedRecomputation := 1 } := by
    decide +kernel
  obtain ⟨_, after, -, last, repaired⟩ := sound _ returned rfl
  have items : (executeLocalizedRepair Sample.repairCalls Sample.keeping
      ⟨some Sample.halfInvalid, ()⟩ "a").2.cognitiveState.map (fun state => state.epistemicItems) =
      some [Cognition.Sample.claim "a" (by decide) [],
        (Cognition.Sample.claim "b" (by decide) []).withInvalidationStatus .invalid,
        Cognition.Sample.claim "c" (by decide) ["a", "b"]] := by
    rfl
  rw [last, Option.map_some, Option.some.injEq] at items
  have current := repaired.inputs (Cognition.Sample.claim "c" (by decide) ["a", "b"])
    (by simp [items]) (by decide)
    ((Cognition.Sample.claim "b" (by decide) []).withInvalidationStatus .invalid)
    (by simp [items]) (by decide)
  cases current

end Dnc.Repair
