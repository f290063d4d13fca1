/-
**The cognitive state.**

`dnc.cognition.state.CognitiveState`: an immutable value that every operation copies. Each operation
returns the new state or what it raises, and writes an entry of the event log; the constructor checks
tenants and ranges again on every copy.

`invalidate_from` is a loop over items and relations that runs until it adds nothing. The set it
computes is the set of identifiers that reach the given one over `depends_on` fields and DEPENDS_ON
relations (`mem_invalidClosure`).
-/

import Dnc.Cognition.Contracts
import Dnc.Logic.Saturation
import Dnc.PyLib.Sorted

namespace Dnc.Cognition

open PyLib Logic Relation

/-! ### Action lifecycles -/

/-- `_ACTION_SEQUENCE`. -/
def actionSequence : List ActionLifecycleState := [
  .proposed, .validated, .policyChecked, .authorized, .prepared, .executing, .observed, .verified,
  .assessed, .closed]

/-- `_ACTION_ALTERNATIVE_TERMINALS`. -/
def actionAlternativeTerminals : List ActionLifecycleState := [
  .rejected, .cancelled, .timedOut, .failed, .compensationRequired, .quarantined]

/-- The states that `validate_action_transition` allows next. -/
def allowedActionStates : Option ActionLifecycleState → List ActionLifecycleState
  | none => [.proposed]
  | some current =>
    if current ∈ actionAlternativeTerminals ∨ current = .closed then []
    else (actionSequence[actionSequence.idxOf current + 1]?).toList ++ actionAlternativeTerminals

/-- `validate_action_transition`. -/
def validateActionTransition (current : Option ActionLifecycleState)
    (nextState : ActionLifecycleState) : Except PyError Unit :=
  if current = some nextState then .ok ()
  else if nextState ∉ allowedActionStates current then
    let shown := (current.map PyEnum.display).getD "None"
    .error (.valueError
      s!"illegal action lifecycle transition: {shown} -> {PyEnum.display nextState}")
  else .ok ()

/-! ### The state -/

structure CognitiveStateData where
  task : TaskSpec
  schemaVersion : String := cognitiveSchemaVersion
  epistemicItems : List EpistemicItem := []
  epistemicHistory : List EpistemicItem := []
  evidence : List Evidence := []
  relations : List EpistemicRelation := []
  hypotheses : List Hypothesis := []
  actionStates : Dict String ActionLifecycleState := ∅
  materializedViews : Dict String (List String) := ∅
  invalidatedViews : List String := []
  eventLog : List PyDict := []
  answerStateId : Option String := none
  verifiedAnswer : Bool := false
  calibratedRisk : Option PyNumber := none
  marginalValueEstimate : Option PyNumber := none
  metadata : PyDict := ∅

/-- `CognitiveState.__post_init__`. -/
def CognitiveStateData.violation (data : CognitiveStateData) : Option PyError :=
  if ∃ item ∈ data.epistemicItems, item.tenantId ≠ data.task.tenantId then
    some (.valueError "epistemic item tenant_id MUST match task tenant_id")
  else if ∃ item ∈ data.epistemicHistory, item.tenantId ≠ data.task.tenantId then
    some (.valueError "epistemic history tenant_id MUST match task tenant_id")
  else if ∃ evidence ∈ data.evidence,
      evidence.tenantIdD data.task.tenantId ≠ data.task.tenantId then
    some (.valueError "evidence tenant_id MUST match task tenant_id")
  else
    (unitViolation "calibrated_risk" data.calibratedRisk).or
      (negativeViolation "marginal_value_estimate MUST be non-negative" data.marginalValueEstimate)

structure CognitiveState extends CognitiveStateData where
  valid : toCognitiveStateData.violation = none

namespace CognitiveState

/-- The constructor call. -/
def ofData : CognitiveStateData → Except PyError CognitiveState :=
  construct CognitiveStateData.violation CognitiveState.mk

/-- `CognitiveState(task)`. -/
def initial (task : TaskSpec) : CognitiveState where
  task := task
  valid := by simp [CognitiveStateData.violation, unitViolation, negativeViolation]

/-- `{item.item_id for item in self.epistemic_items}`. -/
def itemIds (state : CognitiveState) : List String :=
  state.epistemicItems.map fun item => item.itemId

/-- `CognitiveState.missing_information`. -/
def missingInformation (state : CognitiveState) : List String :=
  (state.epistemicItems.filter fun item =>
    item.status ∈ [EpistemicStatus.unknown, .capabilityLimit]).map fun item => item.itemId

def itemEvent (itemId : String) (status : EpistemicStatus) : PyDict :=
  ⟨[("event", .str "epistemic_item_appended"), ("item_id", .str itemId),
    ("status", .str (PyEnum.value status))], by rfl⟩

/-- `CognitiveState.with_epistemic_item`. -/
def withEpistemicItem (state : CognitiveState) (item : EpistemicItem) :
    Except PyError CognitiveState :=
  if item.itemId ∈ state.itemIds then
    .error (.valueError s!"epistemic item already exists: {item.itemId}")
  else ofData { state.toCognitiveStateData with
    schemaVersion := cognitiveSchemaVersion
    epistemicItems := state.epistemicItems ++ [item]
    eventLog := state.eventLog ++ [itemEvent item.itemId item.status] }

def evidenceEvent (evidenceId : String) : PyDict :=
  ⟨[("event", .str "evidence_appended"), ("evidence_id", .str evidenceId)], by rfl⟩

/-- `CognitiveState.with_evidence`. -/
def withEvidence (state : CognitiveState) (evidence : Evidence) : Except PyError CognitiveState :=
  if evidence.evidenceId ∈ state.evidence.map Evidence.evidenceId then
    .error (.valueError s!"evidence already exists: {evidence.evidenceId}")
  else ofData { state.toCognitiveStateData with
    schemaVersion := cognitiveSchemaVersion
    evidence := state.evidence ++ [evidence]
    eventLog := state.eventLog ++ [evidenceEvent evidence.evidenceId] }

def relationEvent (relationId : String) (relationType : RelationType) : PyDict :=
  ⟨[("event", .str "relation_appended"), ("relation_id", .str relationId),
    ("relation_type", .str (PyEnum.value relationType))], by rfl⟩

/-- `CognitiveState.with_relation`. -/
def withRelation (state : CognitiveState) (relation : EpistemicRelation) :
    Except PyError CognitiveState :=
  if relation.sourceId ∉ state.itemIds ∨ relation.targetId ∉ state.itemIds then
    .error (.valueError "relation endpoints MUST reference existing epistemic items")
  else if relation.relationId ∈ state.relations.map (fun existing => existing.relationId) then
    .error (.valueError s!"relation already exists: {relation.relationId}")
  else ofData { state.toCognitiveStateData with
    relations := state.relations ++ [relation]
    eventLog := state.eventLog ++ [relationEvent relation.relationId relation.relationType] }

def hypothesisEvent (hypothesisId : String) : PyDict :=
  ⟨[("event", .str "hypothesis_appended"), ("hypothesis_id", .str hypothesisId)], by rfl⟩

/-- `CognitiveState.with_hypothesis`. -/
def withHypothesis (state : CognitiveState) (hypothesis : Hypothesis) :
    Except PyError CognitiveState :=
  if hypothesis.hypothesisId ∈ state.hypotheses.map (fun existing => existing.hypothesisId) then
    .error (.valueError s!"hypothesis already exists: {hypothesis.hypothesisId}")
  else if hypothesis.tenantId ≠ state.task.tenantId then
    .error (.valueError "hypothesis tenant_id MUST match task tenant_id")
  else ofData { state.toCognitiveStateData with
    hypotheses := state.hypotheses ++ [hypothesis]
    eventLog := state.eventLog ++ [hypothesisEvent hypothesis.hypothesisId] }

def actionEvent (actionId : String) (previous : Option ActionLifecycleState)
    (nextState : ActionLifecycleState) : PyDict :=
  ⟨[("event", .str "action_transition"), ("action_id", .str actionId),
    ("from", .optional (fun state => .str (PyEnum.value state)) previous),
    ("to", .str (PyEnum.value nextState))], by cases previous <;> rfl⟩

/-- `CognitiveState.with_action_transition`. -/
def withActionTransition (state : CognitiveState) (actionId : String)
    (nextState : ActionLifecycleState) : Except PyError CognitiveState := do
  if actionId = "" then throw (.valueError "action_id MUST be non-empty")
  let previous := state.actionStates.get? actionId
  if previous = some nextState then return state
  validateActionTransition previous nextState
  ofData { state.toCognitiveStateData with
    actionStates := state.actionStates.set actionId nextState
    eventLog := state.eventLog ++ [actionEvent actionId previous nextState] }

/-! ### Invalidation -/

/-- One round of the loop of `invalidate_from`: every item, then every relation. -/
def invalidationRound (state : CognitiveState) (invalid : Finset String) : Finset String :=
  let invalid := state.epistemicItems.foldl (fun invalid item =>
    if item.itemId ∉ invalid ∧ ∃ itemId ∈ item.dependsOn, itemId ∈ invalid then
      insert item.itemId invalid
    else invalid) invalid
  state.relations.foldl (fun invalid relation =>
    if relation.relationType = .dependsOn ∧ relation.targetId ∈ invalid ∧
        relation.sourceId ∉ invalid then
      insert relation.sourceId invalid
    else invalid) invalid

/-- The set `invalid` at the end of the loop of `invalidate_from`. Every round but the last adds an
item or the source of a relation. -/
def invalidClosure (state : CognitiveState) (itemId : String) : Finset String :=
  untilStable state.invalidationRound (state.epistemicItems.length + state.relations.length)
    {itemId}

/-- The views that depend on an element of the set. -/
def viewsOver (state : CognitiveState) (invalid : Finset String) : List String :=
  (state.materializedViews.entries.filter fun entry =>
    decide (∃ itemId ∈ entry.2, itemId ∈ invalid)).map Prod.fst

def invalidationEvent (itemId : String) (invalid : Finset String) (reason : String) : PyDict :=
  ⟨[("event", .str "dependency_invalidation"), ("root_item_id", .str itemId),
    ("invalidated_item_ids", .textTuple (sortedElems invalid)), ("reason", .str reason)], by
      rw [PyData.wellFormed_dict]
      refine ⟨(show ["event", "root_item_id", "invalidated_item_ids", "reason"].Nodup by decide), ?_⟩
      simp [PyData.wellFormed]⟩

/-- The items after an invalidation. -/
def invalidateItems (state : CognitiveState) (invalid : Finset String) : List EpistemicItem :=
  state.epistemicItems.map fun item =>
    if item.itemId ∈ invalid ∧ item.invalidationStatus = .current then
      item.withInvalidationStatus .invalid
    else item

/-- `CognitiveState.invalidate_from`. -/
def invalidateFrom (state : CognitiveState) (itemId reason : String) :
    Except PyError CognitiveState :=
  if itemId ∉ state.itemIds then .error (.keyError s!"unknown epistemic item: {itemId}")
  else
    let invalid := state.invalidClosure itemId
    ofData { state.toCognitiveStateData with
      epistemicItems := state.invalidateItems invalid
      invalidatedViews := sortedElems
        (state.invalidatedViews.toFinset ∪ (state.viewsOver invalid).toFinset)
      eventLog := state.eventLog ++ [invalidationEvent itemId invalid reason] }

/-- `CognitiveState.with_materialized_view`. -/
def withMaterializedView (state : CognitiveState) (viewId : String)
    (dependencyItemIds : List String) : Except PyError CognitiveState :=
  let missing := dependencyItemIds.toFinset \ state.itemIds.toFinset
  if missing.Nonempty then
    let shown := Json.pyRepr (.arr ((sortedElems missing).map .str))
    .error (.valueError s!"view dependencies are unknown: {shown}")
  else ofData { state.toCognitiveStateData with
    materializedViews := state.materializedViews.set viewId dependencyItemIds }

theorem ofData_eq_ok {data : CognitiveStateData} {state : CognitiveState} :
    ofData data = .ok state ↔ state.toCognitiveStateData = data := by
  constructor
  · intro made
    obtain ⟨valid, rfl⟩ := construct_eq_ok made
    rfl
  · rintro rfl
    exact construct_of_valid state.valid

/-! ### The dependency relation -/

/-- An item depends on the identifiers of its `depends_on` field, and the source of a DEPENDS_ON
relation on its target. -/
def DependsOn (state : CognitiveState) (first second : String) : Prop :=
  (∃ item ∈ state.epistemicItems, item.itemId = first ∧ second ∈ item.dependsOn) ∨
    ∃ relation ∈ state.relations, relation.relationType = .dependsOn ∧
      relation.sourceId = first ∧ relation.targetId = second

/-- The dependencies as rules: an identifier is concluded from what it depends on. -/
def dependencyRules (state : CognitiveState) : List (String × List String) :=
  (state.epistemicItems.map fun item => (item.itemId, item.dependsOn)) ++
    (state.relations.filter fun relation => relation.relationType = .dependsOn).map fun relation =>
      (relation.sourceId, [relation.targetId])

theorem fires_dependencyRules (state : CognitiveState) :
    Fires state.dependencyRules = state.DependsOn := by
  funext first second
  refine propext ⟨?_, ?_⟩
  · rintro ⟨rule, listed, concludes, triggers⟩
    rcases List.mem_append.mp listed with fromItem | fromRelation
    · obtain ⟨item, member, rfl⟩ := List.mem_map.mp fromItem
      exact Or.inl ⟨item, member, concludes, triggers⟩
    · obtain ⟨relation, chosen, rfl⟩ := List.mem_map.mp fromRelation
      obtain ⟨member, depends⟩ := List.mem_filter.mp chosen
      exact Or.inr ⟨relation, member, of_decide_eq_true depends, concludes,
        (List.mem_singleton.mp triggers).symm⟩
  · rintro (⟨item, member, rfl, triggers⟩ | ⟨relation, member, depends, rfl, rfl⟩)
    · exact ⟨_, List.mem_append_left _ (List.mem_map_of_mem member), rfl, triggers⟩
    · refine ⟨_, List.mem_append_right _ (List.mem_map_of_mem
        (List.mem_filter.mpr ⟨member, decide_eq_true depends⟩)), rfl, List.mem_singleton_self _⟩

/-- A round of the loop is a pass over the rules. -/
theorem invalidationRound_eq (state : CognitiveState) :
    state.invalidationRound = Logic.pass state.dependencyRules := by
  have overRelations : ∀ (relations : List EpistemicRelation) (reached : Finset String),
      relations.foldl (fun invalid relation =>
        if relation.relationType = .dependsOn ∧ relation.targetId ∈ invalid ∧
            relation.sourceId ∉ invalid then
          insert relation.sourceId invalid
        else invalid) reached =
      Logic.pass ((relations.filter fun relation =>
        relation.relationType = .dependsOn).map fun relation =>
          (relation.sourceId, [relation.targetId])) reached := by
    intro relations
    induction relations with
    | nil => exact fun _ => rfl
    | cons relation rest ih =>
      intro reached
      rw [List.foldl_cons, ih]
      by_cases depends : relation.relationType = .dependsOn
      · rw [List.filter_cons_of_pos (by simpa using depends)]
        simp only [Logic.pass, List.map_cons, List.foldl_cons, applyRule, depends, true_and,
          List.mem_singleton, exists_eq_left, and_comm]
      · rw [List.filter_cons_of_neg (by simpa using depends), if_neg fun fires => depends fires.1]
  funext invalid
  unfold invalidationRound dependencyRules
  rw [pass_append, ← overRelations, Logic.pass, List.foldl_map]
  rfl

/-- **The loop of `invalidate_from` finds what depends on the item.** -/
theorem mem_invalidClosure {state : CognitiveState} {itemId other : String} :
    other ∈ state.invalidClosure itemId ↔ ReflTransGen state.DependsOn other itemId := by
  have enough : state.dependencyRules.length ≤
      state.epistemicItems.length + state.relations.length := by
    rw [dependencyRules, List.length_append, List.length_map, List.length_map]
    exact Nat.add_le_add_left (List.length_filter_le _ _) _
  rw [invalidClosure, invalidationRound_eq, ← fires_dependencyRules]
  refine (mem_saturate enough).trans ⟨?_, fun path => ⟨itemId, Finset.mem_singleton_self _, path⟩⟩
  rintro ⟨root, isRoot, path⟩
  rwa [Finset.mem_singleton.mp isRoot] at path

theorem mem_viewsOver {state : CognitiveState} {invalid : Finset String} {viewId : String} :
    viewId ∈ state.viewsOver invalid ↔
      ∃ dependencies, state.materializedViews.get? viewId = some dependencies ∧
        ∃ itemId ∈ dependencies, itemId ∈ invalid := by
  unfold viewsOver
  rw [List.mem_map]
  constructor
  · rintro ⟨⟨viewId, dependencies⟩, chosen, rfl⟩
    obtain ⟨listed, depends⟩ := List.mem_filter.mp chosen
    exact ⟨dependencies, Dict.mem_entries.mp listed, of_decide_eq_true depends⟩
  · rintro ⟨dependencies, found, depends⟩
    exact ⟨(viewId, dependencies), List.mem_filter.mpr
      ⟨Dict.mem_entries.mpr found, decide_eq_true depends⟩, rfl⟩

/-! ### What a successful call leaves -/

section Results

variable {state next : CognitiveState}

theorem withEpistemicItem_eq_ok {item : EpistemicItem}
    (added : state.withEpistemicItem item = .ok next) :
    item.itemId ∉ state.itemIds ∧ next.toCognitiveStateData = { state.toCognitiveStateData with
      schemaVersion := cognitiveSchemaVersion
      epistemicItems := state.epistemicItems ++ [item]
      eventLog := state.eventLog ++ [itemEvent item.itemId item.status] } := by
  unfold withEpistemicItem at added
  split_ifs at added with known
  exact ⟨known, ofData_eq_ok.mp added⟩

theorem withEvidence_eq_ok {evidence : Evidence} (added : state.withEvidence evidence = .ok next) :
    next.toCognitiveStateData = { state.toCognitiveStateData with
      schemaVersion := cognitiveSchemaVersion
      evidence := state.evidence ++ [evidence]
      eventLog := state.eventLog ++ [evidenceEvent evidence.evidenceId] } := by
  unfold withEvidence at added
  split_ifs at added
  exact ofData_eq_ok.mp added

theorem withRelation_eq_ok {relation : EpistemicRelation}
    (added : state.withRelation relation = .ok next) :
    relation.sourceId ∈ state.itemIds ∧ relation.targetId ∈ state.itemIds ∧
      next.toCognitiveStateData = { state.toCognitiveStateData with
        relations := state.relations ++ [relation]
        eventLog := state.eventLog ++ [relationEvent relation.relationId relation.relationType] } := by
  unfold withRelation at added
  split_ifs at added with unknown known
  rw [not_or, not_not, not_not] at unknown
  exact ⟨unknown.1, unknown.2, ofData_eq_ok.mp added⟩

theorem withHypothesis_eq_ok {hypothesis : Hypothesis}
    (added : state.withHypothesis hypothesis = .ok next) :
    next.toCognitiveStateData = { state.toCognitiveStateData with
      hypotheses := state.hypotheses ++ [hypothesis]
      eventLog := state.eventLog ++ [hypothesisEvent hypothesis.hypothesisId] } := by
  unfold withHypothesis at added
  split_ifs at added
  exact ofData_eq_ok.mp added

theorem withActionTransition_eq_ok {actionId : String} {nextState : ActionLifecycleState}
    (moved : state.withActionTransition actionId nextState = .ok next) :
    (state.actionStates.get? actionId = some nextState ∧ next = state) ∨
      (state.actionStates.get? actionId ≠ some nextState ∧
        nextState ∈ allowedActionStates (state.actionStates.get? actionId) ∧
        next.toCognitiveStateData = { state.toCognitiveStateData with
          actionStates := state.actionStates.set actionId nextState
          eventLog := state.eventLog ++
            [actionEvent actionId (state.actionStates.get? actionId) nextState] }) := by
  unfold withActionTransition at moved
  by_cases empty : actionId = ""
  · rw [if_pos empty] at moved
    cases moved
  rw [if_neg empty] at moved
  by_cases same : state.actionStates.get? actionId = some nextState
  · refine Or.inl ⟨same, ?_⟩
    simp only [same] at moved
    exact (Except.ok.inj moved).symm
  · refine Or.inr ⟨same, ?_⟩
    simp only [validateActionTransition, same, if_false] at moved
    by_cases allowed : nextState ∈ allowedActionStates (state.actionStates.get? actionId)
    · rw [if_neg (not_not.mpr allowed)] at moved
      exact ⟨allowed, ofData_eq_ok.mp moved⟩
    · rw [if_pos allowed] at moved
      cases moved

theorem invalidateFrom_eq_ok {itemId reason : String}
    (invalidated : state.invalidateFrom itemId reason = .ok next) :
    itemId ∈ state.itemIds ∧ next.toCognitiveStateData = { state.toCognitiveStateData with
      epistemicItems := state.invalidateItems (state.invalidClosure itemId)
      invalidatedViews := sortedElems (state.invalidatedViews.toFinset ∪
        (state.viewsOver (state.invalidClosure itemId)).toFinset)
      eventLog := state.eventLog ++
        [invalidationEvent itemId (state.invalidClosure itemId) reason] } := by
  unfold invalidateFrom at invalidated
  by_cases unknown : itemId ∉ state.itemIds
  · rw [if_pos unknown] at invalidated
    cases invalidated
  · rw [if_neg unknown] at invalidated
    exact ⟨not_not.mp unknown, ofData_eq_ok.mp invalidated⟩

theorem withMaterializedView_eq_ok {viewId : String} {dependencyItemIds : List String}
    (registered : state.withMaterializedView viewId dependencyItemIds = .ok next) :
    (∀ itemId ∈ dependencyItemIds, itemId ∈ state.itemIds) ∧
      next.toCognitiveStateData = { state.toCognitiveStateData with
        materializedViews := state.materializedViews.set viewId dependencyItemIds } := by
  unfold withMaterializedView at registered
  by_cases missing : (dependencyItemIds.toFinset \ state.itemIds.toFinset).Nonempty
  · simp only [missing, if_true] at registered
    cases registered
  · simp only [missing, if_false] at registered
    refine ⟨fun itemId member => ?_, ofData_eq_ok.mp registered⟩
    by_contra unknown
    exact missing ⟨itemId, by simpa using ⟨member, unknown⟩⟩

end Results

end CognitiveState

/-! ### Runs -/

/-- The operations that copy a state. -/
inductive StateCall where
  | withEpistemicItem (item : EpistemicItem)
  | withEvidence (evidence : Evidence)
  | withRelation (relation : EpistemicRelation)
  | withHypothesis (hypothesis : Hypothesis)
  | withActionTransition (actionId : String) (nextState : ActionLifecycleState)
  | invalidateFrom (itemId reason : String)
  | withMaterializedView (viewId : String) (dependencyItemIds : List String)

/-- What a call returns or raises. -/
def CognitiveState.apply (state : CognitiveState) : StateCall → Except PyError CognitiveState
  | .withEpistemicItem item => state.withEpistemicItem item
  | .withEvidence evidence => state.withEvidence evidence
  | .withRelation relation => state.withRelation relation
  | .withHypothesis hypothesis => state.withHypothesis hypothesis
  | .withActionTransition actionId nextState => state.withActionTransition actionId nextState
  | .invalidateFrom itemId reason => state.invalidateFrom itemId reason
  | .withMaterializedView viewId dependencyItemIds =>
    state.withMaterializedView viewId dependencyItemIds

/-- The state a caller holds after a call: a call that raises leaves it with the one it had. -/
def stateStep (state : CognitiveState) (call : StateCall) : CognitiveState :=
  match state.apply call with
  | .ok next => next
  | .error _ => state

namespace Sample

def goal : GoalInvariant := ⟨{ objective := "answer" }, by decide⟩

def policy : PolicyContext := ⟨{ riskClass := .low }, rfl⟩

def task : TaskSpec :=
  ⟨{ taskId := "task-1", description := "answer the question", goal := goal, policy := policy },
    by decide⟩

theorem a_named : "a" ≠ "" := by decide

theorem b_named : "b" ≠ "" := by decide

/-- A claim with the given identifier and dependencies. -/
def claim (itemId : String) (named : itemId ≠ "") (dependsOn : List String) : EpistemicItem :=
  ⟨{ itemId := itemId, status := .retrievedClaim, content := "text", dependsOn := dependsOn },
    by simp [EpistemicItemData.violation, named]⟩

end Sample

end Dnc.Cognition
