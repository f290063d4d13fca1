/-
**When nothing is lost in a round trip.**

`roundTrips_iff`: a state reached from `CognitiveState(task)` is imported from its export as it was,
dictionaries compared as maps, exactly when the task's dictionaries are plain and every call that
succeeded appended plain data. What is not plain: a dictionary entry that is `None`, at any depth;
a tuple in a dictionary; the event of an action's first transition; the event of an invalidation.

`roundTrips_iff_plain` is the statement for one state; along a run, data is only appended, so that
a state is plain when the one before is and the call keeps it so.
-/

import Dnc.Cognition.RoundTrip

namespace Dnc.Cognition

open PyLib Logic

/-! ### Equality of states -/

section Same

/-- Equal, with dictionaries equal as maps. -/
def TaskSpec.Same (first second : TaskSpec) : Prop :=
  { first.toTaskSpecData with expectedOutputContract := ∅, metadata := ∅ } =
      { second.toTaskSpecData with expectedOutputContract := ∅, metadata := ∅ } ∧
    first.expectedOutputContract.sorted = second.expectedOutputContract.sorted ∧
    first.metadata.sorted = second.metadata.sorted

def EpistemicItem.Same (first second : EpistemicItem) : Prop :=
  { first.toEpistemicItemData with metadata := ∅ } =
      { second.toEpistemicItemData with metadata := ∅ } ∧
    first.metadata.sorted = second.metadata.sorted

def Evidence.Same : Evidence → Evidence → Prop
  | .item first, .item second =>
    { first.toEvidenceItemData with metadata := ∅ } =
        { second.toEvidenceItemData with metadata := ∅ } ∧
      first.metadata.sorted = second.metadata.sorted
  | .ref first, .ref second =>
    { first.toEvidenceRefData with metadata := ∅ } =
        { second.toEvidenceRefData with metadata := ∅ } ∧
      first.metadata.sorted = second.metadata.sorted
  | _, _ => False

def Hypothesis.Same (first second : Hypothesis) : Prop :=
  { first.toHypothesisData with metadata := ∅ } = { second.toHypothesisData with metadata := ∅ } ∧
    first.metadata.sorted = second.metadata.sorted

/-- Equal in every field. -/
structure CognitiveState.Same (first second : CognitiveState) : Prop where
  task : first.task.Same second.task
  schemaVersion : first.schemaVersion = second.schemaVersion
  epistemicItems : List.Forall₂ EpistemicItem.Same first.epistemicItems second.epistemicItems
  epistemicHistory : List.Forall₂ EpistemicItem.Same first.epistemicHistory second.epistemicHistory
  evidence : List.Forall₂ Evidence.Same first.evidence second.evidence
  relations : first.relations = second.relations
  hypotheses : List.Forall₂ Hypothesis.Same first.hypotheses second.hypotheses
  actionStates : ∀ actionId, first.actionStates.get? actionId = second.actionStates.get? actionId
  materializedViews : ∀ viewId,
    first.materializedViews.get? viewId = second.materializedViews.get? viewId
  invalidatedViews : first.invalidatedViews = second.invalidatedViews
  eventLog : List.Forall₂ (fun first second : PyDict => first.sorted = second.sorted)
    first.eventLog second.eventLog
  answerStateId : first.answerStateId = second.answerStateId
  verifiedAnswer : first.verifiedAnswer = second.verifiedAnswer
  calibratedRisk : first.calibratedRisk = second.calibratedRisk
  marginalValueEstimate : first.marginalValueEstimate = second.marginalValueEstimate
  metadata : first.metadata.sorted = second.metadata.sorted

end Same

/-- The state is imported from its export as it was. -/
def RoundTrips (state : CognitiveState) : Prop :=
  ∃ imported, importCognitiveState (exportCognitiveState state) = .ok imported ∧
    state.Same imported

/-! ### One state -/

section Plain

def Evidence.metadata : Evidence → PyDict
  | .item evidence => evidence.metadata
  | .ref evidence => evidence.metadata

/-- The dictionaries of the task lose nothing. -/
def TaskSpec.Plain (task : TaskSpec) : Prop :=
  plain task.expectedOutputContract.data = true ∧ plain task.metadata.data = true

/-- No dictionary of the state loses anything. -/
structure CognitiveState.Plain (state : CognitiveState) : Prop where
  task : state.task.Plain
  epistemicItems : ∀ item ∈ state.epistemicItems, plain item.metadata.data = true
  epistemicHistory : ∀ item ∈ state.epistemicHistory, plain item.metadata.data = true
  evidence : ∀ evidence ∈ state.evidence, plain evidence.metadata.data = true
  hypotheses : ∀ hypothesis ∈ state.hypotheses, plain hypothesis.metadata.data = true
  eventLog : ∀ event ∈ state.eventLog, plain event.data = true
  metadata : plain state.metadata.data = true

theorem sorted_canonicalDict_iff (dict : PyDict) :
    dict.sorted = (canonicalDict dict).sorted ↔ plain dict.data = true :=
  eq_comm.trans (canonicalDict_same_iff dict)

theorem same_canonicalTask_iff (task : TaskSpec) : task.Same (canonicalTask task) ↔ task.Plain := by
  unfold TaskSpec.Same TaskSpec.Plain
  rw [← sorted_canonicalDict_iff, ← sorted_canonicalDict_iff]
  exact and_iff_right rfl

theorem same_canonicalItem_iff (item : EpistemicItem) :
    item.Same (canonicalItem item) ↔ plain item.metadata.data = true := by
  unfold EpistemicItem.Same
  rw [← sorted_canonicalDict_iff]
  exact and_iff_right rfl

theorem same_canonicalEvidence_iff (evidence : Evidence) :
    evidence.Same (canonicalEvidence evidence) ↔ plain evidence.metadata.data = true := by
  rw [← sorted_canonicalDict_iff]
  cases evidence <;> exact and_iff_right rfl

theorem same_canonicalHypothesis_iff (hypothesis : Hypothesis) :
    hypothesis.Same (canonicalHypothesis hypothesis) ↔ plain hypothesis.metadata.data = true := by
  unfold Hypothesis.Same
  rw [← sorted_canonicalDict_iff]
  exact and_iff_right rfl

theorem forall₂_map_iff {α : Type} {R : α → α → Prop} {f : α → α} {P : α → Prop}
    (each : ∀ x, R x (f x) ↔ P x) {xs : List α} :
    List.Forall₂ R xs (xs.map f) ↔ ∀ x ∈ xs, P x := by
  rw [List.forall₂_map_right_iff, List.forall₂_same]
  exact forall₂_congr fun x _ => each x

theorem same_canonicalState_iff (state : CognitiveState) :
    state.Same (canonicalState state) ↔ state.Plain := by
  constructor
  · intro same
    constructor
    · exact (same_canonicalTask_iff state.task).mp same.task
    · exact (forall₂_map_iff same_canonicalItem_iff).mp same.epistemicItems
    · exact (forall₂_map_iff same_canonicalItem_iff).mp same.epistemicHistory
    · exact (forall₂_map_iff same_canonicalEvidence_iff).mp same.evidence
    · exact (forall₂_map_iff same_canonicalHypothesis_iff).mp same.hypotheses
    · exact (forall₂_map_iff sorted_canonicalDict_iff).mp same.eventLog
    · exact (sorted_canonicalDict_iff state.metadata).mp same.metadata
  · intro isPlain
    exact {
      task := (same_canonicalTask_iff state.task).mpr isPlain.task
      schemaVersion := rfl
      epistemicItems := (forall₂_map_iff same_canonicalItem_iff).mpr isPlain.epistemicItems
      epistemicHistory := (forall₂_map_iff same_canonicalItem_iff).mpr isPlain.epistemicHistory
      evidence := (forall₂_map_iff same_canonicalEvidence_iff).mpr isPlain.evidence
      relations := rfl
      hypotheses := (forall₂_map_iff same_canonicalHypothesis_iff).mpr isPlain.hypotheses
      actionStates := fun actionId => (get?_inKeyOrder state.actionStates actionId).symm
      materializedViews := fun viewId => (get?_inKeyOrder state.materializedViews viewId).symm
      invalidatedViews := rfl
      eventLog := (forall₂_map_iff sorted_canonicalDict_iff).mpr isPlain.eventLog
      answerStateId := rfl
      verifiedAnswer := rfl
      calibratedRisk := rfl
      marginalValueEstimate := rfl
      metadata := (sorted_canonicalDict_iff state.metadata).mpr isPlain.metadata }

/-- **The round trip of a state at the current schema version.** -/
theorem roundTrips_iff_plain {state : CognitiveState}
    (current : state.schemaVersion = cognitiveSchemaVersion) :
    RoundTrips state ↔ state.Plain := by
  rw [← same_canonicalState_iff]
  constructor
  · rintro ⟨imported, imports, same⟩
    rw [importCognitiveState_export state current] at imports
    rwa [Except.ok.inj imports]
  · exact fun same => ⟨canonicalState state, importCognitiveState_export state current, same⟩

end Plain

/-! ### Runs -/

/-- The condition on a call that succeeds. -/
def CognitiveState.AppendsPlain (state : CognitiveState) : StateCall → Prop
  | .withEpistemicItem item => plain item.metadata.data = true
  | .withEvidence evidence => plain evidence.metadata.data = true
  | .withHypothesis hypothesis => plain hypothesis.metadata.data = true
  | .withActionTransition actionId _ => state.actionStates.get? actionId ≠ none
  | .invalidateFrom _ _ => False
  | _ => True

/-- A call appends plain data or raises. -/
def KeepsPlain (entry : CognitiveState × StateCall) : Prop :=
  ∀ next, entry.1.apply entry.2 = .ok next → entry.1.AppendsPlain entry.2

section Steps

variable {state next : CognitiveState}

theorem plain_actionEvent (actionId : String) (previous : Option ActionLifecycleState)
    (nextState : ActionLifecycleState) :
    plain (CognitiveState.actionEvent actionId previous nextState).data = true ↔
      previous ≠ none := by
  cases previous with
  | none => exact iff_of_false (by rintro ⟨⟩) fun different => different rfl
  | some current => exact iff_of_true rfl (Option.some_ne_none current)

theorem not_plain_invalidationEvent (itemId : String) (invalid : Finset String) (reason : String) :
    plain (CognitiveState.invalidationEvent itemId invalid reason).data = false := by
  rfl

theorem forall_mem_append_singleton {α : Type} {P : α → Prop} {xs : List α} {x : α} :
    (∀ y ∈ xs ++ [x], P y) ↔ (∀ y ∈ xs, P y) ∧ P x := by
  rw [List.forall_mem_append, List.forall_mem_singleton]

/-- A state is plain when its fields are. -/
theorem CognitiveState.plain_iff (state : CognitiveState) : state.Plain ↔
    state.task.Plain ∧
      (∀ item ∈ state.epistemicItems, plain item.metadata.data = true) ∧
      (∀ item ∈ state.epistemicHistory, plain item.metadata.data = true) ∧
      (∀ evidence ∈ state.evidence, plain evidence.metadata.data = true) ∧
      (∀ hypothesis ∈ state.hypotheses, plain hypothesis.metadata.data = true) ∧
      (∀ event ∈ state.eventLog, plain event.data = true) ∧ plain state.metadata.data = true := by
  constructor
  · rintro ⟨task, items, history, evidence, hypotheses, events, metadata⟩
    exact ⟨task, items, history, evidence, hypotheses, events, metadata⟩
  · rintro ⟨task, items, history, evidence, hypotheses, events, metadata⟩
    exact ⟨task, items, history, evidence, hypotheses, events, metadata⟩

/-- What a call appends is all it can lose. -/
theorem plain_iff_of_ok {call : StateCall} (called : state.apply call = .ok next) :
    next.Plain ↔ state.Plain ∧ state.AppendsPlain call := by
  rw [CognitiveState.plain_iff, CognitiveState.plain_iff]
  cases call with
  | withEpistemicItem item =>
    obtain ⟨-, left⟩ := CognitiveState.withEpistemicItem_eq_ok called
    have event : plain (CognitiveState.itemEvent item.itemId item.status).data = true := rfl
    rw [left]
    simp only [forall_mem_append_singleton, event, CognitiveState.AppendsPlain]
    tauto
  | withEvidence evidence =>
    have left := CognitiveState.withEvidence_eq_ok called
    have event : plain (CognitiveState.evidenceEvent evidence.evidenceId).data = true := rfl
    rw [left]
    simp only [forall_mem_append_singleton, event, CognitiveState.AppendsPlain]
    tauto
  | withRelation relation =>
    obtain ⟨-, -, left⟩ := CognitiveState.withRelation_eq_ok called
    have event : plain (CognitiveState.relationEvent relation.relationId
        relation.relationType).data = true := rfl
    rw [left]
    simp only [forall_mem_append_singleton, event, CognitiveState.AppendsPlain]
    tauto
  | withHypothesis hypothesis =>
    have left := CognitiveState.withHypothesis_eq_ok called
    have event : plain (CognitiveState.hypothesisEvent hypothesis.hypothesisId).data = true := rfl
    rw [left]
    simp only [forall_mem_append_singleton, event, CognitiveState.AppendsPlain]
    tauto
  | withActionTransition actionId nextState =>
    rcases CognitiveState.withActionTransition_eq_ok called with ⟨current, rfl⟩ | ⟨-, -, left⟩
    · have known : next.actionStates.get? actionId ≠ none := by
        rw [current]
        exact Option.some_ne_none nextState
      exact (and_iff_left known).symm
    · rw [left]
      simp only [forall_mem_append_singleton, plain_actionEvent, CognitiveState.AppendsPlain]
      tauto
  | invalidateFrom itemId reason =>
    obtain ⟨-, left⟩ := CognitiveState.invalidateFrom_eq_ok called
    rw [left]
    simp only [forall_mem_append_singleton, not_plain_invalidationEvent, CognitiveState.AppendsPlain]
    tauto
  | withMaterializedView viewId dependencyItemIds =>
    obtain ⟨-, left⟩ := CognitiveState.withMaterializedView_eq_ok called
    rw [left]
    exact (and_iff_left trivial).symm

theorem stateStep_plain_iff (state : CognitiveState) (call : StateCall) :
    (stateStep state call).Plain ↔ state.Plain ∧ KeepsPlain (state, call) := by
  unfold stateStep KeepsPlain
  cases called : state.apply call with
  | ok next =>
    rw [plain_iff_of_ok called]
    apply and_congr_right
    intro _
    exact ⟨fun appends _ _ => appends, fun appends => appends next rfl⟩
  | error _ => exact (and_iff_left fun _ same => nomatch same).symm

/-- No operation leaves the current schema version. -/
theorem stateStep_current (state : CognitiveState) (call : StateCall)
    (current : state.schemaVersion = cognitiveSchemaVersion) :
    (stateStep state call).schemaVersion = cognitiveSchemaVersion := by
  unfold stateStep
  cases called : state.apply call with
  | error _ => exact current
  | ok next =>
    cases call with
    | withEpistemicItem item => rw [(CognitiveState.withEpistemicItem_eq_ok called).2]
    | withEvidence evidence => rw [CognitiveState.withEvidence_eq_ok called]
    | withRelation relation =>
      rw [(CognitiveState.withRelation_eq_ok called).2.2]
      exact current
    | withHypothesis hypothesis =>
      rw [CognitiveState.withHypothesis_eq_ok called]
      exact current
    | withActionTransition actionId nextState =>
      rcases CognitiveState.withActionTransition_eq_ok called with ⟨-, rfl⟩ | ⟨-, -, left⟩
      · exact current
      · rw [left]
        exact current
    | invalidateFrom itemId reason =>
      rw [(CognitiveState.invalidateFrom_eq_ok called).2]
      exact current
    | withMaterializedView viewId dependencyItemIds =>
      rw [(CognitiveState.withMaterializedView_eq_ok called).2]
      exact current

end Steps

theorem initial_plain_iff (task : TaskSpec) : (CognitiveState.initial task).Plain ↔ task.Plain := by
  constructor
  · exact fun isPlain => isPlain.task
  · intro isPlain
    exact ⟨isPlain, List.forall_mem_nil _, List.forall_mem_nil _, List.forall_mem_nil _,
      List.forall_mem_nil _, List.forall_mem_nil _, rfl⟩

/-- **The round trip of a reached state.** -/
theorem roundTrips_iff (task : TaskSpec) (calls : List StateCall) :
    RoundTrips (run stateStep (CognitiveState.initial task) calls) ↔
      task.Plain ∧ ∀ entry ∈ trace stateStep (CognitiveState.initial task) calls,
        KeepsPlain entry := by
  have current : (run stateStep (CognitiveState.initial task) calls).schemaVersion =
      cognitiveSchemaVersion :=
    run_invariant (fun state call => stateStep_current state call) rfl calls
  rw [roundTrips_iff_plain current, run_iff_of_step stateStep_plain_iff, initial_plain_iff]

/-- The log of the state has `"from": None`, and the log of the imported one no `from`. -/
theorem proposal_loses_origin :
    ¬ RoundTrips (run stateStep (CognitiveState.initial Sample.task)
      [.withActionTransition "a" .proposed]) := by
  have current : (run stateStep (CognitiveState.initial Sample.task)
      [.withActionTransition "a" .proposed]).schemaVersion = cognitiveSchemaVersion := by
    rfl
  rw [roundTrips_iff_plain current]
  intro isPlain
  have logged : (run stateStep (CognitiveState.initial Sample.task)
      [.withActionTransition "a" .proposed]).eventLog =
        [CognitiveState.actionEvent "a" none .proposed] := by
    rfl
  have event := isPlain.eventLog (CognitiveState.actionEvent "a" none .proposed)
    (logged ▸ List.mem_singleton_self _)
  exact (plain_actionEvent "a" none .proposed).mp event rfl

end Dnc.Cognition
