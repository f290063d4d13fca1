/-
**The event log of a cognitive state.**

Every operation that changes the records of a state writes one entry of the event log. The abstract
state is what a log says of itself: `StateIndex` has the identifiers of the records, the states of
the actions and the items that an invalidation has named, and `StateIndex.note` brings it up to date
with one event. No two events are written alike (`StateEvent.entry_injective`).

* `log_replays`: after any run of operations the log is a list of events which, replayed, give the
  index of the state; so states with the same log have the same index.
* `action_lifecycle`: the states that the log has for an action are a beginning of the sequence
  PROPOSED, VALIDATED, …, CLOSED, with at most one alternative terminal behind it. Whatever is
  executed was authorized before, and what has ended does not go on.
-/

import Dnc.Cognition.State
import Dnc.Logic.Run

namespace Dnc.Cognition

open PyLib Logic

/-! ### Events -/

/-- An entry of the event log, as what it tells. -/
inductive StateEvent where
  | itemAppended (itemId : String) (status : EpistemicStatus)
  | evidenceAppended (evidenceId : String)
  | relationAppended (relationId : String) (relationType : RelationType)
  | hypothesisAppended (hypothesisId : String)
  | actionMoved (actionId : String) (previous : Option ActionLifecycleState)
      (nextState : ActionLifecycleState)
  | invalidated (rootItemId : String) (itemIds : Finset String) (reason : String)

namespace StateEvent

/-- The entry of the event log. -/
def entry : StateEvent → PyDict
  | itemAppended itemId status => CognitiveState.itemEvent itemId status
  | evidenceAppended evidenceId => CognitiveState.evidenceEvent evidenceId
  | relationAppended relationId relationType =>
    CognitiveState.relationEvent relationId relationType
  | hypothesisAppended hypothesisId => CognitiveState.hypothesisEvent hypothesisId
  | actionMoved actionId previous nextState =>
    CognitiveState.actionEvent actionId previous nextState
  | invalidated rootItemId itemIds reason =>
    CognitiveState.invalidationEvent rootItemId itemIds reason

theorem textTuple_injective : Function.Injective PyData.textTuple := by
  intro first second same
  unfold PyData.textTuple at same
  exact List.map_injective_iff.mpr (fun _ _ => PyData.str.inj) (PyData.tuple.inj same)

theorem optionalText_injective : Function.Injective
    (PyData.optional fun state : ActionLifecycleState => .str (PyEnum.value state)) := by
  intro first second same
  cases first <;> cases second
  · rfl
  · cases same
  · cases same
  · exact congrArg some (PyEnum.injective (PyData.str.inj same))

/-- **No two events are written alike.** -/
theorem entry_injective : Function.Injective entry := by
  intro first second same
  have fields := congrArg PyDict.fields same
  cases first <;> cases second <;>
    simp only [entry, CognitiveState.itemEvent, CognitiveState.evidenceEvent,
      CognitiveState.relationEvent, CognitiveState.hypothesisEvent, CognitiveState.actionEvent,
      CognitiveState.invalidationEvent,
      List.cons.injEq, Prod.mk.injEq, PyData.str.injEq, String.reduceEq, true_and, and_true,
      false_and, reduceCtorEq] at fields
  case itemAppended.itemAppended =>
    rw [fields.1, PyEnum.injective fields.2]
  case evidenceAppended.evidenceAppended => rw [fields]
  case relationAppended.relationAppended =>
    rw [fields.1, PyEnum.injective fields.2]
  case hypothesisAppended.hypothesisAppended => rw [fields]
  case actionMoved.actionMoved =>
    rw [fields.1, optionalText_injective fields.2.1, PyEnum.injective fields.2.2]
  case invalidated.invalidated =>
    obtain ⟨root, ids, reason⟩ := fields
    have listed := congrArg List.toFinset (textTuple_injective ids)
    rw [toFinset_sortedElems, toFinset_sortedElems] at listed
    rw [root, listed, reason]

/-- The state that an event says an action has gone into. -/
def movedTo (actionId : String) : StateEvent → Option ActionLifecycleState
  | actionMoved other _ nextState => if other = actionId then some nextState else none
  | _ => none

end StateEvent

/-! ### The index of a log -/

/-- What a log says of the state that wrote it. -/
structure StateIndex where
  items : List (String × EpistemicStatus) := []
  evidence : List String := []
  relations : List (String × RelationType) := []
  hypotheses : List String := []
  actionStates : Dict String ActionLifecycleState := ∅

namespace StateIndex

/-- The index brought up to date with one event. -/
def note (index : StateIndex) : StateEvent → StateIndex
  | .itemAppended itemId status => { index with items := index.items ++ [(itemId, status)] }
  | .evidenceAppended evidenceId => { index with evidence := index.evidence ++ [evidenceId] }
  | .relationAppended relationId relationType =>
    { index with relations := index.relations ++ [(relationId, relationType)] }
  | .hypothesisAppended hypothesisId =>
    { index with hypotheses := index.hypotheses ++ [hypothesisId] }
  | .actionMoved actionId _ nextState =>
    { index with actionStates := index.actionStates.set actionId nextState }
  | .invalidated _ _ _ => index

/-- The index of a log. -/
def replay (events : List StateEvent) : StateIndex := run note {} events

theorem replay_append (events : List StateEvent) (event : StateEvent) :
    replay (events ++ [event]) = (replay events).note event := run_append note {} events [event]

end StateIndex

/-- What must hold of a log for the event to be written behind it. -/
def StateEvent.Possible (index : StateIndex) : StateEvent → Prop
  | .itemAppended itemId _ => itemId ∉ index.items.map Prod.fst
  | .evidenceAppended evidenceId => evidenceId ∉ index.evidence
  | .relationAppended relationId _ => relationId ∉ index.relations.map Prod.fst
  | .hypothesisAppended hypothesisId => hypothesisId ∉ index.hypotheses
  | .actionMoved actionId previous nextState =>
    previous = index.actionStates.get? actionId ∧ nextState ∈ allowedActionStates previous
  | .invalidated rootItemId itemIds _ =>
    rootItemId ∈ itemIds ∧ ∀ itemId ∈ itemIds, itemId ∈ index.items.map Prod.fst

/-- Every event of the log could be written where it stands. -/
def Possible (events : List StateEvent) : Prop :=
  ∀ entry ∈ trace StateIndex.note {} events, entry.2.Possible entry.1

theorem possible_append {events : List StateEvent} {event : StateEvent} :
    Possible (events ++ [event]) ↔ Possible events ∧ event.Possible (.replay events) := by
  unfold Possible
  rw [trace_append]
  constructor
  · exact fun each => ⟨fun entry member => each entry (List.mem_append_left _ member),
      each _ (List.mem_append_right _ List.mem_cons_self)⟩
  · rintro ⟨each, last⟩ entry member
    rcases List.mem_append.mp member with earlier | final
    · exact each entry earlier
    · obtain rfl := List.mem_singleton.mp final
      exact last

/-! ### Action lifecycles -/

/-- A beginning of the sequence, or one that is cut short by an alternative terminal. -/
def Lifecycle (states : List ActionLifecycleState) : Prop :=
  ∃ count ≤ actionSequence.length, states = actionSequence.take count ∨
    (0 < count ∧ count < actionSequence.length ∧ ∃ terminal ∈ actionAlternativeTerminals,
      states = actionSequence.take count ++ [terminal])

/-- Behind the state at a place of the sequence, the next one is allowed or an alternative terminal,
unless it is the last. -/
theorem allowedActionStates_actionSequence {place : Nat} {current : ActionLifecycleState}
    (here : actionSequence[place]? = some current) :
    allowedActionStates (some current) =
      if place + 1 < actionSequence.length then
        (actionSequence[place + 1]?).toList ++ actionAlternativeTerminals
      else [] := by
  have every : ∀ place : Fin actionSequence.length,
      allowedActionStates (some actionSequence[place]) =
        if (place : Nat) + 1 < actionSequence.length then
          (actionSequence[(place : Nat) + 1]?).toList ++ actionAlternativeTerminals
        else [] := by decide
  obtain ⟨within, rfl⟩ := List.getElem?_eq_some_iff.mp here
  exact every ⟨place, within⟩

theorem allowedActionStates_terminal {terminal : ActionLifecycleState}
    (ends : terminal ∈ actionAlternativeTerminals) : allowedActionStates (some terminal) = [] :=
  if_pos (Or.inl ends)

/-- One transition further. -/
theorem Lifecycle.append {states : List ActionLifecycleState} (lifecycle : Lifecycle states)
    {nextState : ActionLifecycleState}
    (allowed : nextState ∈ allowedActionStates states.getLast?) :
    Lifecycle (states ++ [nextState]) := by
  obtain ⟨count, bounded, rfl | ⟨-, -, terminal, ends, rfl⟩⟩ := lifecycle
  · cases count with
    | zero =>
      have first : nextState = .proposed := List.mem_singleton.mp allowed
      exact ⟨1, by decide, Or.inl (congrArg (fun state => [state]) first)⟩
    | succ place =>
      have here : actionSequence[place]? = some actionSequence[place] :=
        List.getElem?_eq_getElem bounded
      have last : (actionSequence.take (place + 1)).getLast? = some actionSequence[place] := by
        rw [List.take_add_one, here, Option.toList_some, List.getLast?_append_of_ne_nil _
          (List.cons_ne_nil _ _), List.getLast?_singleton]
      rw [last, allowedActionStates_actionSequence here] at allowed
      split_ifs at allowed with more
      · rcases List.mem_append.mp allowed with next | ends
        · refine ⟨place + 2, more, Or.inl ?_⟩
          rw [List.take_add_one (i := place + 1), Option.mem_toList.mp next, Option.toList_some]
        · exact ⟨place + 1, bounded, Or.inr ⟨Nat.succ_pos _, more, nextState, ends, rfl⟩⟩
      · exact absurd allowed List.not_mem_nil
  · rw [List.getLast?_append_of_ne_nil _ (List.cons_ne_nil _ _), List.getLast?_singleton,
      allowedActionStates_terminal ends] at allowed
    exact absurd allowed List.not_mem_nil

/-- The states that the log has for an action, one after the other. -/
def statesOf (actionId : String) (events : List StateEvent) : List ActionLifecycleState :=
  events.filterMap (StateEvent.movedTo actionId)

theorem statesOf_append (actionId : String) (events : List StateEvent) (event : StateEvent) :
    statesOf actionId (events ++ [event]) =
      statesOf actionId events ++ (event.movedTo actionId).toList := by
  unfold statesOf
  rw [List.filterMap_append]
  cases moved : event.movedTo actionId with
  | none => rw [List.filterMap_cons_none moved, List.filterMap_nil, Option.toList_none]
  | some nextState => rw [List.filterMap_cons_some moved, List.filterMap_nil, Option.toList_some]

/-- **The lifecycle of an action**, read off a possible log: it ends in the state that the log
leaves the action in. -/
theorem lifecycle_of_possible (actionId : String) {events : List StateEvent}
    (possible : Possible events) : Lifecycle (statesOf actionId events) ∧
      (StateIndex.replay events).actionStates.get? actionId =
        (statesOf actionId events).getLast? := by
  induction events using List.reverseRecOn with
  | nil => exact ⟨⟨0, Nat.zero_le _, Or.inl rfl⟩, rfl⟩
  | append_singleton events event ih =>
    obtain ⟨earlier, here⟩ := possible_append.mp possible
    obtain ⟨lifecycle, current⟩ := ih earlier
    rw [StateIndex.replay_append, statesOf_append]
    cases moved : event.movedTo actionId with
    | none =>
      have kept : ((StateIndex.replay events).note event).actionStates.get? actionId =
          (StateIndex.replay events).actionStates.get? actionId := by
        cases event with
        | actionMoved other previous nextState =>
          have different : other ≠ actionId := fun same => by
            simp [StateEvent.movedTo, same] at moved
          exact Dict.get?_set_of_ne _ different.symm _
        | _ => rfl
      rw [kept, Option.toList_none, List.append_nil]
      exact ⟨lifecycle, current⟩
    | some nextState =>
      cases event with
      | actionMoved other previous reached =>
        have here' : (if other = actionId then some reached else none) = some nextState := moved
        obtain ⟨rfl, same⟩ := Option.ite_none_right_eq_some.mp here'
        obtain rfl := Option.some.inj same
        obtain ⟨rfl, allowed⟩ := here
        rw [current] at allowed
        refine ⟨lifecycle.append allowed, ?_⟩
        rw [Option.toList_some, List.getLast?_append_of_ne_nil _ (List.cons_ne_nil _ _),
          List.getLast?_singleton]
        exact Dict.get?_set_self _ _ _
      | _ => cases moved

/-! ### What a run writes -/

namespace CognitiveState

/-- What a state itself has of the index. -/
def index (state : CognitiveState) : StateIndex where
  items := state.epistemicItems.map fun item => (item.itemId, item.status)
  evidence := state.evidence.map Evidence.evidenceId
  relations := state.relations.map fun relation => (relation.relationId, relation.relationType)
  hypotheses := state.hypotheses.map fun hypothesis => hypothesis.hypothesisId
  actionStates := state.actionStates

/-- The log of the state is the events, and they say of the state what it is. -/
structure Represents (state : CognitiveState) (events : List StateEvent) : Prop where
  log : state.eventLog = events.map StateEvent.entry
  index : state.index = .replay events
  possible : Possible events
  sources : ∀ relation ∈ state.relations, relation.sourceId ∈ state.itemIds
  marks : ∀ item ∈ state.epistemicItems, item.invalidationStatus = .current →
    ∀ rootItemId itemIds reason, .invalidated rootItemId itemIds reason ∈ events →
      item.itemId ∉ itemIds
  named : ∀ rootItemId itemIds reason, .invalidated rootItemId itemIds reason ∈ events →
    ∀ itemId ∈ itemIds, itemId ∈ state.itemIds

variable {state next : CognitiveState} {events : List StateEvent} {event : StateEvent}

theorem fst_items_index : state.index.items.map Prod.fst = state.itemIds :=
  List.map_map

theorem fst_relations_index :
    state.index.relations.map Prod.fst = state.relations.map fun relation => relation.relationId :=
  List.map_map

theorem withEvidence_fresh {evidence : Evidence} (added : state.withEvidence evidence = .ok next) :
    evidence.evidenceId ∉ state.evidence.map Evidence.evidenceId := by
  unfold withEvidence at added
  split_ifs at added with known
  exact known

theorem withRelation_fresh {relation : EpistemicRelation}
    (added : state.withRelation relation = .ok next) :
    relation.relationId ∉ state.relations.map fun existing => existing.relationId := by
  unfold withRelation at added
  split_ifs at added with unknown known
  exact known

theorem withHypothesis_fresh {hypothesis : Hypothesis}
    (added : state.withHypothesis hypothesis = .ok next) :
    hypothesis.hypothesisId ∉ state.hypotheses.map fun existing => existing.hypothesisId := by
  unfold withHypothesis at added
  split_ifs at added with known
  exact known

/-- What an invalidation leaves of an item, but for its status. -/
theorem map_invalidateItems {β : Type} {f : EpistemicItem → β} {invalid : Finset String}
    (same : ∀ item status, f (item.withInvalidationStatus status) = f item) :
    (state.invalidateItems invalid).map f = state.epistemicItems.map f := by
  unfold invalidateItems
  rw [List.map_map]
  refine List.map_congr_left fun item _ => ?_
  show f (if _ then _ else _) = _
  split_ifs
  · exact same item _
  · rfl

/-- What an invalidation reaches is an item. -/
theorem mem_itemIds_of_invalid
    (sources : ∀ relation ∈ state.relations, relation.sourceId ∈ state.itemIds)
    {itemId other : String} (known : itemId ∈ state.itemIds)
    (member : other ∈ state.invalidClosure itemId) : other ∈ state.itemIds := by
  rcases (mem_invalidClosure.mp member).cases_head with rfl | ⟨middle, depends, -⟩
  · exact known
  · rcases depends with ⟨item, listed, rfl, -⟩ | ⟨relation, listed, -, rfl, -⟩
    · exact List.mem_map_of_mem listed
    · exact sources relation listed

/-- One event more. -/
theorem Represents.append (represents : state.Represents events)
    (log : next.eventLog = state.eventLog ++ [event.entry])
    (index : next.index = state.index.note event) (possible : event.Possible state.index)
    (sources : ∀ relation ∈ next.relations, relation.sourceId ∈ next.itemIds)
    (kept : ∀ itemId ∈ state.itemIds, itemId ∈ next.itemIds)
    (current : ∀ item ∈ next.epistemicItems, item.invalidationStatus = .current →
      (item ∈ state.epistemicItems ∨ item.itemId ∉ state.itemIds) ∧
        ∀ rootItemId itemIds reason, event = .invalidated rootItemId itemIds reason →
          item.itemId ∉ itemIds) : next.Represents (events ++ [event]) where
  log := by rw [log, represents.log, List.map_append, List.map_singleton]
  index := by rw [index, represents.index, StateIndex.replay_append]
  possible := possible_append.mpr ⟨represents.possible, represents.index ▸ possible⟩
  sources := sources
  marks item member isCurrent rootItemId itemIds reason listed := by
    obtain ⟨origin, unmarked⟩ := current item member isCurrent
    rcases List.mem_append.mp listed with earlier | final
    · rcases origin with old | fresh
      · exact represents.marks item old isCurrent rootItemId itemIds reason earlier
      · exact fun named => fresh (represents.named rootItemId itemIds reason earlier _ named)
    · exact unmarked rootItemId itemIds reason (List.mem_singleton.mp final).symm
  named rootItemId itemIds reason listed itemId member := by
    rcases List.mem_append.mp listed with earlier | final
    · exact kept itemId (represents.named rootItemId itemIds reason earlier itemId member)
    · have isEvent := List.mem_singleton.mp final
      rw [← isEvent] at possible
      have known := possible.2 itemId member
      rw [fst_items_index] at known
      exact kept itemId known

/-- An event that is no invalidation, of an operation that leaves the items alone. -/
theorem Represents.append_same {data : CognitiveStateData} (represents : state.Represents events)
    (left : next.toCognitiveStateData = data) (possible : event.Possible state.index)
    (other : ∀ rootItemId itemIds reason, event ≠ .invalidated rootItemId itemIds reason)
    (items : data.epistemicItems = state.epistemicItems)
    (log : data.eventLog = state.eventLog ++ [event.entry])
    (sources : ∀ relation ∈ data.relations, relation.sourceId ∈ state.itemIds)
    (indexed : ∀ valid, CognitiveState.index ⟨data, valid⟩ = state.index.note event) :
    next.Represents (events ++ [event]) := by
  obtain ⟨_, valid⟩ := next
  obtain rfl := left
  have ids : itemIds ⟨_, valid⟩ = state.itemIds := congrArg (List.map _) items
  refine represents.append log (indexed valid) possible (ids ▸ sources)
    (fun itemId member => ids ▸ member)
    fun item member _ => ⟨Or.inl (items ▸ member), fun rootItemId itemIds reason same => ?_⟩
  exact absurd same (other rootItemId itemIds reason)

theorem represents_step (represents : state.Represents events) (call : StateCall) :
    ∃ more, (stateStep state call).Represents (events ++ more) := by
  unfold stateStep
  cases applied : state.apply call with
  | error error => exact ⟨[], by rwa [List.append_nil]⟩
  | ok next =>
    dsimp only
    cases call with
    | withEpistemicItem item =>
      obtain ⟨isNew, left⟩ := withEpistemicItem_eq_ok applied
      obtain ⟨_, valid⟩ := next
      obtain rfl := left
      have ids : itemIds ⟨_, valid⟩ = state.itemIds ++ [item.itemId] := List.map_append
      refine ⟨[.itemAppended item.itemId item.status], represents.append rfl ?_ ?_ ?_ ?_ ?_⟩
      · simp only [index, List.map_append, List.map_singleton]
        rfl
      · show item.itemId ∉ state.index.items.map Prod.fst
        rwa [fst_items_index]
      · rw [ids]
        exact fun relation member => List.mem_append_left _ (represents.sources relation member)
      · rw [ids]
        exact fun itemId member => List.mem_append_left _ member
      · refine fun other member _ => ⟨?_, fun _ _ _ same => by cases same⟩
        rcases List.mem_append.mp member with old | new
        · exact Or.inl old
        · obtain rfl := List.mem_singleton.mp new
          exact Or.inr isNew
    | withEvidence evidence =>
      refine ⟨[.evidenceAppended evidence.evidenceId],
        represents.append_same (withEvidence_eq_ok applied) (withEvidence_fresh applied)
          (fun _ _ _ same => by cases same) rfl rfl represents.sources fun valid => ?_⟩
      simp only [index, List.map_append, List.map_singleton]
      rfl
    | withRelation relation =>
      obtain ⟨source, -, left⟩ := withRelation_eq_ok applied
      refine ⟨[.relationAppended relation.relationId relation.relationType],
        represents.append_same left ?_ (fun _ _ _ same => by cases same) rfl rfl ?_ fun valid => ?_⟩
      · show relation.relationId ∉ state.index.relations.map Prod.fst
        rw [fst_relations_index]
        exact withRelation_fresh applied
      · intro other member
        rcases List.mem_append.mp member with old | new
        · exact represents.sources other old
        · obtain rfl := List.mem_singleton.mp new
          exact source
      · simp only [index, List.map_append, List.map_singleton]
        rfl
    | withHypothesis hypothesis =>
      refine ⟨[.hypothesisAppended hypothesis.hypothesisId],
        represents.append_same (withHypothesis_eq_ok applied) (withHypothesis_fresh applied)
          (fun _ _ _ same => by cases same) rfl rfl represents.sources fun valid => ?_⟩
      simp only [index, List.map_append, List.map_singleton]
      rfl
    | withActionTransition actionId nextState =>
      rcases withActionTransition_eq_ok applied with ⟨-, rfl⟩ | ⟨-, allowed, left⟩
      · exact ⟨[], by rwa [List.append_nil]⟩
      · exact ⟨[.actionMoved actionId (state.actionStates.get? actionId) nextState],
          represents.append_same left ⟨rfl, allowed⟩ (fun _ _ _ same => by cases same) rfl rfl
            represents.sources fun _ => rfl⟩
    | invalidateFrom itemId reason =>
      obtain ⟨known, left⟩ := invalidateFrom_eq_ok applied
      obtain ⟨_, valid⟩ := next
      obtain rfl := left
      have ids : itemIds ⟨_, valid⟩ = state.itemIds := map_invalidateItems fun _ _ => rfl
      refine ⟨[.invalidated itemId (state.invalidClosure itemId) reason],
        represents.append rfl ?_ ⟨?_, ?_⟩ ?_ ?_ ?_⟩
      · have same : index ⟨_, valid⟩ = state.index := by
          have entries : (state.invalidateItems (state.invalidClosure itemId)).map
              (fun item => (item.itemId, item.status)) =
                state.epistemicItems.map fun item => (item.itemId, item.status) :=
            map_invalidateItems fun _ _ => rfl
          unfold index
          rw [← entries]
        rw [same]
        rfl
      · exact mem_invalidClosure.mpr Relation.ReflTransGen.refl
      · rw [fst_items_index]
        exact fun other member => mem_itemIds_of_invalid represents.sources known member
      · rw [ids]
        exact represents.sources
      · rw [ids]
        exact fun _ member => member
      · intro item member isCurrent
        obtain ⟨origin, listed, rfl⟩ := List.mem_map.mp member
        by_cases marked : origin.itemId ∈ state.invalidClosure itemId ∧
            origin.invalidationStatus = .current
        · rw [if_pos marked] at isCurrent
          cases isCurrent
        · rw [if_neg marked] at isCurrent ⊢
          refine ⟨Or.inl listed, fun rootItemId itemIds why same named => ?_⟩
          obtain ⟨-, rfl, -⟩ := StateEvent.invalidated.inj same
          exact marked ⟨named, isCurrent⟩
    | withMaterializedView viewId dependencyItemIds =>
      obtain ⟨-, left⟩ := withMaterializedView_eq_ok applied
      refine ⟨[], ?_⟩
      rw [List.append_nil]
      have items : next.epistemicItems = state.epistemicItems := by rw [left]
      have ids : next.itemIds = state.itemIds := by
        unfold itemIds
        rw [items]
      refine ⟨?_, ?_, represents.possible, ?_, items ▸ represents.marks, ids ▸ represents.named⟩
      · rw [left]
        exact represents.log
      · rw [← represents.index]
        unfold index
        rw [left]
      · rw [left, ids]
        exact represents.sources

theorem represents_run (task : TaskSpec) (calls : List StateCall) :
    ∃ events, (run stateStep (initial task) calls).Represents events := by
  induction calls using List.reverseRecOn with
  | nil =>
    exact ⟨[], rfl, rfl, List.forall_mem_nil _, List.forall_mem_nil _, List.forall_mem_nil _,
      fun _ _ _ member => absurd member List.not_mem_nil⟩
  | append_singleton before call ih =>
    obtain ⟨events, represents⟩ := ih
    obtain ⟨more, represents⟩ := represents_step represents call
    rw [run_append]
    exact ⟨events ++ more, represents⟩

/-- **The log replays to the state.** After any run the log is a list of events, each of which could
be written where it stands; replayed they give the index of the state, and no item that they say was
invalidated is CURRENT. States with the same log have the same index. -/
theorem log_replays (task other : TaskSpec) (calls more : List StateCall) :
    let state := run stateStep (initial task) calls
    let twin := run stateStep (initial other) more
    (∃ events, state.eventLog = events.map StateEvent.entry ∧ Possible events ∧
      state.index = .replay events ∧
      ∀ rootItemId itemIds reason, .invalidated rootItemId itemIds reason ∈ events →
        ∀ item ∈ state.epistemicItems, item.itemId ∈ itemIds →
          item.invalidationStatus ≠ .current) ∧
    (state.eventLog = twin.eventLog → state.index = twin.index) := by
  intro state twin
  obtain ⟨events, represents⟩ := represents_run task calls
  obtain ⟨others, twinRepresents⟩ := represents_run other more
  refine ⟨⟨events, represents.log, represents.possible, represents.index,
    fun rootItemId itemIds reason listed item member named isCurrent =>
      represents.marks item member isCurrent rootItemId itemIds reason listed named⟩,
    fun same => ?_⟩
  rw [represents.log, twinRepresents.log] at same
  rw [represents.index, twinRepresents.index,
    List.map_injective_iff.mpr StateEvent.entry_injective same]

/-- **The lifecycle of every action** in every run: the states that the log has for it are a
beginning of the sequence, or one that an alternative terminal has cut short, and the state has it
in the last of them. -/
theorem action_lifecycle (task : TaskSpec) (calls : List StateCall) (actionId : String) :
    ∃ events, (run stateStep (initial task) calls).eventLog = events.map StateEvent.entry ∧
      Lifecycle (statesOf actionId events) ∧
      (run stateStep (initial task) calls).actionStates.get? actionId =
        (statesOf actionId events).getLast? := by
  obtain ⟨events, represents⟩ := represents_run task calls
  obtain ⟨lifecycle, last⟩ := lifecycle_of_possible actionId represents.possible
  rw [← represents.index] at last
  exact ⟨events, represents.log, lifecycle, last⟩

end CognitiveState

end Dnc.Cognition
