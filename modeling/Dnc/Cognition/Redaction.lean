/-
**What a redacted export mentions.**

`redacted_export` removes the records whose security labels are not all allowed, and of the rest of
the state what it finds to depend on them: events, views, the answer, action states and metadata.
The fields of the task and of the records it keeps are exported as they are.

`leakFree_iff`: no string of the exported document is the identifier of a record outside the labels
exactly when the task, the kept records, the schema version and the names of the kept views mention
none, and the kept events none in a place that the search for identifiers passes over
(`Unmentioned`, `sealedTexts`). Answers and dependencies of views need no condition: an identifier
that they keep is the one of a kept record.
-/

import Dnc.Cognition.RoundTrip

namespace Dnc.Cognition

open PyLib Logic

/-! ### The export -/

section Source

variable (state : CognitiveState) (allowed : Finset String)

/-- `set(labels) <= allowed_labels`. -/
def within (labels : List String) : Bool := decide (labels.toFinset ⊆ allowed)

/-- `visible_item_ids`. -/
def visibleItemIds : Finset String :=
  ((state.epistemicItems.filter fun item => within allowed item.securityLabels).map
    fun item => item.itemId).toFinset

/-- `visible_history`. -/
def visibleHistory : List EpistemicItem :=
  state.epistemicHistory.filter fun item => within allowed item.securityLabels

/-- `visible_evidence_ids`. -/
def visibleEvidenceIds : Finset String :=
  ((state.evidence.filter fun evidence => within allowed evidence.securityLabels).map
    Evidence.evidenceId).toFinset

/-- `visible_hypothesis_ids`. -/
def visibleHypothesisIds : Finset String :=
  ((state.hypotheses.filter fun hypothesis => within allowed hypothesis.securityLabels).map
    fun hypothesis => hypothesis.hypothesisId).toFinset

/-- `visible_relation_ids`. -/
def visibleRelationIds : Finset String :=
  ((state.relations.filter fun relation => within allowed relation.securityLabels &&
    decide (relation.sourceId ∈ visibleItemIds state allowed) &&
      decide (relation.targetId ∈ visibleItemIds state allowed)).map
        fun relation => relation.relationId).toFinset

/-- `hidden_ids`. -/
def hiddenIds : Finset String :=
  (state.itemIds.toFinset \ visibleItemIds state allowed) ∪
    ((state.evidence.map Evidence.evidenceId).toFinset \ visibleEvidenceIds state allowed) ∪
      ((state.hypotheses.map fun hypothesis => hypothesis.hypothesisId).toFinset \
        visibleHypothesisIds state allowed) ∪
        ((state.relations.map fun relation => relation.relationId).toFinset \
          visibleRelationIds state allowed)

end Source

mutual

/-- `_contains_hidden_identifier`. -/
def containsHiddenIdentifier (hidden : Finset String) : PyData → Bool
  | .str value => decide (value ∈ hidden)
  | .dict fields => anyFieldHidden hidden fields
  | .list items => anyItemHidden hidden items
  | .tuple items => anyItemHidden hidden items
  | .set false items => anyItemHidden hidden items
  | _ => false

def anyItemHidden (hidden : Finset String) : List PyData → Bool
  | [] => false
  | item :: rest => containsHiddenIdentifier hidden item || anyItemHidden hidden rest

def anyFieldHidden (hidden : Finset String) : List (String × PyData) → Bool
  | [] => false
  | (_, value) :: rest => containsHiddenIdentifier hidden value || anyFieldHidden hidden rest

end

section Source

variable (state : CognitiveState) (allowed : Finset String)

/-- `set(dependencies) <= visible_item_ids`. -/
def viewVisible (dependencies : List String) : Bool :=
  decide (dependencies.toFinset ⊆ visibleItemIds state allowed)

/-- The test on the elements of `invalidated_views`. -/
def invalidatedViewVisible (viewId : String) : Bool :=
  (state.materializedViews.get? viewId).any (viewVisible state allowed)

/-- `state.answer_state_id if state.answer_state_id in visible_item_ids else None`. -/
def visibleAnswer : Option String :=
  state.answerStateId.filter fun answerId => decide (answerId ∈ visibleItemIds state allowed)

/-- The fields that `replace` is given. -/
def redacted : CognitiveStateData :=
  { state.toCognitiveStateData with
    epistemicItems := state.epistemicItems.filter fun item =>
      decide (item.itemId ∈ visibleItemIds state allowed)
    epistemicHistory := visibleHistory state allowed
    evidence := state.evidence.filter fun evidence =>
      decide (evidence.evidenceId ∈ visibleEvidenceIds state allowed)
    relations := state.relations.filter fun relation =>
      decide (relation.relationId ∈ visibleRelationIds state allowed)
    hypotheses := state.hypotheses.filter fun hypothesis =>
      decide (hypothesis.hypothesisId ∈ visibleHypothesisIds state allowed)
    materializedViews := .ofItems (state.materializedViews.entries.filter fun entry =>
      viewVisible state allowed entry.2)
    invalidatedViews := state.invalidatedViews.filter (invalidatedViewVisible state allowed)
    eventLog := state.eventLog.filter fun event =>
      !containsHiddenIdentifier (hiddenIds state allowed) event.data
    actionStates := ∅
    answerStateId := visibleAnswer state allowed
    metadata := ∅ }

/-- `redacted_export`. -/
def redactedExport : Except PyError String := do
  if ¬ within allowed state.task.securityLabels then
    throw (.dncPolicyError "task security labels are outside the export scope")
  let redacted ← CognitiveState.ofData (redacted state allowed)
  return canonicalJson (.dict redacted.asDict)

end Source

/-! ### Leaks -/

/-- The identifier of a record whose own labels are not all allowed. -/
def Hidden (state : CognitiveState) (allowed : Finset String) (id : String) : Prop :=
  (∃ item ∈ state.epistemicItems, item.itemId = id ∧ within allowed item.securityLabels = false) ∨
    (∃ evidence ∈ state.evidence, evidence.evidenceId = id ∧
      within allowed evidence.securityLabels = false) ∨
    (∃ hypothesis ∈ state.hypotheses, hypothesis.hypothesisId = id ∧
      within allowed hypothesis.securityLabels = false) ∨
    ∃ relation ∈ state.relations, relation.relationId = id ∧
      within allowed relation.securityLabels = false

/-- No string of an exported document is a hidden identifier. -/
def LeakFree (state : CognitiveState) (allowed : Finset String) : Prop :=
  ∀ text, redactedExport state allowed = .ok text → ∀ document, Json.loads text = some document →
    ∀ id, Hidden state allowed id → id ∉ (PyData.ofJson document).texts

/-- A string of the fields is the identifier. -/
def Mentions (fields : List (String × PyData)) (id : String) : Prop :=
  ∃ field ∈ fields, id ∈ field.2.texts

mutual

/-- The strings that `_contains_hidden_identifier` does not come to: what stands in a `frozenset`, in
a member of an enumeration, in `bytes` or in an object. -/
def sealedTexts : PyData → List String
  | .list items => sealedItems items
  | .tuple items => sealedItems items
  | .set false items => sealedItems items
  | .dict fields => sealedFields fields
  | .set true items => PyData.textsItems items
  | .member _ value => [value]
  | .object _ fields => PyData.textsFields fields
  | _ => []

def sealedItems : List PyData → List String
  | [] => []
  | item :: rest => sealedTexts item ++ sealedItems rest

def sealedFields : List (String × PyData) → List String
  | [] => []
  | (_, value) :: rest => sealedTexts value ++ sealedFields rest

end

/-- Nothing that is exported as it is mentions the identifier. A record is kept when its identifier
is one of a record within the labels. -/
structure Unmentioned (state : CognitiveState) (allowed : Finset String) (id : String) : Prop where
  task : ¬ Mentions state.task.asDict id
  schemaVersion : id ≠ state.schemaVersion
  epistemicItems : ∀ item ∈ state.epistemicItems, item.itemId ∈ visibleItemIds state allowed →
    ¬ Mentions item.asDict id
  epistemicHistory : ∀ item ∈ state.epistemicHistory, within allowed item.securityLabels = true →
    ¬ Mentions item.asDict id
  evidence : ∀ evidence ∈ state.evidence,
    evidence.evidenceId ∈ visibleEvidenceIds state allowed → ¬ Mentions evidence.asDict id
  relations : ∀ relation ∈ state.relations,
    relation.relationId ∈ visibleRelationIds state allowed → ¬ Mentions relation.asDict id
  hypotheses : ∀ hypothesis ∈ state.hypotheses,
    hypothesis.hypothesisId ∈ visibleHypothesisIds state allowed → ¬ Mentions hypothesis.asDict id
  invalidatedViews : ∀ viewId ∈ state.invalidatedViews,
    invalidatedViewVisible state allowed viewId = true → id ≠ viewId
  eventLog : ∀ event ∈ state.eventLog,
    containsHiddenIdentifier (hiddenIds state allowed) event.data = false →
      id ∉ sealedTexts event.data

/-! ### The strings of the export -/

section Texts

theorem mem_texts_canonical_dict {fields : List (String × PyData)} {text : String}
    (each : ∀ field ∈ fields, text ∈ (canonical field.2).texts ↔ text ∈ field.2.texts) :
    text ∈ (canonical (.dict fields)).texts ↔ text ∈ (PyData.dict fields).texts := by
  rw [canonical_dict, PyData.mem_texts_dict, PyData.mem_texts_dict]
  constructor
  · rintro ⟨field, member, inside⟩
    obtain ⟨origin, kept, rfl⟩ := List.mem_map.mp (mem_sortBy.mp member)
    have listed := List.mem_of_mem_filter kept
    exact ⟨origin, listed, (each origin listed).mp inside⟩
  · rintro ⟨field, listed, inside⟩
    -- an entry with a string in it is not `None`
    have kept : field ∈ fields.filter fun field => !field.2.isNone := by
      apply List.mem_filter.mpr ⟨listed, ?_⟩
      cases absent : field.2 <;> rw [absent] at inside
      case null => cases inside
      all_goals rfl
    exact ⟨PyData.mapEntry canonical field, mem_sortBy.mpr (List.mem_map_of_mem kept),
      (each field listed).mpr inside⟩

/-- The canonical form keeps the strings of a value. -/
theorem mem_texts_canonical {value : PyData} {text : String} :
    text ∈ (canonical value).texts ↔ text ∈ value.texts := by
  induction value using PyData.induct with
  | list items ih =>
    rw [canonical_list, PyData.mem_texts_list, PyData.mem_texts_list]
    simp only [List.mem_map, exists_exists_and_eq_and]
    exact exists_congr fun item => and_congr_right fun member => ih item member
  | tuple items ih =>
    rw [canonical_tuple, PyData.mem_texts_list, PyData.mem_texts_tuple]
    simp only [List.mem_map, exists_exists_and_eq_and]
    exact exists_congr fun item => and_congr_right fun member => ih item member
  | set frozen items ih =>
    rw [canonical_set, PyData.mem_texts_list, PyData.mem_texts_set]
    simp only [List.mem_map, mem_sortBy, exists_exists_and_eq_and]
    exact exists_congr fun item => and_congr_right fun member => ih item member
  | dict fields ih => exact mem_texts_canonical_dict ih
  | object className fields ih =>
    rw [canonical_object, PyData.texts_object]
    exact mem_texts_canonical_dict ih
  | _ => rfl

theorem anyItemHidden_iff {hidden : Finset String} {items : List PyData} :
    anyItemHidden hidden items = true ↔
      ∃ item ∈ items, containsHiddenIdentifier hidden item = true := by
  induction items with
  | nil => simp [anyItemHidden]
  | cons item rest ih => simp [anyItemHidden, ih]

theorem anyFieldHidden_iff {hidden : Finset String} {fields : List (String × PyData)} :
    anyFieldHidden hidden fields = true ↔
      ∃ field ∈ fields, containsHiddenIdentifier hidden field.2 = true := by
  induction fields with
  | nil => simp [anyFieldHidden]
  | cons field rest ih => simp [anyFieldHidden, ih]

theorem mem_sealedItems {items : List PyData} {text : String} :
    text ∈ sealedItems items ↔ ∃ item ∈ items, text ∈ sealedTexts item := by
  induction items with
  | nil => simp [sealedItems]
  | cons item rest ih => simp [sealedItems, ih]

theorem mem_sealedFields {fields : List (String × PyData)} {text : String} :
    text ∈ sealedFields fields ↔ ∃ field ∈ fields, text ∈ sealedTexts field.2 := by
  induction fields with
  | nil => simp [sealedFields]
  | cons field rest ih => simp [sealedFields, ih]

theorem mem_texts_of_sealed {value : PyData} {text : String} (inside : text ∈ sealedTexts value) :
    text ∈ value.texts := by
  induction value using PyData.induct with
  | list items ih | tuple items ih =>
    rw [sealedTexts, mem_sealedItems] at inside
    rw [PyData.texts, PyData.mem_textsItems]
    exact inside.imp fun item both => ⟨both.1, ih item both.1 both.2⟩
  | set frozen items ih =>
    cases frozen with
    | true => exact inside
    | false =>
      rw [sealedTexts, mem_sealedItems] at inside
      rw [PyData.mem_texts_set]
      exact inside.imp fun item both => ⟨both.1, ih item both.1 both.2⟩
  | dict fields ih =>
    rw [sealedTexts, mem_sealedFields] at inside
    rw [PyData.mem_texts_dict]
    exact inside.imp fun field both => ⟨both.1, ih field both.1 both.2⟩
  | member | object => exact inside
  | _ => cases inside

/-- The search comes to every string that is not sealed. -/
theorem contains_or_sealed {hidden : Finset String} {value : PyData} {id : String}
    (isHidden : id ∈ hidden) (inside : id ∈ value.texts) :
    containsHiddenIdentifier hidden value = true ∨ id ∈ sealedTexts value := by
  have items : ∀ members : List PyData, (∃ item ∈ members, id ∈ item.texts) →
      (∀ item ∈ members, id ∈ item.texts →
        containsHiddenIdentifier hidden item = true ∨ id ∈ sealedTexts item) →
      anyItemHidden hidden members = true ∨ id ∈ sealedItems members := by
    rintro members ⟨item, listed, within⟩ each
    rw [anyItemHidden_iff, mem_sealedItems]
    exact (each item listed within).imp (⟨item, listed, ·⟩) (⟨item, listed, ·⟩)
  induction value using PyData.induct with
  | list members ih => exact items members (PyData.mem_texts_list.mp inside) ih
  | tuple members ih => exact items members (PyData.mem_texts_tuple.mp inside) ih
  | set frozen members ih =>
    cases frozen with
    | true => exact Or.inr inside
    | false => exact items members (PyData.mem_texts_set.mp inside) ih
  | dict fields ih =>
    obtain ⟨field, listed, within⟩ := PyData.mem_texts_dict.mp inside
    rw [containsHiddenIdentifier, anyFieldHidden_iff, sealedTexts, mem_sealedFields]
    exact (ih field listed within).imp (⟨field, listed, ·⟩) (⟨field, listed, ·⟩)
  | str text =>
    obtain rfl : id = text := List.mem_singleton.mp inside
    exact Or.inl (decide_eq_true isHidden)
  | member | object => exact Or.inr inside
  | _ => cases inside

/-- The strings of a tuple of records. -/
theorem mem_texts_records {α : Type} {records : List α} {asDict : α → List (String × PyData)}
    {text : String} :
    text ∈ (PyData.tuple (records.map fun record => .dict (asDict record))).texts ↔
      ∃ record ∈ records, Mentions (asDict record) text := by
  rw [PyData.mem_texts_tuple]
  simp only [List.mem_map, exists_exists_and_eq_and, PyData.mem_texts_dict]
  rfl

theorem mem_texts_optionalText {value : Option String} {text : String} :
    text ∈ (optionalText value).texts ↔ value = some text := by
  cases value with
  | none => exact iff_of_false (fun inside => nomatch inside) (fun same => nomatch same)
  | some other =>
    rw [Option.some_inj, eq_comm]
    exact List.mem_singleton

theorem texts_optionalNumber (value : Option PyNumber) : (optionalNumber value).texts = [] := by
  rcases value with _ | _ | _ <;> rfl

theorem mem_texts_views {views : Dict String (List String)} {text : String} :
    text ∈ (PyData.dict (views.entries.map (PyData.mapEntry .textTuple))).texts ↔
      ∃ entry ∈ views.entries, text ∈ entry.2 := by
  rw [PyData.mem_texts_dict]
  simp only [List.mem_map, exists_exists_and_eq_and, PyData.mapEntry, PyData.mem_texts_textTuple]

theorem mem_texts_events {events : List PyDict} {text : String} :
    text ∈ (PyData.tuple (events.map PyDict.data)).texts ↔
      ∃ event ∈ events, text ∈ event.data.texts := by
  rw [PyData.mem_texts_tuple]
  simp only [List.mem_map, exists_exists_and_eq_and]

theorem mem_texts_str {value text : String} : text ∈ (PyData.str value).texts ↔ text = value :=
  List.mem_singleton

theorem texts_bool (value : Bool) : (PyData.bool value).texts = [] := rfl

/-- The strings of a state's dictionary, where it has no action states. -/
theorem mentions_state_iff {data : CognitiveStateData} (noActions : data.actionStates = ∅)
    {text : String} :
    Mentions data.asDict text ↔
      Mentions data.task.asDict text ∨ text = data.schemaVersion ∨
      (∃ item ∈ data.epistemicItems, Mentions item.asDict text) ∨
      (∃ item ∈ data.epistemicHistory, Mentions item.asDict text) ∨
      (∃ evidence ∈ data.evidence, Mentions evidence.asDict text) ∨
      (∃ relation ∈ data.relations, Mentions relation.asDict text) ∨
      (∃ hypothesis ∈ data.hypotheses, Mentions hypothesis.asDict text) ∨
      (∃ entry ∈ data.materializedViews.entries, text ∈ entry.2) ∨
      text ∈ data.invalidatedViews ∨ (∃ event ∈ data.eventLog, text ∈ event.data.texts) ∨
      data.answerStateId = some text ∨ text ∈ data.metadata.data.texts := by
  have actions : (PyData.dict (data.actionStates.entries.map (PyData.mapEntry enumText))).texts =
      [] := by
    rw [noActions]
    rfl
  have task : text ∈ (PyData.dict data.task.asDict).texts ↔ Mentions data.task.asDict text :=
    PyData.mem_texts_dict
  unfold Mentions CognitiveStateData.asDict
  simp only [List.exists_mem_cons_iff, mem_texts_str, mem_texts_records, mem_texts_views,
    mem_texts_events, PyData.mem_texts_textTuple, mem_texts_optionalText, texts_optionalNumber,
    texts_bool, actions, task, List.not_mem_nil, false_and, exists_false, or_false, false_or]
  rfl

end Texts

/-! ### What is kept -/

section Kept

variable {state : CognitiveState} {allowed : Finset String} {id : String}

theorem mem_visibleItemIds : id ∈ visibleItemIds state allowed ↔
    ∃ item ∈ state.epistemicItems, within allowed item.securityLabels = true ∧ item.itemId = id := by
  simp only [visibleItemIds, List.mem_toFinset, List.mem_map, List.mem_filter, and_assoc]

/-- The identifier of an item is mentioned by it. -/
theorem mentions_item (item : EpistemicItem) : Mentions item.asDict item.itemId :=
  ⟨("item_id", .str item.itemId), List.mem_cons_self, List.mem_singleton_self _⟩

theorem mentions_evidence (evidence : Evidence) : Mentions evidence.asDict evidence.evidenceId := by
  cases evidence
  · exact ⟨_, List.mem_cons_self, List.mem_singleton_self _⟩
  · exact ⟨_, List.mem_cons_self, List.mem_singleton_self _⟩

theorem mentions_relation (relation : EpistemicRelation) :
    Mentions relation.asDict relation.relationId :=
  ⟨_, List.mem_cons_self, List.mem_singleton_self _⟩

theorem mentions_hypothesis (hypothesis : Hypothesis) :
    Mentions hypothesis.asDict hypothesis.hypothesisId :=
  ⟨_, List.mem_cons_self, List.mem_singleton_self _⟩

/-- No kept item has an identifier that nothing mentions. -/
theorem Unmentioned.not_visible (unmentioned : Unmentioned state allowed id) :
    id ∉ visibleItemIds state allowed := by
  intro visible
  obtain ⟨item, listed, -, rfl⟩ := mem_visibleItemIds.mp visible
  exact unmentioned.epistemicItems item listed visible (mentions_item item)

/-- A hidden identifier that no kept record mentions is in `hidden_ids`. -/
theorem Unmentioned.mem_hiddenIds (unmentioned : Unmentioned state allowed id)
    (hidden : Hidden state allowed id) : id ∈ hiddenIds state allowed := by
  simp only [hiddenIds, Finset.mem_union, Finset.mem_sdiff, List.mem_toFinset]
  rcases hidden with ⟨item, listed, rfl, -⟩ | ⟨evidence, listed, rfl, -⟩ |
    ⟨hypothesis, listed, rfl, -⟩ | ⟨relation, listed, rfl, -⟩
  · exact Or.inl (Or.inl (Or.inl ⟨List.mem_map_of_mem listed, unmentioned.not_visible⟩))
  · refine Or.inl (Or.inl (Or.inr ⟨List.mem_map_of_mem listed, fun visible => ?_⟩))
    exact unmentioned.evidence evidence listed visible (mentions_evidence evidence)
  · refine Or.inl (Or.inr ⟨List.mem_map_of_mem listed, fun visible => ?_⟩)
    exact unmentioned.hypotheses hypothesis listed visible (mentions_hypothesis hypothesis)
  · refine Or.inr ⟨List.mem_map_of_mem listed, fun visible => ?_⟩
    exact unmentioned.relations relation listed visible (mentions_relation relation)

theorem entries_redactedViews : (redacted state allowed).materializedViews.entries =
    state.materializedViews.entries.filter fun entry => viewVisible state allowed entry.2 :=
  Dict.entries_ofItems ((List.filter_sublist.map Prod.fst).nodup state.materializedViews.nodup)

/-- **The strings of the export.** A hidden identifier is among them exactly when something that is
exported as it is mentions it. -/
theorem mentions_redacted_iff (hidden : Hidden state allowed id) :
    ¬ Mentions (redacted state allowed).asDict id ↔ Unmentioned state allowed id := by
  rw [mentions_state_iff rfl, entries_redactedViews]
  constructor
  · intro absent
    simp only [not_or] at absent
    obtain ⟨task, version, items, history, evidence, relations, hypotheses, -, views, events, -⟩ :=
      absent
    constructor
    · exact task
    · exact version
    · intro item listed visible mentions
      exact items ⟨item, List.mem_filter.mpr ⟨listed, decide_eq_true visible⟩, mentions⟩
    · intro item listed visible mentions
      exact history ⟨item, List.mem_filter.mpr ⟨listed, visible⟩, mentions⟩
    · intro record listed visible mentions
      exact evidence ⟨record, List.mem_filter.mpr ⟨listed, decide_eq_true visible⟩, mentions⟩
    · intro relation listed visible mentions
      exact relations ⟨relation, List.mem_filter.mpr ⟨listed, decide_eq_true visible⟩, mentions⟩
    · intro hypothesis listed visible mentions
      exact hypotheses
        ⟨hypothesis, List.mem_filter.mpr ⟨listed, decide_eq_true visible⟩, mentions⟩
    · rintro viewId listed visible rfl
      exact views (List.mem_filter.mpr ⟨listed, visible⟩)
    · intro event listed kept inside
      refine events ⟨event, List.mem_filter.mpr ⟨listed, ?_⟩, mem_texts_of_sealed inside⟩
      rw [kept]
      rfl
  · intro unmentioned
    rintro (task | version | ⟨item, kept, mentions⟩ | ⟨item, kept, mentions⟩ |
      ⟨evidence, kept, mentions⟩ | ⟨relation, kept, mentions⟩ | ⟨hypothesis, kept, mentions⟩ |
      ⟨entry, kept, mentions⟩ | kept | ⟨event, kept, mentions⟩ | answer | inMetadata)
    · exact unmentioned.task task
    · exact unmentioned.schemaVersion version
    · obtain ⟨listed, visible⟩ := List.mem_filter.mp kept
      exact unmentioned.epistemicItems item listed (of_decide_eq_true visible) mentions
    · obtain ⟨listed, visible⟩ := List.mem_filter.mp kept
      exact unmentioned.epistemicHistory item listed visible mentions
    · obtain ⟨listed, visible⟩ := List.mem_filter.mp kept
      exact unmentioned.evidence evidence listed (of_decide_eq_true visible) mentions
    · obtain ⟨listed, visible⟩ := List.mem_filter.mp kept
      exact unmentioned.relations relation listed (of_decide_eq_true visible) mentions
    · obtain ⟨listed, visible⟩ := List.mem_filter.mp kept
      exact unmentioned.hypotheses hypothesis listed (of_decide_eq_true visible) mentions
    · -- the dependencies of a kept view are identifiers of kept items
      have visible := of_decide_eq_true (List.mem_filter.mp kept).2
      exact unmentioned.not_visible (visible (List.mem_toFinset.mpr mentions))
    · obtain ⟨listed, visible⟩ := List.mem_filter.mp kept
      exact unmentioned.invalidatedViews id listed visible rfl
    · -- a kept event mentions one of `hidden_ids` in a sealed place at most
      obtain ⟨listed, safe⟩ := List.mem_filter.mp kept
      have unseen : containsHiddenIdentifier (hiddenIds state allowed) event.data = false := by
        simpa using safe
      rcases contains_or_sealed (unmentioned.mem_hiddenIds hidden) mentions with seen | inside
      · rw [unseen] at seen
        cases seen
      · exact unmentioned.eventLog event listed unseen inside
    · exact unmentioned.not_visible
        (of_decide_eq_true (Option.filter_eq_some_iff.mp answer).2)
    · cases inMetadata

end Kept

/-! ### The export succeeds -/

theorem redacted_valid (state : CognitiveState) (allowed : Finset String) :
    (redacted state allowed).violation = none := by
  have valid := state.valid
  unfold CognitiveStateData.violation at valid ⊢
  split_ifs at valid with items history evidence
  rw [if_neg, if_neg, if_neg]
  · exact valid
  · rintro ⟨record, kept, different⟩
    exact evidence ⟨record, List.mem_of_mem_filter kept, different⟩
  · rintro ⟨item, kept, different⟩
    exact history ⟨item, List.mem_of_mem_filter kept, different⟩
  · rintro ⟨item, kept, different⟩
    exact items ⟨item, List.mem_of_mem_filter kept, different⟩

theorem redactedExport_eq (state : CognitiveState) (allowed : Finset String) :
    redactedExport state allowed =
      if within allowed state.task.securityLabels then
        .ok (canonicalJson (.dict (redacted state allowed).asDict))
      else .error (.dncPolicyError "task security labels are outside the export scope") := by
  have copied : CognitiveState.ofData (redacted state allowed) =
      .ok ⟨redacted state allowed, redacted_valid state allowed⟩ :=
    CognitiveState.ofData_eq_ok.mpr rfl
  unfold redactedExport
  rw [copied]
  by_cases permitted : within allowed state.task.securityLabels = true
  · rw [if_neg (not_not.mpr permitted), if_pos permitted]
    rfl
  · rw [if_pos permitted, if_neg permitted]
    rfl

/-- The strings of the exported document are those of the fields that are left. -/
theorem leakFree_iff_redacted {state : CognitiveState} {allowed : Finset String} :
    LeakFree state allowed ↔ (within allowed state.task.securityLabels = true →
      ∀ id, Hidden state allowed id → ¬ Mentions (redacted state allowed).asDict id) := by
  have exported : ∀ id, id ∈ (canonical (.dict (redacted state allowed).asDict)).texts ↔
      Mentions (redacted state allowed).asDict id := by
    intro id
    rw [mem_texts_canonical, PyData.mem_texts_dict]
    rfl
  have loaded := loads_canonicalJson (redacted state allowed).wellFormed
  unfold LeakFree
  rw [redactedExport_eq]
  constructor
  · intro safe permitted id hidden mentions
    rw [if_pos permitted] at safe
    exact safe _ rfl _ loaded id hidden ((exported id).mpr mentions)
  · rintro absent text isText document isDocument id hidden inside
    by_cases permitted : within allowed state.task.securityLabels = true
    · rw [if_pos permitted] at isText
      rw [← Except.ok.inj isText, loaded] at isDocument
      rw [← Option.some.inj isDocument] at inside
      exact absent permitted id hidden ((exported id).mp inside)
    · rw [if_neg permitted] at isText
      cases isText

/-- **An export leaks no identifier exactly when nothing it leaves as it is mentions one.** -/
theorem leakFree_iff (state : CognitiveState) (allowed : Finset String) :
    LeakFree state allowed ↔ (within allowed state.task.securityLabels = true →
      ∀ id, Hidden state allowed id → Unmentioned state allowed id) := by
  rw [leakFree_iff_redacted]
  apply forall_congr'
  intro _
  exact forall₂_congr fun id hidden => mentions_redacted_iff hidden

namespace Sample

def secretClaim : EpistemicItem :=
  ⟨{ itemId := "secret-claim", status := .assumption, content := "a secret",
     securityLabels := ["secret"] }, by decide⟩

/-- A public claim that depends on a secret one. -/
def secretDependency : List StateCall := [
  .withEpistemicItem secretClaim,
  .withEpistemicItem (claim "public-claim" (by decide) ["secret-claim"])]

end Sample

/-- The `depends_on` of a visible item is exported as it is. -/
theorem dependency_leaks :
    ¬ LeakFree (run stateStep (CognitiveState.initial Sample.task) Sample.secretDependency)
      {"public"} := by
  rw [leakFree_iff_redacted]
  intro absent
  have reached : (run stateStep (CognitiveState.initial Sample.task)
      Sample.secretDependency).epistemicItems =
        [Sample.secretClaim, Sample.claim "public-claim" (by decide) ["secret-claim"]] := by
    rfl
  have hidden : Hidden (run stateStep (CognitiveState.initial Sample.task) Sample.secretDependency)
      {"public"} "secret-claim" :=
    Or.inl ⟨Sample.secretClaim, reached ▸ List.mem_cons_self, rfl, by decide⟩
  have listed : Sample.claim "public-claim" (by decide) ["secret-claim"] ∈
      (run stateStep (CognitiveState.initial Sample.task)
        Sample.secretDependency).epistemicItems := by
    rw [reached]
    exact List.mem_cons_of_mem _ List.mem_cons_self
  have visible := mem_visibleItemIds.mpr ⟨_, listed, (by decide : within {"public"} [] = true), rfl⟩
  have unmentioned := (mentions_redacted_iff hidden).mp (absent (by decide) _ hidden)
  apply unmentioned.epistemicItems _ listed visible
  exact ⟨("depends_on", .textTuple ["secret-claim"]), by simp [EpistemicItem.asDict, Sample.claim],
    PyData.mem_texts_textTuple.mpr (List.mem_singleton_self _)⟩

end Dnc.Cognition
