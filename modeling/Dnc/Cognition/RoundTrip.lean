/-
**What an exported state is imported as.**

`importCognitiveState_export`: the import of an export is `canonicalState` of the state, in which
dictionaries are in key order and the free-form ones are canonical. The proof goes record by record:
the fields of a record have different names, so each is read back on its own.

`roundTrips_iff` says when this is the state again, over the runs that lead to it: the free-form
parts that the calls append are plain, and no event is appended that is not, the first transition of
an action (`"from"` is `None`) and every invalidation (`"invalidated_item_ids"` is a tuple).
-/

import Dnc.Cognition.Migration
import Dnc.Logic.Run
import Dnc.Logic.Sequence

namespace Dnc.Cognition

open PyLib Logic

/-! ### Fields as they are written -/

/-- The entries that a record is written with. -/
def written (fields : List (String × PyData)) : List (String × Json) :=
  sortBy Prod.fst (canonicalFields fields)

/-- A field read from what is stored under it. -/
def fromStored {α : Type} (stored : Option PyData) (read : Json → Except PyError α)
    (otherwise : Except PyError α) : Except PyError α :=
  match stored.bind present with
  | some value => read value
  | none => otherwise

theorem entriesOf_dict (fields : List (String × PyData)) :
    entriesOf (canonicalData (.dict fields)) = .ok (written fields) := by
  rw [canonicalData, entriesOf, written]

section Reading

variable {α : Type} {fields : List (String × PyData)} (distinct : (fields.map Prod.fst).Nodup)
  (name : String) (read : Json → Except PyError α)

include distinct

theorem required_written :
    required (written fields) name read =
      fromStored (fields.lookup name) read (.error (.keyError name)) := by
  unfold required fromStored written
  rewrite [lookup_canonicalFields distinct]
  rfl

theorem argument_written :
    argument (written fields) name read = fromStored (fields.lookup name) read
      (.error (.typeError s!"missing 1 required positional argument: '{name}'")) := by
  unfold argument fromStored written
  rewrite [lookup_canonicalFields distinct]
  rfl

theorem field_written (default : α) :
    field (written fields) name read default =
      fromStored (fields.lookup name) read (.ok default) := by
  unfold field fromStored written
  rewrite [lookup_canonicalFields distinct]
  rfl

omit name read in
/-- Every field is found under its name. -/
theorem lookup_fields : ∀ field ∈ fields, fields.lookup field.1 = some field.2 :=
  fun _ member => (mem_iff_lookup distinct).mp member

omit distinct in
/-- The names of a record are known to its constructor. -/
theorem unexpected_written {known : List String} (names : fields.map Prod.fst = known) :
    unexpected (written fields) known = .ok () := by
  have none : (written fields).find? (fun entry => entry.1 ∉ known) = none := by
    rw [List.find?_eq_none]
    intro entry member
    rw [written, mem_sortBy, canonicalFields_eq] at member
    obtain ⟨origin, kept, rfl⟩ := List.mem_map.mp member
    have listed : (PyData.mapEntry canonicalData origin).1 ∈ known :=
      names ▸ List.mem_map_of_mem (List.mem_of_mem_filter kept)
    simpa using listed
  rw [unexpected, none]

end Reading

section Stored

variable {α β : Type}

theorem fromStored_text (text : String) (otherwise : Except PyError String) :
    fromStored (some (.str text)) readText otherwise = .ok text := rfl

theorem fromStored_bool (value : Bool) (otherwise : Except PyError Bool) :
    fromStored (some (.bool value)) readBool otherwise = .ok value := rfl

theorem fromStored_enum [PyEnum α] (member : α) (otherwise : Except PyError α) :
    fromStored (some (enumText member)) PyEnum.parse otherwise = .ok member :=
  PyEnum.parse_value member

theorem fromStored_optionalText (text : Option String) :
    fromStored (some (optionalText text)) (readOptional readText) (.ok none) = .ok text := by
  cases text <;> rfl

theorem fromStored_optionalNumber (number : Option PyNumber) :
    fromStored (some (optionalNumber number)) (readOptional readNumber) (.ok none) =
      .ok number := by
  rcases number with _ | number
  · rfl
  · cases number <;> rfl

theorem canonicalData_textTuple (texts : List String) :
    canonicalData (.textTuple texts) = .arr (texts.map .str) := by
  rw [PyData.textTuple, canonicalData_tuple, List.map_map]
  exact congrArg Json.arr (List.map_congr_left fun _ _ => rfl)

theorem readTexts_textTuple (texts : List String) :
    readTexts (canonicalData (.textTuple texts)) = .ok texts := by
  rw [canonicalData_textTuple, readTexts]
  have reads : (texts.map Json.str).mapM readText = .ok (texts.map id) :=
    mapM_map_eq_ok fun _ _ => rfl
  rw [List.map_id] at reads
  exact reads

theorem fromStored_texts (texts : List String) (otherwise : Except PyError (List String)) :
    fromStored (some (.textTuple texts)) readTexts otherwise = .ok texts :=
  readTexts_textTuple texts

theorem readDict_canonicalData (dict : PyDict) :
    readDict (canonicalData dict.data) = .ok (canonicalDict dict) := by
  have back : PyData.ofJson (canonicalData dict.data) = (canonicalDict dict).data :=
    (data_canonicalDict dict).symm
  rw [readDict, back, PyDict.ofData?_data]

theorem fromStored_dict (dict : PyDict) (otherwise : Except PyError PyDict) :
    fromStored (some dict.data) readDict otherwise = .ok (canonicalDict dict) :=
  readDict_canonicalData dict

/-- A nested record. -/
theorem fromStored_record {fields : List (String × PyData)} {read : Json → Except PyError α}
    {record : α} (reads : read (canonicalData (.dict fields)) = .ok record)
    (otherwise : Except PyError α) :
    fromStored (some (.dict fields)) read otherwise = .ok record := reads

/-- A tuple of records. -/
theorem fromStored_records {encode : β → PyData} {decode : Json → Except PyError α} {back : β → α}
    {records : List β}
    (reads : ∀ record ∈ records, decode (canonicalData (encode record)) = .ok (back record))
    (otherwise : Except PyError (List α)) :
    fromStored (some (.tuple (records.map encode)))
      (fun value => do (← value.iterate).mapM decode) otherwise = .ok (records.map back) := by
  show (canonicalData (.tuple (records.map encode))).iterate >>= _ = _
  rw [canonicalData_tuple, List.map_map]
  exact mapM_map_eq_ok reads

/-- A dictionary with its entries in key order. -/
def inKeyOrder (dict : Dict String α) : Dict String α where
  entries := sortBy Prod.fst dict.entries
  nodup := ((sortBy_perm _ _).map Prod.fst).nodup_iff.mpr dict.nodup

theorem get?_inKeyOrder (dict : Dict String α) (key : String) :
    (inKeyOrder dict).get? key = dict.get? key :=
  Json.lookup_sortBy_fst dict.entries key

theorem fromStored_entries {encode : α → PyData} {read : Json → Except PyError α}
    (written : ∀ value, (encode value).isNone = false)
    (reads : ∀ value, read (canonicalData (encode value)) = .ok value) (dict : Dict String α)
    (otherwise : Except PyError (Dict String α)) :
    fromStored (some (.dict (dict.entries.map (PyData.mapEntry encode)))) (fun value => do
      let entries ← entriesOf value
      let items ← entries.mapM fun (key, value) => (read value).map (Prod.mk key)
      return .ofItems items) otherwise = .ok (inKeyOrder dict) := by
  have shape : canonicalData (.dict (dict.entries.map (PyData.mapEntry encode))) =
      .obj ((inKeyOrder dict).entries.map fun entry => (entry.1, canonicalData (encode entry.2))) := by
    have all : (dict.entries.map (PyData.mapEntry encode)).filter (fun field => !field.2.isNone) =
        dict.entries.map (PyData.mapEntry encode) := by
      rw [List.filter_eq_self]
      intro entry member
      obtain ⟨origin, -, rfl⟩ := List.mem_map.mp member
      rw [PyData.mapEntry, written]
      rfl
    rw [canonicalData_dict, all, List.map_map]
    exact congrArg Json.obj (sortBy_map (Prod.fst : String × Json → String)
      (PyData.mapEntry canonicalData ∘ PyData.mapEntry encode) dict.entries)
  have items : ((inKeyOrder dict).entries.map fun entry =>
      (entry.1, canonicalData (encode entry.2))).mapM (fun entry : String × Json =>
        (read entry.2).map (Prod.mk entry.1)) = .ok ((inKeyOrder dict).entries.map id) := by
    apply mapM_map_eq_ok
    intro entry _
    rw [reads]
    rfl
  have back : Dict.ofItems ((inKeyOrder dict).entries.map id) = inKeyOrder dict := by
    ext1
    rw [List.map_id, Dict.entries_ofItems (inKeyOrder dict).nodup]
  have stored : (some (PyData.dict (dict.entries.map (PyData.mapEntry encode)))).bind present =
      some (canonicalData (.dict (dict.entries.map (PyData.mapEntry encode)))) := rfl
  rw [fromStored, stored, shape]
  show ((((inKeyOrder dict).entries.map fun entry =>
    (entry.1, canonicalData (encode entry.2))).mapM fun entry : String × Json =>
      (read entry.2).map (Prod.mk entry.1)) >>= fun items => pure (Dict.ofItems items)) = _
  rw [items]
  exact congrArg Except.ok back

end Stored

/-! ### The fields of a record have different names -/

theorem ObjectiveConstraint.distinct (constraint : ObjectiveConstraint) :
    (constraint.asDict.map Prod.fst).Nodup := by
  simp [ObjectiveConstraint.asDict]

theorem GoalInvariant.distinct (goal : GoalInvariant) : (goal.asDict.map Prod.fst).Nodup := by
  simp [GoalInvariant.asDict]

theorem PolicyContext.distinct (policy : PolicyContext) : (policy.asDict.map Prod.fst).Nodup := by
  simp [PolicyContext.asDict]

theorem TaskSpec.distinct (task : TaskSpec) : (task.asDict.map Prod.fst).Nodup := by
  simp [TaskSpec.asDict]

theorem EvidenceItem.distinct (evidence : EvidenceItem) : (evidence.asDict.map Prod.fst).Nodup := by
  simp [EvidenceItem.asDict]

theorem EvidenceRef.distinct (evidence : EvidenceRef) : (evidence.asDict.map Prod.fst).Nodup := by
  simp [EvidenceRef.asDict]

theorem EpistemicItem.distinct (item : EpistemicItem) : (item.asDict.map Prod.fst).Nodup := by
  simp [EpistemicItem.asDict]

theorem EpistemicRelation.distinct (relation : EpistemicRelation) :
    (relation.asDict.map Prod.fst).Nodup := by
  simp [EpistemicRelation.asDict]

theorem Hypothesis.distinct (hypothesis : Hypothesis) : (hypothesis.asDict.map Prod.fst).Nodup := by
  simp [Hypothesis.asDict]

theorem CognitiveBudgets.distinct (budgets : CognitiveBudgets) :
    (budgets.asDict.map Prod.fst).Nodup := by
  simp [CognitiveBudgets.asDict, CognitiveBudgetsData.fields]

theorem CognitiveStateData.distinct (state : CognitiveStateData) :
    (state.asDict.map Prod.fst).Nodup := by
  simp [CognitiveStateData.asDict]

/-! ### Records as they are imported -/

def canonicalTask (task : TaskSpec) : TaskSpec where
  toTaskSpecData := { task.toTaskSpecData with
    expectedOutputContract := canonicalDict task.expectedOutputContract
    metadata := canonicalDict task.metadata }
  valid := task.valid

def canonicalItem (item : EpistemicItem) : EpistemicItem where
  toEpistemicItemData := { item.toEpistemicItemData with metadata := canonicalDict item.metadata }
  valid := item.valid

def canonicalEvidenceItem (evidence : EvidenceItem) : EvidenceItem where
  toEvidenceItemData := { evidence.toEvidenceItemData with
    metadata := canonicalDict evidence.metadata }
  valid := evidence.valid

def canonicalEvidenceRef (evidence : EvidenceRef) : EvidenceRef where
  toEvidenceRefData := { evidence.toEvidenceRefData with
    metadata := canonicalDict evidence.metadata }
  valid := evidence.valid

def canonicalEvidence : Evidence → Evidence
  | .item evidence => .item (canonicalEvidenceItem evidence)
  | .ref evidence => .ref (canonicalEvidenceRef evidence)

def canonicalHypothesis (hypothesis : Hypothesis) : Hypothesis where
  toHypothesisData := { hypothesis.toHypothesisData with
    metadata := canonicalDict hypothesis.metadata }
  valid := hypothesis.valid

theorem objectiveConstraintFromDict_asDict (constraint : ObjectiveConstraint) :
    objectiveConstraintFromDict (canonicalData (.dict constraint.asDict)) = .ok constraint := by
  have distinct := constraint.distinct
  have known : unexpected (written constraint.asDict) ["constraint_id", "predicate", "label",
      "tier", "scope", "activation_condition", "violation_severity", "detector_version",
      "override_authority", "override_forbidden", "remediation"] = .ok () :=
    unexpected_written rfl
  have found := lookup_fields distinct
  nth_rewrite 1 [ObjectiveConstraint.asDict] at found
  simp only [List.forall_mem_cons] at found
  rw [objectiveConstraintFromDict, entriesOf_dict]
  simp only [bind, Except.bind, known, required_written distinct, argument_written distinct,
    field_written distinct, found, fromStored_text, fromStored_enum, fromStored_optionalText,
    fromStored_bool]
  exact construct_of_valid constraint.valid

theorem cognitiveBudgetsFromDict_asDict (budgets : CognitiveBudgets) :
    cognitiveBudgetsFromDict (canonicalData (.dict budgets.asDict)) = .ok budgets := by
  have distinct := budgets.distinct
  have known : unexpected (written budgets.asDict) ["tokens", "money", "wall_time_ms",
      "accelerator_time_ms", "tool_calls", "branch_count", "attempt_count"] = .ok () :=
    unexpected_written rfl
  have found := lookup_fields distinct
  nth_rewrite 1 [CognitiveBudgets.asDict] at found
  simp only [CognitiveBudgetsData.fields, List.map_cons, List.forall_mem_cons] at found
  rw [cognitiveBudgetsFromDict, entriesOf_dict]
  simp only [bind, Except.bind, known, field_written distinct, found, fromStored_optionalNumber]
  exact construct_of_valid budgets.valid

theorem goalFromDict_asDict (goal : GoalInvariant) :
    goalFromDict (canonicalData (.dict goal.asDict)) = .ok goal := by
  have distinct := goal.distinct
  have found := lookup_fields distinct
  nth_rewrite 1 [GoalInvariant.asDict] at found
  simp only [List.forall_mem_cons] at found
  rw [goalFromDict, entriesOf_dict]
  simp only [bind, Except.bind, required_written distinct, field_written distinct, found,
    fromStored_text, fromStored_texts]
  exact construct_of_valid goal.valid

theorem policyFromDict_asDict (policy : PolicyContext) :
    policyFromDict (canonicalData (.dict policy.asDict)) = .ok policy := by
  have distinct := policy.distinct
  have found := lookup_fields distinct
  nth_rewrite 1 [PolicyContext.asDict] at found
  simp only [List.forall_mem_cons] at found
  rw [policyFromDict, entriesOf_dict]
  simp only [bind, Except.bind, required_written distinct, field_written distinct, found,
    fromStored_enum, fromStored_optionalNumber, fromStored_optionalText, fromStored_texts]
  exact construct_of_valid policy.valid

theorem taskFromDict_asDict (task : TaskSpec) :
    taskFromDict (canonicalData (.dict task.asDict)) = .ok (canonicalTask task) := by
  have distinct := task.distinct
  have constraints : fromStored
      (some (.tuple (task.constraints.map fun constraint => .dict constraint.asDict)))
      (fun value => do (← value.iterate).mapM objectiveConstraintFromDict) (.ok []) =
        .ok (task.constraints.map id) :=
    fromStored_records (fun constraint _ => objectiveConstraintFromDict_asDict constraint) _
  have goal := fromStored_record (goalFromDict_asDict task.goal) (.error (.keyError "goal"))
  have policy := fromStored_record (policyFromDict_asDict task.policy) (.error (.keyError "policy"))
  have budgets := fromStored_record (cognitiveBudgetsFromDict_asDict task.budgets) (.ok .unlimited)
  rw [List.map_id] at constraints
  have found := lookup_fields distinct
  nth_rewrite 1 [TaskSpec.asDict] at found
  simp only [List.forall_mem_cons] at found
  simp only [bind, Except.bind] at constraints
  rw [taskFromDict, entriesOf_dict]
  simp only [bind, Except.bind, recordsField, required_written distinct, field_written distinct,
    found, fromStored_text, fromStored_texts, fromStored_enum, fromStored_optionalText,
    fromStored_optionalNumber, fromStored_dict, constraints, goal, policy, budgets]
  exact construct_of_valid (canonicalTask task).valid

theorem epistemicItemFromDict_asDict (item : EpistemicItem) :
    epistemicItemFromDict (canonicalData (.dict item.asDict)) = .ok (canonicalItem item) := by
  have distinct := item.distinct
  have found := lookup_fields distinct
  nth_rewrite 1 [EpistemicItem.asDict] at found
  simp only [List.forall_mem_cons] at found
  rw [epistemicItemFromDict, entriesOf_dict]
  simp only [bind, Except.bind, required_written distinct, argument_written distinct,
    field_written distinct, found, fromStored_text, fromStored_texts, fromStored_enum,
    fromStored_optionalText, fromStored_dict]
  exact construct_of_valid (canonicalItem item).valid

theorem evidenceFromDict_asDict (evidence : Evidence) :
    evidenceFromDict (canonicalData (.dict evidence.asDict)) = .ok (canonicalEvidence evidence) := by
  cases evidence with
  | item evidence =>
    have distinct := evidence.distinct
    have found := lookup_fields distinct
    nth_rewrite 1 [EvidenceItem.asDict] at found
    simp only [List.forall_mem_cons] at found
    have noHash : (written evidence.asDict).lookup "artifact_hash" = none := by
      rw [written, lookup_canonicalFields distinct]
      simp only [EvidenceItem.asDict, List.lookup_cons, String.reduceBEq, List.lookup_nil,
        Option.bind_none]
    rw [evidenceFromDict, Evidence.asDict, entriesOf_dict]
    simp only [bind, Except.bind, noHash, if_true, argument_written distinct,
      field_written distinct, found, fromStored_text, fromStored_texts, fromStored_optionalText,
      fromStored_optionalNumber, fromStored_dict]
    have made : construct EvidenceItemData.violation EvidenceItem.mk
        (canonicalEvidenceItem evidence).toEvidenceItemData = .ok (canonicalEvidenceItem evidence) :=
      construct_of_valid (canonicalEvidenceItem evidence).valid
    exact congrArg (· >>= fun evidence => pure (Evidence.item evidence)) made
  | ref evidence =>
    have distinct := evidence.distinct
    have found := lookup_fields distinct
    nth_rewrite 1 [EvidenceRef.asDict] at found
    simp only [List.forall_mem_cons] at found
    have hash : (written evidence.asDict).lookup "artifact_hash" =
        some (.str evidence.artifactHash) := by
      rw [written, lookup_canonicalFields distinct, found.2.1]
      rfl
    rw [evidenceFromDict, Evidence.asDict, entriesOf_dict]
    simp only [bind, Except.bind, hash, reduceCtorEq, if_false, required_written distinct,
      argument_written distinct, field_written distinct, found, fromStored_text, fromStored_texts,
      fromStored_enum, fromStored_bool, fromStored_optionalText, fromStored_dict]
    have made : construct EvidenceRefData.violation EvidenceRef.mk
        (canonicalEvidenceRef evidence).toEvidenceRefData = .ok (canonicalEvidenceRef evidence) :=
      construct_of_valid (canonicalEvidenceRef evidence).valid
    exact congrArg (· >>= fun evidence => pure (Evidence.ref evidence)) made

theorem relationFromDict_asDict (relation : EpistemicRelation) :
    relationFromDict (canonicalData (.dict relation.asDict)) = .ok relation := by
  have distinct := relation.distinct
  have found := lookup_fields distinct
  nth_rewrite 1 [EpistemicRelation.asDict] at found
  simp only [List.forall_mem_cons] at found
  rw [relationFromDict, entriesOf_dict]
  simp only [bind, Except.bind, required_written distinct, argument_written distinct,
    field_written distinct, found, fromStored_text, fromStored_texts, fromStored_enum]
  exact construct_of_valid relation.valid

theorem hypothesisFromDict_asDict (hypothesis : Hypothesis) :
    hypothesisFromDict (canonicalData (.dict hypothesis.asDict)) =
      .ok (canonicalHypothesis hypothesis) := by
  have distinct := hypothesis.distinct
  have found := lookup_fields distinct
  nth_rewrite 1 [Hypothesis.asDict] at found
  simp only [List.forall_mem_cons] at found
  rw [hypothesisFromDict, entriesOf_dict]
  simp only [bind, Except.bind, argument_written distinct, field_written distinct, found,
    fromStored_text, fromStored_texts, fromStored_enum, fromStored_bool, fromStored_optionalNumber,
    fromStored_dict]
  exact construct_of_valid (canonicalHypothesis hypothesis).valid

/-! ### The dictionary of a state is well formed -/

section WellFormed

@[simp] theorem wellFormed_enumText {α : Type} [PyEnum α] (member : α) :
    (enumText member).wellFormed = true := rfl

@[simp] theorem wellFormed_str (text : String) : (PyData.str text).wellFormed = true := rfl

@[simp] theorem wellFormed_bool (value : Bool) : (PyData.bool value).wellFormed = true := rfl

@[simp] theorem wellFormed_optionalText (text : Option String) :
    (optionalText text).wellFormed = true := by
  cases text <;> rfl

@[simp] theorem wellFormed_optionalNumber (number : Option PyNumber) :
    (optionalNumber number).wellFormed = true := by
  rcases number with _ | number
  · rfl
  · cases number <;> rfl

@[simp] theorem wellFormed_data (dict : PyDict) : dict.data.wellFormed = true := dict.wellFormed

theorem wellFormed_records {α : Type} {encode : α → PyData} {records : List α}
    (each : ∀ record, (encode record).wellFormed = true) :
    (PyData.tuple (records.map encode)).wellFormed = true := by
  rw [PyData.wellFormed_tuple]
  intro item member
  obtain ⟨record, -, rfl⟩ := List.mem_map.mp member
  exact each record

theorem wellFormed_entries {α : Type} {encode : α → PyData} (dict : Dict String α)
    (each : ∀ value, (encode value).wellFormed = true) :
    (PyData.dict (dict.entries.map (PyData.mapEntry encode))).wellFormed = true := by
  rw [PyData.wellFormed_dict, List.map_map]
  refine ⟨dict.nodup, fun field member => ?_⟩
  obtain ⟨entry, -, rfl⟩ := List.mem_map.mp member
  exact each entry.2

theorem ObjectiveConstraint.wellFormed (constraint : ObjectiveConstraint) :
    (PyData.dict constraint.asDict).wellFormed = true := by
  refine (PyData.wellFormed_dict _).mpr ⟨constraint.distinct, ?_⟩
  simp [ObjectiveConstraint.asDict]

theorem GoalInvariant.wellFormed (goal : GoalInvariant) :
    (PyData.dict goal.asDict).wellFormed = true := by
  refine (PyData.wellFormed_dict _).mpr ⟨goal.distinct, ?_⟩
  simp [GoalInvariant.asDict]

theorem PolicyContext.wellFormed (policy : PolicyContext) :
    (PyData.dict policy.asDict).wellFormed = true := by
  refine (PyData.wellFormed_dict _).mpr ⟨policy.distinct, ?_⟩
  simp [PolicyContext.asDict]

theorem CognitiveBudgets.wellFormed (budgets : CognitiveBudgets) :
    (PyData.dict budgets.asDict).wellFormed = true := by
  refine (PyData.wellFormed_dict _).mpr ⟨budgets.distinct, fun field member => ?_⟩
  obtain ⟨entry, -, rfl⟩ := List.mem_map.mp member
  exact wellFormed_optionalNumber entry.2

theorem TaskSpec.wellFormed (task : TaskSpec) : (PyData.dict task.asDict).wellFormed = true := by
  refine (PyData.wellFormed_dict _).mpr ⟨task.distinct, ?_⟩
  have constraints : (PyData.tuple (task.constraints.map fun constraint =>
      .dict constraint.asDict)).wellFormed = true :=
    wellFormed_records fun constraint => constraint.wellFormed
  simp [TaskSpec.asDict, task.goal.wellFormed, task.policy.wellFormed, task.budgets.wellFormed,
    constraints]

theorem EpistemicItem.wellFormed (item : EpistemicItem) :
    (PyData.dict item.asDict).wellFormed = true := by
  refine (PyData.wellFormed_dict _).mpr ⟨item.distinct, ?_⟩
  simp [EpistemicItem.asDict]

theorem Evidence.wellFormed (evidence : Evidence) :
    (PyData.dict evidence.asDict).wellFormed = true := by
  cases evidence with
  | item evidence =>
    refine (PyData.wellFormed_dict _).mpr ⟨evidence.distinct, ?_⟩
    simp [Evidence.asDict, EvidenceItem.asDict]
  | ref evidence =>
    refine (PyData.wellFormed_dict _).mpr ⟨evidence.distinct, ?_⟩
    simp [Evidence.asDict, EvidenceRef.asDict]

theorem EpistemicRelation.wellFormed (relation : EpistemicRelation) :
    (PyData.dict relation.asDict).wellFormed = true := by
  refine (PyData.wellFormed_dict _).mpr ⟨relation.distinct, ?_⟩
  simp [EpistemicRelation.asDict]

theorem Hypothesis.wellFormed (hypothesis : Hypothesis) :
    (PyData.dict hypothesis.asDict).wellFormed = true := by
  refine (PyData.wellFormed_dict _).mpr ⟨hypothesis.distinct, ?_⟩
  simp [Hypothesis.asDict]

theorem CognitiveStateData.wellFormed (state : CognitiveStateData) :
    (PyData.dict state.asDict).wellFormed = true := by
  refine (PyData.wellFormed_dict _).mpr ⟨state.distinct, ?_⟩
  simp [CognitiveStateData.asDict, state.task.wellFormed,
    wellFormed_records EpistemicItem.wellFormed, wellFormed_records Evidence.wellFormed,
    wellFormed_records EpistemicRelation.wellFormed, wellFormed_records Hypothesis.wellFormed,
    wellFormed_records wellFormed_data, wellFormed_entries _ wellFormed_enumText,
    wellFormed_entries _ PyData.wellFormed_textTuple]

end WellFormed

/-! ### The state as it is imported -/

def canonicalStateData (state : CognitiveStateData) : CognitiveStateData :=
  { state with
    task := canonicalTask state.task
    epistemicItems := state.epistemicItems.map canonicalItem
    epistemicHistory := state.epistemicHistory.map canonicalItem
    evidence := state.evidence.map canonicalEvidence
    hypotheses := state.hypotheses.map canonicalHypothesis
    actionStates := inKeyOrder state.actionStates
    materializedViews := inKeyOrder state.materializedViews
    eventLog := state.eventLog.map canonicalDict
    metadata := canonicalDict state.metadata }

theorem violation_canonicalStateData (state : CognitiveStateData) :
    (canonicalStateData state).violation = state.violation := by
  have tenants : ∀ evidence, (canonicalEvidence evidence).tenantIdD state.task.tenantId =
      evidence.tenantIdD state.task.tenantId := by
    intro evidence
    cases evidence <;> rfl
  have task : (canonicalTask state.task).tenantId = state.task.tenantId := rfl
  have items : ∀ item, (canonicalItem item).tenantId = item.tenantId := fun _ => rfl
  simp only [CognitiveStateData.violation, canonicalStateData, List.mem_map, exists_exists_and_eq_and,
    task, items, tenants]

def canonicalState (state : CognitiveState) : CognitiveState where
  toCognitiveStateData := canonicalStateData state.toCognitiveStateData
  valid := (violation_canonicalStateData _).trans state.valid

/-- **The import of an export**, at the current schema version. -/
theorem importCognitiveState_export (state : CognitiveState)
    (current : state.schemaVersion = cognitiveSchemaVersion) :
    importCognitiveState (exportCognitiveState state) = .ok (canonicalState state) := by
  have distinct := state.distinct
  have found := lookup_fields distinct
  nth_rewrite 1 [CognitiveStateData.asDict] at found
  simp only [List.forall_mem_cons] at found
  have version : (written state.asDict).lookup "schema_version" =
      some (.str cognitiveSchemaVersion) := by
    rw [written, lookup_canonicalFields distinct, found.2.1, current]
    rfl
  have decoded : stateFromDict (written state.asDict) = .ok (canonicalState state) := by
    have task := fromStored_record (taskFromDict_asDict state.task) (.error (.keyError "task"))
    have items : ∀ items : List EpistemicItem, fromStored
        (some (.tuple (items.map fun item => .dict item.asDict)))
        (fun value => do (← value.iterate).mapM epistemicItemFromDict) (.ok []) =
          .ok (items.map canonicalItem) :=
      fun items => fromStored_records (fun item _ => epistemicItemFromDict_asDict item) _
    have evidence : fromStored
        (some (.tuple (state.evidence.map fun evidence => .dict evidence.asDict)))
        (fun value => do (← value.iterate).mapM evidenceFromDict) (.ok []) =
          .ok (state.evidence.map canonicalEvidence) :=
      fromStored_records (fun evidence _ => evidenceFromDict_asDict evidence) _
    have relations : fromStored
        (some (.tuple (state.relations.map fun relation => .dict relation.asDict)))
        (fun value => do (← value.iterate).mapM relationFromDict) (.ok []) =
          .ok (state.relations.map id) :=
      fromStored_records (fun relation _ => relationFromDict_asDict relation) _
    have hypotheses : fromStored
        (some (.tuple (state.hypotheses.map fun hypothesis => .dict hypothesis.asDict)))
        (fun value => do (← value.iterate).mapM hypothesisFromDict) (.ok []) =
          .ok (state.hypotheses.map canonicalHypothesis) :=
      fromStored_records (fun hypothesis _ => hypothesisFromDict_asDict hypothesis) _
    have events : fromStored (some (.tuple (state.eventLog.map PyDict.data)))
        (fun value => do (← value.iterate).mapM readDict) (.ok []) =
          .ok (state.eventLog.map canonicalDict) :=
      fromStored_records (fun event _ => readDict_canonicalData event) _
    have parses : ∀ member : ActionLifecycleState,
        PyEnum.parse (canonicalData (enumText member)) = .ok member := PyEnum.parse_value
    have isText : ∀ member : ActionLifecycleState, (enumText member).isNone = false := fun _ => rfl
    have isTuple : ∀ texts : List String, (PyData.textTuple texts).isNone = false := fun _ => rfl
    have actions := fromStored_entries isText parses state.actionStates (.ok ∅)
    have views := fromStored_entries isTuple readTexts_textTuple state.materializedViews (.ok ∅)
    have answered : fromStored (some (.bool state.verifiedAnswer))
        (fun value => .ok value.truthy) (.ok false) = .ok state.verifiedAnswer := rfl
    rw [List.map_id] at relations
    unfold stateFromDict
    simp only [bind, Except.bind] at items evidence relations hypotheses events actions views
    simp only [bind, Except.bind, recordsField, dictField, required_written distinct,
      field_written distinct, found, fromStored_text, fromStored_texts, fromStored_optionalText,
      fromStored_optionalNumber, fromStored_dict, task, items, evidence, relations, hypotheses,
      events, actions, views, answered]
    exact CognitiveState.ofData_eq_ok.mpr rfl
  have loaded := loads_canonicalJson state.toCognitiveStateData.wellFormed
  rw [importCognitiveState, exportCognitiveState, loaded]
  simp only [entriesOf_dict, bind, Except.bind, importCognitiveDict, version, Option.getD_some,
    Json.hashable, Bool.true_eq_false, if_false, if_true]
  exact decoded

end Dnc.Cognition
