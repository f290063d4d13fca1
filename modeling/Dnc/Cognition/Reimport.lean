/-
**What an import keeps of an export.**

The canonical form of a value that was read from a canonical form is that form again
(`canonicalData_canonical`), so a state that is imported from its export has the canonical hash of
the state exported. The import knows two schema versions and returns a state of the current one.

`reimports_iff`: a state is imported from its export with its canonical hash exactly when its schema
version is the current one.
-/

import Dnc.Cognition.RoundTrip

namespace Dnc.Cognition

open PyLib Logic

/-! ### The canonical form of a canonical value -/

theorem isNone_canonical (value : PyData) : (canonical value).isNone = value.isNone := by
  cases value with
  | list items => rw [canonical_list]; rfl
  | tuple items => rw [canonical_tuple]; rfl
  | dict fields => rw [canonical_dict]; rfl
  | set frozen items => rw [canonical_set]; rfl
  | object className fields => rw [canonical_object, canonical_dict]; rfl
  | _ => rfl

theorem canonicalData_canonical_dict {fields : List (String × PyData)}
    (each : ∀ field ∈ fields, canonicalData (canonical field.2) = canonicalData field.2) :
    canonicalData (canonical (.dict fields)) = canonicalData (.dict fields) := by
  have written : ∀ entry ∈ sortBy Prod.fst ((fields.filter fun field => !field.2.isNone).map
      (PyData.mapEntry canonical)), (!entry.2.isNone) = true := by
    intro entry member
    obtain ⟨origin, kept, rfl⟩ := List.mem_map.mp (mem_sortBy.mp member)
    show (!(canonical origin.2).isNone) = true
    rw [isNone_canonical]
    exact (List.mem_filter.mp kept).2
  rw [canonical_dict, canonicalData_dict, canonicalData_dict, List.filter_eq_self.mpr written]
  -- the entries are in key order, and so they stay under a map of their values
  rw [sortBy_mapEntry canonicalData, sortBy_of_pairwise (sortBy_pairwise _ _),
    ← sortBy_mapEntry canonicalData, List.map_map]
  refine congrArg (fun entries => Json.obj (sortBy Prod.fst entries)) ?_
  refine List.map_congr_left fun entry kept => ?_
  exact congrArg (Prod.mk entry.1) (each entry (List.mem_of_mem_filter kept))

/-- **The canonical form is kept.** -/
theorem canonicalData_canonical (value : PyData) :
    canonicalData (canonical value) = canonicalData value := by
  induction value using PyData.induct with
  | list items ih =>
    rw [canonical_list, canonicalData_list, canonicalData_list, List.map_map]
    exact congrArg Json.arr (List.map_congr_left ih)
  | tuple items ih =>
    rw [canonical_tuple, canonicalData_list, canonicalData_tuple, List.map_map]
    exact congrArg Json.arr (List.map_congr_left ih)
  | set frozen items ih =>
    have each : ∀ form ∈ sortBy (Json.dumpsWith .compact) (items.map canonicalData),
        canonicalData (.ofJson form) = id form := by
      intro form member
      obtain ⟨item, listed, rfl⟩ := List.mem_map.mp (mem_sortBy.mp member)
      exact ih item listed
    rw [canonical_set, canonicalData_list, canonicalData_set, List.map_map]
    exact congrArg Json.arr ((List.map_congr_left each).trans (List.map_id _))
  | dict fields ih => exact canonicalData_canonical_dict ih
  | object className fields ih =>
    rw [canonical_object, canonicalData_object]
    exact canonicalData_canonical_dict ih
  | _ => rfl

theorem canonicalData_canonicalDict (dict : PyDict) :
    canonicalData (canonicalDict dict).data = canonicalData dict.data := by
  rw [data_canonicalDict, canonicalData_canonical]

/-- The order of the entries is lost. -/
theorem canonicalData_dict_perm {first second : List (String × PyData)} (perm : first.Perm second)
    (distinct : (first.map Prod.fst).Nodup) :
    canonicalData (.dict first) = canonicalData (.dict second) := by
  rw [canonicalData_dict, canonicalData_dict]
  refine congrArg Json.obj (sortBy_eq_of_perm ((perm.filter _).map _) ?_)
  have written : (((first.filter fun field => !field.2.isNone).map
      (PyData.mapEntry canonicalData)).map Prod.fst).Nodup := by
    rw [List.map_map]
    exact (List.filter_sublist.map Prod.fst).nodup distinct
  exact fun entry member other otherMember same =>
    List.inj_on_of_nodup_map written member otherMember same

/-- The canonical form of a record is that of another whose fields have the same forms. -/
theorem canonicalData_record {first second : List (String × PyData)}
    (same : first.map (PyData.mapEntry present) = second.map (PyData.mapEntry present)) :
    canonicalData (.dict first) = canonicalData (.dict second) := by
  have fields : ∀ fields : List (String × PyData), canonicalFields fields =
      (fields.map (PyData.mapEntry present)).filterMap fun entry =>
        entry.2.map (Prod.mk entry.1) := by
    intro fields
    induction fields with
    | nil => rfl
    | cons field rest ih =>
      obtain ⟨name, value⟩ := field
      rw [canonicalFields, List.map_cons, ih]
      by_cases absent : value.isNone = true
      · rw [if_pos absent, List.filterMap_cons_none (by simp [PyData.mapEntry, present, absent])]
      · rw [if_neg absent, List.filterMap_cons_some
          (b := (name, canonicalData value)) (by simp [PyData.mapEntry, present, absent])]
  rw [canonicalData, canonicalData, fields, fields, same]

theorem present_canonicalDict (dict : PyDict) :
    present (canonicalDict dict).data = present dict.data :=
  congrArg some (canonicalData_canonicalDict dict)

theorem canonicalData_task (task : TaskSpec) :
    canonicalData (.dict (canonicalTask task).asDict) = canonicalData (.dict task.asDict) := by
  refine canonicalData_record ?_
  simp only [TaskSpec.asDict, canonicalTask, List.map_cons, PyData.mapEntry, present_canonicalDict]

theorem canonicalData_item (item : EpistemicItem) :
    canonicalData (.dict (canonicalItem item).asDict) = canonicalData (.dict item.asDict) := by
  refine canonicalData_record ?_
  simp only [EpistemicItem.asDict, canonicalItem, List.map_cons, PyData.mapEntry,
    present_canonicalDict]

theorem canonicalData_evidence (evidence : Evidence) :
    canonicalData (.dict (canonicalEvidence evidence).asDict) =
      canonicalData (.dict evidence.asDict) := by
  cases evidence with
  | item evidence =>
    refine canonicalData_record ?_
    simp only [Evidence.asDict, EvidenceItem.asDict, canonicalEvidence, canonicalEvidenceItem,
      List.map_cons, PyData.mapEntry, present_canonicalDict]
  | ref evidence =>
    refine canonicalData_record ?_
    simp only [Evidence.asDict, EvidenceRef.asDict, canonicalEvidence, canonicalEvidenceRef,
      List.map_cons, PyData.mapEntry, present_canonicalDict]

theorem canonicalData_hypothesis (hypothesis : Hypothesis) :
    canonicalData (.dict (canonicalHypothesis hypothesis).asDict) =
      canonicalData (.dict hypothesis.asDict) := by
  refine canonicalData_record ?_
  simp only [Hypothesis.asDict, canonicalHypothesis, List.map_cons, PyData.mapEntry,
    present_canonicalDict]

/-! ### The state -/

/-- A tuple of records that have the same forms. -/
theorem present_records {α : Type} (encode : α → PyData) {back : α → α} (records : List α)
    (same : ∀ record, canonicalData (encode (back record)) = canonicalData (encode record)) :
    present (.tuple ((records.map back).map encode)) = present (.tuple (records.map encode)) := by
  refine congrArg some ?_
  rw [canonicalData_tuple, canonicalData_tuple, List.map_map, List.map_map, List.map_map]
  exact congrArg Json.arr (List.map_congr_left fun record _ => same record)

theorem present_inKeyOrder {α : Type} (encode : α → PyData) (dict : Dict String α) :
    present (.dict ((inKeyOrder dict).entries.map (PyData.mapEntry encode))) =
      present (.dict (dict.entries.map (PyData.mapEntry encode))) := by
  refine congrArg some (canonicalData_dict_perm ((sortBy_perm _ _).map _) ?_)
  rw [List.map_map]
  exact (inKeyOrder dict).nodup

/-- **The export of an imported state** is the export it was imported from. -/
theorem exportCognitiveState_canonicalState (state : CognitiveState) :
    exportCognitiveState (canonicalState state) = exportCognitiveState state := by
  have items := fun items : List EpistemicItem =>
    present_records (fun item => .dict item.asDict) items canonicalData_item
  have evidence := present_records (fun evidence : Evidence => .dict evidence.asDict)
    state.evidence canonicalData_evidence
  have hypotheses := present_records (fun hypothesis : Hypothesis =>
    .dict hypothesis.asDict) state.hypotheses canonicalData_hypothesis
  have events := present_records PyDict.data state.eventLog canonicalData_canonicalDict
  have task : present (.dict (canonicalTask state.task).asDict) = present (.dict state.task.asDict) :=
    congrArg some (canonicalData_task state.task)
  refine congrArg (Json.dumpsWith .compact) (canonicalData_record ?_)
  simp only [CognitiveStateData.asDict, canonicalState, canonicalStateData, List.map_cons,
    PyData.mapEntry, present_canonicalDict, present_inKeyOrder, items, evidence, hypotheses, events,
    task]

/-- `CognitiveState.canonical_hash`. -/
def CognitiveState.canonicalHash (sha256 : String → String) (state : CognitiveState) : String :=
  Cognition.canonicalHash sha256 (.dict state.asDict)

theorem canonicalHash_canonicalState (sha256 : String → String) (state : CognitiveState) :
    (canonicalState state).canonicalHash sha256 = state.canonicalHash sha256 :=
  congrArg (fun text => sha256 s!"{cognitiveSchemaId}\n{text}")
    (exportCognitiveState_canonicalState state)

/-! ### The schema version -/

/-- The import of a text is that of the dictionary it holds. -/
theorem importCognitiveState_of_loads {payload : String} {raw : List (String × Json)}
    (loaded : Json.loads payload = some (.obj raw)) :
    importCognitiveState payload = importCognitiveDict raw := by
  rw [importCognitiveState, loaded]
  rfl

theorem lookup_setDefault_self (raw : List (String × Json)) {name other : String} (default : Json)
    (different : other ≠ name) : (setDefault raw name default).lookup other = raw.lookup other := by
  unfold setDefault
  split
  · rfl
  · rw [lookup_setItem, if_neg different]

/-- The migration writes the current version. -/
theorem lookup_migrated {raw migrated : List (String × Json)}
    (migrates : migratePhase3Draft0 raw = .ok migrated) :
    migrated.lookup "schema_version" = some (.str cognitiveSchemaVersion) := by
  obtain ⟨task, -, same⟩ := bind_eq_ok.mp migrates
  obtain rfl := Except.ok.inj same
  rw [lookup_setDefault_self _ _ (by decide), lookup_setItem, if_neg (by decide), lookup_setItem,
    if_pos rfl]

/-- The version of a state that was read is the one of its document. -/
theorem stateFromDict_version {raw : List (String × Json)} {state : CognitiveState} {version : String}
    (stored : raw.lookup "schema_version" = some (.str version))
    (read : stateFromDict raw = .ok state) : state.schemaVersion = version := by
  simp only [stateFromDict, bind_eq_ok] at read
  obtain ⟨_, -, _, -, _, -, _, -, _, -, _, -, _, -, _, -, _, -, _, -, shown, found, _, -, _, -, _, -,
    _, -, _, -, made⟩ := read
  have reads : field raw "schema_version" readText cognitiveSchemaVersion = .ok version := by
    unfold field
    rw [stored]
    rfl
  obtain rfl := Except.ok.inj (found.symm.trans reads)
  exact congrArg CognitiveStateData.schemaVersion (CognitiveState.ofData_eq_ok.mp made)

/-- **An imported state is of the current version**, whatever was imported. -/
theorem importCognitiveDict_version {raw : List (String × Json)} {state : CognitiveState}
    (imported : importCognitiveDict raw = .ok state) :
    state.schemaVersion = cognitiveSchemaVersion := by
  unfold importCognitiveDict at imported
  dsimp only at imported
  split_ifs at imported with hashless current draft
  · refine stateFromDict_version ?_ imported
    cases stored : raw.lookup "schema_version" with
    | none => simp [stored] at current
    | some version =>
      rw [stored] at current
      exact congrArg some current
  · obtain ⟨migrated, migrates, read⟩ := bind_eq_ok.mp imported
    exact stateFromDict_version (lookup_migrated migrates) read

theorem importCognitiveState_version {payload : String} {state : CognitiveState}
    (imported : importCognitiveState payload = .ok state) :
    state.schemaVersion = cognitiveSchemaVersion := by
  cases loaded : Json.loads payload with
  | none =>
    rw [importCognitiveState, loaded] at imported
    cases imported
  | some value =>
    cases value with
    | obj raw =>
      rw [importCognitiveState_of_loads loaded] at imported
      exact importCognitiveDict_version imported
    | _ =>
      rw [importCognitiveState, loaded] at imported
      cases imported

/-! ### The hash -/

/-- The state is imported from its export with its canonical hash. -/
def CognitiveState.Reimports (sha256 : String → String) (state : CognitiveState) : Prop :=
  ∃ imported, importCognitiveState (exportCognitiveState state) = .ok imported ∧
    imported.canonicalHash sha256 = state.canonicalHash sha256

/-- The canonical hash does not take the state for another that its export is imported as. -/
def CognitiveState.CollisionFree (sha256 : String → String) (state : CognitiveState) : Prop :=
  ∀ imported, importCognitiveState (exportCognitiveState state) = .ok imported →
    imported.canonicalHash sha256 = state.canonicalHash sha256 →
    exportCognitiveState imported = exportCognitiveState state

/-- A hash without collisions is free of these. -/
theorem collisionFree_of_injective {sha256 : String → String}
    (injective : Function.Injective sha256) (state : CognitiveState) :
    state.CollisionFree sha256 := by
  intro imported _ same
  have payloads := congrArg String.toList (injective same)
  simp only [String.toList_append, List.append_cancel_left_eq, String.toList_inj] at payloads
  exact payloads

/-- The export of a state tells its schema version. -/
theorem schemaVersion_of_export {first second : CognitiveState}
    (same : exportCognitiveState first = exportCognitiveState second) :
    first.schemaVersion = second.schemaVersion := by
  have forms := congrArg Json.loads same
  have loads := fun state : CognitiveState => loads_canonicalJson state.toCognitiveStateData.wellFormed
  rw [exportCognitiveState, exportCognitiveState, loads, loads] at forms
  have stored : ∀ state : CognitiveState, (written state.asDict).lookup "schema_version" =
      some (.str state.schemaVersion) := by
    intro state
    rw [written, lookup_canonicalFields state.distinct]
    simp only [CognitiveStateData.asDict, List.lookup_cons, String.reduceBEq, Option.bind_some]
    rfl
  rw [Option.some.injEq, canonicalData, canonicalData, Json.obj.injEq] at forms
  have found : some (Json.str first.schemaVersion) = some (Json.str second.schemaVersion) := by
    rw [← stored first, ← stored second]
    exact congrArg (List.lookup "schema_version") forms
  exact Json.str.inj (Option.some.inj found)

/-- A state is imported from its export with its canonical hash exactly when its schema version is
the current one. -/
theorem reimports_iff {sha256 : String → String} {state : CognitiveState}
    (collisionFree : state.CollisionFree sha256) :
    state.Reimports sha256 ↔ state.schemaVersion = cognitiveSchemaVersion := by
  constructor
  · rintro ⟨imported, imports, same⟩
    rw [← schemaVersion_of_export (collisionFree imported imports same)]
    exact importCognitiveState_version imports
  · intro current
    exact ⟨_, importCognitiveState_export state current, canonicalHash_canonicalState sha256 state⟩

end Dnc.Cognition
