/-
**What a redacted export depends on.**

Two states are twins for an observer when they differ in the records outside the observer's labels
only, and there not in the identifiers and the labels (`Twins`). `redacted_export` keeps the records
whose identifier is that of a record within the labels.

* `filter_within_eq`: twins have the same records within the labels, so what the export computes
  from these is the same: the visible identifiers, the hidden ones, views, events and the answer;
* `filter_named_eq`: they keep the same records of a kind, if none outside the labels has the
  identifier of one that is kept; and if one has, a twin keeps another in its place
  (`alterHidden_named`);
* `noninterfering_iff`: so an export tells twins apart exactly where it does not refuse the task and
  a record outside the labels has the identifier of a visible record of its kind.
-/

import Dnc.Cognition.Redaction

namespace Dnc.Cognition

open PyLib Logic

/-! ### Records of one kind -/

/-- How the records of a kind are named, labelled and written, and a change of a record that keeps
its name and its labels. -/
structure RecordKind (α : Type) where
  ident : α → String
  labels : α → List String
  asDict : α → List (String × PyData)
  alter : α → α
  ident_alter : ∀ record, ident (alter record) = ident record
  labels_alter : ∀ record, labels (alter record) = labels record
  alter_differs : ∀ record, labels record ≠ [] →
    canonicalData (.dict (asDict (alter record))) ≠ canonicalData (.dict (asDict record))

namespace RecordKind

variable {α : Type} (kind : RecordKind α) (allowed : Finset String)

/-- The same record, unless it is outside the labels: then the same name and the same labels. -/
structure Twin (first second : α) : Prop where
  ident : kind.ident second = kind.ident first
  labels : kind.labels second = kind.labels first
  same : within allowed (kind.labels first) = true → second = first

/-- The records with every record outside the labels altered. -/
def alterHidden (records : List α) : List α :=
  records.map fun record =>
    if within allowed (kind.labels record) = true then record else kind.alter record

variable {kind allowed} {records others : List α} {ids : Finset String}

/-- **Twins have the same records within the labels.** -/
theorem filter_within_eq (twins : List.Forall₂ (kind.Twin allowed) records others) :
    (others.filter fun record => within allowed (kind.labels record)) =
      records.filter fun record => within allowed (kind.labels record) := by
  induction twins with
  | nil => rfl
  | cons twin _ ih =>
    rw [List.filter_cons, List.filter_cons, twin.labels, ih]
    split_ifs with permitted
    · rw [twin.same permitted]
    · rfl

theorem map_ident_eq (twins : List.Forall₂ (kind.Twin allowed) records others) :
    others.map kind.ident = records.map kind.ident := by
  induction twins with
  | nil => rfl
  | cons twin _ ih => rw [List.map_cons, List.map_cons, twin.ident, ih]

/-- **Twins keep the same records**, if none outside the labels is kept. -/
theorem filter_named_eq (twins : List.Forall₂ (kind.Twin allowed) records others)
    (apart : ∀ record ∈ records, within allowed (kind.labels record) = false →
      kind.ident record ∉ ids) :
    (others.filter fun record => decide (kind.ident record ∈ ids)) =
      records.filter fun record => decide (kind.ident record ∈ ids) := by
  induction twins with
  | nil => rfl
  | @cons first second _ _ twin _ ih =>
    rw [List.forall_mem_cons] at apart
    rw [List.filter_cons, List.filter_cons, twin.ident, ih apart.2]
    split_ifs with kept
    · cases permitted : within allowed (kind.labels first) with
      | true => rw [twin.same permitted]
      | false => exact absurd (of_decide_eq_true kept) (apart.1 permitted)
    · rfl

theorem twin_self (record : α) : kind.Twin allowed record record := ⟨rfl, rfl, fun _ => rfl⟩

theorem twins_self (records : List α) : List.Forall₂ (kind.Twin allowed) records records :=
  List.forall₂_same.mpr fun record _ => twin_self record

theorem twins_alterHidden (records : List α) :
    List.Forall₂ (kind.Twin allowed) records (kind.alterHidden allowed records) := by
  unfold alterHidden
  rw [List.forall₂_map_right_iff]
  refine List.forall₂_same.mpr fun record _ => ?_
  split_ifs with permitted
  · exact twin_self record
  · exact ⟨kind.ident_alter record, kind.labels_alter record, fun within => absurd within permitted⟩

/-- **A twin keeps another record** in the place of one that is outside the labels. -/
theorem alterHidden_named {record : α} (listed : record ∈ records)
    (hidden : within allowed (kind.labels record) = false) (kept : kind.ident record ∈ ids)
    {also : Finset String} (sameIds : also = ids) :
    ((kind.alterHidden allowed records).filter fun record => decide (kind.ident record ∈ also)).map
        (fun record => canonicalData (.dict (kind.asDict record))) ≠
      (records.filter fun record => decide (kind.ident record ∈ ids)).map
        fun record => canonicalData (.dict (kind.asDict record)) := by
  subst sameIds
  intro same
  have names : ((fun record => decide (kind.ident record ∈ also)) ∘ fun record =>
      if within allowed (kind.labels record) = true then record else kind.alter record) =
        fun record => decide (kind.ident record ∈ also) := by
    funext other
    simp only [Function.comp_apply]
    split_ifs
    · rfl
    · rw [kind.ident_alter]
  rw [alterHidden, List.filter_map, names, List.map_map, List.map_inj_left] at same
  have differs := same record (List.mem_filter.mpr ⟨listed, decide_eq_true kept⟩)
  simp only [Function.comp_apply, hidden, Bool.false_eq_true, if_false] at differs
  refine kind.alter_differs record ?_ differs
  intro unlabelled
  rw [unlabelled] at hidden
  cases hidden

end RecordKind

/-! ### The four kinds -/

/-- Equal canonical data has equal fields. -/
theorem present_lookup {first second : List (String × PyData)}
    (distinct : (first.map Prod.fst).Nodup) (also : (second.map Prod.fst).Nodup)
    (same : canonicalData (.dict first) = canonicalData (.dict second)) (name : String) :
    (first.lookup name).bind present = (second.lookup name).bind present := by
  rw [canonicalData, canonicalData, Json.obj.injEq] at same
  rw [← lookup_canonicalFields distinct, same, lookup_canonicalFields also]

theorem append_ne_self (text : String) : text ++ "x" ≠ text := by
  intro same
  have lengths := congrArg String.length same
  rw [String.length_append] at lengths
  exact absurd lengths (Nat.succ_ne_self _)

/-- Records that differ in a text field are written differently. -/
theorem written_differs (name text : String) {first second : List (String × PyData)}
    (distinct : (first.map Prod.fst).Nodup) (also : (second.map Prod.fst).Nodup)
    (changed : first.lookup name = some (.str (text ++ "x")))
    (original : second.lookup name = some (.str text)) :
    canonicalData (.dict first) ≠ canonicalData (.dict second) := by
  intro same
  have fields := present_lookup distinct also same name
  rw [changed, original] at fields
  have texts : Json.str (text ++ "x") = Json.str text := Option.some.inj fields
  exact append_ne_self text (Json.str.inj texts)

def itemKind : RecordKind EpistemicItem where
  ident item := item.itemId
  labels item := item.securityLabels
  asDict item := item.asDict
  alter item := ⟨{ item.toEpistemicItemData with scope := item.scope ++ "x" }, item.valid⟩
  ident_alter _ := rfl
  labels_alter _ := rfl
  alter_differs item _ :=
    written_differs "scope" item.scope (EpistemicItem.distinct _) item.distinct rfl rfl

def relationKind : RecordKind EpistemicRelation where
  ident relation := relation.relationId
  labels relation := relation.securityLabels
  asDict relation := relation.asDict
  alter relation :=
    ⟨{ relation.toEpistemicRelationData with tenantId := relation.tenantId ++ "x" }, relation.valid⟩
  ident_alter _ := rfl
  labels_alter _ := rfl
  alter_differs relation _ :=
    written_differs "tenant_id" relation.tenantId (EpistemicRelation.distinct _) relation.distinct
      rfl rfl

def hypothesisKind : RecordKind Hypothesis where
  ident hypothesis := hypothesis.hypothesisId
  labels hypothesis := hypothesis.securityLabels
  asDict hypothesis := hypothesis.asDict
  alter hypothesis :=
    ⟨{ hypothesis.toHypothesisData with scope := hypothesis.scope ++ "x" }, hypothesis.valid⟩
  ident_alter _ := rfl
  labels_alter _ := rfl
  alter_differs hypothesis _ :=
    written_differs "scope" hypothesis.scope (Hypothesis.distinct _) hypothesis.distinct rfl rfl

/-- An evidence record without labels is in every scope. -/
def evidenceKind : RecordKind Evidence where
  ident := Evidence.evidenceId
  labels := Evidence.securityLabels
  asDict := Evidence.asDict
  alter
    | .item evidence => .item evidence
    | .ref evidence =>
      .ref ⟨{ evidence.toEvidenceRefData with trustPolicy := evidence.trustPolicy ++ "x" },
        evidence.valid⟩
  ident_alter evidence := by cases evidence <;> rfl
  labels_alter evidence := by cases evidence <;> rfl
  alter_differs evidence labelled := by
    cases evidence with
    | item evidence => exact absurd rfl labelled
    | ref evidence =>
      exact written_differs "trust_policy" evidence.trustPolicy (EvidenceRef.distinct _)
        evidence.distinct rfl rfl

/-! ### Twin states -/

/-- **The states differ in the records outside the labels only**, and there not in identifiers and
labels, and in what the export leaves out. -/
structure Twins (allowed : Finset String) (first second : CognitiveState) : Prop where
  task : second.task = first.task
  schemaVersion : second.schemaVersion = first.schemaVersion
  epistemicItems :
    List.Forall₂ (itemKind.Twin allowed) first.epistemicItems second.epistemicItems
  epistemicHistory :
    List.Forall₂ (itemKind.Twin allowed) first.epistemicHistory second.epistemicHistory
  evidence : List.Forall₂ (evidenceKind.Twin allowed) first.evidence second.evidence
  relations : List.Forall₂ (relationKind.Twin allowed) first.relations second.relations
  hypotheses : List.Forall₂ (hypothesisKind.Twin allowed) first.hypotheses second.hypotheses
  materializedViews : second.materializedViews = first.materializedViews
  invalidatedViews : second.invalidatedViews = first.invalidatedViews
  eventLog : second.eventLog = first.eventLog
  answerStateId : second.answerStateId = first.answerStateId
  verifiedAnswer : second.verifiedAnswer = first.verifiedAnswer
  calibratedRisk : second.calibratedRisk = first.calibratedRisk
  marginalValueEstimate : second.marginalValueEstimate = first.marginalValueEstimate

/-- **Every twin of the state has the same export.** -/
def Noninterfering (state : CognitiveState) (allowed : Finset String) : Prop :=
  ∀ other, Twins allowed state other → redactedExport other allowed = redactedExport state allowed

/-- No record outside the labels has the identifier of a visible record of its kind. -/
structure NamedApart (state : CognitiveState) (allowed : Finset String) : Prop where
  epistemicItems : ∀ item ∈ state.epistemicItems,
    within allowed item.securityLabels = false → item.itemId ∉ visibleItemIds state allowed
  evidence : ∀ evidence ∈ state.evidence, within allowed evidence.securityLabels = false →
    evidence.evidenceId ∉ visibleEvidenceIds state allowed
  relations : ∀ relation ∈ state.relations, within allowed relation.securityLabels = false →
    relation.relationId ∉ visibleRelationIds state allowed
  hypotheses : ∀ hypothesis ∈ state.hypotheses,
    within allowed hypothesis.securityLabels = false →
      hypothesis.hypothesisId ∉ visibleHypothesisIds state allowed

section Export

variable {allowed : Finset String} {state other : CognitiveState}

theorem Twins.visibleItemIds (twins : Twins allowed state other) :
    visibleItemIds other allowed = visibleItemIds state allowed := by
  have same := itemKind.filter_within_eq twins.epistemicItems
  exact congrArg (fun kept => (kept.map itemKind.ident).toFinset) same

theorem Twins.visibleHistory (twins : Twins allowed state other) :
    visibleHistory other allowed = visibleHistory state allowed :=
  itemKind.filter_within_eq twins.epistemicHistory

theorem Twins.visibleEvidenceIds (twins : Twins allowed state other) :
    visibleEvidenceIds other allowed = visibleEvidenceIds state allowed := by
  have same := evidenceKind.filter_within_eq twins.evidence
  exact congrArg (fun kept => (kept.map evidenceKind.ident).toFinset) same

theorem Twins.visibleHypothesisIds (twins : Twins allowed state other) :
    visibleHypothesisIds other allowed = visibleHypothesisIds state allowed := by
  have same := hypothesisKind.filter_within_eq twins.hypotheses
  exact congrArg (fun kept => (kept.map hypothesisKind.ident).toFinset) same

/-- The relations between visible items are chosen among those within the labels. -/
theorem visibleRelationIds_eq (state : CognitiveState) : visibleRelationIds state allowed =
    (((state.relations.filter fun relation => within allowed (relationKind.labels relation)).filter
      fun relation => decide (relation.sourceId ∈ Cognition.visibleItemIds state allowed) &&
        decide (relation.targetId ∈ Cognition.visibleItemIds state allowed)).map
          relationKind.ident).toFinset := by
  rw [List.filter_filter]
  unfold visibleRelationIds
  congr 2
  apply List.filter_congr
  intro relation _
  rw [Bool.and_assoc]
  exact Bool.and_comm _ _

theorem Twins.visibleRelationIds (twins : Twins allowed state other) :
    visibleRelationIds other allowed = visibleRelationIds state allowed := by
  rw [visibleRelationIds_eq, visibleRelationIds_eq, relationKind.filter_within_eq twins.relations,
    twins.visibleItemIds]

theorem Twins.hiddenIds (twins : Twins allowed state other) :
    hiddenIds other allowed = hiddenIds state allowed := by
  have items : other.itemIds = state.itemIds := itemKind.map_ident_eq twins.epistemicItems
  have evidence : other.evidence.map Evidence.evidenceId = state.evidence.map Evidence.evidenceId :=
    evidenceKind.map_ident_eq twins.evidence
  have hypotheses : (other.hypotheses.map fun hypothesis => hypothesis.hypothesisId) =
      state.hypotheses.map fun hypothesis => hypothesis.hypothesisId :=
    hypothesisKind.map_ident_eq twins.hypotheses
  have relations : (other.relations.map fun relation => relation.relationId) =
      state.relations.map fun relation => relation.relationId :=
    relationKind.map_ident_eq twins.relations
  unfold Cognition.hiddenIds
  rw [items, evidence, hypotheses, relations, twins.visibleItemIds, twins.visibleEvidenceIds,
    twins.visibleHypothesisIds, twins.visibleRelationIds]

/-- **Twins are redacted to the same state**, if records are named apart. -/
theorem Twins.redacted (twins : Twins allowed state other) (apart : NamedApart state allowed) :
    redacted other allowed = redacted state allowed := by
  have items := itemKind.filter_named_eq twins.epistemicItems apart.epistemicItems
  have evidence := evidenceKind.filter_named_eq twins.evidence apart.evidence
  have relations := relationKind.filter_named_eq twins.relations apart.relations
  have hypotheses := hypothesisKind.filter_named_eq twins.hypotheses apart.hypotheses
  have views : viewVisible other allowed = viewVisible state allowed := by
    funext dependencies
    rw [viewVisible, viewVisible, twins.visibleItemIds]
  have invalidated : invalidatedViewVisible other allowed = invalidatedViewVisible state allowed := by
    funext viewId
    rw [invalidatedViewVisible, invalidatedViewVisible, twins.materializedViews, views]
  have answer : visibleAnswer other allowed = visibleAnswer state allowed := by
    rw [visibleAnswer, visibleAnswer, twins.answerStateId, twins.visibleItemIds]
  unfold Cognition.redacted
  rw [CognitiveStateData.mk.injEq]
  refine ⟨twins.task, twins.schemaVersion, ?_, twins.visibleHistory, ?_, ?_, ?_, rfl, ?_, ?_, ?_,
    answer, twins.verifiedAnswer, twins.calibratedRisk, twins.marginalValueEstimate, rfl⟩
  · rw [twins.visibleItemIds]
    exact items
  · rw [twins.visibleEvidenceIds]
    exact evidence
  · rw [twins.visibleRelationIds]
    exact relations
  · rw [twins.visibleHypothesisIds]
    exact hypotheses
  · rw [twins.materializedViews, views]
  · rw [twins.invalidatedViews, invalidated]
  · rw [twins.eventLog, twins.hiddenIds]

/-- Equal exports have equal fields. -/
theorem field_of_sameExport (permitted : within allowed state.task.securityLabels = true)
    (task : other.task = state.task)
    (same : redactedExport other allowed = redactedExport state allowed) (name : String) :
    ((redacted other allowed).asDict.lookup name).bind present =
      ((redacted state allowed).asDict.lookup name).bind present := by
  have texts : canonicalJson (.dict (redacted other allowed).asDict) =
      canonicalJson (.dict (redacted state allowed).asDict) := by
    rw [redactedExport_eq, redactedExport_eq, task, if_pos permitted, if_pos permitted] at same
    exact Except.ok.inj same
  have loaded := loads_canonicalJson (redacted other allowed).wellFormed
  rw [texts, loads_canonicalJson (redacted state allowed).wellFormed] at loaded
  exact present_lookup (redacted other allowed).distinct (redacted state allowed).distinct
    (Option.some.inj loaded).symm name

/-- Equal exports have the same records in a field. -/
theorem records_of_sameExport {α : Type} (asDict : α → List (String × PyData)) (name : String)
    {records others : List α} (same : redactedExport other allowed = redactedExport state allowed)
    (permitted : within allowed state.task.securityLabels = true) (task : other.task = state.task)
    (inOther : (redacted other allowed).asDict.lookup name =
      some (.tuple (others.map fun record => .dict (asDict record))))
    (inState : (redacted state allowed).asDict.lookup name =
      some (.tuple (records.map fun record => .dict (asDict record)))) :
    (others.map fun record => canonicalData (.dict (asDict record))) =
      records.map fun record => canonicalData (.dict (asDict record)) := by
  have fields := field_of_sameExport permitted task same name
  rw [inOther, inState] at fields
  have written : canonicalData (.tuple (others.map fun record => .dict (asDict record))) =
      canonicalData (.tuple (records.map fun record => .dict (asDict record))) :=
    Option.some.inj fields
  rw [canonicalData_tuple, canonicalData_tuple, List.map_map, List.map_map, Json.arr.injEq] at written
  exact written

/-! ### A twin with another export -/

variable (state allowed)

theorem alterHidden_tenants {records : List EpistemicItem} {tenantId : String}
    (tenants : ¬ ∃ item ∈ records, item.tenantId ≠ tenantId) :
    ¬ ∃ item ∈ itemKind.alterHidden allowed records, item.tenantId ≠ tenantId := by
  rintro ⟨item, listed, different⟩
  obtain ⟨origin, member, rfl⟩ := List.mem_map.mp listed
  refine tenants ⟨origin, member, fun same => different ?_⟩
  split_ifs
  · exact same
  · exact same

theorem alterHidden_evidenceTenants {records : List Evidence} {tenantId : String}
    (tenants : ¬ ∃ evidence ∈ records, evidence.tenantIdD tenantId ≠ tenantId) :
    ¬ ∃ evidence ∈ evidenceKind.alterHidden allowed records,
      evidence.tenantIdD tenantId ≠ tenantId := by
  rintro ⟨evidence, listed, different⟩
  obtain ⟨origin, member, rfl⟩ := List.mem_map.mp listed
  refine tenants ⟨origin, member, fun same => different ?_⟩
  split_ifs
  · exact same
  · cases origin <;> exact same

/-- The state with every record outside the labels altered. -/
def alteredTwin : CognitiveState where
  toCognitiveStateData := { state.toCognitiveStateData with
    epistemicItems := itemKind.alterHidden allowed state.epistemicItems
    evidence := evidenceKind.alterHidden allowed state.evidence
    relations := relationKind.alterHidden allowed state.relations
    hypotheses := hypothesisKind.alterHidden allowed state.hypotheses }
  valid := by
    have valid := state.valid
    unfold CognitiveStateData.violation at valid ⊢
    split_ifs at valid with items history evidence
    rw [if_neg (alterHidden_tenants allowed items), if_neg history,
      if_neg (alterHidden_evidenceTenants allowed evidence)]
    exact valid

theorem twins_alteredTwin : Twins allowed state (alteredTwin allowed state) where
  task := rfl
  schemaVersion := rfl
  epistemicItems := itemKind.twins_alterHidden _
  epistemicHistory := itemKind.twins_self _
  evidence := evidenceKind.twins_alterHidden _
  relations := relationKind.twins_alterHidden _
  hypotheses := hypothesisKind.twins_alterHidden _
  materializedViews := rfl
  invalidatedViews := rfl
  eventLog := rfl
  answerStateId := rfl
  verifiedAnswer := rfl
  calibratedRisk := rfl
  marginalValueEstimate := rfl

variable {state allowed}

/-- **A record outside the labels that has a visible name is exported.** -/
theorem namedApart_of_sameExport (permitted : within allowed state.task.securityLabels = true)
    (same : redactedExport (alteredTwin allowed state) allowed = redactedExport state allowed) :
    NamedApart state allowed := by
  have twins := twins_alteredTwin allowed state
  constructor
  · intro item listed hidden named
    have records := records_of_sameExport itemKind.asDict "epistemic_items" same permitted rfl rfl rfl
    exact itemKind.alterHidden_named listed hidden named twins.visibleItemIds records
  · intro evidence listed hidden named
    have records := records_of_sameExport evidenceKind.asDict "evidence" same permitted rfl rfl rfl
    exact evidenceKind.alterHidden_named listed hidden named twins.visibleEvidenceIds records
  · intro relation listed hidden named
    have records := records_of_sameExport relationKind.asDict "relations" same permitted rfl rfl rfl
    exact relationKind.alterHidden_named listed hidden named twins.visibleRelationIds records
  · intro hypothesis listed hidden named
    have records := records_of_sameExport hypothesisKind.asDict "hypotheses" same permitted rfl rfl rfl
    exact hypothesisKind.alterHidden_named listed hidden named twins.visibleHypothesisIds records

/-- **An export tells no twins apart exactly where records outside the labels have names of their
own**, or the task is outside the labels. -/
theorem noninterfering_iff (state : CognitiveState) (allowed : Finset String) :
    Noninterfering state allowed ↔
      (within allowed state.task.securityLabels = true → NamedApart state allowed) := by
  constructor
  · intro same permitted
    exact namedApart_of_sameExport permitted (same _ (twins_alteredTwin allowed state))
  · intro apart other twins
    rw [redactedExport_eq, redactedExport_eq, twins.task]
    split_ifs with permitted
    · rw [twins.redacted (apart permitted)]
    · rfl

end Export

namespace Sample

/-- A secret claim under the identifier of a public one. -/
def sharedName : CognitiveState where
  task := task
  epistemicItems := [claim "secret-claim" (by decide) [], secretClaim]
  valid := by decide

end Sample

/-- A claim outside the labels is exported under the identifier of one within them. -/
theorem secret_interferes : ¬ Noninterfering Sample.sharedName {"public"} := by
  intro same
  have apart := namedApart_of_sameExport (by decide) (same _ (twins_alteredTwin {"public"} _))
  refine apart.epistemicItems Sample.secretClaim (List.mem_cons_of_mem _ List.mem_cons_self)
    (by decide) (mem_visibleItemIds.mpr ⟨_, List.mem_cons_self, by decide, rfl⟩)

end Dnc.Cognition
