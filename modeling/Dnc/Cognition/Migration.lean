/-
**Export and import of a cognitive state.**

`dnc.cognition.migration`: a state is written as canonical JSON text and read back field by field,
after a migration where the text is of the draft version.

The records are typed here, so a field of another type than the record's own is a type error on
import; the program stores it unchecked. A field that is absent takes the default of the record.
-/

import Dnc.Cognition.Canonical
import Dnc.Cognition.State

namespace Dnc.Cognition

open PyLib

/-! ### Records as dictionaries -/

/-- An optional string. -/
def optionalText (text : Option String) : PyData := .optional .str text

/-- An optional number. -/
def optionalNumber (number : Option PyNumber) : PyData := .optional PyNumber.data number

/-- A member of a string enumeration. -/
def enumText {α : Type} [PyEnum α] (member : α) : PyData := .str (PyEnum.value member)

def ObjectiveConstraint.asDict (constraint : ObjectiveConstraint) : List (String × PyData) := [
  ("constraint_id", .str constraint.constraintId), ("predicate", .str constraint.predicate),
  ("label", .str constraint.label), ("tier", enumText constraint.tier),
  ("scope", .str constraint.scope), ("activation_condition", .str constraint.activationCondition),
  ("violation_severity", enumText constraint.violationSeverity),
  ("detector_version", .str constraint.detectorVersion),
  ("override_authority", optionalText constraint.overrideAuthority),
  ("override_forbidden", .bool constraint.overrideForbidden),
  ("remediation", .str constraint.remediation)]

def CognitiveBudgets.asDict (budgets : CognitiveBudgets) : List (String × PyData) :=
  budgets.fields.map fun (name, value) => (name, optionalNumber value)

def GoalInvariant.asDict (goal : GoalInvariant) : List (String × PyData) := [
  ("objective", .str goal.objective), ("success_criteria", .textTuple goal.successCriteria),
  ("constraints", .textTuple goal.constraints), ("authority", .textTuple goal.authority),
  ("mandatory_verification", .textTuple goal.mandatoryVerification)]

def PolicyContext.asDict (policy : PolicyContext) : List (String × PyData) := [
  ("risk_class", enumText policy.riskClass), ("budget", optionalNumber policy.budget),
  ("deadline", optionalText policy.deadline), ("data_boundaries", .textTuple policy.dataBoundaries),
  ("side_effect_boundaries", .textTuple policy.sideEffectBoundaries)]

def TaskSpec.asDict (task : TaskSpec) : List (String × PyData) := [
  ("task_id", .str task.taskId), ("description", .str task.description),
  ("goal", .dict task.goal.asDict), ("policy", .dict task.policy.asDict),
  ("parent_task_id", optionalText task.parentTaskId), ("tenant_id", .str task.tenantId),
  ("actor_id", .str task.actorId), ("session_id", .str task.sessionId),
  ("expected_output_contract", task.expectedOutputContract.data),
  ("constraints", .tuple (task.constraints.map fun constraint => .dict constraint.asDict)),
  ("prohibited_outcomes", .textTuple task.prohibitedOutcomes),
  ("soft_preferences", .textTuple task.softPreferences), ("domain", .str task.domain),
  ("data_classification", .str task.dataClassification),
  ("jurisdiction_tags", .textTuple task.jurisdictionTags),
  ("budgets", .dict task.budgets.asDict), ("required_evidence", .textTuple task.requiredEvidence),
  ("acceptable_uncertainty", optionalNumber task.acceptableUncertainty),
  ("abstention_rule", .str task.abstentionRule), ("escalation_rule", .str task.escalationRule),
  ("side_effect_class", enumText task.sideEffectClass),
  ("retention_policy", .str task.retentionPolicy), ("audit_policy", .str task.auditPolicy),
  ("user_sources", .textTuple task.userSources), ("system_sources", .textTuple task.systemSources),
  ("retrieved_sources", .textTuple task.retrievedSources),
  ("security_labels", .textTuple task.securityLabels), ("schema_version", .str task.schemaVersion),
  ("metadata", task.metadata.data)]

def EvidenceItem.asDict (evidence : EvidenceItem) : List (String × PyData) := [
  ("evidence_id", .str evidence.evidenceId), ("source", .str evidence.source),
  ("summary", .str evidence.summary), ("supports", .textTuple evidence.supports),
  ("contradicts", .textTuple evidence.contradicts), ("verifier", optionalText evidence.verifier),
  ("confidence", optionalNumber evidence.confidence), ("metadata", evidence.metadata.data)]

def EvidenceRef.asDict (evidence : EvidenceRef) : List (String × PyData) := [
  ("evidence_id", .str evidence.evidenceId), ("artifact_hash", .str evidence.artifactHash),
  ("source_type", enumText evidence.sourceType), ("source_identity", .str evidence.sourceIdentity),
  ("acquired_at", .str evidence.acquiredAt), ("tenant_id", .str evidence.tenantId),
  ("security_labels", .textTuple evidence.securityLabels),
  ("freshness", optionalText evidence.freshness), ("trust_policy", .str evidence.trustPolicy),
  ("authority_level", .str evidence.authorityLevel),
  ("independence_group", .str evidence.independenceGroup),
  ("chain_of_custody", .textTuple evidence.chainOfCustody),
  ("transformation_lineage", .textTuple evidence.transformationLineage),
  ("prompt_injection_untrusted", .bool evidence.promptInjectionUntrusted),
  ("signature", optionalText evidence.signature),
  ("verifier_results", .textTuple evidence.verifierResults),
  ("supports", .textTuple evidence.supports), ("contradicts", .textTuple evidence.contradicts),
  ("retention_obligations", .textTuple evidence.retentionObligations),
  ("deletion_obligations", .textTuple evidence.deletionObligations),
  ("schema_version", .str evidence.schemaVersion), ("metadata", evidence.metadata.data)]

def Evidence.asDict : Evidence → List (String × PyData)
  | .item evidence => evidence.asDict
  | .ref evidence => evidence.asDict

def EpistemicItem.asDict (item : EpistemicItem) : List (String × PyData) := [
  ("item_id", .str item.itemId), ("status", enumText item.status), ("content", .str item.content),
  ("tenant_id", .str item.tenantId), ("normalized_claim", optionalText item.normalizedClaim),
  ("subject", optionalText item.subject), ("predicate", optionalText item.predicate),
  ("object", optionalText item.object), ("scope", .str item.scope),
  ("temporal_validity", optionalText item.temporalValidity),
  ("confidence_ref", optionalText item.confidenceRef),
  ("evidence_ids", .textTuple item.evidenceIds), ("support_ids", .textTuple item.supportIds),
  ("contradiction_ids", .textTuple item.contradictionIds),
  ("depends_on", .textTuple item.dependsOn), ("independence_group", .str item.independenceGroup),
  ("freshness", optionalText item.freshness), ("expires_at", optionalText item.expiresAt),
  ("invalidation_status", enumText item.invalidationStatus),
  ("security_labels", .textTuple item.securityLabels),
  ("ir_unit_refs", .textTuple item.irUnitRefs), ("schema_version", .str item.schemaVersion),
  ("metadata", item.metadata.data)]

def EpistemicRelation.asDict (relation : EpistemicRelation) : List (String × PyData) := [
  ("relation_id", .str relation.relationId), ("relation_type", enumText relation.relationType),
  ("source_id", .str relation.sourceId), ("target_id", .str relation.targetId),
  ("tenant_id", .str relation.tenantId), ("evidence_ids", .textTuple relation.evidenceIds),
  ("security_labels", .textTuple relation.securityLabels),
  ("schema_version", .str relation.schemaVersion)]

def Hypothesis.asDict (hypothesis : Hypothesis) : List (String × PyData) := [
  ("hypothesis_id", .str hypothesis.hypothesisId), ("proposition", .str hypothesis.proposition),
  ("status", enumText hypothesis.status), ("scope", .str hypothesis.scope),
  ("prior", optionalNumber hypothesis.prior), ("posterior", optionalNumber hypothesis.posterior),
  ("qualitative_uncertainty", .str hypothesis.qualitativeUncertainty),
  ("supporting_evidence", .textTuple hypothesis.supportingEvidence),
  ("contradicting_evidence", .textTuple hypothesis.contradictingEvidence),
  ("assumptions", .textTuple hypothesis.assumptions),
  ("depends_on", .textTuple hypothesis.dependsOn),
  ("predicted_observations", .textTuple hypothesis.predictedObservations),
  ("strongest_falsifier", .str hypothesis.strongestFalsifier),
  ("discriminating_actions", .textTuple hypothesis.discriminatingActions),
  ("decision_relevance", .str hypothesis.decisionRelevance),
  ("cost_of_being_wrong", enumText hypothesis.costOfBeingWrong),
  ("accepted_for_action", .bool hypothesis.acceptedForAction),
  ("tenant_id", .str hypothesis.tenantId), ("security_labels", .textTuple hypothesis.securityLabels),
  ("schema_version", .str hypothesis.schemaVersion), ("metadata", hypothesis.metadata.data)]

def CognitiveStateData.asDict (state : CognitiveStateData) : List (String × PyData) := [
  ("task", .dict state.task.asDict), ("schema_version", .str state.schemaVersion),
  ("epistemic_items", .tuple (state.epistemicItems.map fun item => .dict item.asDict)),
  ("epistemic_history", .tuple (state.epistemicHistory.map fun item => .dict item.asDict)),
  ("evidence", .tuple (state.evidence.map fun evidence => .dict evidence.asDict)),
  ("relations", .tuple (state.relations.map fun relation => .dict relation.asDict)),
  ("hypotheses", .tuple (state.hypotheses.map fun hypothesis => .dict hypothesis.asDict)),
  ("action_states", .dict (state.actionStates.entries.map (PyData.mapEntry enumText))),
  ("materialized_views", .dict (state.materializedViews.entries.map (PyData.mapEntry .textTuple))),
  ("invalidated_views", .textTuple state.invalidatedViews),
  ("event_log", .tuple (state.eventLog.map PyDict.data)),
  ("answer_state_id", optionalText state.answerStateId),
  ("verified_answer", .bool state.verifiedAnswer),
  ("calibrated_risk", optionalNumber state.calibratedRisk),
  ("marginal_value_estimate", optionalNumber state.marginalValueEstimate),
  ("metadata", state.metadata.data)]

/-- `export_cognitive_state`. -/
def exportCognitiveState (state : CognitiveState) : String := canonicalJson (.dict state.asDict)

/-! ### Typed reads -/

def readText : Json → Except PyError String
  | .str text => .ok text
  | other => .error (.typeError s!"expected str, not '{other.typeName}'")

def readNumber : Json → Except PyError PyNumber
  | .int value => .ok (.int value)
  | .float value => .ok (.float value)
  | other => .error (.typeError s!"expected float, not '{other.typeName}'")

def readBool : Json → Except PyError Bool
  | .bool value => .ok value
  | other => .error (.typeError s!"expected bool, not '{other.typeName}'")

def readOptional {α : Type} (read : Json → Except PyError α) : Json → Except PyError (Option α)
  | .null => .ok none
  | value => (read value).map some

/-- `tuple(value)` of strings. -/
def readTexts (value : Json) : Except PyError (List String) := do
  (← value.iterate).mapM readText

def readDict (value : Json) : Except PyError PyDict :=
  match PyDict.ofData? (.ofJson value) with
  | some dict => .ok dict
  | none => .error (.typeError s!"expected dict, not '{value.typeName}'")

/-- The entries of a dictionary. -/
def entriesOf : Json → Except PyError (List (String × Json))
  | .obj fields => .ok fields
  | other => .error (.attributeError s!"'{other.typeName}' object has no attribute 'items'")

section Fields

variable {α : Type} (raw : List (String × Json)) (name : String) (read : Json → Except PyError α)

/-- `raw[name]`. -/
def required : Except PyError α :=
  match raw.lookup name with
  | some value => read value
  | none => .error (.keyError name)

/-- The argument `name` of a constructor without a default for it. -/
def argument : Except PyError α :=
  match raw.lookup name with
  | some value => read value
  | none => .error (.typeError s!"missing 1 required positional argument: '{name}'")

/-- `raw.get(name, default)`, or the argument `name` of a constructor with that default. -/
def field (default : α) : Except PyError α :=
  match raw.lookup name with
  | some value => read value
  | none => .ok default

end Fields

/-- A tuple of records under a field. -/
def recordsField {α : Type} (raw : List (String × Json)) (name : String)
    (decode : Json → Except PyError α) : Except PyError (List α) :=
  field raw name (fun value => do (← value.iterate).mapM decode) []

/-- The constructor does not know the key. -/
def unexpected (raw : List (String × Json)) (known : List String) : Except PyError Unit :=
  match raw.find? fun entry => entry.1 ∉ known with
  | some entry => .error (.typeError s!"got an unexpected keyword argument '{entry.1}'")
  | none => .ok ()

/-! ### Records from dictionaries -/

/-- An element of `constraints` in `_task_from_dict`. -/
def objectiveConstraintFromDict (value : Json) : Except PyError ObjectiveConstraint := do
  let raw ← entriesOf value
  unexpected raw ["constraint_id", "predicate", "label", "tier", "scope", "activation_condition",
    "violation_severity", "detector_version", "override_authority", "override_forbidden",
    "remediation"]
  construct ObjectiveConstraintData.violation ObjectiveConstraint.mk {
    tier := ← required raw "tier" PyEnum.parse
    violationSeverity := ← field raw "violation_severity" PyEnum.parse .medium
    constraintId := ← argument raw "constraint_id" readText
    predicate := ← argument raw "predicate" readText
    label := ← argument raw "label" readText
    scope := ← field raw "scope" readText "task"
    activationCondition := ← field raw "activation_condition" readText "always"
    detectorVersion := ← field raw "detector_version" readText "manual-v1"
    overrideAuthority := ← field raw "override_authority" (readOptional readText) none
    overrideForbidden := ← field raw "override_forbidden" readBool false
    remediation := ← field raw "remediation" readText "escalate" }

/-- `CognitiveBudgets(**raw)`. -/
def cognitiveBudgetsFromDict (value : Json) : Except PyError CognitiveBudgets := do
  let raw ← entriesOf value
  unexpected raw ["tokens", "money", "wall_time_ms", "accelerator_time_ms", "tool_calls",
    "branch_count", "attempt_count"]
  construct CognitiveBudgetsData.violation CognitiveBudgets.mk {
    tokens := ← field raw "tokens" (readOptional readNumber) none
    money := ← field raw "money" (readOptional readNumber) none
    wallTimeMs := ← field raw "wall_time_ms" (readOptional readNumber) none
    acceleratorTimeMs := ← field raw "accelerator_time_ms" (readOptional readNumber) none
    toolCalls := ← field raw "tool_calls" (readOptional readNumber) none
    branchCount := ← field raw "branch_count" (readOptional readNumber) none
    attemptCount := ← field raw "attempt_count" (readOptional readNumber) none }

/-- The goal in `_task_from_dict`. -/
def goalFromDict (value : Json) : Except PyError GoalInvariant := do
  let raw ← entriesOf value
  construct GoalInvariantData.violation GoalInvariant.mk {
    objective := ← required raw "objective" readText
    successCriteria := ← field raw "success_criteria" readTexts []
    constraints := ← field raw "constraints" readTexts []
    authority := ← field raw "authority" readTexts []
    mandatoryVerification := ← field raw "mandatory_verification" readTexts [] }

/-- The policy in `_task_from_dict`. -/
def policyFromDict (value : Json) : Except PyError PolicyContext := do
  let raw ← entriesOf value
  construct PolicyContextData.violation PolicyContext.mk {
    riskClass := ← required raw "risk_class" PyEnum.parse
    budget := ← field raw "budget" (readOptional readNumber) none
    deadline := ← field raw "deadline" (readOptional readText) none
    dataBoundaries := ← field raw "data_boundaries" readTexts []
    sideEffectBoundaries := ← field raw "side_effect_boundaries" readTexts [] }

/-- `_task_from_dict`. -/
def taskFromDict (value : Json) : Except PyError TaskSpec := do
  let raw ← entriesOf value
  construct TaskSpecData.violation TaskSpec.mk {
    taskId := ← required raw "task_id" readText
    description := ← required raw "description" readText
    goal := ← required raw "goal" goalFromDict
    policy := ← required raw "policy" policyFromDict
    parentTaskId := ← field raw "parent_task_id" (readOptional readText) none
    tenantId := ← field raw "tenant_id" readText "tenant-default"
    actorId := ← field raw "actor_id" readText "actor-default"
    sessionId := ← field raw "session_id" readText "session-default"
    expectedOutputContract := ← field raw "expected_output_contract" readDict ∅
    constraints := ← recordsField raw "constraints" objectiveConstraintFromDict
    prohibitedOutcomes := ← field raw "prohibited_outcomes" readTexts []
    softPreferences := ← field raw "soft_preferences" readTexts []
    domain := ← field raw "domain" readText "general"
    dataClassification := ← field raw "data_classification" readText "internal"
    jurisdictionTags := ← field raw "jurisdiction_tags" readTexts []
    budgets := ← field raw "budgets" cognitiveBudgetsFromDict .unlimited
    requiredEvidence := ← field raw "required_evidence" readTexts []
    acceptableUncertainty := ← field raw "acceptable_uncertainty" (readOptional readNumber) none
    abstentionRule := ← field raw "abstention_rule" readText
      "abstain when required evidence is missing"
    escalationRule := ← field raw "escalation_rule" readText
      "escalate high-risk unresolved contradictions"
    sideEffectClass := ← field raw "side_effect_class" PyEnum.parse .none
    retentionPolicy := ← field raw "retention_policy" readText "default"
    auditPolicy := ← field raw "audit_policy" readText "append-only"
    userSources := ← field raw "user_sources" readTexts []
    systemSources := ← field raw "system_sources" readTexts []
    retrievedSources := ← field raw "retrieved_sources" readTexts []
    securityLabels := ← field raw "security_labels" readTexts []
    schemaVersion := ← field raw "schema_version" readText cognitiveSchemaVersion
    metadata := ← field raw "metadata" readDict ∅ }

/-- `_epistemic_item_from_dict`. -/
def epistemicItemFromDict (value : Json) : Except PyError EpistemicItem := do
  let raw ← entriesOf value
  construct EpistemicItemData.violation EpistemicItem.mk {
    evidenceIds := ← field raw "evidence_ids" readTexts []
    supportIds := ← field raw "support_ids" readTexts []
    contradictionIds := ← field raw "contradiction_ids" readTexts []
    dependsOn := ← field raw "depends_on" readTexts []
    securityLabels := ← field raw "security_labels" readTexts []
    irUnitRefs := ← field raw "ir_unit_refs" readTexts []
    status := ← required raw "status" PyEnum.parse
    invalidationStatus := ← field raw "invalidation_status" PyEnum.parse .current
    itemId := ← argument raw "item_id" readText
    content := ← argument raw "content" readText
    tenantId := ← field raw "tenant_id" readText "tenant-default"
    normalizedClaim := ← field raw "normalized_claim" (readOptional readText) none
    subject := ← field raw "subject" (readOptional readText) none
    predicate := ← field raw "predicate" (readOptional readText) none
    object := ← field raw "object" (readOptional readText) none
    scope := ← field raw "scope" readText "task"
    temporalValidity := ← field raw "temporal_validity" (readOptional readText) none
    confidenceRef := ← field raw "confidence_ref" (readOptional readText) none
    independenceGroup := ← field raw "independence_group" readText "default"
    freshness := ← field raw "freshness" (readOptional readText) none
    expiresAt := ← field raw "expires_at" (readOptional readText) none
    schemaVersion := ← field raw "schema_version" readText cognitiveSchemaVersion
    metadata := ← field raw "metadata" readDict ∅ }

/-- `_evidence_from_dict`. -/
def evidenceFromDict (value : Json) : Except PyError Evidence := do
  let raw ← entriesOf value
  if raw.lookup "artifact_hash" = none then
    let evidence ← construct EvidenceItemData.violation EvidenceItem.mk {
      supports := ← field raw "supports" readTexts []
      contradicts := ← field raw "contradicts" readTexts []
      evidenceId := ← argument raw "evidence_id" readText
      source := ← argument raw "source" readText
      summary := ← argument raw "summary" readText
      verifier := ← field raw "verifier" (readOptional readText) none
      confidence := ← field raw "confidence" (readOptional readNumber) none
      metadata := ← field raw "metadata" readDict ∅ }
    return .item evidence
  let evidence ← construct EvidenceRefData.violation EvidenceRef.mk {
    securityLabels := ← field raw "security_labels" readTexts []
    chainOfCustody := ← field raw "chain_of_custody" readTexts []
    transformationLineage := ← field raw "transformation_lineage" readTexts []
    verifierResults := ← field raw "verifier_results" readTexts []
    supports := ← field raw "supports" readTexts []
    contradicts := ← field raw "contradicts" readTexts []
    retentionObligations := ← field raw "retention_obligations" readTexts []
    deletionObligations := ← field raw "deletion_obligations" readTexts []
    sourceType := ← required raw "source_type" PyEnum.parse
    evidenceId := ← argument raw "evidence_id" readText
    artifactHash := ← argument raw "artifact_hash" readText
    sourceIdentity := ← argument raw "source_identity" readText
    acquiredAt := ← argument raw "acquired_at" readText
    tenantId := ← field raw "tenant_id" readText "tenant-default"
    freshness := ← field raw "freshness" (readOptional readText) none
    trustPolicy := ← field raw "trust_policy" readText "unverified"
    authorityLevel := ← field raw "authority_level" readText "none"
    independenceGroup := ← field raw "independence_group" readText "default"
    promptInjectionUntrusted := ← field raw "prompt_injection_untrusted" readBool false
    signature := ← field raw "signature" (readOptional readText) none
    schemaVersion := ← field raw "schema_version" readText cognitiveSchemaVersion
    metadata := ← field raw "metadata" readDict ∅ }
  return .ref evidence

/-- `_relation_from_dict`. -/
def relationFromDict (value : Json) : Except PyError EpistemicRelation := do
  let raw ← entriesOf value
  construct EpistemicRelationData.violation EpistemicRelation.mk {
    relationType := ← required raw "relation_type" PyEnum.parse
    evidenceIds := ← field raw "evidence_ids" readTexts []
    securityLabels := ← field raw "security_labels" readTexts []
    relationId := ← argument raw "relation_id" readText
    sourceId := ← argument raw "source_id" readText
    targetId := ← argument raw "target_id" readText
    tenantId := ← field raw "tenant_id" readText "tenant-default"
    schemaVersion := ← field raw "schema_version" readText cognitiveSchemaVersion }

/-- `_hypothesis_from_dict`. -/
def hypothesisFromDict (value : Json) : Except PyError Hypothesis := do
  let raw ← entriesOf value
  construct HypothesisData.violation Hypothesis.mk {
    supportingEvidence := ← field raw "supporting_evidence" readTexts []
    contradictingEvidence := ← field raw "contradicting_evidence" readTexts []
    assumptions := ← field raw "assumptions" readTexts []
    dependsOn := ← field raw "depends_on" readTexts []
    predictedObservations := ← field raw "predicted_observations" readTexts []
    discriminatingActions := ← field raw "discriminating_actions" readTexts []
    securityLabels := ← field raw "security_labels" readTexts []
    status := ← field raw "status" PyEnum.parse .proposed
    costOfBeingWrong := ← field raw "cost_of_being_wrong" PyEnum.parse .medium
    hypothesisId := ← argument raw "hypothesis_id" readText
    proposition := ← argument raw "proposition" readText
    scope := ← field raw "scope" readText "task"
    prior := ← field raw "prior" (readOptional readNumber) none
    posterior := ← field raw "posterior" (readOptional readNumber) none
    qualitativeUncertainty := ← field raw "qualitative_uncertainty" readText "unknown"
    strongestFalsifier := ← field raw "strongest_falsifier" readText ""
    decisionRelevance := ← field raw "decision_relevance" readText "unspecified"
    acceptedForAction := ← field raw "accepted_for_action" readBool false
    tenantId := ← field raw "tenant_id" readText "tenant-default"
    schemaVersion := ← field raw "schema_version" readText cognitiveSchemaVersion
    metadata := ← field raw "metadata" readDict ∅ }

/-- A dictionary comprehension over the entries of a dictionary. -/
def dictField {α : Type} (raw : List (String × Json)) (name : String)
    (read : Json → Except PyError α) : Except PyError (Dict String α) :=
  field raw name (fun value => do
    let entries ← entriesOf value
    let items ← entries.mapM fun (key, value) => (read value).map (Prod.mk key)
    return .ofItems items) ∅

/-- `raw.setdefault(name, default)`. -/
def setDefault (raw : List (String × Json)) (name : String) (default : Json) :
    List (String × Json) :=
  match raw.lookup name with
  | some _ => raw
  | none => setItem raw name default

/-- `migrate_phase3_draft_0`. -/
def migratePhase3Draft0 (raw : List (String × Json)) : Except PyError (List (String × Json)) := do
  let migrated := setItem raw "schema_version" (.str cognitiveSchemaVersion)
  let task ← required migrated "task" entriesOf
  let task := setDefault task "tenant_id" (.str "tenant-default")
  let task := setDefault task "actor_id" (.str "actor-default")
  let task := setDefault task "session_id" (.str "session-default")
  let task := setDefault task "security_labels" (.arr [])
  let task := setDefault task "expected_output_contract" (.obj [])
  let task := setDefault task "metadata" (.obj [])
  let migrated := setItem migrated "task" (.obj task)
  return setDefault migrated "event_log" (.arr [])

/-- The part of `import_cognitive_state` after the version is checked. -/
def stateFromDict (raw : List (String × Json)) : Except PyError CognitiveState := do
  let task ← required raw "task" taskFromDict
  let epistemicItems ← recordsField raw "epistemic_items" epistemicItemFromDict
  let epistemicHistory ← recordsField raw "epistemic_history" epistemicItemFromDict
  let evidence ← recordsField raw "evidence" evidenceFromDict
  let relations ← recordsField raw "relations" relationFromDict
  let hypotheses ← recordsField raw "hypotheses" hypothesisFromDict
  let actionStates ← dictField raw "action_states" PyEnum.parse
  let materializedViews ← dictField raw "materialized_views" readTexts
  let invalidatedViews ← field raw "invalidated_views" readTexts []
  let eventLog ← recordsField raw "event_log" readDict
  CognitiveState.ofData {
    task, epistemicItems, epistemicHistory, evidence, relations, hypotheses, actionStates,
    materializedViews, invalidatedViews, eventLog
    schemaVersion := ← field raw "schema_version" readText cognitiveSchemaVersion
    answerStateId := ← field raw "answer_state_id" (readOptional readText) none
    verifiedAnswer := ← field raw "verified_answer" (fun value => .ok value.truthy) false
    calibratedRisk := ← field raw "calibrated_risk" (readOptional readNumber) none
    marginalValueEstimate := ← field raw "marginal_value_estimate" (readOptional readNumber) none
    metadata := ← field raw "metadata" readDict ∅ }

/-- `import_cognitive_state` of a dictionary. -/
def importCognitiveDict (raw : List (String × Json)) : Except PyError CognitiveState :=
  let version := (raw.lookup "schema_version").getD .null
  if version.hashable = false then
    throw (.typeError s!"unhashable type: '{version.typeName}'")
  else if version = .str cognitiveSchemaVersion then stateFromDict raw
  else if version = .str "phase3-draft-0" then do
    let migrated ← migratePhase3Draft0 raw
    stateFromDict migrated
  else throw (.valueError s!"unsupported cognitive state schema_version: {version.pyStr}")

/-- `import_cognitive_state` of a text. -/
def importCognitiveState (payload : String) : Except PyError CognitiveState :=
  match Json.loads payload with
  | none => .error (.valueError "JSONDecodeError")
  | some value => do importCognitiveDict (← entriesOf value)

end Dnc.Cognition
