/-
**The synthesis of semantic candidates.**

`SemanticSynthesizer.synthesize` makes a candidate of every template that is wanted for the state of
the task, or named as a skill, and served by a capability. It checks the action, the permissions and
the risk of a template against the card of its capability; what the request grants and may spend is
left to the validation.

* `violation_candidateData`: the one thing that keeps a candidate from being built is that it
  predicts no evidence (`predictedEvidence_eq_nil`).
* `validation_candidate`: the reasons against a candidate are its cost, a capability that has ended
  since, and permissions that are not granted.
* `synthesisLaw`: so a request is answered, and its answers are judged.
-/

import Dnc.Assurance.Semantic
import Dnc.Cognition.Canonical
import Dnc.Cognition.State
import Dnc.Semantics.Validation

namespace Dnc.Semantics

open PyLib Cognition Capabilities Assurance Logic

/-- A digest as `hexdigest` writes it. -/
structure HexDigest where
  text : String
  long : text.length = 64
  hex : ∀ c ∈ text.toList, c ∈ "0123456789abcdef".toList

theorem hexDigits : "0123456789abcdef".toList =
    ['0', '1', '2', '3', '4', '5', '6', '7', '8', '9', 'a', 'b', 'c', 'd', 'e', 'f'] :=
  toList_of_spelled rfl

theorem hex_of_spelled {text : String} {chars : List Char} (spelled : text = String.ofList chars)
    (all : (chars.all fun c => decide (c ∈ ['0', '1', '2', '3', '4', '5', '6', '7', '8', '9', 'a',
      'b', 'c', 'd', 'e', 'f'])) = true) :
    ∀ c ∈ text.toList, c ∈ "0123456789abcdef".toList := by
  rw [toList_of_spelled spelled, hexDigits]
  exact fun c member => of_decide_eq_true (List.all_eq_true.mp all c member)

/-- What the synthesis takes from outside: the functions on text, `hashlib.sha256`, and the literal
of a float. -/
structure SynthesisEnv (R : Type) extends TextEnv R where
  sha256 : String → HexDigest
  floatRepr : R → FloatLit

section Templates

variable {R : Type} [PyFloat R]

structure SemanticUnitTemplateData (R : Type) where
  templateId : String
  version : String
  purpose : String
  actionType : CognitiveActionType
  inputSchema : Json
  outputSchema : Json
  requiredCapabilityId : String
  permissions : Finset String := ∅
  preconditions : List String := []
  postconditions : List String := []
  resourceLimits : Dict String R := ∅
  riskClass : RiskClass := .medium
  sideEffectClass : SideEffectClass := .none

/-- `SemanticUnitTemplate.__post_init__`. -/
def SemanticUnitTemplateData.violation (data : SemanticUnitTemplateData R) : Option PyError :=
  if data.templateId = "" ∨ data.version = "" ∨ data.purpose = "" ∨
      data.requiredCapabilityId = "" then
    some (.valueError "semantic template identity, purpose, and capability MUST be complete")
  else if data.inputSchema.truthy = false ∨ data.outputSchema.truthy = false then
    some (.valueError "semantic templates MUST declare input and output schemas")
  else none

variable (R) in
structure SemanticUnitTemplate extends SemanticUnitTemplateData R where
  valid : toSemanticUnitTemplateData.violation = none

omit [PyFloat R] in
theorem SemanticUnitTemplate.complete (template : SemanticUnitTemplate R) :
    template.requiredCapabilityId ≠ "" ∧ template.inputSchema.truthy = true ∧
      template.outputSchema.truthy = true := by
  have valid := template.valid
  unfold SemanticUnitTemplateData.violation at valid
  split_ifs at valid with identity schemas
  simp only [not_or, Bool.not_eq_false] at identity schemas
  exact ⟨identity.2.2.2, schemas⟩

/-- `SemanticUnitTemplate.contract`. -/
def SemanticUnitTemplate.contract (env : SynthesisEnv R) (template : SemanticUnitTemplate R) :
    UnitContract where
  inputSchema := template.inputSchema
  outputSchema := template.outputSchema
  preconditions := .arr (template.preconditions.map .str)
  postconditions := .arr (template.postconditions.map .str)
  resourceLimits := .obj (template.resourceLimits.entries.map fun limit =>
    (limit.1, .float (env.floatRepr limit.2)))

/-- `float(template.resource_limits.get("cost", 0.0))`. -/
def SemanticUnitTemplate.cost (template : SemanticUnitTemplate R) : R :=
  (template.resourceLimits.get? "cost").getD 0.0

structure SynthesisRequestData (R : Type) [PyFloat R] where
  state : CognitiveState
  templates : List (SemanticUnitTemplate R)
  provenanceRefs : List String
  availableBudget : R
  grantedPermissions : Finset String := ∅
  maxHypothesisBranches : Int := 3
  verifierNeeds : List String := []
  skillTemplateIds : List String := []

/-- `SynthesisRequest.__post_init__`. -/
def SynthesisRequestData.violation (data : SynthesisRequestData R) : Option PyError :=
  if data.availableBudget < ((0 : Int) : R) ∨ data.maxHypothesisBranches < 0 then
    some (.valueError "synthesis budget and branch bound MUST be non-negative")
  else if data.provenanceRefs = [] then
    some (.valueError "synthesis requires provenance references")
  else none

variable (R) in
structure SynthesisRequest extends SynthesisRequestData R where
  valid : toSynthesisRequestData.violation = none

theorem SynthesisRequest.hasProvenance (request : SynthesisRequest R) :
    request.provenanceRefs ≠ [] := by
  have valid := request.valid
  unfold SynthesisRequestData.violation at valid
  split_ifs at valid with negative unfounded
  exact unfounded

end Templates

section Synthesis

variable {R : Type} [PyFloat R] (env : SynthesisEnv R) (registry : CapabilityRegistry R)
  (clock : Nat → Int) (request : SynthesisRequest R) (template : SemanticUnitTemplate R)

namespace SynthesisRequest

/-- `wanted`. -/
def wanted : Finset CognitiveActionType :=
  {.reason} ∪
    (if request.state.missingInformation ≠ [] then {.retrieve} else ∅) ∪
    (if request.verifierNeeds ≠ [] ∨ (∃ answer ∈ request.state.answerStateId, answer ≠ "") then
      {.verify} else ∅) ∪
    (if request.state.hypotheses ≠ [] ∧ 0 < request.maxHypothesisBranches then {.observeOrTest}
      else ∅)

/-- The templates that are wanted, or named as skills. -/
def selected : List (SemanticUnitTemplate R) :=
  request.templates.filter fun template =>
    template.actionType ∈ request.wanted ∨ template.templateId ∈ request.skillTemplateIds

/-- `state.hypotheses[: request.max_hypothesis_branches]`. -/
def branches : List Hypothesis :=
  request.state.hypotheses.take request.maxHypothesisBranches.toNat

/-- `hypothesis_ids`. -/
def hypothesisIds : List String := request.branches.map fun hypothesis => hypothesis.hypothesisId

/-- The checks of a template against the card of its capability. -/
def Serves (now : Int) (card : CapabilityCard R) : Prop :=
  card ∈ registry.available now ∧ template.actionType ∈ card.supportedActions ∧
    template.permissions ⊆ card.permissions ∧
    riskOrder template.riskClass ≤ riskOrder card.riskLimit ∧
    riskOrder template.riskClass ≤ riskOrder request.state.task.policy.riskClass

instance (now : Int) (card : CapabilityCard R) :
    Decidable (request.Serves registry template now card) :=
  inferInstanceAs (Decidable (_ ∧ _))

/-- The templates that the loop does not skip, at the readings of the clock. -/
def served : List (SemanticUnitTemplate R) :=
  (request.selected.zipIdx.filter fun place =>
    (registry.get place.1.requiredCapabilityId).any fun card =>
      request.Serves registry place.1 (clock place.2) card).map Prod.fst

/-- `semantic_payload`. -/
def semanticPayload : PyData := .dict [
  ("task", .str request.state.task.taskId), ("template", .str template.templateId),
  ("version", .str template.version),
  ("hypotheses", .textTuple
    (if template.actionType = .observeOrTest then request.hypothesisIds else [])),
  ("unknowns", .textTuple
    (if template.actionType = .retrieve then request.state.missingInformation else [])),
  ("verifiers", .textTuple (if template.actionType = .verify then request.verifierNeeds else []))]

/-- `fingerprint`. -/
def fingerprint : HexDigest := env.sha256 (canonicalJson (request.semanticPayload template))

/-- `_predicted_evidence`. -/
def predictedEvidence (action : CognitiveActionType) : List String :=
  match action with
  | .retrieve => request.state.missingInformation.map fun itemId => s!"resolve:{itemId}"
  | .verify =>
    if request.verifierNeeds = [] then ["answer-verification"]
    else request.verifierNeeds.map fun verifier => s!"verifier-result:{verifier}"
  | .observeOrTest =>
    let observations := request.branches.flatMap fun hypothesis => hypothesis.predictedObservations
    if observations = [] then ["hypothesis-observation"] else observations
  | _ => ["candidate-answer"]

/-- The semantic justification of the unit and of its candidate. -/
def justification : String :=
  s!"{template.purpose} for {env.normalizeText request.state.task.goal.objective}"

/-- What the candidates are validated against. -/
def grants : Grants R where
  taskId := request.state.task.taskId
  tenantId := request.state.task.tenantId
  availableBudget := request.availableBudget
  grantedPermissions := request.grantedPermissions
  availableIsolationGrade := "I4_SANDBOXED_ENVIRONMENT"

end SynthesisRequest

/-- `_source_kinds`. -/
def sourceKinds (action : CognitiveActionType) (isSkill : Bool) : Finset String :=
  match action with
  | .retrieve => {"unknown"}
  | .verify => {"verifier"}
  | .observeOrTest => {"hypothesis"}
  | _ => if isSkill then {"skill"} else {"goal"}

/-- `fingerprint[:16]`. -/
def HexDigest.short (digest : HexDigest) : String := String.ofList (digest.text.toList.take 16)

theorem HexDigest.normalized (digest : HexDigest) :
    isNormalized ("sem_" ++ digest.short) = true := by
  have visible : ∀ {cs : List Char}, (cs.all fun c => !isSpace c) = true →
      ∀ c ∈ cs, isSpace c = false := by
    intro cs all c member
    exact (Bool.not_eq_true' _).mp (List.all_eq_true.mp all c member)
  refine isNormalized_of_forall (by simp) fun c member => ?_
  rw [String.toList_append, List.mem_append] at member
  rcases member with fixed | digit
  · have start : "sem_".toList = ['s', 'e', 'm', '_'] := toList_of_spelled rfl
    rw [start] at fixed
    exact visible (by decide) c fixed
  · rw [HexDigest.short, String.toList_ofList] at digit
    have listed := digest.hex c (List.mem_of_mem_take digit)
    rw [hexDigits] at listed
    exact visible (by decide) c listed

/-- The unit of a template. -/
def semanticUnit : ComputationalUnit where
  unitId := ⟨"sem_" ++ (request.fingerprint env template).short, HexDigest.normalized _⟩
  name := template.purpose
  «structure» := .primitive
  visibility := .inspectable
  lifecycle := .specialized
  contract := template.contract env
  metadata := .obj [
    ("semantic_template_id", .str template.templateId),
    ("semantic_template_version", .str template.version),
    ("semantic_fingerprint", .str (request.fingerprint env template).text),
    ("task_id", .str request.state.task.taskId),
    ("tenant_id", .str request.state.task.tenantId),
    ("action_type", .str (PyEnum.value template.actionType)),
    ("capability_id", .str template.requiredCapabilityId),
    ("required_permissions", .arr ((sortedElems template.permissions).map .str)),
    ("risk_class", .str (PyEnum.value template.riskClass)),
    ("provenance_refs", .arr (request.provenanceRefs.map .str)),
    ("semantic_justification", .str (request.justification env template))]

/-- The candidate of a template, before its constructor checks it. -/
def candidateData : SemanticGraphCandidateData R where
  candidateId := "candidate:" ++ (request.fingerprint env template).short
  taskId := request.state.task.taskId
  operations := [{
    opType := .addUnit
    parameters := { unit := semanticUnit env request template }
    rationale := request.justification env template }]
  units := [semanticUnit env request template]
  semanticJustification := request.justification env template
  predictedEvidence := request.predictedEvidence template.actionType
  provenanceRefs := request.provenanceRefs
  capabilityIds := [template.requiredCapabilityId]
  sourceKinds := sortedElems
    (sourceKinds template.actionType (template.templateId ∈ request.skillTemplateIds))
  hypothesisIds := if template.actionType = .observeOrTest then request.hypothesisIds else []
  estimatedCost := template.cost
  requiredIsolationGrade :=
    if template.sideEffectClass ≠ .none then "I3_RECORDED_EXTERNALS" else "I1_GRAPH_ONLY"
  semanticFingerprint := (request.fingerprint env template).text

/-- The body of the loop of `semantic_deduplicate`. -/
def keepCandidate (unique : Dict String (SemanticGraphCandidate R))
    (candidate : SemanticGraphCandidate R) : Dict String (SemanticGraphCandidate R) :=
  match unique.get? candidate.semanticFingerprint with
  | none => unique.set candidate.semanticFingerprint candidate
  | some existing =>
    if candidate.candidateId < existing.candidateId then
      unique.set candidate.semanticFingerprint candidate
    else unique

/-- `semantic_deduplicate`. -/
def semanticDeduplicate (candidates : List (SemanticGraphCandidate R)) :
    List (SemanticGraphCandidate R) :=
  let unique := candidates.foldl keepCandidate ∅
  (sortBy id unique.keys).filterMap unique.get?

/-- `SemanticSynthesizer.synthesize`. -/
def synthesize : Except PyError (List (SemanticGraphCandidate R)) := do
  let candidates ← (request.served registry clock).mapM fun template =>
    SemanticGraphCandidate.ofData (candidateData env request template)
  return semanticDeduplicate candidates

/-- **A request is answered**: its candidates pass the validation against what it grants. -/
def Answered (later : Nat → Int) : Prop :=
  ∃ candidates, synthesize env registry clock request = .ok candidates ∧
    ∀ candidate ∈ candidates, ∃ validation,
      validateSemanticCandidate registry later request.grants candidate = .ok validation ∧
        validation.valid = true

end Synthesis

section Candidates

variable {R : Type} [PyFloat R] {env : SynthesisEnv R} {registry : CapabilityRegistry R}
  {clock : Nat → Int} {request : SynthesisRequest R} {template : SemanticUnitTemplate R}

/-- Only an unknown can be missing. -/
theorem predictedEvidence_eq_nil {action : CognitiveActionType} :
    request.predictedEvidence action = [] ↔
      action = .retrieve ∧ request.state.missingInformation = [] := by
  unfold SynthesisRequest.predictedEvidence
  cases action <;> simp
  · split_ifs <;> simp [*]
  · split_ifs <;> simp [*]

theorem HexDigest.text_ne_empty (digest : HexDigest) : digest.text ≠ "" := by
  intro empty
  have long := digest.long
  rw [empty] at long
  cases long

theorem taskId_ne_empty (task : TaskSpec) : task.taskId ≠ "" := by
  intro unnamed
  have valid := task.valid
  rw [TaskSpecData.violation, if_pos unnamed] at valid
  cases valid

theorem justification_ne_empty : request.justification env template ≠ "" := by
  intro unjustified
  have chars := congrArg String.toList unjustified
  simp [SynthesisRequest.justification] at chars
  exact absurd chars.2.1 (by decide)

variable (env) in
/-- **What keeps a candidate from being built** is that it predicts no evidence. -/
theorem violation_candidateData (affordable : ((0 : Int) : R) ≤ template.cost) :
    (candidateData env request template).violation = none ↔
      request.predictedEvidence template.actionType ≠ [] := by
  have identified : ¬ ((candidateData env request template).candidateId = "" ∨
      (candidateData env request template).taskId = "" ∨
      (candidateData env request template).semanticJustification = "" ∨
      (candidateData env request template).semanticFingerprint = "") := by
    rintro (unnamed | noTask | unjustified | noFingerprint)
    · simp [candidateData] at unnamed
    · exact taskId_ne_empty _ noTask
    · exact justification_ne_empty unjustified
    · exact HexDigest.text_ne_empty _ noFingerprint
  rw [SemanticGraphCandidateData.violation, if_neg identified,
    if_neg (by simp [candidateData])]
  by_cases nothing : (candidateData env request template).predictedEvidence = []
  · rw [if_pos (Or.inl nothing)]
    exact iff_of_false (fun built => nomatch built) fun some => some nothing
  · have founded : (candidateData env request template).provenanceRefs ≠ [] :=
      request.hasProvenance
    have cost : ¬ (candidateData env request template).estimatedCost < ((0 : Int) : R) :=
      not_lt.mpr affordable
    rw [if_neg (not_or.mpr ⟨nothing, founded⟩), if_neg cost]
    exact iff_of_true rfl nothing

theorem mem_of_get?_keepCandidate {unique : Dict String (SemanticGraphCandidate R)}
    {candidate found : SemanticGraphCandidate R} {key : String}
    (kept : (keepCandidate unique candidate).get? key = some found) :
    found = candidate ∨ unique.get? key = some found := by
  have either : (unique.set candidate.semanticFingerprint candidate).get? key = some found →
      found = candidate ∨ unique.get? key = some found := by
    intro set
    rw [Dict.get?_set] at set
    split_ifs at set with same
    · exact Or.inl (Option.some.inj set).symm
    · exact Or.inr set
  unfold keepCandidate at kept
  split at kept
  · exact either kept
  · split_ifs at kept
    · exact either kept
    · exact Or.inr kept

theorem mem_of_mem_semanticDeduplicate {candidates : List (SemanticGraphCandidate R)}
    {candidate : SemanticGraphCandidate R} (member : candidate ∈ semanticDeduplicate candidates) :
    candidate ∈ candidates := by
  have run : ∀ (rest : List (SemanticGraphCandidate R))
      (unique : Dict String (SemanticGraphCandidate R)) (key : String),
      (rest.foldl keepCandidate unique).get? key = some candidate →
      candidate ∈ rest ∨ unique.get? key = some candidate := by
    intro rest
    induction rest with
    | nil => exact fun _ _ found => Or.inr found
    | cons first rest ih =>
      intro unique key found
      rcases ih _ key found with later | kept
      · exact Or.inl (List.mem_cons_of_mem _ later)
      · rcases mem_of_get?_keepCandidate kept with rfl | before
        · exact Or.inl List.mem_cons_self
        · exact Or.inr before
  obtain ⟨key, -, found⟩ := List.mem_filterMap.mp member
  rcases run candidates ∅ key found with listed | impossible
  · exact listed
  · cases impossible

theorem mem_served (member : template ∈ request.served registry clock) :
    template ∈ request.templates ∧ ∃ card now,
      registry.get template.requiredCapabilityId = some card ∧
        request.Serves registry template now card := by
  obtain ⟨place, kept, rfl⟩ := List.mem_map.mp member
  obtain ⟨listed, serving⟩ := List.mem_filter.mp kept
  obtain ⟨card, found, serves⟩ := (Option.any_eq_true _ _).mp serving
  exact ⟨List.mem_of_mem_filter (List.fst_mem_of_mem_zipIdx listed),
    card, _, found, of_decide_eq_true serves⟩

/-! ### The validation of what is synthesized -/

/-- The reason against the capability of a candidate, when it is validated. -/
def capabilityReason (registry : CapabilityRegistry R) (later : Nat → Int)
    (granted : Finset String) (card : CapabilityCard R) : List String :=
  if card ∉ registry.available (later 0) then [s!"CAPABILITY_UNAVAILABLE:{card.capabilityId}"]
  else reasonIf (¬ card.permissions ⊆ granted) s!"PERMISSION:{card.capabilityId}"

/-- The reasons against the candidate of a template, when it is validated. -/
def candidateReasons (env : SynthesisEnv R) (registry : CapabilityRegistry R) (later : Nat → Int)
    (request : SynthesisRequest R) (template : SemanticUnitTemplate R) (card : CapabilityCard R) :
    List String :=
  reasonIf (request.availableBudget < template.cost) "COST_BUDGET" ++
    capabilityReason registry later request.grantedPermissions card ++
    reasonIf (¬ template.permissions ⊆ request.grantedPermissions)
      s!"UNIT_PERMISSION:{(semanticUnit env request template).unitId.value}"

theorem granted_iff {permissions granted : Finset String} {required : PySet}
    (elems : required.elems = (sortedElems permissions).map .str) :
    Granted granted required ↔ permissions ⊆ granted := by
  unfold Granted
  rw [elems]
  simp [Finset.subset_iff]

/-- **The reason against the unit** can only be its permissions. -/
theorem unitReasons_semanticUnit {card : CapabilityCard R} {now : Int}
    {candidate : SemanticGraphCandidate R}
    (found : registry.get template.requiredCapabilityId = some card)
    (serves : request.Serves registry template now card)
    (bound : candidate.capabilityIds = [template.requiredCapabilityId]) :
    unitReasons registry request.grants candidate (semanticUnit env request template) =
      .ok (reasonIf (¬ template.permissions ⊆ request.grantedPermissions)
        s!"UNIT_PERMISSION:{(semanticUnit env request template).unitId.value}") := by
  obtain ⟨-, supported, -, risk, -⟩ := serves
  obtain ⟨named, input, output⟩ := template.complete
  have looked : boundCard registry (.str template.requiredCapabilityId) = .ok (some card) := by
    rw [boundCard, if_pos (by simpa [Json.truthy] using named), ← found]
    rfl
  have texts : ((sortedElems template.permissions).map Json.str).map Json.pyNormal =
      (sortedElems template.permissions).map .str := by
    rw [List.map_map]
    exact List.map_congr_left fun text _ => Json.pyNormal_str text
  have distinct : (((sortedElems template.permissions).map Json.str).map Json.pyNormal).Nodup := by
    rw [texts]
    exact (sortedElems_nodup _).map fun _ _ => Json.str.inj
  have hashed : ∀ item ∈ (sortedElems template.permissions).map Json.str,
      item.hashable = true := by
    simp [Json.hashable]
  have required := PySet.ofList_of_distinct hashed distinct
  refine bind_eq_ok.mpr ⟨.str request.state.task.tenantId, rfl, ?_⟩
  refine bind_eq_ok.mpr ⟨.str (request.justification env template), rfl, ?_⟩
  refine bind_eq_ok.mpr ⟨.str template.requiredCapabilityId, rfl, ?_⟩
  refine bind_eq_ok.mpr ⟨some card, looked, ?_⟩
  refine bind_eq_ok.mpr ⟨.str (PyEnum.value template.actionType), rfl, ?_⟩
  refine bind_eq_ok.mpr ⟨.str (PyEnum.value template.riskClass), rfl, ?_⟩
  refine bind_eq_ok.mpr ⟨_, required, congrArg Except.ok ?_⟩
  rw [PyEnum.parse_value, PyEnum.parse_value]
  have tenant : reasonIf (Json.str request.state.task.tenantId ≠ .str request.grants.tenantId)
      s!"TENANT_MISMATCH:{(semanticUnit env request template).unitId.value}" = [] :=
    reasonIf_eq_nil.mpr fun different => different rfl
  have schemas : ¬ ((semanticUnit env request template).contract.inputSchema.truthy = false ∨
      (semanticUnit env request template).contract.outputSchema.truthy = false) := by
    rintro (noInput | noOutput)
    · exact absurd (input.symm.trans noInput) (by decide)
    · exact absurd (output.symm.trans noOutput) (by decide)
  have justified : ¬ (Json.str (request.justification env template)).truthy = false := by
    simpa [Json.truthy] using justification_ne_empty
  have bindings : ∃ capability ∈ candidate.capabilityIds,
      Json.str template.requiredCapabilityId = .str capability := by
    rw [bound]
    exact ⟨_, List.mem_singleton_self _, rfl⟩
  have supports : ¬ ∃ other : CapabilityCard R, other ∈ some card ∧
      template.actionType ∉ other.supportedActions := by
    rintro ⟨other, same, unsupported⟩
    exact unsupported (Option.mem_some.mp same ▸ supported)
  have limits : ¬ ∃ other : CapabilityCard R, other ∈ some card ∧
      riskOrder other.riskLimit < riskOrder template.riskClass := by
    rintro ⟨other, same, beyond⟩
    exact absurd (Option.mem_some.mp same ▸ risk) (not_le.mpr beyond)
  have permission : ¬ Granted request.grants.grantedPermissions
        ⟨(sortedElems template.permissions).map .str, hashed, distinct⟩ ↔
      ¬ template.permissions ⊆ request.grantedPermissions :=
    not_congr (granted_iff rfl)
  rw [tenant, reasonIf_eq_nil.mpr schemas, reasonIf_eq_nil.mpr justified,
    reasonIf_eq_nil.mpr (not_not.mpr bindings)]
  simp only [reasonIf_eq_nil.mpr supports, reasonIf_eq_nil.mpr limits, List.nil_append]
  unfold reasonIf
  rw [if_congr permission rfl rfl]

/-- The checks of the candidate as a whole can only find its cost. -/
theorem firstReasons_candidateData :
    reasonIf ((candidateData env request template).taskId ≠ request.grants.taskId)
        "TASK_MISMATCH" ++
      reasonIf (request.grants.availableBudget < (candidateData env request template).estimatedCost)
        "COST_BUDGET" ++
      reasonIf ((candidateData env request template).provenanceRefs = []) "PROVENANCE_REQUIRED" ++
      reasonIf (isolationOrder (-1) request.grants.availableIsolationGrade <
        isolationOrder 99 (candidateData env request template).requiredIsolationGrade)
        "ISOLATION_GRADE" =
      reasonIf (request.availableBudget < template.cost) "COST_BUDGET" := by
  have task : ¬ (candidateData env request template).taskId ≠ request.grants.taskId :=
    not_not.mpr rfl
  have founded : ¬ (candidateData env request template).provenanceRefs = [] :=
    request.hasProvenance
  have isolated : ¬ isolationOrder (-1) request.grants.availableIsolationGrade <
      isolationOrder 99 (candidateData env request template).requiredIsolationGrade := by
    show ¬ isolationOrder (-1) "I4_SANDBOXED_ENVIRONMENT" < isolationOrder 99 (if _ then _ else _)
    split_ifs <;> decide
  rw [reasonIf_eq_nil.mpr task, reasonIf_eq_nil.mpr founded, reasonIf_eq_nil.mpr isolated,
    List.nil_append, List.append_nil, List.append_nil]
  rfl

variable (env request template) in
/-- The operation adds the unit that the candidate declares. -/
theorem operations_candidateData :
    (candidateData env request template).operations.flatMap
        (operationReasons {(semanticUnit env request template).unitId.value}) = [] ∧
      ((candidateData env request template).operations.filterMap
        (addedUnit {(semanticUnit env request template).unitId.value})).toFinset =
        {(semanticUnit env request template).unitId.value} := by
  constructor
  · simp [candidateData, operationReasons, justification_ne_empty]
  · have added : addedUnit {(semanticUnit env request template).unitId.value}
        { opType := .addUnit
          parameters := { unit := semanticUnit env request template }
          rationale := request.justification env template } =
        some (semanticUnit env request template).unitId.value := by
      rw [addedUnit, if_pos rfl]
      simp
    rw [candidateData, List.filterMap_cons_some added]
    rfl

/-- **The reasons against a candidate**: its cost, its capability, and the permissions of its unit. -/
theorem validation_candidate {card : CapabilityCard R} {now : Int} {later : Nat → Int}
    {candidate : SemanticGraphCandidate R}
    (same : candidate.toSemanticGraphCandidateData = candidateData env request template)
    (found : registry.get template.requiredCapabilityId = some card)
    (serves : request.Serves registry template now card) :
    validateSemanticCandidate registry later request.grants candidate =
      .ok ⟨(candidateReasons env registry later request template card).isEmpty,
        candidateReasons env registry later request template card⟩ := by
  obtain ⟨data, valid⟩ := candidate
  obtain rfl : data = candidateData env request template := same
  have keyed : card.capabilityId = template.requiredCapabilityId := registry.keyed _ card found
  have checked : unitReasons registry request.grants ⟨candidateData env request template, valid⟩
      (semanticUnit env request template) = _ := unitReasons_semanticUnit found serves rfl
  have capabilities : capabilityReasons registry later request.grants 0
      (candidateData env request template).capabilityIds =
      capabilityReason registry later request.grantedPermissions card := by
    show capabilityReasons registry later request.grants 0 [template.requiredCapabilityId] = _
    rw [capabilityReasons, found, capabilityReason, keyed, capabilityReasons, List.append_nil]
    rfl
  have declared : declaredUnits (⟨candidateData env request template, valid⟩ :
      SemanticGraphCandidate R) = {(semanticUnit env request template).unitId.value} := rfl
  obtain ⟨operations, added⟩ := operations_candidateData env request template
  refine bind_eq_ok.mpr ⟨[_], mapM_eq_ok.mpr (.cons checked .nil), congrArg Except.ok ?_⟩
  dsimp only
  rw [declared, operations, added, capabilities, firstReasons_candidateData,
    reasonIf_eq_nil.mpr (not_not.mpr rfl), List.flatten_singleton, List.append_nil, List.append_nil]
  rfl

/-- What is said of a candidate that the synthesis returned. -/
structure Judged (env : SynthesisEnv R) (registry : CapabilityRegistry R) (later : Nat → Int)
    (request : SynthesisRequest R) (candidate : SemanticGraphCandidate R)
    (template : SemanticUnitTemplate R) (card : CapabilityCard R) : Prop where
  listed : template ∈ request.templates
  source : candidate.toSemanticGraphCandidateData = candidateData env request template
  capable : registry.get template.requiredCapabilityId = some card
  validated : validateSemanticCandidate registry later request.grants candidate =
    .ok ⟨(candidateReasons env registry later request template card).isEmpty,
      candidateReasons env registry later request template card⟩
  passes : candidateReasons env registry later request template card = [] ↔
    candidate.estimatedCost ≤ request.availableBudget ∧ card ∈ registry.available (later 0) ∧
      card.permissions ⊆ request.grantedPermissions

/-- **What the synthesis does for a request**, whose candidates are validated later. -/
structure SynthesisLaw (env : SynthesisEnv R) (registry : CapabilityRegistry R)
    (clock later : Nat → Int) (request : SynthesisRequest R) : Prop where
  returns : (∀ template ∈ request.served registry clock, template.actionType = .retrieve →
      request.state.missingInformation ≠ []) →
    ∃ candidates, synthesize env registry clock request = .ok candidates
  judged : ∀ candidates, synthesize env registry clock request = .ok candidates →
    ∀ candidate ∈ candidates, ∃ template card,
      Judged env registry later request candidate template card

theorem candidateReasons_eq_nil {card : CapabilityCard R} {later : Nat → Int}
    (within : template.permissions ⊆ card.permissions) :
    candidateReasons env registry later request template card = [] ↔
      template.cost ≤ request.availableBudget ∧ card ∈ registry.available (later 0) ∧
        card.permissions ⊆ request.grantedPermissions := by
  rw [candidateReasons, List.append_eq_nil_iff, List.append_eq_nil_iff, reasonIf_eq_nil,
    reasonIf_eq_nil, not_lt, not_not, capabilityReason, and_assoc]
  refine and_congr_right fun _ => ?_
  by_cases available : card ∈ registry.available (later 0)
  · rw [if_neg (not_not.mpr available), reasonIf_eq_nil, not_not]
    exact ⟨fun both => ⟨available, both.1⟩, fun both => ⟨both.2, within.trans both.2⟩⟩
  · rw [if_pos available]
    exact iff_of_false (fun both => nomatch both.1) fun both => available both.1

/-- **A request is answered**, unless a skill retrieves what nothing misses, and its candidates are
turned down for nothing but their cost, their capability having ended, or what is not granted. -/
theorem synthesisLaw
    (affordable : ∀ template ∈ request.templates, ((0 : Int) : R) ≤ template.cost)
    (later : Nat → Int) : SynthesisLaw env registry clock later request := by
  constructor
  · intro founded
    obtain ⟨built, ran⟩ : ∃ built, (request.served registry clock).mapM (fun template =>
        SemanticGraphCandidate.ofData (candidateData env request template)) = .ok built := by
      refine mapM_total fun template serving => ?_
      have predicts : request.predictedEvidence template.actionType ≠ [] := by
        rw [Ne, predictedEvidence_eq_nil]
        rintro ⟨retrieves, nothing⟩
        exact founded template serving retrieves nothing
      have valid := (violation_candidateData env
        (affordable template (mem_served serving).1)).mpr predicts
      exact ⟨⟨_, valid⟩, SemanticGraphCandidate.ofData_eq_ok.mpr rfl⟩
    exact ⟨semanticDeduplicate built, bind_eq_ok.mpr ⟨built, ran, rfl⟩⟩
  · intro candidates made candidate member
    obtain ⟨built, ran, same⟩ := bind_eq_ok.mp made
    obtain rfl := Except.ok.inj same
    obtain ⟨template, serving, built⟩ :=
      exists_of_mem_mapM ran (mem_of_mem_semanticDeduplicate member)
    obtain ⟨listed, card, now, found, serves⟩ := mem_served serving
    have source := SemanticGraphCandidate.ofData_eq_ok.mp built
    refine ⟨template, card, listed, source, found, validation_candidate source found serves, ?_⟩
    rw [source]
    exact candidateReasons_eq_nil serves.2.2.1

end Candidates

section Ungranted

/-- The digest of the payload below. -/
def draftDigest : HexDigest where
  text := "dba6b71892a3e387930486c7e63b541348eeb885b16b34251c36e273cd3896c8"
  long := length_of_spelled rfl
  hex := hex_of_spelled rfl (by decide)

def draftEnv : SynthesisEnv ℚ where
  casefold text := text
  ratio _ _ := 0
  sha256 _ := draftDigest
  floatRepr _ := ⟨false, 0, [0], none, FloatLit.isFloat_zero⟩

/-- A capability that needs a permission. -/
def drafter : CapabilityCard ℚ :=
  ⟨{ capabilityId := "drafter", name := "drafter", providerId := "local", providerVersion := "1",
     modelId := "model", supportedActions := {.reason}, riskLimit := .medium
     permissions := {"semantic:execute"} }, by decide +kernel⟩

def drafterRegistry : CapabilityRegistry ℚ := (CapabilityRegistry.register {} drafter).1

def draftTemplate : SemanticUnitTemplate ℚ :=
  ⟨{ templateId := "draft", version := "1", purpose := "Draft the answer", actionType := .reason
     inputSchema := .obj [("type", .str "object")], outputSchema := .obj [("type", .str "object")]
     requiredCapabilityId := "drafter", permissions := {"semantic:execute"}, riskClass := .low },
    by decide⟩

/-- The request grants nothing. -/
def ungranted : SynthesisRequest ℚ :=
  ⟨{ state := CognitiveState.initial Cognition.Sample.task, templates := [draftTemplate]
     provenanceRefs := ["event:ingress"], availableBudget := 1 }, by decide +kernel⟩

/-- The candidate of the template is returned, and then turned down. -/
theorem ungranted_turned_down :
    ¬ Answered draftEnv drafterRegistry (fun _ => 0) ungranted fun _ => 0 := by
  rintro ⟨candidates, made, passing⟩
  have turned : (do
      let candidates ← synthesize draftEnv drafterRegistry (fun _ => 0) ungranted
      candidates.mapM fun candidate => (validateSemanticCandidate drafterRegistry (fun _ => 0)
        ungranted.grants candidate).map SemanticValidation.valid) = .ok [false] := by
    decide +kernel
  obtain ⟨others, again, judged⟩ := bind_eq_ok.mp turned
  obtain rfl := Except.ok.inj (made.symm.trans again)
  obtain ⟨candidate, member, invalid⟩ :=
    forall₂_mem_right (mapM_eq_ok.mp judged) (List.mem_singleton_self false)
  obtain ⟨validation, validated, isValid⟩ := passing candidate member
  rw [validated] at invalid
  exact absurd (isValid.symm.trans (Except.ok.inj invalid)) (by decide)

/-- A template without a cost limit costs nothing. -/
theorem ungranted_judged :
    SynthesisLaw draftEnv drafterRegistry (fun _ => 0) (fun _ => 0) ungranted :=
  synthesisLaw (by decide +kernel) fun _ => 0

end Ungranted

end Dnc.Semantics
