/-
**Four admission boundaries.**

`dnc.sdk.DNCSDK.validate_graph` and `project_graph`, next to `StructuralProjector.project` and
`GraphRegistry.register`: each checks the graph, whether it needs a context, and the context, in its
own words.

* `validateForSdk_valid_iff`: the report is positive exactly for what is admitted.
* `registrable_iff`: what any registry accepts for the tenant of the context, or for every tenant.
* `admission_agrees_iff`: the four agree exactly where an admitted graph has metadata that `dict`
  accepts, mutations that can be sorted and numbers that can be written.
-/

import Dnc.Projection.Faithful
import Dnc.Registry.GraphRuns

namespace Dnc.Sdk

open PyLib Logic Registry

/-! ### The facade -/

structure ValidationIssue where
  code : String
  message : String
  targetId : Option String := none

structure GraphValidationReport where
  graphId : String
  graphVersion : String
  structurallyValid : Bool
  contextRequired : Bool
  executionAdmissible : Option Bool
  valid : Bool
  errors : List ValidationIssue
  warnings : List ValidationIssue

structure ProjectionResult where
  executable : ExecutableDAG
  warnings : List String

/-- `_validation_issue`. -/
def validationIssue (issue : ValidationError) : ValidationIssue :=
  ⟨issue.code, issue.message, some issue.targetId⟩

/-- What `validate_graph` makes of the context: `execution_admissible`, `admission_valid`, and the
errors and warnings that it adds. -/
def contextVerdict (graph : StructuralGraph) (context : Option ExecutionContext)
    (contextRequired requireExecutionContext : Bool) :
    Option Bool × Bool × List ValidationIssue × List ValidationIssue :=
  match context with
  | some context =>
    let result := validateExecutionContext graph context
    (some result.isValid, result.isValid, result.errors.map validationIssue,
      result.warnings.map validationIssue)
  | none =>
    if contextRequired then
      (none, !requireExecutionContext,
        if requireExecutionContext then
          [{ code := "CTX_REQUIRED"
             message := "governed graph validation requires an ExecutionContext" }]
        else [], [])
    else (some true, true, [], [])

/-- `DNCSDK.validate_graph` of a graph. -/
def validateForSdk (graph : StructuralGraph) (context : Option ExecutionContext)
    (requireExecutionContext : Bool) : Except PyError GraphValidationReport := do
  let structural ← validateGraph graph
  let contextRequired := graph.units.entries.any fun entry =>
    entry.2.contract.requiresExecutionContext
  let (executionAdmissible, admissionValid, errors, warnings) :=
    contextVerdict graph context contextRequired requireExecutionContext
  return {
    graphId := graph.graphId.value
    graphVersion := toString graph.version
    structurallyValid := structural.isValid
    contextRequired := contextRequired
    executionAdmissible := executionAdmissible
    valid := structural.isValid && admissionValid
    errors := structural.errors.map validationIssue ++ errors
    warnings := structural.warnings.map validationIssue ++ warnings }

/-- `DNCSDK.project_graph` of a graph. -/
def projectForSdk (graph : StructuralGraph) (context : Option ExecutionContext) :
    Except PyError ProjectionResult := do
  let report ← validateForSdk graph context true
  if report.valid = false then
    let details := "; ".intercalate (report.errors.map fun issue => s!"{issue.code}: {issue.message}")
    .error (.dncValidationError s!"graph is not admissible for projection: {details}")
  else
    let (executable, warnings) ← project graph context
    return { executable, warnings }

/-! ### What each boundary asks -/

section Boundaries

variable {graph : StructuralGraph} {context : Option ExecutionContext}

/-- The verdict on the context, where one is required if the graph needs it. -/
theorem contextVerdict_admits :
    (contextVerdict graph context (graph.units.entries.any fun entry =>
        entry.2.contract.requiresExecutionContext) true).2.1 = true ↔
      (∀ given, context = some given → Permitted graph given) ∧
        (context = none → ¬ graph.Governed) := by
  unfold contextVerdict
  cases context with
  | some given =>
    constructor
    · exact fun permitted => ⟨fun _ same => Option.some.inj same ▸ permitted, nofun⟩
    · exact fun both => both.1 given rfl
  | none =>
    rw [← governed_iff]
    by_cases governed : (graph.units.entries.any fun entry =>
        entry.2.contract.requiresExecutionContext) = true
    · rw [governed]
      exact iff_of_false Bool.false_ne_true fun both => both.2 rfl rfl
    · rw [Bool.not_eq_true] at governed
      rw [governed]
      exact iff_of_true rfl ⟨nofun, fun _ => Bool.false_ne_true⟩

/-- **A report is positive exactly for what is admitted.** -/
theorem validateForSdk_valid_iff :
    (∃ report, validateForSdk graph context true = .ok report ∧ report.valid = true) ↔
      Admitted graph context := by
  constructor
  · rintro ⟨report, ran, valid⟩
    obtain ⟨structural, checked, same⟩ := bind_eq_ok.mp ran
    cases same
    obtain ⟨isValid, admits⟩ := Bool.and_eq_true_iff.mp valid
    obtain ⟨permitted, ungoverned⟩ := contextVerdict_admits.mp admits
    exact ⟨⟨structural, checked, isValid⟩, permitted, ungoverned⟩
  · rintro ⟨⟨structural, checked, isValid⟩, permitted, ungoverned⟩
    refine ⟨_, bind_eq_ok.mpr ⟨structural, checked, rfl⟩, Bool.and_eq_true_iff.mpr ⟨isValid, ?_⟩⟩
    exact contextVerdict_admits.mpr ⟨permitted, ungoverned⟩

theorem projectForSdk_returns_iff :
    (∃ result, projectForSdk graph context = .ok result) ↔
      Admitted graph context ∧ graph.MetadataConverts := by
  have projects := @project_returns_iff graph context
  constructor
  · rintro ⟨result, ran⟩
    obtain ⟨report, reported, ran⟩ := bind_eq_ok.mp ran
    obtain ⟨-, ran⟩ := guard_eq_ok.mp ran
    obtain ⟨made, projected, -⟩ := bind_eq_ok.mp ran
    exact projects.mp ⟨made, projected⟩
  · rintro both
    obtain ⟨made, projected⟩ := projects.mpr both
    obtain ⟨report, reported, valid⟩ := validateForSdk_valid_iff.mpr both.1
    exact ⟨_, bind_eq_ok.mpr ⟨report, reported, guard_eq_ok.mpr
      ⟨by simp [valid], bind_eq_ok.mpr ⟨made, projected, rfl⟩⟩⟩⟩

end Boundaries

/-! ### Registration -/

section Registration

variable {digestOf : Bytes → String} {store : ContentAddressedObjectStore}
  {before : List RegistryCall} {graph : JsonGraph} {context : Option ExecutionContext}

/-- The tenants that a graph can be registered for: that of the context, or every one. -/
def Eligible (context : Option ExecutionContext) (tenantId : String) : Prop :=
  isNormalized tenantId = true ∧ ∀ given, context = some given → given.tenantId = tenantId

theorem validateTenantContext_of_eligible {tenantId : String} (eligible : Eligible context tenantId) :
    validateTenantContext tenantId context = .ok tenantId := by
  have tenant : validateTenant tenantId = .ok tenantId := by
    unfold validateTenant
    rw [if_neg (by rw [eligible.1]; decide)]
  have own : ¬ context.any (fun given => given.tenantId != tenantId) = true := by
    cases context with
    | none => exact Bool.false_ne_true
    | some given => simpa using eligible.2 given rfl
  unfold validateTenantContext
  rw [tenant]
  exact if_neg own

/-- What the calls have written and what the graph would write. -/
def writtenWith (before : List RegistryCall) (graph : JsonGraph) : Set Bytes :=
  written before ∪ {payload | graphPayload graph.toStructuralGraph = .ok payload}

theorem written_register (tenantId : String) :
    written (before ++ [.register ⟨graph, tenantId, context⟩]) = writtenWith before graph := by
  have option : ∀ data, (graphPayload graph.toStructuralGraph).toOption = some data ↔
      graphPayload graph.toStructuralGraph = .ok data := by
    intro data
    cases graphPayload graph.toStructuralGraph with
    | error error => exact iff_of_false nofun nofun
    | ok payload => exact Option.some_inj.trans (Except.ok.injEq _ _ ▸ Iff.rfl)
  ext data
  unfold written writtenWith
  constructor
  · rintro ⟨call, member, writes⟩
    rcases List.mem_append.mp member with old | new
    · exact Or.inl ⟨call, old, writes⟩
    · rw [List.mem_singleton.mp new] at writes
      exact Or.inr ((option data).mp writes)
  · rintro (⟨call, member, writes⟩ | writes)
    · exact ⟨call, List.mem_append_left _ member, writes⟩
    · exact ⟨_, List.mem_append_right _ (List.mem_singleton_self _), (option data).mpr writes⟩

/-- **What a registry accepts**, whatever it has been used for before. -/
theorem registrable_iff (hex : ∀ data, isDigest (digestOf data) = true)
    (injective : Set.InjOn digestOf (writtenWith before graph)) (keys : graph.KeysMatch)
    {tenantId : String} (eligible : Eligible context tenantId) :
    (∃ record, ((after digestOf store before).register digestOf graph.toStructuralGraph tenantId
        context).2 = .ok record) ↔
      Admitted graph.toStructuralGraph context ∧ graph.Sortable ∧
        Writable graph.toStructuralGraph := by
  rw [← @written_register before graph context tenantId] at injective
  refine (acceptance_iff hex injective rfl).trans ⟨fun acceptable =>
    ⟨acceptable.admitted, acceptable.sortable, acceptable.writable⟩, ?_⟩
  rintro ⟨admitted, sortable, writable⟩
  exact ⟨validateTenantContext_of_eligible eligible, admitted, keys, sortable, writable⟩

end Registration

/-! ### Agreement -/

/-- **The four boundaries agree** on a graph and a context. -/
structure AdmissionAgrees (digestOf : Bytes → String) (registry : GraphRegistry)
    (graph : StructuralGraph) (context : Option ExecutionContext) : Prop where
  validated : (∃ report, validateForSdk graph context true = .ok report ∧ report.valid = true) ↔
    ∃ result, projectForSdk graph context = .ok result
  projected : (∃ result, projectForSdk graph context = .ok result) ↔
    ∃ result, project graph context = .ok result
  registered : (∃ result, project graph context = .ok result) ↔
    ∀ tenantId, Eligible context tenantId →
      ∃ record, (registry.register digestOf graph tenantId context).2 = .ok record

section Agreement

variable {digestOf : Bytes → String} {store : ContentAddressedObjectStore}
  {before : List RegistryCall} {graph : JsonGraph} {context : Option ExecutionContext}

/-- There is a tenant to register for. -/
theorem exists_eligible
    (normalized : ∀ given, context = some given → isNormalized given.tenantId = true) :
    ∃ tenantId, Eligible context tenantId := by
  cases context with
  | none => exact ⟨"tenant", by decide, nofun⟩
  | some given =>
    exact ⟨given.tenantId, normalized given rfl, fun _ same => Option.some.inj same ▸ rfl⟩

/-- **The boundaries agree exactly where an admitted graph has metadata that `dict` accepts, allowed
mutations that can be sorted, and a document whose numbers can be written.** -/
theorem admission_agrees_iff (hex : ∀ data, isDigest (digestOf data) = true)
    (injective : Set.InjOn digestOf (writtenWith before graph)) (keys : graph.KeysMatch)
    (normalized : ∀ given, context = some given → isNormalized given.tenantId = true) :
    AdmissionAgrees digestOf (after digestOf store before) graph.toStructuralGraph context ↔
      (Admitted graph.toStructuralGraph context →
        graph.MetadataConverts ∧ graph.Sortable ∧ Writable graph.toStructuralGraph) := by
  have registers : (∀ tenantId, Eligible context tenantId →
      ∃ record, ((after digestOf store before).register digestOf graph.toStructuralGraph tenantId
        context).2 = .ok record) ↔ Admitted graph.toStructuralGraph context ∧ graph.Sortable ∧
          Writable graph.toStructuralGraph := by
    obtain ⟨tenantId, eligible⟩ := exists_eligible normalized
    constructor
    · exact fun all => (registrable_iff hex injective keys eligible).mp (all tenantId eligible)
    · exact fun both other eligibleOther =>
        (registrable_iff hex injective keys eligibleOther).mpr both
  constructor
  · intro agrees admitted
    have projects := agrees.validated.mp (validateForSdk_valid_iff.mpr admitted)
    have direct := agrees.projected.mp projects
    exact ⟨(project_returns_iff.mp direct).2, (registers.mp (agrees.registered.mp direct)).2⟩
  · intro clean
    constructor
    · rw [validateForSdk_valid_iff, projectForSdk_returns_iff]
      exact (and_iff_left_of_imp fun admitted => (clean admitted).1).symm
    · rw [projectForSdk_returns_iff, project_returns_iff]
    · rw [project_returns_iff, registers]
      exact and_congr_right fun admitted => iff_of_true (clean admitted).1 (clean admitted).2

end Agreement

namespace Sample

/-- Only the payload of the sample graph is written. -/
theorem written_injective :
    Set.InjOn (fun _ => Registry.Sample.digest) (writtenWith [] Registry.Sample.jsonGraph) := by
  rintro first (⟨call, member, -⟩ | writes) second (⟨call', member', -⟩ | writes') -
  · cases member
  · cases member
  · cases member'
  · exact Except.ok.inj (writes.symm.trans writes')

end Sample

/-- The boundaries agree on the sample graph. -/
theorem admission_agrees_sample :
    AdmissionAgrees (fun _ => Registry.Sample.digest) (after (fun _ => Registry.Sample.digest) {} [])
      Dnc.Sample.graph none := by
  have normalized : ∀ given : ExecutionContext, none = some given →
      isNormalized given.tenantId = true := nofun
  exact (admission_agrees_iff Registry.Sample.hex Sample.written_injective
    Dnc.Sample.documented_graph.keys normalized).mpr fun _ =>
      ⟨Dnc.Sample.metadataConverts_graph, Dnc.Sample.sortable_graph, Registry.Sample.writable_graph⟩

/-- Validation and registration admit a unit whose metadata is `null`, projection does not. -/
theorem boundaries_disagree :
    Dnc.Sample.unannotated.KeysMatch ∧
      ¬ AdmissionAgrees (fun _ => Registry.Sample.digest)
        (after (fun _ => Registry.Sample.digest) {} []) Dnc.Sample.unannotated none := by
  refine ⟨Dnc.Sample.keysMatch_unannotated, fun agrees => ?_⟩
  have projects := agrees.validated.mp
    (validateForSdk_valid_iff.mpr Dnc.Sample.admitted_unannotated)
  have converts := (projectForSdk_returns_iff.mp projects).2
  obtain ⟨entries, same⟩ := converts.units "unit_a" _ rfl
  cases same

end Dnc.Sdk
