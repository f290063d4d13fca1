/-
**Semantic admission.**

`DNCSystem.apply_semantic_candidate` validates a candidate and runs its operations as a transaction.
The validation reads the declared units; the transaction adds the units of the operations. The two
are compared by identifier only, so an operation can add another unit under a declared name.

`semanticAdmission_iff`: every unit that a committed call adds passes the checks, and no other unit
changes, exactly when every unit that an operation puts in the place of a declared one passes them
too. `units_applyAll` is what adding and connecting operations do to the units of a graph.
-/

import Dnc.Cognition.State
import Dnc.Semantics.Validation
import Dnc.Transaction.History

namespace Dnc

open PyLib Cognition Capabilities Semantics Logic

/-- `dnc.enterprise.security.KillSwitches`. -/
structure KillSwitches where
  globalDisabled : Bool := false
  tenants : Finset String := ∅
  capabilities : Finset String := ∅
  models : Finset String := ∅
  skills : Finset String := ∅
  actions : Finset String := ∅

/-- `KillSwitches.permitted`. -/
def KillSwitches.permitted (switches : KillSwitches)
    (tenantId capabilityId modelId skillId actionType : String) : Bool :=
  !(switches.globalDisabled || decide (tenantId ∈ switches.tenants) ||
    decide (capabilityId ∈ switches.capabilities) || decide (modelId ∈ switches.models) ||
    decide (skillId ∈ switches.skills) || decide (actionType ∈ switches.actions))

/-- The operation adds the unit. -/
def IROperation.Adds (operation : IROperation) (unit : ComputationalUnit) : Prop :=
  operation.opType = .addUnit ∧ operation.parameters.unit = some unit

section Admission

variable {R : Type} [PyFloat R]

/-- The part of the system that the admission reads or writes. -/
structure SemanticSystem (R : Type) [PyFloat R] where
  graph : StructuralGraph
  provenanceLog : Option ProvenanceLog := none
  killSwitches : KillSwitches := {}
  cognitiveState : Option CognitiveState := none
  capabilityRegistry : CapabilityRegistry R := {}
  transactionCommits : Nat := 0
  transactionRollbacks : Nat := 0

/-- What the caller grants. -/
structure Admission (R : Type) where
  availableBudget : R
  grantedPermissions : Finset String
  availableIsolationGrade : String

/-- What a call takes from outside: the transaction manager's environment, the new transaction
identifier and the readings of the clock. -/
structure AdmissionEnv where
  transaction : TransactionEnv
  txId : TransactionID
  clock : Nat → Int

/-- What a call returns or raises, and the system after it. -/
structure AdmissionOutcome (R : Type) [PyFloat R] where
  result : Except PyError (Bool × SemanticValidation)
  system : SemanticSystem R

namespace SemanticSystem

variable (env : AdmissionEnv) (system : SemanticSystem R) (candidate : SemanticGraphCandidate R)
  (admission : Admission R)

/-- `_require_enterprise_permitted(action_type=…)`. -/
def permits (actionType : String) : Bool :=
  let tenant := match system.cognitiveState with
    | none => "tenant-default"
    | some state => state.task.tenantId
  system.killSwitches.permitted tenant "" "" "" actionType

/-- The grants for a task. -/
def grants (task : TaskSpec) : Grants R where
  taskId := task.taskId
  tenantId := task.tenantId
  availableBudget := admission.availableBudget
  grantedPermissions := admission.grantedPermissions
  availableIsolationGrade := admission.availableIsolationGrade

/-- The units of the candidate that the graph has already. -/
def existingUnits : List String :=
  (candidate.units.map fun unit => unit.unitId.value).filter fun uid => uid ∈ system.graph.units

/-- The transaction of a call. -/
def admissionTransaction : Outcome :=
  executeTransaction env.transaction system.provenanceLog env.txId system.graph
    candidate.operations (some system.graph.version)

/-- `DNCSystem.apply_semantic_candidate`. -/
def applySemanticCandidate : AdmissionOutcome R :=
  if system.permits "APPLY_SEMANTIC_GRAPH" = false then
    ⟨.error (.dncPolicyError "enterprise kill switch denied operation"), system⟩
  else
    match system.cognitiveState with
    | none =>
      ⟨.error (.valueError "semantic candidate application requires cognitive state"), system⟩
    | some state =>
      let existing := system.existingUnits candidate
      if existing ≠ [] then
        ⟨.ok (false, ⟨false, existing.map fun uid => s!"SEMANTIC_TRANSPOSITION:{uid}"⟩), system⟩
      else
        match validateSemanticCandidate system.capabilityRegistry env.clock
            (grants admission state.task) candidate with
        | .error error => ⟨.error error, system⟩
        | .ok validation =>
          if validation.valid = false then ⟨.ok (false, validation), system⟩
          else
            let outcome := system.admissionTransaction env candidate
            let system := { system with graph := outcome.graph, provenanceLog := outcome.log }
            match outcome.result with
            | .error error => ⟨.error error, system⟩
            | .ok (true, _) =>
              ⟨.ok (true, validation),
                { system with transactionCommits := system.transactionCommits + 1 }⟩
            | .ok (false, _) =>
              ⟨.ok (false, validation),
                { system with transactionRollbacks := system.transactionRollbacks + 1 }⟩

/-- The call returned `True`. -/
def AdmissionCommits : Prop :=
  ∃ validation, (system.applySemanticCandidate env candidate admission).result =
    .ok (true, validation)

/-- A unit passes the checks for the active task. -/
def Admissible (unit : ComputationalUnit) : Prop :=
  ∃ state, system.cognitiveState = some state ∧
    Checked system.capabilityRegistry env.clock (grants admission state.task) candidate unit

/-- **A committed call adds only units that pass the checks, and leaves the others as they are.** -/
def SemanticAdmission : Prop :=
  system.AdmissionCommits env candidate admission →
    (∀ uid unit, (system.applySemanticCandidate env candidate admission).system.graph.units.get? uid =
        some unit → uid ∉ system.graph.units → system.Admissible env candidate admission unit) ∧
    ∀ uid unit, system.graph.units.get? uid = some unit →
      (system.applySemanticCandidate env candidate admission).system.graph.units.get? uid = some unit

/-- The call gets to its end: it is permitted, none of the declared units exists, nothing speaks
against the candidate, and its operations make a valid graph. -/
structure Reaches (state : CognitiveState) : Prop where
  permitted : system.permits "APPLY_SEMANTIC_GRAPH" = true
  active : system.cognitiveState = some state
  fresh : system.existingUnits candidate = []
  valid : ∃ validation, validateSemanticCandidate system.capabilityRegistry env.clock
    (grants admission state.task) candidate = .ok validation ∧ validation.valid = true
  commits : ∃ final, Commits system.graph candidate.operations (some system.graph.version) final

/-- Where a call gets to its end, the units that its operations add in the place of declared ones
pass the checks themselves. -/
def SubstitutesChecked : Prop :=
  ∀ state, system.Reaches env candidate admission state →
    ∀ operation ∈ candidate.operations, ∀ unit, operation.Adds unit → unit ∉ candidate.units →
      Checked system.capabilityRegistry env.clock (grants admission state.task) candidate unit

end SemanticSystem

/-! ### What adding and connecting does to the units -/

omit [PyFloat R] in
theorem units_applyChecked {graph last : StructuralGraph} {operation : IROperation}
    (semantic : operation.opType ∈ [OperationType.addUnit, .connectUnits])
    (applied : applyChecked graph operation = some last) :
    (∃ unit, operation.Adds unit ∧ unit.unitId.value ∉ graph.units ∧
        last.units = graph.units.set unit.unitId.value unit) ∨
      ((∀ unit, ¬ operation.Adds unit) ∧ last.units = graph.units) := by
  obtain ⟨mutation, next, inverse, read, step, rfl⟩ := applyChecked_eq_some applied
  rcases List.mem_cons.mp semantic with adds | connects
  · simp only [IROperation.mutation, adds] at read
    obtain ⟨unit, given, rfl⟩ := Option.map_eq_some_iff.mp read
    cases step with
    | addUnit known permitted fresh => exact Or.inl ⟨unit, ⟨adds, given⟩, fresh, rfl⟩
  · have connects := List.mem_singleton.mp connects
    simp only [IROperation.mutation, connects, Option.bind_eq_bind, Option.bind_eq_some_iff] at read
    obtain ⟨_, _, _, _, _, _, same⟩ := read
    cases Option.some.inj same
    refine Or.inr ⟨fun unit adds => ?_, ?_⟩
    · cases connects.symm.trans adds.1
    · cases step with
      | connectUnits edge => rfl

omit [PyFloat R] in
/-- **Adding and connecting** keeps the units of a graph; a unit is new exactly where an operation
adds it. -/
theorem units_applyAll {graph final : StructuralGraph} {operations : List IROperation}
    (semantic : ∀ operation ∈ operations,
      operation.opType ∈ [OperationType.addUnit, .connectUnits])
    (applied : applyAll graph operations = some final) :
    (∀ uid unit, graph.units.get? uid = some unit → final.units.get? uid = some unit) ∧
    (∀ uid unit, final.units.get? uid = some unit → uid ∉ graph.units →
      ∃ operation ∈ operations, operation.Adds unit) ∧
    (∀ operation ∈ operations, ∀ unit, operation.Adds unit →
      final.units.get? unit.unitId.value = some unit ∧ unit.unitId.value ∉ graph.units) := by
  induction operations generalizing graph with
  | nil =>
    obtain rfl : graph = final := Option.some.inj applied
    refine ⟨fun _ _ found => found, fun uid unit found missing => ?_,
      fun _ member => absurd member List.not_mem_nil⟩
    exact absurd (Dict.mem_of_get? found) missing
  | cons operation rest ih =>
    rw [applyAll, List.foldlM_cons, Option.bind_eq_bind, Option.bind_eq_some_iff] at applied
    obtain ⟨middle, first, later⟩ := applied
    obtain ⟨kept, origin, added⟩ := ih (fun other member => semantic other (List.mem_cons_of_mem _ member))
      later
    have stepped := units_applyChecked (semantic operation List.mem_cons_self) first
    have keptFirst : ∀ uid unit, graph.units.get? uid = some unit →
        middle.units.get? uid = some unit := by
      intro uid unit found
      rcases stepped with ⟨new, -, fresh, units⟩ | ⟨-, units⟩
      · rw [units, Dict.get?_set_of_ne, found]
        rintro rfl
        exact fresh (Dict.mem_of_get? found)
      · rw [units, found]
    refine ⟨fun uid unit found => kept uid unit (keptFirst uid unit found), ?_, ?_⟩
    · intro uid unit found missing
      by_cases present : uid ∈ middle.units
      · -- the first operation added it
        obtain ⟨stored, inMiddle⟩ := Dict.mem_iff_get?.mp present
        obtain rfl : stored = unit := Option.some.inj ((kept uid stored inMiddle).symm.trans found)
        rcases stepped with ⟨new, adds, -, units⟩ | ⟨-, units⟩
        · rw [units, Dict.get?_set] at inMiddle
          split_ifs at inMiddle
          · cases inMiddle
            exact ⟨operation, List.mem_cons_self, adds⟩
          · exact absurd (Dict.mem_of_get? inMiddle) missing
        · rw [units] at inMiddle
          exact absurd (Dict.mem_of_get? inMiddle) missing
      · obtain ⟨other, member, adds⟩ := origin uid unit found present
        exact ⟨other, List.mem_cons_of_mem _ member, adds⟩
    · intro other member unit adds
      rcases List.mem_cons.mp member with rfl | inRest
      · rcases stepped with ⟨new, addsNew, fresh, units⟩ | ⟨nothing, -⟩
        · obtain rfl : unit = new := Option.some.inj (adds.2.symm.trans addsNew.2)
          refine ⟨kept _ unit ?_, fresh⟩
          rw [units, Dict.get?_set_self]
        · exact absurd adds (nothing unit)
      · obtain ⟨found, missing⟩ := added other inRest unit adds
        refine ⟨found, fun present => missing ?_⟩
        obtain ⟨stored, inGraph⟩ := Dict.mem_iff_get?.mp present
        exact Dict.mem_of_get? (keptFirst _ stored inGraph)

/-! ### The admission -/

namespace SemanticSystem

variable {env : AdmissionEnv} {system : SemanticSystem R} {candidate : SemanticGraphCandidate R}
  {admission : Admission R}

/-- A call that gets to its end commits. -/
theorem Reaches.outcome {state : CognitiveState} (reaches : system.Reaches env candidate admission state) :
    system.AdmissionCommits env candidate admission ∧
      ∃ final, Commits system.graph candidate.operations (some system.graph.version) final ∧
        (system.applySemanticCandidate env candidate admission).system.graph =
          system.graph.commit final := by
  obtain ⟨permitted, active, fresh, ⟨validation, returned, isValid⟩, commits⟩ := reaches
  rcases executeTransaction_cases env.transaction system.provenanceLog env.txId system.graph
    candidate.operations (some system.graph.version) with
    ⟨final, commitsTo, committed, graph⟩ | ⟨refused, -, -⟩
  · obtain ⟨ctx, ended⟩ : ∃ ctx, (system.admissionTransaction env candidate).result =
        .ok (true, ctx) := by
      change (system.admissionTransaction env candidate).committed = true at committed
      unfold Outcome.committed at committed
      split at committed
      case h_1 ctx ended => exact ⟨ctx, committed ▸ ended⟩
      case h_2 => cases committed
    have admitted : system.applySemanticCandidate env candidate admission = ⟨.ok (true, validation),
        { system with
          graph := (system.admissionTransaction env candidate).graph
          provenanceLog := (system.admissionTransaction env candidate).log
          transactionCommits := system.transactionCommits + 1 }⟩ := by
      simp [applySemanticCandidate, permitted, active, fresh, returned, isValid, ended]
    rw [AdmissionCommits, admitted]
    exact ⟨⟨validation, rfl⟩, final, commitsTo, graph⟩
  · exact absurd commits refused

/-- A call that commits has got to its end. -/
theorem reaches_of_commits (committed : system.AdmissionCommits env candidate admission) :
    ∃ state, system.Reaches env candidate admission state := by
  obtain ⟨validation, returned⟩ := committed
  unfold applySemanticCandidate at returned
  by_cases permitted : system.permits "APPLY_SEMANTIC_GRAPH" = false
  · rw [if_pos permitted] at returned
    cases returned
  rw [if_neg permitted] at returned
  cases active : system.cognitiveState with
  | none =>
    rw [active] at returned
    cases returned
  | some state =>
    rw [active] at returned
    by_cases existing : system.existingUnits candidate ≠ []
    · simp only [if_pos existing] at returned
      cases returned
    simp only [if_neg existing] at returned
    cases checked : validateSemanticCandidate system.capabilityRegistry env.clock
        (grants admission state.task) candidate with
    | error error =>
      rw [checked] at returned
      cases returned
    | ok found =>
      simp only [checked] at returned
      by_cases isValid : found.valid = false
      · simp only [if_pos isValid] at returned
        cases returned
      refine ⟨state, by simpa using permitted, active, not_not.mp existing,
        ⟨found, checked, by simpa using isValid⟩, ?_⟩
      rw [if_neg isValid] at returned
      rcases executeTransaction_cases env.transaction system.provenanceLog env.txId system.graph
        candidate.operations (some system.graph.version) with
        ⟨final, commitsTo, -, -⟩ | ⟨-, refused, -⟩
      · exact ⟨final, commitsTo⟩
      · have refused : (system.admissionTransaction env candidate).committed = false := refused
        unfold Outcome.committed at refused
        cases ended : (system.admissionTransaction env candidate).result with
        | error error =>
          simp only [ended] at returned
          cases returned
        | ok pair =>
          obtain ⟨success, ctx⟩ := pair
          obtain rfl : success = false := by simpa [ended] using refused
          simp only [ended] at returned
          cases returned

variable (env system candidate admission) in
/-- **A committed call admits only what passes the checks, exactly when every unit that an operation
adds in the place of a declared one passes them.** -/
theorem semanticAdmission_iff :
    system.SemanticAdmission env candidate admission ↔
      system.SubstitutesChecked env candidate admission := by
  constructor
  · intro admitted state reaches operation member unit adds _
    obtain ⟨committed, final, ⟨-, applied, -⟩, graph⟩ := reaches.outcome
    obtain ⟨validation, returned, isValid⟩ := reaches.valid
    obtain ⟨-, -, added⟩ := units_applyAll (checked_of_valid returned isValid).2 applied
    obtain ⟨found, missing⟩ := added operation member unit adds
    have stored : (system.applySemanticCandidate env candidate admission).system.graph.units.get?
        unit.unitId.value = some unit := by
      rw [graph]
      exact found
    obtain ⟨other, active, passes⟩ := (admitted committed).1 _ unit stored missing
    obtain rfl : other = state := Option.some.inj (active.symm.trans reaches.active)
    exact passes
  · intro substitutes committed
    obtain ⟨state, reaches⟩ := reaches_of_commits committed
    obtain ⟨-, final, ⟨-, applied, -⟩, graph⟩ := reaches.outcome
    obtain ⟨validation, returned, isValid⟩ := reaches.valid
    obtain ⟨declared, semantic⟩ := checked_of_valid returned isValid
    obtain ⟨kept, origin, -⟩ := units_applyAll semantic applied
    rw [graph]
    refine ⟨fun uid unit found missing => ⟨state, reaches.active, ?_⟩, kept⟩
    obtain ⟨operation, member, adds⟩ := origin uid unit found missing
    by_cases isDeclared : unit ∈ candidate.units
    · exact declared unit isDeclared
    · exact substitutes state reaches operation member unit adds isDeclared

end SemanticSystem

end Admission

/-! ### Another unit under a declared name -/

namespace Sample

def writer : CapabilityCard ℚ :=
  ⟨{ capabilityId := "writer", name := "writer", providerId := "local", providerVersion := "1",
     modelId := "model", supportedActions := {.reason}, riskLimit := .low }, by decide +kernel⟩

def writerRegistry : CapabilityRegistry ℚ where
  cards := Dict.set ∅ "writer" writer
  keyed capabilityId card found := by
    rw [Dict.get?_set] at found
    split_ifs at found with same
    · cases found
      exact same.symm
    · exact nomatch found

/-- A unit with everything the validation asks for. -/
def declared : ComputationalUnit :=
  { unitNamed unitA with
    contract := {
      inputSchema := .obj [("type", .str "string")]
      outputSchema := .obj [("type", .str "string")] }
    metadata := .obj [
      ("tenant_id", .str Cognition.Sample.task.tenantId),
      ("semantic_justification", .str "drafts the answer"),
      ("capability_id", .str "writer"), ("action_type", .str "REASON"),
      ("risk_class", .str "LOW")] }

/-- The candidate declares a checked unit, and its operation adds one without metadata. -/
def substituting : SemanticGraphCandidate ℚ :=
  ⟨{ candidateId := "candidate", taskId := Cognition.Sample.task.taskId
     operations := [{ add unitA with rationale := "draft" }]
     units := [declared]
     semanticJustification := "a draft is missing"
     predictedEvidence := ["draft"]
     provenanceRefs := ["event_1"]
     capabilityIds := ["writer"]
     sourceKinds := ["goal"]
     semanticFingerprint := "fingerprint" }, by decide +kernel⟩

def admissionSystem : SemanticSystem ℚ where
  graph := { graphId := ⟨"graph", graph_normalized⟩ }
  cognitiveState := some (CognitiveState.initial Cognition.Sample.task)
  capabilityRegistry := writerRegistry

def admissionEnv : AdmissionEnv := ⟨env, ⟨"tx_1", tx_normalized⟩, fun _ => 0⟩

def admission : Admission ℚ := ⟨1, ∅, "I1_GRAPH_ONLY"⟩

end Sample

/-- The unit that comes into the graph belongs to no tenant. -/
theorem substitute_admitted :
    ¬ Sample.admissionSystem.SemanticAdmission Sample.admissionEnv Sample.substituting
      Sample.admission := by
  intro admitted
  obtain ⟨state, -, checked⟩ := (admitted ⟨⟨true, []⟩, by decide +kernel⟩).1 "unit_a"
    (Sample.unitNamed Sample.unitA) (by decide +kernel) (by decide +kernel)
  have tenant : (Except.ok .null : Except PyError Json) = .ok (.str state.task.tenantId) :=
    checked.tenant
  cases tenant

end Dnc
