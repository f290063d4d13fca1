/-
**Parsers at the boundary.**

The parsers that take a JSON value from outside: of a graph (`DNWIRSerializer.from_dict`), of a
plugin manifest (`PluginManifest.from_dict`) and of an execution context
(`execution_context_from_dict`). Each is to fail closed on every value: a DNCValidationError, or an
object that its constructor has checked. What they return is as it should be in every case; the
manifest parser raises nothing else either. The other two leave part of their work outside of the
translation of errors, and fail closed on the values of `ReadableAt` and on no others
(`failsClosedAt_iff`).

`dnc.sdk.execution_context_from_dict`: strict in the names and the types of the fields
(`checkContext`, which accepts the documents of `ContextWellTyped`), and without a translation of
what the constructor of the context raises behind these checks. The constructor wants texts that are
not empty, which no check before it asks for; so the parser fails closed exactly on the documents
that are not well typed or have no such text where one is wanted
(`executionContextFromDict_failsClosed_iff`).
-/

import Dnc.Ir.ExecutionContext
import Dnc.Ir.FailClosed
import Dnc.Ir.Schema
import Dnc.Kernel.Contracts
import Dnc.Plugins.Manifest

namespace Dnc.Sdk

open PyLib Logic Schema

/-! ### The parser -/

/-- `sorted(required)`. -/
def contextRequired : List String := ["isolation_grade", "permissions", "tenant_id"]

def contextOptional : List String :=
  ["capabilities", "confidential_compute", "device", "region", "runtime", "trust_zone"]

/-- The fields that are arrays of strings, and those that are strings. -/
def contextArrays : List String := ["permissions", "capabilities"]

def contextTexts : List String := ["tenant_id", "region", "device", "runtime", "trust_zone"]

/-- The check of the names of the fields. -/
def checkNames (fields : JsonObject) : Except PyError Unit :=
  let present := (fields.map Prod.fst).toFinset
  let missing := contextRequired.filter fun name => decide (name ∉ present)
  let unknown := sortedElems (present \ (contextRequired ++ contextOptional).toFinset)
  let shown (names : List String) : String := Json.pyRepr (.arr (names.map .str))
  let details := (if missing = [] then [] else [s!"missing {shown missing}"]) ++
    (if unknown = [] then [] else [s!"unknown {shown unknown}"])
  if missing = [] ∧ unknown = [] then .ok ()
  else invalid ("execution context fields are invalid: " ++ "; ".intercalate details)

/-- The check of an array of strings, `[]` by default. -/
def checkArray (fields : JsonObject) (name : String) : Except PyError Unit :=
  match (fields.lookup name).getD (.arr []) with
  | .arr items =>
    if items.any fun item => !isString item then
      invalid s!"execution context {name} MUST be an array of strings"
    else if ¬ (stringsOf items).Nodup then
      invalid s!"execution context {name} MUST contain unique values"
    else .ok ()
  | _ => invalid s!"execution context {name} MUST be an array of strings"

/-- The check of a string, where the document has it. -/
def checkText (fields : JsonObject) (name : String) : Except PyError Unit :=
  if (fields.lookup name).any fun value => !isString value then
    invalid s!"execution context {name} MUST be a string"
  else .ok ()

/-- `document.get("confidential_compute", False)`. -/
def confidentialOf (fields : JsonObject) : Json :=
  (fields.lookup "confidential_compute").getD (.bool false)

/-- `IsolationGrade(document["isolation_grade"])`, with its two errors translated. -/
def isolationOf (fields : JsonObject) : Except PyError IsolationGrade :=
  match PyEnum.parse ((fields.lookup "isolation_grade").getD .null) with
  | .ok grade => .ok grade
  | .error _ => invalid "execution context isolation_grade is unsupported"

/-- What the parser checks itself, and the isolation grade that it finds. -/
def checkContext (fields : JsonObject) : Except PyError IsolationGrade := do
  checkNames fields
  contextArrays.forM (checkArray fields)
  contextTexts.forM (checkText fields)
  if isBoolean (confidentialOf fields) = false then
    invalid "execution context confidential_compute MUST be boolean"
  isolationOf fields

/-- `document.get(name, "")`, of a string. -/
def contextText (fields : JsonObject) (name : String) : String :=
  ((fields.lookup name).bind Json.text?).getD ""

/-- `frozenset(document.get(name, []))`, of an array of strings. -/
def contextSet (fields : JsonObject) (name : String) : Finset String :=
  (stringsOf (itemsOf ((fields.lookup name).getD (.arr [])))).toFinset

/-- The arguments of the constructor. -/
def contextOf (fields : JsonObject) (grade : IsolationGrade) : ExecutionContextData where
  tenantId := contextText fields "tenant_id"
  permissions := contextSet fields "permissions"
  isolationGrade := grade
  region := contextText fields "region"
  device := contextText fields "device"
  runtime := contextText fields "runtime"
  capabilities := contextSet fields "capabilities"
  trustZone := contextText fields "trust_zone"
  confidentialCompute := (confidentialOf fields).truthy

end Dnc.Sdk

namespace Dnc

open PyLib Logic Schema

/-- `ExecutionContext(…)`, on values of the declared types. -/
def ExecutionContext.ofData : ExecutionContextData → Except PyError ExecutionContext :=
  construct ExecutionContextData.violation ExecutionContext.mk

namespace Sdk

/-- `execution_context_from_dict`. -/
def executionContextFromDict (document : Json) : Except PyError ExecutionContext :=
  match document with
  | .obj fields => do
    let grade ← checkContext fields
    ExecutionContext.ofData (contextOf fields grade)
  | _ => invalid "execution context MUST be an object"

/-! ### What the parser checks -/

/-- The fields of the document are those of a context, and of their types. -/
structure ContextWellTyped (fields : JsonObject) (grade : IsolationGrade) : Prop where
  complete : ∀ name ∈ contextRequired, name ∈ fields.map Prod.fst
  known : ∀ name ∈ fields.map Prod.fst, name ∈ contextRequired ++ contextOptional
  arrays : ∀ name ∈ contextArrays, ∀ value, fields.lookup name = some value →
    ∃ texts : List String, value = .arr (texts.map .str) ∧ texts.Nodup
  texts : ∀ name ∈ contextTexts, ∀ value, fields.lookup name = some value →
    ∃ text, value = .str text
  confidential : ∀ value, fields.lookup "confidential_compute" = some value →
    ∃ flag, value = .bool flag
  isolation : fields.lookup "isolation_grade" = some (.str (PyEnum.value grade))

/-- A text that the constructor wants is empty. -/
def ContextBlank (fields : JsonObject) : Prop :=
  fields.lookup "tenant_id" = some (.str "") ∨
    ∃ name ∈ contextArrays, ∃ items text, fields.lookup name = some (.arr items) ∧
      .str text ∈ items ∧ isBlank text = true

theorem checkNames_eq_ok {fields : JsonObject} :
    checkNames fields = .ok () ↔
      (∀ name ∈ contextRequired, name ∈ fields.map Prod.fst) ∧
        ∀ name ∈ fields.map Prod.fst, name ∈ contextRequired ++ contextOptional := by
  have complete : (contextRequired.filter fun name =>
      decide (name ∉ (fields.map Prod.fst).toFinset)) = [] ↔
        ∀ name ∈ contextRequired, name ∈ fields.map Prod.fst := by
    simp only [List.filter_eq_nil_iff, List.mem_toFinset, decide_eq_true_eq, not_not]
  have known : sortedElems ((fields.map Prod.fst).toFinset \
      (contextRequired ++ contextOptional).toFinset) = [] ↔
        ∀ name ∈ fields.map Prod.fst, name ∈ contextRequired ++ contextOptional := by
    simp only [List.eq_nil_iff_forall_not_mem, mem_sortedElems, Finset.mem_sdiff,
      List.mem_toFinset, not_and, not_not]
  unfold checkNames
  rw [← complete, ← known]
  exact require_eq_ok

theorem checkArray_eq_ok {fields : JsonObject} {name : String} :
    checkArray fields name = .ok () ↔ ∀ value, fields.lookup name = some value →
      ∃ texts : List String, value = .arr (texts.map .str) ∧ texts.Nodup := by
  unfold checkArray
  cases given : fields.lookup name with
  | none => exact iff_of_true rfl fun value same => nomatch same
  | some value =>
    simp only [Option.getD_some, Option.some.injEq, forall_eq']
    cases value with
    | arr items =>
      dsimp only
      constructor
      · intro passed
        obtain ⟨typed, passed⟩ := guard_eq_ok.mp passed
        obtain ⟨distinct, -⟩ := guard_eq_ok.mp passed
        exact ⟨stringsOf items, congrArg Json.arr (eq_map_str typed), not_not.mp distinct⟩
      · rintro ⟨texts, same, distinct⟩
        cases same
        rw [if_neg (any_map_str texts), stringsOf_map_str, if_neg (not_not.mpr distinct)]
    | _ => exact iff_of_false (fun failed => nomatch failed) fun ⟨_, same, _⟩ => nomatch same

theorem checkText_eq_ok {fields : JsonObject} {name : String} :
    checkText fields name = .ok () ↔ ∀ value, fields.lookup name = some value →
      ∃ text, value = .str text := by
  unfold checkText
  cases given : fields.lookup name with
  | none => exact iff_of_true rfl fun value same => nomatch same
  | some value =>
    simp only [Option.any_some, Option.some.injEq, forall_eq']
    cases value with
    | str text => exact iff_of_true rfl ⟨text, rfl⟩
    | _ => exact iff_of_false (fun failed => nomatch failed) fun ⟨_, same⟩ => nomatch same

theorem isBoolean_confidentialOf {fields : JsonObject} :
    isBoolean (confidentialOf fields) = true ↔
      ∀ value, fields.lookup "confidential_compute" = some value → ∃ flag, value = .bool flag := by
  unfold confidentialOf
  cases given : fields.lookup "confidential_compute" with
  | none => exact iff_of_true rfl fun value same => nomatch same
  | some value =>
    simp only [Option.getD_some, Option.some.injEq, forall_eq']
    cases value with
    | bool flag => exact iff_of_true rfl ⟨flag, rfl⟩
    | _ => exact iff_of_false (fun failed => nomatch failed) fun ⟨_, same⟩ => nomatch same

theorem isolationOf_eq_ok {fields : JsonObject} {grade : IsolationGrade} :
    isolationOf fields = .ok grade ↔
      fields.lookup "isolation_grade" = some (.str (PyEnum.value grade)) := by
  unfold isolationOf
  constructor
  · intro passed
    cases parsed : PyEnum.parse (α := IsolationGrade)
        ((fields.lookup "isolation_grade").getD .null) with
    | error error =>
      rw [parsed] at passed
      cases passed
    | ok found =>
      rw [parsed] at passed
      cases passed
      have value := PyEnum.parse_eq_ok parsed
      cases given : fields.lookup "isolation_grade" with
      | none =>
        rw [given] at value
        cases value
      | some other =>
        rw [given] at value
        exact congrArg some value
  · intro given
    rw [given, Option.getD_some, PyEnum.parse_value]

/-- **What the parser checks itself.** -/
theorem checkContext_eq_ok {fields : JsonObject} {grade : IsolationGrade} :
    checkContext fields = .ok grade ↔ ContextWellTyped fields grade := by
  unfold checkContext
  constructor
  · intro passed
    obtain ⟨_, names, passed⟩ := bind_eq_ok.mp passed
    obtain ⟨_, arrays, passed⟩ := bind_eq_ok.mp passed
    obtain ⟨_, texts, passed⟩ := bind_eq_ok.mp passed
    obtain ⟨confidential, isolation⟩ := guard_eq_ok.mp passed
    exact {
      complete := (checkNames_eq_ok.mp names).1
      known := (checkNames_eq_ok.mp names).2
      arrays := fun name member => checkArray_eq_ok.mp (forM_eq_ok.mp arrays name member)
      texts := fun name member => checkText_eq_ok.mp (forM_eq_ok.mp texts name member)
      confidential := isBoolean_confidentialOf.mp (Bool.not_eq_false _ ▸ confidential)
      isolation := isolationOf_eq_ok.mp isolation }
  · intro typed
    refine bind_eq_ok.mpr ⟨(), checkNames_eq_ok.mpr ⟨typed.complete, typed.known⟩, ?_⟩
    refine bind_eq_ok.mpr ⟨(), forM_eq_ok.mpr fun name member => ?_, ?_⟩
    · exact checkArray_eq_ok.mpr (typed.arrays name member)
    refine bind_eq_ok.mpr ⟨(), forM_eq_ok.mpr fun name member => ?_, ?_⟩
    · exact checkText_eq_ok.mpr (typed.texts name member)
    refine guard_eq_ok.mpr ⟨?_, isolationOf_eq_ok.mpr typed.isolation⟩
    rw [isBoolean_confidentialOf.mpr typed.confidential]
    exact Bool.noConfusion

/-! ### What it raises -/

/-- Its own checks raise a DNCValidationError. -/
theorem checkContext_raises (fields : JsonObject) :
    OnlyRaises IsValidation (checkContext fields) := by
  unfold checkContext
  refine OnlyRaises.bind ?names fun _ => ?_
  case names => exact OnlyRaises.ite (fun _ => .ok ()) fun _ => validation_raises _
  refine (OnlyRaises.forM fun name _ => ?array).bind fun _ => ?_
  case array =>
    unfold checkArray
    split
    · refine validation_if fun _ => ?_
      exact validation_if fun _ => .ok ()
    · exact validation_raises _
  refine (OnlyRaises.forM fun name _ => ?text).bind fun _ => ?_
  case text => exact validation_if fun _ => .ok ()
  refine validation_if fun _ => ?_
  unfold isolationOf
  split
  · exact .ok _
  · exact validation_raises _

/-- A set of a well-typed document has a blank element where the array has one. -/
theorem anyBlank_contextSet {fields : JsonObject} {grade : IsolationGrade} {name : String}
    (typed : ContextWellTyped fields grade) (member : name ∈ contextArrays) :
    anyBlank (contextSet fields name) ↔ ∃ items text, fields.lookup name = some (.arr items) ∧
      .str text ∈ items ∧ isBlank text = true := by
  unfold anyBlank contextSet
  cases given : fields.lookup name with
  | none =>
    refine iff_of_false ?_ fun ⟨_, _, same, _⟩ => nomatch same
    rintro ⟨text, listed, -⟩
    exact absurd listed (Finset.notMem_empty text)
  | some value =>
    obtain ⟨texts, rfl, -⟩ := typed.arrays name member value given
    simp only [Option.getD_some, itemsOf, stringsOf_map_str, List.mem_toFinset]
    constructor
    · rintro ⟨text, listed, blank⟩
      exact ⟨_, text, rfl, List.mem_map_of_mem listed, blank⟩
    · rintro ⟨_, text, ⟨⟩, listed, blank⟩
      obtain ⟨other, here, same⟩ := List.mem_map.mp listed
      cases same
      exact ⟨text, here, blank⟩

theorem tenantId_contextOf {fields : JsonObject} {grade : IsolationGrade}
    (typed : ContextWellTyped fields grade) :
    (contextOf fields grade).tenantId = "" ↔ fields.lookup "tenant_id" = some (.str "") := by
  show contextText fields "tenant_id" = "" ↔ _
  have named : "tenant_id" ∈ fields.map Prod.fst := typed.complete "tenant_id" (by decide)
  unfold contextText
  cases given : fields.lookup "tenant_id" with
  | none => exact absurd named (lookup_eq_none.mp given)
  | some value =>
    obtain ⟨text, rfl⟩ := typed.texts "tenant_id" (by decide) value given
    show text = "" ↔ _
    rw [Option.some.injEq, Json.str.injEq]

/-- The constructor accepts the arguments of a well-typed document without such a text. -/
theorem violation_contextOf {fields : JsonObject} {grade : IsolationGrade}
    (typed : ContextWellTyped fields grade) :
    (contextOf fields grade).violation = none ↔ ¬ ContextBlank fields := by
  have permissions : anyBlank (contextOf fields grade).permissions ↔ _ :=
    anyBlank_contextSet typed (by decide : "permissions" ∈ contextArrays)
  have capabilities : anyBlank (contextOf fields grade).capabilities ↔ _ :=
    anyBlank_contextSet typed (by decide : "capabilities" ∈ contextArrays)
  have blank : ContextBlank fields ↔ (contextOf fields grade).tenantId = "" ∨
      anyBlank (contextOf fields grade).permissions ∨
      anyBlank (contextOf fields grade).capabilities := by
    rw [tenantId_contextOf typed, permissions, capabilities]
    unfold ContextBlank contextArrays
    simp only [List.mem_cons, List.not_mem_nil, or_false, exists_eq_or_imp, exists_eq_left]
  unfold ExecutionContextData.violation
  rw [check_eq_none, check_eq_none, check_eq_none, and_iff_left rfl, blank, not_or, not_or]

/-- What the constructor raises is no DNCValidationError. -/
theorem ofData_raises_iff (data : ExecutionContextData) :
    OnlyRaises IsValidation (ExecutionContext.ofData data) ↔ data.violation = none := by
  have found : OnlyFinds (fun error => ∃ message, error = .valueError message) data.violation := by
    unfold ExecutionContextData.violation
    exact .check ⟨_, rfl⟩ (.check ⟨_, rfl⟩ (.check ⟨_, rfl⟩ .none))
  unfold ExecutionContext.ofData construct
  split
  · rename_i valid
    exact iff_of_true (.ok _) valid
  · rename_i error failed
    obtain ⟨message, rfl⟩ := found error failed
    exact iff_of_false (not_onlyRaises_valueError message) fun valid => nomatch valid.symm.trans failed

/-- No text of the document, if it is well typed, is empty where the constructor wants one. -/
def ContextReadable (document : Json) : Prop :=
  ∀ fields grade, document = .obj fields → ContextWellTyped fields grade → ¬ ContextBlank fields

/-- **When the context parser fails closed.** -/
theorem executionContextFromDict_failsClosed_iff (document : Json) :
    FailsClosed (fun context => context.violation = none) (executionContextFromDict document) ↔
      ContextReadable document := by
  refine (failsClosed_iff_raises fun context _ => context.valid).trans ?_
  cases document with
  | obj fields =>
    show OnlyRaises IsValidation (checkContext fields >>= _) ↔ _
    cases checked : checkContext fields with
    | error error =>
      refine iff_of_true (.error (checkContext_raises fields error checked)) ?_
      rintro _ grade ⟨⟩ typed
      cases (checkContext_eq_ok.mpr typed).symm.trans checked
    | ok grade =>
      have typed := checkContext_eq_ok.mp checked
      refine (ofData_raises_iff _).trans ((violation_contextOf typed).trans ?_)
      constructor
      · rintro clean _ other ⟨⟩ -
        exact clean
      · exact fun readable => readable fields grade rfl typed
  | _ => exact iff_of_true (validation_raises _) fun _ _ same => nomatch same

end Sdk

end Dnc

namespace Dnc.Sdk

open PyLib Logic

inductive Boundary where
  | graph
  | manifest
  | context
deriving DecidableEq

/-- The parser of the boundary raises a DNCValidationError for the value, or returns an object whose
parts satisfy the checks of their constructors. -/
def FailsClosedAt (isAlnum : Char → Bool) (value : Json) : Boundary → Prop
  | .graph => FailsClosed StructuralGraph.Constructed (fromDict value)
  | .manifest => FailsClosed (fun manifest => manifest.check isAlnum = .ok ())
      (PluginManifest.fromDict isAlnum value)
  | .context => FailsClosed (fun context => context.violation = none)
      (executionContextFromDict value)

/-- Nothing in the value makes code fail that the parser runs outside of its translation of errors:
no number in the header of a graph is too long to convert, and no text of an otherwise well-typed
context is empty where one is wanted. -/
def ReadableAt (value : Json) : Boundary → Prop
  | .graph => HeaderReadable value
  | .manifest => True
  | .context => ContextReadable value

/-- **When the parsers fail closed.** -/
theorem failsClosedAt_iff (isAlnum : Char → Bool) (value : Json) (boundary : Boundary) :
    FailsClosedAt isAlnum value boundary ↔ ReadableAt value boundary := by
  cases boundary with
  | graph => exact fromDict_failsClosed_iff value
  | manifest => exact iff_true_intro (PluginManifest.fromDict_failsClosed value)
  | context => exact executionContextFromDict_failsClosed_iff value

/-- A context of no tenant: each field has its type, and the constructor raises a ValueError. -/
def tenantlessContext : Json := .obj [
  ("tenant_id", .str ""),
  ("permissions", .arr []),
  ("isolation_grade", .str "I0_NONE")]

theorem tenantless_escapes :
    executionContextFromDict tenantlessContext =
        .error (.valueError "execution tenant_id MUST be non-empty") ∧
      ¬ FailsClosedAt Char.isAlphanum tenantlessContext .context := by
  have raised : executionContextFromDict tenantlessContext =
      .error (.valueError "execution tenant_id MUST be non-empty") := by
    decide +kernel
  refine ⟨raised, fun closed => ?_⟩
  unfold FailsClosedAt at closed
  dsimp only at closed
  rw [raised] at closed
  obtain ⟨message, same⟩ := closed
  cases same

end Dnc.Sdk
