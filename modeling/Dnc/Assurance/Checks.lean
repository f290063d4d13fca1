/-
**The checks of functional verifiers.**

`dnc.assurance.verifiers`: a `FunctionalVerifier` runs a check on the claims that its descriptor
supports, and turns an exception of the check into a result.

`schema_check` compares a JSON value with a schema that names a type, required keys and properties;
a text is read as JSON first. The schema itself is not checked: one that is not as `_schema_errors`
wants it raises where the value leads there (`Unreadable`).

* `schemaErrors_spec`: what is listed are exactly the defects of the value, with the paths to them.
* `conforms_iff`: a value without a defect is as the schema wants it.
* `schema_verifies`: so a verifier with such a check decides whether the value conforms, be it held
  by the claim as a value or as its text.
-/

import Dnc.Assurance.Verifiers
import Dnc.PyLib.Data
import Dnc.PyLib.JsonText

namespace Dnc.Assurance

open PyLib Logic

/-! ### Functional verifiers -/

/-- What a check returns. -/
structure CheckOutcome where
  status : VerificationStatus
  reasons : List String

/-- A check returns or raises. -/
abbrev Check := VerifierClaim → Except PyError CheckOutcome

/-- What `_result` fills in, as far as the cascade reads it. -/
def resultData (descriptor : VerifierDescriptor) (claim : VerifierClaim)
    (status : VerificationStatus) (reasons : List String) : VerifierResultData where
  resultId := s!"{claim.claimId}:{descriptor.verifierId}"
  verifierId := descriptor.verifierId
  verifierVersion := descriptor.version
  verifierFingerprint := descriptor.fingerprint
  claimId := claim.claimId
  targetId := claim.targetId
  scope := claim.scope
  status
  independenceGroup := descriptor.independenceGroup
  tenantId := claim.tenantId
  checks := reasons

/-- `_result`. -/
def resultOf (descriptor : VerifierDescriptor) (claim : VerifierClaim)
    (status : VerificationStatus) (reasons : List String) : Except PyError VerifierResult :=
  construct VerifierResultData.violation VerifierResult.mk
    (resultData descriptor claim status reasons)

structure FunctionalVerifier where
  descriptor : VerifierDescriptor
  check : Check

namespace FunctionalVerifier

/-- `FunctionalVerifier.verify`. -/
def verify (verifier : FunctionalVerifier) (claim : VerifierClaim) :
    Except PyError VerifierResult :=
  if ¬ verifier.descriptor.Supports claim then
    resultOf verifier.descriptor claim .inapplicable ["INAPPLICABLE"]
  else
    match verifier.check claim with
    | .error _ => resultOf verifier.descriptor claim .error ["VERIFIER_ERROR"]
    | .ok outcome => resultOf verifier.descriptor claim outcome.status outcome.reasons

end FunctionalVerifier

/-! ### Schemas -/

/-- What is raised for a value that cannot be in a set. -/
def unhashable (value : Json) : PyError := .typeError s!"unhashable type: '{value.typeName}'"

/-- A value of the type that a schema names; other names ask nothing. -/
def hasKind (value : Json) : String → Bool
  | "object" => value.typeName = "dict"
  | "array" => value.typeName = "list"
  | "string" => value.typeName = "str"
  | "number" => value.typeName = "int" ∨ value.typeName = "float"
  | "integer" => value.typeName = "int"
  | "boolean" => value.typeName = "bool"
  | _ => true

/-- The tests of the type in `_schema_errors`. -/
def mistyped (value : Json) (schema : JsonObject) : Except PyError Bool :=
  match schema.lookup "type" with
  | some (.str kind) => .ok !hasKind value kind
  | some expected => if expected.hashable then .ok false else .error (unhashable expected)
  | none => .ok false

/-- `f"MISSING:{key}"`, for a key that is not in the value. -/
def missingKey (members : JsonObject) : Json → Except PyError (List String)
  | .str key => .ok (if members.lookup key = none then [s!"MISSING:{key}"] else [])
  | key =>
    if key.hashable then (fun text => [s!"MISSING:{text}"]) <$> key.tryRepr
    else .error (unhashable key)

/-- The lists for some items, one behind the other. -/
def collect {α : Type} (f : α → Except PyError (List String)) :
    List α → Except PyError (List String)
  | [] => .ok []
  | item :: rest => do
    let errors ← f item
    let later ← collect f rest
    return errors ++ later

/-- `schema.get("required", [])`, iterated. -/
def requiredKeys (schema : JsonObject) : Except PyError (List Json) :=
  ((schema.lookup "required").getD (.arr [])).iterate

mutual

/-- `_schema_errors`. -/
def schemaErrors (value : Json) : Json → Except PyError (List String)
  | .obj schema => do
    if ← mistyped value schema then return ["TYPE_MISMATCH"]
    match value with
    | .obj members => do
      let required ← requiredKeys schema
      let missing ← collect (missingKey members) required
      let inside ← propertiesErrors members schema
      return missing ++ inside
    | _ => return []
  | schema => .error (.attributeError s!"'{schema.typeName}' object has no attribute 'get'")

/-- The loop over `schema.get("properties", {}).items()`. -/
def propertiesErrors (members : JsonObject) : JsonObject → Except PyError (List String)
  | [] => .ok []
  | (name, value) :: rest =>
    if name = "properties" then
      match value with
      | .obj properties => childErrors members properties
      | other => .error (.attributeError s!"'{other.typeName}' object has no attribute 'items'")
    else propertiesErrors members rest

def childErrors (members : JsonObject) : JsonObject → Except PyError (List String)
  | [] => .ok []
  | (key, child) :: rest => do
    let errors ← match members.lookup key with
      | none => .ok []
      | some inner => List.map (fun error => s!"{key}:{error}") <$> schemaErrors inner child
    let later ← childErrors members rest
    return errors ++ later

end

/-- `json.loads` of a text, and any other value as it is. -/
def subject (value : Json) : Option Json :=
  match value with
  | .str text => Json.loads text
  | other => some other

/-- What a list of errors comes to. -/
def schemaOutcome (errors : List String) : CheckOutcome where
  status := if errors = [] then .pass else .fail
  reasons := if errors = [] then ["SCHEMA_VALID"] else errors

/-- `schema_check`. -/
def schemaCheck (schema : Json) : Check := fun claim =>
  match subject claim.value with
  | none => .ok ⟨.fail, ["INVALID_JSON"]⟩
  | some value => schemaOutcome <$> schemaErrors value schema

/-! ### What a schema asks for -/

/-- The schema names a type that the value does not have. -/
def Mistyped (value : Json) (schema : JsonObject) : Prop :=
  ∃ kind, schema.lookup "type" = some (.str kind) ∧ hasKind value kind = false

/-- The key is among the required ones. -/
def Requires (schema : JsonObject) (key : Json) : Prop :=
  ∃ keys, requiredKeys schema = .ok keys ∧ key ∈ keys

/-- The schema of the values under a key. -/
def Declares (schema : JsonObject) (key : String) (child : Json) : Prop :=
  ∃ properties, schema.lookup "properties" = some (.obj properties) ∧ (key, child) ∈ properties

/-- Only a text can be a key of the value. -/
def Absent (members : JsonObject) (key : Json) : Prop :=
  ∀ name, key = .str name → members.lookup name = none

/-- What is wrong at one place of a value. -/
inductive Defect where
  | mistyped
  | missing (key : Json)

def Defect.text : Defect → String
  | .mistyped => "TYPE_MISMATCH"
  | .missing key => s!"MISSING:{key.pyStr}"

/-- The defect behind the path to it. -/
def render (path : List String) (defect : Defect) : String :=
  path.foldr (fun key text => s!"{key}:{text}") defect.text

/-- A defect of the value, and the path to it. -/
inductive DefectAt : Json → Json → List String → Defect → Prop where
  | mistyped {value : Json} {schema : JsonObject} (asked : Mistyped value schema) :
      DefectAt value (.obj schema) [] .mistyped
  | missing {members schema : JsonObject} {key : Json} (typed : ¬ Mistyped (.obj members) schema)
      (required : Requires schema key) (absent : Absent members key) :
      DefectAt (.obj members) (.obj schema) [] (.missing key)
  | inside {members schema : JsonObject} {key : String} {child inner : Json} {path : List String}
      {defect : Defect} (typed : ¬ Mistyped (.obj members) schema)
      (declared : Declares schema key child) (held : members.lookup key = some inner)
      (defective : DefectAt inner child path defect) :
      DefectAt (.obj members) (.obj schema) (key :: path) defect

/-- The value is as the schema wants it. -/
inductive Conforms : Json → Json → Prop where
  | scalar {value : Json} {schema : JsonObject} (plain : ∀ members, value ≠ .obj members)
      (typed : ¬ Mistyped value schema) : Conforms value (.obj schema)
  | object {members schema : JsonObject} (typed : ¬ Mistyped (.obj members) schema)
      (complete : ∀ key, Requires schema key → ¬ Absent members key)
      (inside : ∀ key child inner, Declares schema key child → members.lookup key = some inner →
        Conforms inner child) : Conforms (.obj members) (.obj schema)

/-- The value leads to a part of the schema that is not as it has to be. -/
inductive Unreadable : Json → Json → Prop where
  | schema {value schema : Json} (other : ∀ fields, schema ≠ .obj fields) : Unreadable value schema
  | kind {value expected : Json} {schema : JsonObject}
      (named : schema.lookup "type" = some expected) (unhashable : expected.hashable = false) :
      Unreadable value (.obj schema)
  | required {members schema : JsonObject} (typed : ¬ Mistyped (.obj members) schema)
      {error : PyError} (fails : requiredKeys schema = .error error) :
      Unreadable (.obj members) (.obj schema)
  | key {members schema : JsonObject} (typed : ¬ Mistyped (.obj members) schema) {key : Json}
      (required : Requires schema key) (bad : key.hashable = false ∨ key.showable = false) :
      Unreadable (.obj members) (.obj schema)
  | properties {members schema : JsonObject} (typed : ¬ Mistyped (.obj members) schema)
      {other : Json} (named : schema.lookup "properties" = some other)
      (plain : ∀ fields, other ≠ .obj fields) : Unreadable (.obj members) (.obj schema)
  | inside {members schema : JsonObject} (typed : ¬ Mistyped (.obj members) schema) {key : String}
      {child inner : Json} (declared : Declares schema key child)
      (held : members.lookup key = some inner) (unreadable : Unreadable inner child) :
      Unreadable (.obj members) (.obj schema)

/-- **Induction over a schema**, through the schemas of its properties. -/
@[elab_as_elim] theorem schemaInduct {motive : Json → Prop}
    (step : ∀ schema, (∀ properties, schema.get? "properties" = some (.obj properties) →
      ∀ entry ∈ properties, motive entry.2) → motive schema) (schema : Json) : motive schema := by
  have both : motive schema ∧
      ∀ fields, schema = .obj fields → ∀ field ∈ fields, motive field.2 := by
    induction schema using Json.induct with
    | obj fields ih =>
      constructor
      · refine step _ fun properties found => ?_
        have member : ("properties", Json.obj properties) ∈ fields := by
          obtain ⟨before, after, rfl, -⟩ := List.lookup_eq_some_iff.mp found
          exact List.mem_append_right _ List.mem_cons_self
        exact (ih _ member).2 properties rfl
      · rintro _ ⟨⟩ field member
        exact (ih field member).1
    | _ =>
      constructor
      · refine step _ fun _ found => ?_
        cases found
      · intro _ same
        cases same
  exact both.1

/-! ### What is listed -/

/-- The result lists the texts with a property, and is an exception just where it says. -/
def Lists (raises : Prop) (listed : String → Prop) : Except PyError (List String) → Prop
  | .error _ => raises
  | .ok errors => ¬ raises ∧ ∀ text, text ∈ errors ↔ listed text

section Lists

variable {raises raisesLater : Prop} {listed listedLater : String → Prop}
  {result later : Except PyError (List String)}

theorem Lists.congr (lists : Lists raises listed result) (sameRaises : raises ↔ raisesLater)
    (same : ∀ text, listed text ↔ listedLater text) : Lists raisesLater listedLater result := by
  obtain rfl : raises = raisesLater := propext sameRaises
  obtain rfl : listed = listedLater := funext fun text => propext (same text)
  exact lists

/-- Nothing is listed. -/
theorem Lists.nil (returns : ¬ raises) (none : ∀ text, ¬ listed text) :
    Lists raises listed (.ok []) :=
  ⟨returns, fun text => iff_of_false List.not_mem_nil (none text)⟩

/-- Two lists, one behind the other. -/
theorem Lists.append (first : Lists raises listed result)
    (second : Lists raisesLater listedLater later) :
    Lists (raises ∨ raisesLater) (fun text => listed text ∨ listedLater text)
      (do let errors ← result; let rest ← later; return errors ++ rest) := by
  cases result with
  | error error => exact Or.inl first
  | ok errors =>
    cases later with
    | error error => exact Or.inr second
    | ok rest =>
      refine ⟨not_or.mpr ⟨first.1, second.1⟩, fun text => ?_⟩
      rw [List.mem_append, first.2, second.2]

theorem Lists.map (lists : Lists raises listed result) (f : String → String) :
    Lists raises (fun text => ∃ error, listed error ∧ f error = text) (List.map f <$> result) := by
  cases result with
  | error error => exact lists
  | ok errors =>
    refine ⟨lists.1, fun text => List.mem_map.trans (exists_congr fun error => ?_)⟩
    rw [lists.2]

/-- The lists for some items. -/
theorem Lists.collect {α : Type} {raises : α → Prop} {listed : α → String → Prop}
    {f : α → Except PyError (List String)} {items : List α}
    (each : ∀ item ∈ items, Lists (raises item) (listed item) (f item)) :
    Lists (∃ item ∈ items, raises item) (fun text => ∃ item ∈ items, listed item text)
      (collect f items) := by
  induction items with
  | nil => exact .nil (by simp) (by simp)
  | cons item rest ih =>
    obtain ⟨here, others⟩ := List.forall_mem_cons.mp each
    refine (here.append (ih others)).congr ?_ fun text => ?_
    · rw [List.exists_mem_cons_iff]
    · rw [List.exists_mem_cons_iff]

end Lists

/-- What is listed are the defects of the value, with the paths to them. -/
def ListsDefects (value schema : Json) : Prop :=
  Lists (Unreadable value schema)
    (fun text => ∃ path defect, DefectAt value schema path defect ∧ render path defect = text)
    (schemaErrors value schema)

/-- The tests of the type, in the terms of the schema. -/
theorem mistyped_cases (value : Json) (schema : JsonObject) :
    (∃ error expected, mistyped value schema = .error error ∧
      schema.lookup "type" = some expected ∧ expected.hashable = false) ∨
    (mistyped value schema = .ok true ∧ Mistyped value schema) ∨
    (mistyped value schema = .ok false ∧ ¬ Mistyped value schema ∧
      ∀ expected, schema.lookup "type" = some expected → expected.hashable = true) := by
  rw [mistyped, Mistyped]
  cases named : schema.lookup "type" with
  | none =>
    refine Or.inr (Or.inr ⟨rfl, ?_, ?_⟩)
    · rintro ⟨_, found, -⟩
      cases found
    · intro _ found
      cases found
  | some expected =>
    have hashes : ∀ other, some expected = some other → other.hashable = expected.hashable := by
      intro other found
      rw [Option.some.inj found]
    cases expected with
    | str kind =>
      dsimp only
      cases has : hasKind value kind with
      | false => exact Or.inr (Or.inl ⟨rfl, kind, rfl, has⟩)
      | true =>
        refine Or.inr (Or.inr ⟨rfl, ?_, hashes⟩)
        rintro ⟨_, ⟨⟩, lacks⟩
        rw [has] at lacks
        cases lacks
    | arr items => exact Or.inl ⟨_, _, rfl, rfl, rfl⟩
    | obj fields => exact Or.inl ⟨_, _, rfl, rfl, rfl⟩
    | _ =>
      refine Or.inr (Or.inr ⟨rfl, ?_, hashes⟩)
      rintro ⟨_, found, -⟩
      cases found

/-- One required key. -/
theorem missingKey_lists (members : JsonObject) (key : Json) :
    Lists (key.hashable = false ∨ key.showable = false)
      (fun text => Absent members key ∧ (Defect.missing key).text = text)
      (missingKey members key) := by
  by_cases plain : ∀ name, key ≠ .str name
  · have absent : Absent members key := fun name same => absurd same (plain name)
    have unfolded : missingKey members key =
        if key.hashable then (fun text => [s!"MISSING:{text}"]) <$> key.tryRepr
        else .error (unhashable key) := by
      cases key with
      | str name => exact absurd rfl (plain name)
      | _ => rfl
    have text : key.pyStr = key.pyRepr := by
      cases key with
      | str name => exact absurd rfl (plain name)
      | _ => rfl
    rw [unfolded, Json.tryRepr]
    split_ifs with hashes shown
    · refine ⟨by simp [hashes, shown], fun other => ?_⟩
      refine List.mem_singleton.trans (eq_comm.trans (and_iff_right absent).symm) |>.trans ?_
      rw [Defect.text, text]
    · exact Or.inr (Bool.eq_false_iff.mpr shown)
    · exact Or.inl (Bool.eq_false_iff.mpr hashes)
  · push Not at plain
    obtain ⟨name, rfl⟩ := plain
    have good : ¬ ((Json.str name).hashable = false ∨ (Json.str name).showable = false) := by
      rintro (bad | bad) <;> cases bad
    have absent : Absent members (.str name) ↔ members.lookup name = none := by
      constructor
      · exact fun absent => absent name rfl
      · rintro missing _ ⟨⟩
        exact missing
    refine ⟨good, fun text => ?_⟩
    rw [absent]
    split_ifs with missing
    · exact List.mem_singleton.trans (eq_comm.trans (and_iff_right missing).symm)
    · exact iff_of_false List.not_mem_nil fun both => missing both.1

theorem childErrors_eq (members properties : JsonObject) :
    childErrors members properties = collect (fun entry => match members.lookup entry.1 with
      | none => .ok []
      | some inner => List.map (fun error => s!"{entry.1}:{error}") <$>
          schemaErrors inner entry.2) properties := by
  induction properties with
  | nil => rfl
  | cons entry rest ih =>
    rw [childErrors, ih, collect]
    cases members.lookup entry.1 <;> rfl

/-- The value under one key. -/
theorem childErrors_lists (members : JsonObject) {properties : JsonObject}
    (children : ∀ entry ∈ properties, ∀ value, ListsDefects value entry.2) :
    Lists (∃ entry ∈ properties, ∃ inner, members.lookup entry.1 = some inner ∧
        Unreadable inner entry.2)
      (fun text => ∃ entry ∈ properties, ∃ inner, members.lookup entry.1 = some inner ∧
        ∃ path defect, DefectAt inner entry.2 path defect ∧ render (entry.1 :: path) defect = text)
      (childErrors members properties) := by
  rw [childErrors_eq]
  refine Lists.collect fun entry member => ?_
  cases held : members.lookup entry.1 with
  | none => exact .nil (by simp) (by simp)
  | some inner =>
    refine ((children entry member inner).map fun error => s!"{entry.1}:{error}").congr ?_ ?_
    · simp only [Option.some.injEq, exists_eq_left']
    · intro text
      simp only [Option.some.injEq, exists_eq_left']
      constructor
      · rintro ⟨_, ⟨path, defect, defective, rfl⟩, rfl⟩
        exact ⟨path, defect, defective, rfl⟩
      · rintro ⟨path, defect, defective, rfl⟩
        exact ⟨_, ⟨path, defect, defective, rfl⟩, rfl⟩

theorem propertiesErrors_cons (members rest : JsonObject) (name : String) (value : Json) :
    propertiesErrors members ((name, value) :: rest) =
      if name = "properties" then
        match value with
        | .obj properties => childErrors members properties
        | other => .error (.attributeError s!"'{other.typeName}' object has no attribute 'items'")
      else propertiesErrors members rest := by
  cases value <;> simp only [propertiesErrors]

theorem propertiesErrors_eq (members schema : JsonObject) :
    propertiesErrors members schema = match schema.lookup "properties" with
      | none => .ok []
      | some (.obj properties) => childErrors members properties
      | some other =>
        .error (.attributeError s!"'{other.typeName}' object has no attribute 'items'") := by
  induction schema with
  | nil => rw [propertiesErrors, List.lookup_nil]
  | cons entry rest ih =>
    obtain ⟨name, value⟩ := entry
    rw [propertiesErrors_cons, lookup_cons_ite, ih]
    by_cases same : name = "properties"
    · rw [if_pos same, if_pos same.symm]
      cases value <;> rfl
    · rw [if_neg same, if_neg (Ne.symm same)]

/-- The properties of a schema. -/
theorem propertiesErrors_lists (members : JsonObject) {schema : JsonObject}
    (children : ∀ properties, schema.lookup "properties" = some (.obj properties) →
      ∀ entry ∈ properties, ∀ value, ListsDefects value entry.2) :
    Lists ((∃ other, schema.lookup "properties" = some other ∧ ∀ fields, other ≠ .obj fields) ∨
        ∃ key child inner, Declares schema key child ∧ members.lookup key = some inner ∧
          Unreadable inner child)
      (fun text => ∃ key child inner path defect, Declares schema key child ∧
        members.lookup key = some inner ∧ DefectAt inner child path defect ∧
        render (key :: path) defect = text)
      (propertiesErrors members schema) := by
  rw [propertiesErrors_eq]
  unfold Declares
  cases named : schema.lookup "properties" with
  | none => exact .nil (by simp) (by simp)
  | some other =>
    cases other with
    | obj properties =>
      refine (childErrors_lists members (children properties named)).congr ?_ fun text => ?_
      · constructor
        · rintro ⟨⟨key, child⟩, member, inner, held, unreadable⟩
          exact Or.inr ⟨key, child, inner, ⟨properties, rfl, member⟩, held, unreadable⟩
        · rintro (⟨_, ⟨⟩, plain⟩ | ⟨key, child, inner, ⟨_, ⟨⟩, member⟩, held, unreadable⟩)
          · exact absurd rfl (plain properties)
          · exact ⟨(key, child), member, inner, held, unreadable⟩
      · constructor
        · rintro ⟨⟨key, child⟩, member, inner, held, path, defect, defective, rfl⟩
          exact ⟨key, child, inner, path, defect, ⟨properties, rfl, member⟩, held, defective, rfl⟩
        · rintro ⟨key, child, inner, path, defect, ⟨_, ⟨⟩, member⟩, held, defective, rfl⟩
          exact ⟨(key, child), member, inner, held, path, defect, defective, rfl⟩
    | _ =>
      refine Or.inl ⟨_, rfl, ?_⟩
      intro _ same
      cases same

/-- The members of an object that has the type. -/
theorem members_lists {members schema : JsonObject} (typed : ¬ Mistyped (.obj members) schema)
    (hashes : ∀ expected, schema.lookup "type" = some expected → expected.hashable = true)
    (children : ∀ properties, schema.lookup "properties" = some (.obj properties) →
      ∀ entry ∈ properties, ∀ value, ListsDefects value entry.2) :
    Lists (Unreadable (.obj members) (.obj schema))
      (fun text => ∃ path defect, DefectAt (.obj members) (.obj schema) path defect ∧
        render path defect = text)
      (do
        let required ← requiredKeys schema
        let missing ← collect (missingKey members) required
        let inside ← propertiesErrors members schema
        return missing ++ inside) := by
  cases listed : requiredKeys schema with
  | error error => exact Unreadable.required typed listed
  | ok keys =>
    have requires : ∀ key, Requires schema key ↔ key ∈ keys := by
      intro key
      rw [Requires, listed]
      constructor
      · rintro ⟨_, ⟨⟩, member⟩
        exact member
      · exact fun member => ⟨keys, rfl, member⟩
    refine ((Lists.collect fun key (_ : key ∈ keys) => missingKey_lists members key).append
      (propertiesErrors_lists members children)).congr ?_ fun text => ?_
    · constructor
      · rintro (⟨key, member, bad⟩ | ⟨other, named, plain⟩ |
          ⟨key, child, inner, declared, held, unreadable⟩)
        · exact .key typed ((requires key).mpr member) bad
        · exact .properties typed named plain
        · exact .inside typed declared held unreadable
      · intro unreadable
        cases unreadable with
        | schema other => exact absurd rfl (other schema)
        | kind named unhashable =>
          rw [hashes _ named] at unhashable
          cases unhashable
        | required _ fails =>
          rw [listed] at fails
          cases fails
        | key _ required bad => exact Or.inl ⟨_, (requires _).mp required, bad⟩
        | properties _ named plain => exact Or.inr (Or.inl ⟨_, named, plain⟩)
        | inside _ declared held unreadable =>
          exact Or.inr (Or.inr ⟨_, _, _, declared, held, unreadable⟩)
    · constructor
      · rintro (⟨key, member, absent, rfl⟩ |
          ⟨key, child, inner, path, defect, declared, held, defective, rfl⟩)
        · exact ⟨[], .missing key, .missing typed ((requires key).mpr member) absent, rfl⟩
        · exact ⟨key :: path, defect, .inside typed declared held defective, rfl⟩
      · rintro ⟨path, defect, defective, rfl⟩
        cases defective with
        | mistyped asked => exact absurd asked typed
        | missing _ required absent => exact Or.inl ⟨_, (requires _).mp required, absent, rfl⟩
        | inside _ declared held defective =>
          exact Or.inr ⟨_, _, _, _, _, declared, held, defective, rfl⟩

theorem schemaErrors_obj (value : Json) (schema : JsonObject) :
    schemaErrors value (.obj schema) = do
      if ← mistyped value schema then return ["TYPE_MISMATCH"]
      match value with
      | .obj members => do
        let required ← requiredKeys schema
        let missing ← collect (missingKey members) required
        let inside ← propertiesErrors members schema
        return missing ++ inside
      | _ => return [] := by
  cases value <;> simp only [schemaErrors]

/-- **What is listed are the defects of the value, with the paths to them.** -/
theorem schemaErrors_spec (value schema : Json) : ListsDefects value schema := by
  induction schema using schemaInduct generalizing value with
  | step schema ih =>
    unfold ListsDefects
    cases schema with
    | obj schema =>
      rw [schemaErrors_obj]
      obtain ⟨error, expected, failed, named, unhashable⟩ | ⟨tested, asked⟩ |
        ⟨tested, typed, hashes⟩ := mistyped_cases value schema
      · rw [failed]
        exact Unreadable.kind named unhashable
      · rw [tested]
        refine ⟨?_, fun text => ?_⟩
        · intro unreadable
          cases unreadable with
          | schema other => exact other schema rfl
          | kind named unhashable =>
            obtain ⟨kind, found, -⟩ := asked
            rw [named, Option.some.injEq] at found
            rw [found] at unhashable
            cases unhashable
          | required typed => exact typed asked
          | key typed => exact typed asked
          | properties typed => exact typed asked
          | inside typed => exact typed asked
        · rw [List.mem_singleton]
          constructor
          · rintro rfl
            exact ⟨[], .mistyped, .mistyped asked, rfl⟩
          · rintro ⟨path, defect, defective, rfl⟩
            cases defective with
            | mistyped _ => rfl
            | missing typed => exact absurd asked typed
            | inside typed => exact absurd asked typed
      · rw [tested]
        cases value with
        | obj members => exact members_lists typed hashes ih
        | _ =>
          refine .nil ?_ ?_
          · intro unreadable
            cases unreadable with
            | schema other => exact other schema rfl
            | kind named unhashable =>
              rw [hashes _ named] at unhashable
              cases unhashable
          · rintro text ⟨path, defect, defective, rfl⟩
            cases defective with
            | mistyped asked => exact typed asked
    | _ =>
      refine Unreadable.schema ?_
      intro _ same
      cases same

/-- The value conforms just where it has no defect, as far as the schema can be read. -/
theorem conforms_iff {value schema : Json} (readable : ¬ Unreadable value schema) :
    Conforms value schema ↔ ∀ path defect, ¬ DefectAt value schema path defect := by
  induction schema using schemaInduct generalizing value with
  | step schema ih =>
    constructor
    · intro conforms path defect defective
      cases conforms with
      | scalar plain typed =>
        cases defective with
        | mistyped asked => exact typed asked
        | missing => exact plain _ rfl
        | inside => exact plain _ rfl
      | @object members schema typed complete inside =>
        cases defective with
        | mistyped asked => exact typed asked
        | missing _ required absent => exact complete _ required absent
        | inside _ declared held defective =>
          obtain ⟨properties, named, member⟩ := declared
          have declared : Declares schema _ _ := ⟨properties, named, member⟩
          refine (ih properties named _ member ?_).mp (inside _ _ _ declared held) _ _ defective
          exact fun unreadable => readable (.inside typed declared held unreadable)
    · intro clean
      cases schema with
      | obj schema =>
        have typed : ¬ Mistyped value schema := fun asked => clean _ _ (.mistyped asked)
        cases value with
        | obj members =>
          refine .object typed (fun key required absent => ?_) ?_
          · exact clean _ _ (.missing typed required absent)
          rintro key child inner ⟨properties, named, member⟩ held
          have declared : Declares schema key child := ⟨properties, named, member⟩
          refine (ih properties named _ member ?_).mpr fun path defect defective =>
            clean _ _ (.inside typed declared held defective)
          exact fun unreadable => readable (.inside typed declared held unreadable)
        | _ =>
          refine .scalar ?_ typed
          intro _ same
          cases same
      | _ =>
        refine absurd (Unreadable.schema ?_) readable
        intro _ same
        cases same

/-! ### Values and their texts -/

theorem typeName_sortKeys (value : Json) : value.sortKeys.typeName = value.typeName := by
  cases value <;> rfl

/-- Key order changes nothing that the tests of the type read. -/
theorem mistyped_sortKeys (value : Json) (schema : JsonObject) :
    mistyped value.sortKeys schema = mistyped value schema := by
  have same : hasKind value.sortKeys = hasKind value := by
    funext kind
    simp only [hasKind, typeName_sortKeys]
  rw [mistyped, mistyped, same]

theorem childErrors_sortKeys {members others properties : JsonObject}
    (same : ∀ key, others.lookup key = (members.lookup key).map Json.sortKeys)
    (children : ∀ entry ∈ properties, ∀ value,
      schemaErrors value.sortKeys entry.2 = schemaErrors value entry.2) :
    childErrors others properties = childErrors members properties := by
  induction properties with
  | nil => rfl
  | cons entry rest ih =>
    obtain ⟨here, later⟩ := List.forall_mem_cons.mp children
    obtain ⟨key, child⟩ := entry
    rw [childErrors, childErrors, same]
    rw [ih later]
    cases members.lookup key with
    | none => rfl
    | some inner =>
      simp only [Option.map_some]
      rw [here inner]

/-- **What is listed does not depend on the order of the keys.** -/
theorem schemaErrors_sortKeys (value schema : Json) :
    schemaErrors value.sortKeys schema = schemaErrors value schema := by
  induction schema using schemaInduct generalizing value with
  | step schema ih =>
    cases schema with
    | obj schema =>
      rw [schemaErrors_obj, schemaErrors_obj, mistyped_sortKeys]
      cases value with
      | obj members =>
        rw [Json.sortKeys_obj]
        have same : ∀ key,
            (sortBy Prod.fst (members.map (Json.mapEntry Json.sortKeys))).lookup key =
              (members.lookup key).map Json.sortKeys := by
          intro key
          rw [Json.lookup_sortBy_fst, Json.lookup_map_mapEntry]
        have inside : propertiesErrors (sortBy Prod.fst (members.map (Json.mapEntry Json.sortKeys)))
            schema = propertiesErrors members schema := by
          rw [propertiesErrors_eq, propertiesErrors_eq]
          cases named : schema.lookup "properties" with
          | none => rfl
          | some other =>
            cases other with
            | obj properties => exact childErrors_sortKeys same (ih properties named)
            | _ => rfl
        have missing : missingKey (sortBy Prod.fst (members.map (Json.mapEntry Json.sortKeys))) =
            missingKey members := by
          funext key
          cases key with
          | str name => simp only [missingKey, same, Option.map_eq_none_iff]
          | _ => rfl
        simp only [inside, missing]
      | _ => rfl
    | _ => cases value <;> rfl

/-- The claim holds the value, or the text that `json.dumps` writes for it. -/
inductive Holds : Json → Json → Prop where
  | value {value : Json} (plain : ∀ text, value ≠ .str text) : Holds value value
  | text {value : Json} (wellFormed : value.wellFormed = true) :
      Holds (.str (Json.dumps value)) value

theorem subject_of_holds {given value schema : Json} (holds : Holds given value) :
    ∃ read, subject given = some read ∧ schemaErrors read schema = schemaErrors value schema := by
  cases holds with
  | value plain =>
    refine ⟨given, ?_, rfl⟩
    cases given with
    | str text => exact absurd rfl (plain text)
    | _ => rfl
  | text wellFormed =>
    exact ⟨value.sortKeys, Json.loads_dumps value wellFormed, schemaErrors_sortKeys value schema⟩

theorem schemaCheck_of_holds {claim : VerifierClaim} {value : Json} (schema : Json)
    (holds : Holds claim.value value) :
    schemaCheck schema claim = schemaOutcome <$> schemaErrors value schema := by
  obtain ⟨read, subject, same⟩ := subject_of_holds holds
  rw [schemaCheck, subject, ← same]

/-! ### Verifiers with a check -/

/-- A result is always made: claim and verifier have names. -/
theorem resultOf_ok (descriptor : VerifierDescriptor) (claim : VerifierClaim)
    (status : VerificationStatus) (reasons : List String) :
    ∃ result, resultOf descriptor claim status reasons = .ok result ∧
      Answers descriptor claim result ∧ result.status = status ∧ result.checks = reasons := by
  have claimValid := claim.valid
  rw [VerifierClaimData.violation, check_eq_none] at claimValid
  have declared := descriptor.valid
  rw [VerifierDescriptorData.violation, check_eq_none] at declared
  have named := not_or.mp claimValid.1
  have located := not_or.mp named.2
  have valid : (resultData descriptor claim status reasons).violation = none := by
    refine if_neg ?_
    rintro (empty | empty | empty | empty | empty)
    · have blank : claim.claimId ++ ":" ++ descriptor.verifierId = "" := empty
      have chars := congrArg String.toList blank
      simp at chars
    · exact declared.1 (Or.inl empty)
    · exact named.1 empty
    · exact located.1 empty
    · exact located.2 (Or.inl empty)
  refine ⟨_, construct_of_valid valid, ?_, rfl, rfl⟩
  exact ⟨rfl, rfl, rfl, rfl, rfl, rfl, rfl, rfl⟩

/-- What the result of a verifier says. -/
def reported (verifier : FunctionalVerifier) (claim : VerifierClaim) :
    VerificationStatus × List String :=
  if ¬ verifier.descriptor.Supports claim then (.inapplicable, ["INAPPLICABLE"])
  else
    match verifier.check claim with
    | .error _ => (.error, ["VERIFIER_ERROR"])
    | .ok outcome => (outcome.status, outcome.reasons)

/-- **A functional verifier always answers.** -/
theorem verify_ok (verifier : FunctionalVerifier) (claim : VerifierClaim) :
    ∃ result, verifier.verify claim = .ok result ∧ Answers verifier.descriptor claim result ∧
      (result.status, result.checks) = reported verifier claim := by
  have same : verifier.verify claim = resultOf verifier.descriptor claim
      (reported verifier claim).1 (reported verifier claim).2 := by
    rw [FunctionalVerifier.verify, reported]
    by_cases supports : verifier.descriptor.Supports claim
    · rw [if_neg (not_not.mpr supports), if_neg (not_not.mpr supports)]
      cases verifier.check claim <;> rfl
    · rw [if_pos supports, if_pos supports]
  obtain ⟨result, made, answers, status, checks⟩ := resultOf_ok verifier.descriptor claim
    (reported verifier claim).1 (reported verifier claim).2
  exact ⟨result, same.trans made, answers, Prod.ext status checks⟩

/-- **What a schema check says of a value.** -/
inductive SchemaVerdict (value schema : Json) : VerificationStatus × List String → Prop
  | passes (readable : ¬ Unreadable value schema) (conforms : Conforms value schema) :
      SchemaVerdict value schema (.pass, ["SCHEMA_VALID"])
  | raises (unreadable : Unreadable value schema) :
      SchemaVerdict value schema (.error, ["VERIFIER_ERROR"])
  | fails {defects : List String} (readable : ¬ Unreadable value schema)
      (differs : ¬ Conforms value schema) (exactly : ∀ text, text ∈ defects ↔
        ∃ path defect, DefectAt value schema path defect ∧ render path defect = text) :
      SchemaVerdict value schema (.fail, defects)

/-- **A verifier with a schema check decides whether the value conforms**, and names its defects. -/
theorem schema_verifies (descriptor : VerifierDescriptor) (claim : VerifierClaim)
    (supports : descriptor.Supports claim) (value schema : Json) (holds : Holds claim.value value) :
    ∃ result, FunctionalVerifier.verify ⟨descriptor, schemaCheck schema⟩ claim = .ok result ∧
      Answers descriptor claim result ∧
      SchemaVerdict value schema (result.status, result.checks) := by
  obtain ⟨result, made, answers, outcome⟩ := verify_ok ⟨descriptor, schemaCheck schema⟩ claim
  refine ⟨result, made, answers, ?_⟩
  rw [outcome, reported, if_neg (not_not.mpr supports)]
  dsimp only
  rw [schemaCheck_of_holds schema holds]
  have lists : Lists _ _ _ := schemaErrors_spec value schema
  cases listed : schemaErrors value schema with
  | error error =>
    rw [listed] at lists
    exact .raises lists
  | ok errors =>
    rw [listed] at lists
    obtain ⟨readable, exactly⟩ := lists
    have conforms : errors = [] ↔ Conforms value schema := by
      rw [conforms_iff readable, List.eq_nil_iff_forall_not_mem]
      constructor
      · intro none path defect defective
        exact none _ ((exactly _).mpr ⟨path, defect, defective, rfl⟩)
      · intro none text member
        obtain ⟨path, defect, defective, -⟩ := (exactly text).mp member
        exact none path defect defective
    cases errors with
    | nil => exact .passes readable (conforms.mp rfl)
    | cons first rest =>
      exact .fails readable (fun same => List.cons_ne_nil _ _ (conforms.mpr same)) exactly

/-- A verifier of answers. -/
def answerDescriptor : VerifierDescriptor where
  verifierId := "schema"
  version := "1"
  scopes := {"answer"}
  valid := by decide +kernel

/-- A claim that holds the text of an answer. -/
def answerClaim : VerifierClaim where
  claimId := "claim"
  targetId := "target"
  scope := "answer"
  value := .str (Json.dumps (.obj [("unit", .str "m"), ("answer", .int 4)]))
  valid := by decide +kernel

theorem schema_verifies_answer :
    answerDescriptor.Supports answerClaim ∧
    Holds answerClaim.value (.obj [("unit", .str "m"), ("answer", .int 4)]) ∧
    ∃ result, FunctionalVerifier.verify ⟨answerDescriptor,
        schemaCheck (.obj [("required", .arr [.str "answer"])])⟩ answerClaim = .ok result ∧
      Answers answerDescriptor answerClaim result ∧
      SchemaVerdict (.obj [("unit", .str "m"), ("answer", .int 4)])
        (.obj [("required", .arr [.str "answer"])]) (result.status, result.checks) :=
  ⟨by decide +kernel, .text (by decide +kernel),
    schema_verifies answerDescriptor answerClaim (by decide +kernel) _ _
      (.text (by decide +kernel))⟩

end Dnc.Assurance
