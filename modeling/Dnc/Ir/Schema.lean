/-
**The check of a serialized graph.**

`dnc.ir.schema.validate_ir_document`: the envelope of a document in any supported version, with the
source's error for each failing field. How much of a unit and of an edge is checked depends on the
version: a legacy or 1.1.0 document is checked for the identity fields only, 1.2.0 adds ports and
port bindings, and 1.3.0 adds the governance contracts.
-/

import Dnc.Ir.Contracts
import Dnc.Kernel.Versioning

namespace Dnc

open PyLib

namespace Schema

/-- `raise DNCValidationError(message)`. -/
def invalid {α : Type} (message : String) : Except PyError α := .error (.dncValidationError message)

/-- `isinstance(value, Mapping)`, `isinstance(value, list)` and so on. -/
def isObject : Json → Bool
  | .obj _ => true
  | _ => false

def isArray : Json → Bool
  | .arr _ => true
  | _ => false

def isString : Json → Bool
  | .str _ => true
  | _ => false

def isBoolean : Json → Bool
  | .bool _ => true
  | _ => false

/-- The strings of a list, where the element is no string nothing. -/
def stringsOf (items : List Json) : List String := items.filterMap Json.text?

theorem stringsOf_map_str (texts : List String) : stringsOf (texts.map .str) = texts := by
  unfold stringsOf
  rw [List.filterMap_map]
  exact List.filterMap_some

/-- A list without anything else is one of strings. -/
theorem eq_map_str {items : List Json} (typed : ¬ (items.any fun item => !isString item) = true) :
    items = (stringsOf items).map .str := by
  induction items with
  | nil => rfl
  | cons item rest ih =>
    rw [List.any_cons, Bool.or_eq_true, not_or] at typed
    obtain ⟨here, later⟩ := typed
    cases item with
    | str text => exact congrArg (List.cons (.str text)) (ih later)
    | _ => exact absurd rfl here

theorem any_map_str (texts : List String) :
    ¬ ((texts.map Json.str).any fun item => !isString item) = true := by
  rw [List.any_map, List.any_eq_true]
  rintro ⟨text, -, other⟩
  exact Bool.noConfusion other

/-- `_require_type`, returning the value it has checked. -/
def requireType (container : JsonObject) (field : String) (expected : Json → Bool)
    (expectedName path : String) : Except PyError Json :=
  match container.lookup field with
  | none => invalid s!"{path}.{field} is required"
  | some value =>
    if expected value then .ok value else invalid s!"{path}.{field} MUST be a {expectedName}"

/-- `_validate_optional_type`. -/
def validateOptionalType (container : JsonObject) (field : String) (expected : Json → Bool)
    (expectedName : String) : Except PyError Unit :=
  match container.lookup field with
  | none => .ok ()
  | some value =>
    if expected value then .ok () else invalid s!"document.{field} MUST be a {expectedName}"

/-- `_require_enum`, given the values of the enumeration. -/
def requireEnum (container : JsonObject) (field : String) (values : List String) (path : String) :
    Except PyError Unit := do
  let value ← requireType container field isString "string" path
  if value ∈ values.map Json.str then return () else invalid s!"{path}.{field} is unsupported"

/-- `_require_nullable_string`. -/
def requireNullableString (container : JsonObject) (field path : String) : Except PyError Unit :=
  match container.lookup field with
  | none => invalid s!"{path}.{field} is required"
  | some .null => .ok ()
  | some (.str text) =>
    if isBlank text then invalid s!"{path}.{field} MUST be non-empty when provided" else .ok ()
  | some _ => invalid s!"{path}.{field} MUST be a string or null"

/-- `_require_string_array`, returning the strings it has checked. -/
def requireStringArray (container : JsonObject) (field path : String) :
    Except PyError (List String) := do
  match ← requireType container field isArray "array" path with
  | .arr items =>
    if items.any fun item => (item.text?.all isBlank) then
      invalid s!"{path}.{field} MUST contain non-empty strings"
    else if (stringsOf items).Nodup then return stringsOf items
    else invalid s!"{path}.{field} MUST contain unique strings"
  | _ => return []

/-- The values of an enumeration. -/
def valuesOf (α : Type) [PyEnum α] : List String := (PyEnum.members (α := α)).map PyEnum.value

/-! ### Units -/

/-- The entries of an object, none otherwise. -/
def entriesOf : Json → JsonObject
  | .obj fields => fields
  | _ => []

/-- The elements of a list, none otherwise. -/
def itemsOf : Json → List Json
  | .arr items => items
  | _ => []

/-- The checks of one port. -/
def validatePort (path : String) (port : Json) : Except PyError Unit := do
  if isObject port = false then
    invalid s!"{path} MUST be an object"
  let fields := entriesOf port
  ["port_id", "direction", "kind", "cardinality", "description"].forM fun field =>
    (requireType fields field isString "string" path).map fun _ => ()
  let _ ← requireType fields "schema" isObject "object" path
  requireEnum fields "direction" (valuesOf PortDirection) path
  requireEnum fields "kind" (valuesOf PortKind) path
  requireEnum fields "cardinality" (valuesOf PortCardinality) path

/-- `_validate_governance_contract`. -/
def validateGovernanceContract (contract : JsonObject) (path : String) : Except PyError Unit := do
  ["idempotency", "side_effects", "placement", "security"].forM fun field =>
    (requireType contract field isObject "object" path).map fun _ => ()
  let section? (field : String) : JsonObject := entriesOf ((contract.lookup field).getD .null)
  let idempotency := section? "idempotency"
  requireEnum idempotency "mode" (valuesOf IdempotencyMode) s!"{path}.idempotency"
  requireEnum idempotency "scope" (valuesOf IdempotencyScope) s!"{path}.idempotency"
  requireNullableString idempotency "key_field" s!"{path}.idempotency"
  let _ ← requireType idempotency "payload_hash_required" isBoolean "boolean"
    s!"{path}.idempotency"
  let effects := section? "side_effects"
  requireEnum effects "classification" (valuesOf SideEffectClass) s!"{path}.side_effects"
  let effectTypes ← requireStringArray effects "effect_types" s!"{path}.side_effects"
  if effectTypes.any fun value => value ∉ valuesOf EffectType then
    invalid s!"{path}.side_effects.effect_types contains an unsupported value"
  requireNullableString effects "compensation_action" s!"{path}.side_effects"
  requireEnum effects "minimum_isolation" (valuesOf IsolationGrade) s!"{path}.side_effects"
  let placement := section? "placement"
  ["allowed_regions", "allowed_devices", "allowed_runtimes", "required_capabilities",
      "preferred_regions", "preferred_devices"].forM fun field =>
    (requireStringArray placement field s!"{path}.placement").map fun _ => ()
  let _ ← requireType placement "requires_local_inputs" isBoolean "boolean" s!"{path}.placement"
  let security := section? "security"
  requireNullableString security "tenant_id" s!"{path}.security"
  ["required_permissions", "security_labels", "allowed_residencies",
      "accepted_trust_zones"].forM fun field =>
    (requireStringArray security field s!"{path}.security").map fun _ => ()
  requireEnum security "output_classification" (valuesOf DataClassification) s!"{path}.security"
  requireEnum security "maximum_input_classification" (valuesOf DataClassification)
    s!"{path}.security"
  let _ ← requireType security "trust_zone" isString "string" s!"{path}.security"
  let _ ← requireType security "confidential_compute_required" isBoolean "boolean"
    s!"{path}.security"

/-- The contract checks of a unit at 1.2.0 and 1.3.0. -/
def validateContract (version : SchemaVersion) (unit : JsonObject) (unitKey : String) :
    Except PyError Unit := do
  let contract := entriesOf (← requireType unit "contract" isObject "object" s!"units.{unitKey}")
  let ports ← requireType contract "ports" isArray "array" s!"units.{unitKey}.contract"
  (itemsOf ports).zipIdx.forM fun (port, index) =>
    validatePort s!"units.{unitKey}.contract.ports.{index}" port
  if toString version = "1.3.0" then
    validateGovernanceContract contract s!"units.{unitKey}.contract"

/-- The versions whose ports and port bindings are checked. -/
def checksPorts (version : SchemaVersion) : Bool :=
  toString version == "1.2.0" || toString version == "1.3.0"

/-- The checks of one entry of `units`. -/
def validateUnit (version : Option SchemaVersion) (entry : String × Json) :
    Except PyError Unit := do
  let (unitKey, unit) := entry
  if isObject unit = false then
    invalid "units MUST map string IDs to unit objects"
  let fields := entriesOf unit
  let unitId ← requireType fields "unit_id" isString "string" s!"units.{unitKey}"
  if unitId ≠ .str unitKey then
    invalid s!"units.{unitKey}.unit_id MUST match its containing key"
  ["name", "structure", "visibility", "lifecycle"].forM fun field =>
    (requireType fields field isString "string" s!"units.{unitKey}").map fun _ => ()
  match version with
  | some version => if checksPorts version then validateContract version fields unitKey
  | none => return ()

/-! ### Edges -/

/-- The check of one port binding. -/
def validateBinding (edge : JsonObject) (field path : String) : Except PyError Unit :=
  match edge.lookup field with
  | none => invalid s!"{path}.{field} is required"
  | some .null => .ok ()
  | some (.str _) => .ok ()
  | some _ => invalid s!"{path}.{field} MUST be a string or null"

/-- The checks of one element of `edges`. -/
def validateEdge (version : Option SchemaVersion) (path : String) (edge : Json) :
    Except PyError Unit := do
  if isObject edge = false then
    invalid s!"{path} MUST be an object"
  let fields := entriesOf edge
  ["source", "target", "edge_type"].forM fun field =>
    (requireType fields field isString "string" path).map fun _ => ()
  if version.any checksPorts then
    ["source_port", "target_port"].forM fun field => validateBinding fields field path

/-! ### Documents -/

/-- The check of one field of `version`. -/
def validateVersionField (version : JsonObject) (field : String) : Except PyError Unit :=
  match version.lookup field with
  | some (.int value) =>
    if value < 0 then invalid s!"version.{field} MUST be a non-negative integer" else .ok ()
  | _ => invalid s!"version.{field} MUST be a non-negative integer"

/-- The type checks of the four parts of a document. -/
def validateParts (versioned : Bool) (document : JsonObject) : Except PyError Unit :=
  let parts : List (String × (Json → Bool) × String) := [
    ("version", isObject, "object"), ("units", isObject, "object"), ("edges", isArray, "array"),
    ("metadata", isObject, "object")]
  parts.forM fun (field, expected, expectedName) =>
    if versioned then
      (requireType document field expected expectedName "document").map fun _ => ()
    else validateOptionalType document field expected expectedName

/-- The fields of a document that is an object. -/
def validateFields (document : JsonObject) : Except PyError Unit := do
  let version ← validateSchemaHeader document
  let graphId ← requireType document "graph_id" isString "string" "document"
  if graphId = .str "" then
    invalid "graph_id MUST be non-empty"
  validateParts version.isSome document
  match document.lookup "version" with
  | none => pure ()
  | some parts =>
    ["major", "minor", "patch", "sequence"].forM (validateVersionField (entriesOf parts))
  (entriesOf ((document.lookup "units").getD (.obj []))).forM (validateUnit version)
  (itemsOf ((document.lookup "edges").getD (.arr []))).zipIdx.forM fun (edge, index) =>
    validateEdge version s!"edges.{index}" edge

end Schema

/-- `validate_ir_document`. -/
def validateIrDocument (document : Json) : Except PyError Unit :=
  match document with
  | .obj fields => Schema.validateFields fields
  | _ => .error (.dncValidationError "DNC-IR document MUST be an object")

end Dnc
