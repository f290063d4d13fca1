/-
**Typed port and governance contracts.**

`dnc.ir.contracts`. Each contract class checks its fields when it is built (`__post_init__`). Here a
contract is its data together with the fact that the check finds nothing (`valid`), so that an
invalid contract cannot be built. `violation` is the check on values of the declared types, with the
source's error for each failing case; `build` is the constructor call on decoded JSON values, which
adds the type checks of `__post_init__`.

A field that the source keeps as a `frozenset` is a finite set here, and a tuple is a list.
-/

import Dnc.Kernel.Contracts
import Dnc.Logic.Sequence
import Dnc.PyLib.Text
import Mathlib.Data.Finset.Lattice.Basic

namespace Dnc

open PyLib Logic

/-! ### Shared checks -/

/-- `any(not isinstance(value, str) or not value.strip() for value in values)` as a check on the
field `name`; the strings when it passes. -/
def requireTexts (name : String) (values : List Json) : Except PyError (List String) :=
  values.mapM fun value =>
    match value with
    | .str text =>
      if isBlank text then .error (.valueError s!"{name} MUST contain non-empty strings")
      else .ok text
    | _ => .error (.valueError s!"{name} MUST contain non-empty strings")

/-- `isinstance(value, bool)` as a check with the given message. -/
def requireBool (message : String) : Json → Except PyError Bool
  | .bool value => .ok value
  | _ => .error (.typeError message)

/-- An optional string as a JSON value. -/
def optionalText : Option String → Json
  | none => .null
  | some text => .str text

/-- `value is not None and (not isinstance(value, str) or not value.strip())` as a check. -/
def requireOptionalText (message : String) : Json → Except PyError (Option String)
  | .null => .ok none
  | .str text => if isBlank text then .error (.valueError message) else .ok (some text)
  | _ => .error (.valueError message)

theorem requireTexts_map_str {texts : List String} (name : String)
    (nonBlank : ∀ text ∈ texts, isBlank text = false) :
    requireTexts name (texts.map Json.str) = .ok texts := by
  unfold requireTexts
  induction texts with
  | nil => rfl
  | cons text rest ih =>
    have here := nonBlank text List.mem_cons_self
    have later := ih fun other member => nonBlank other (List.mem_cons_of_mem _ member)
    rw [List.map_cons, List.mapM_cons, later]
    simp [here]
    rfl

theorem requireOptionalText_optionalText {text? : Option String} (message : String)
    (nonBlank : ∀ text, text? = some text → isBlank text = false) :
    requireOptionalText message (optionalText text?) = .ok text? := by
  cases text? with
  | none => rfl
  | some text => simp [optionalText, requireOptionalText, nonBlank text rfl]

/-! ### Ports -/

inductive PortDirection where
  | input | output
deriving DecidableEq, Repr

instance : PyEnum PortDirection where
  name := "PortDirection"
  members := [.input, .output]
  value
    | .input => "INPUT"
    | .output => "OUTPUT"

inductive PortKind where
  | data | control | state | resource
deriving DecidableEq, Repr

instance : PyEnum PortKind where
  name := "PortKind"
  members := [.data, .control, .state, .resource]
  value
    | .data => "DATA"
    | .control => "CONTROL"
    | .state => "STATE"
    | .resource => "RESOURCE"

inductive PortCardinality where
  | exactlyOne | zeroOrOne | oneOrMore | zeroOrMore
deriving DecidableEq, Repr

instance : PyEnum PortCardinality where
  name := "PortCardinality"
  members := [.exactlyOne, .zeroOrOne, .oneOrMore, .zeroOrMore]
  value
    | .exactlyOne => "EXACTLY_ONE"
    | .zeroOrOne => "ZERO_OR_ONE"
    | .oneOrMore => "ONE_OR_MORE"
    | .zeroOrMore => "ZERO_OR_MORE"

/-- `PortCardinality.minimum`. -/
def PortCardinality.minimum : PortCardinality → Nat
  | .exactlyOne => 1
  | .oneOrMore => 1
  | _ => 0

/-- `PortCardinality.maximum`. -/
def PortCardinality.maximum : PortCardinality → Option Nat
  | .exactlyOne => some 1
  | .zeroOrOne => some 1
  | _ => none

structure PortData where
  portId : String
  direction : PortDirection
  kind : PortKind
  schema : JsonObject := []
  cardinality : PortCardinality := .exactlyOne
  description : String := ""
deriving DecidableEq

/-- `PortContract.__post_init__` on values of the declared types. -/
def PortData.violation (data : PortData) : Option PyError :=
  if isNormalized data.portId = false then
    some (.valueError "port_id MUST be non-empty and whitespace-normalized")
  else if data.kind ≠ .control ∧ data.schema = [] then
    some (.valueError s!"{PyEnum.value data.kind} ports MUST declare a non-empty schema")
  else none

structure PortContract extends PortData where
  valid : toPortData.violation = none
deriving DecidableEq

def PortContract.ofData : PortData → Except PyError PortContract :=
  construct PortData.violation PortContract.mk

/-- `PortContract(port_id=…, direction=…, kind=…, schema=…, cardinality=…, description=…)`. -/
def PortContract.build (portId : Json) (direction : PortDirection) (kind : PortKind)
    (schema : Json) (cardinality : PortCardinality) (description : Json) :
    Except PyError PortContract :=
  match schema with
  | .obj fields =>
    match portId with
    | .str portId =>
      if isNormalized portId then
        match description with
        | .str description =>
          PortContract.ofData ⟨portId, direction, kind, fields, cardinality, description⟩
        | _ => .error (.typeError "port description MUST be a string")
      else .error (.valueError "port_id MUST be non-empty and whitespace-normalized")
    | _ => .error (.valueError "port_id MUST be non-empty and whitespace-normalized")
  | _ => .error (.typeError "port schema MUST be an object")

theorem PortContract.normalized (port : PortContract) : isNormalized port.portId = true := by
  have valid := port.valid
  unfold PortData.violation at valid
  split_ifs at valid with blank
  exact Bool.not_eq_false _ ▸ blank

/-! ### Idempotency -/

inductive IdempotencyMode where
  | none | idempotent | keyRequired | atMostOnce
deriving DecidableEq, Repr

instance : PyEnum IdempotencyMode where
  name := "IdempotencyMode"
  members := [.none, .idempotent, .keyRequired, .atMostOnce]
  value
    | .none => "NONE"
    | .idempotent => "IDEMPOTENT"
    | .keyRequired => "KEY_REQUIRED"
    | .atMostOnce => "AT_MOST_ONCE"

inductive IdempotencyScope where
  | request | task | tenant
deriving DecidableEq, Repr

instance : PyEnum IdempotencyScope where
  name := "IdempotencyScope"
  members := [.request, .task, .tenant]
  value
    | .request => "REQUEST"
    | .task => "TASK"
    | .tenant => "TENANT"

structure IdempotencyData where
  mode : IdempotencyMode := .none
  scope : IdempotencyScope := .task
  keyField : Option String := none
  payloadHashRequired : Bool := true
deriving DecidableEq

/-- `IdempotencyContract.__post_init__` on values of the declared types. -/
def IdempotencyData.violation (data : IdempotencyData) : Option PyError :=
  if data.mode = .keyRequired ∧ (data.keyField = none ∨ data.keyField = some "") then
    some (.valueError "KEY_REQUIRED idempotency MUST declare key_field")
  else if data.mode = .none ∧ data.keyField ≠ none then
    some (.valueError "NONE idempotency cannot declare key_field")
  else if data.keyField.any isBlank then
    some (.valueError "idempotency key_field MUST be non-empty when provided")
  else none

theorem IdempotencyData.default_valid : ({} : IdempotencyData).violation = none := by decide

structure IdempotencyContract extends IdempotencyData where
  valid : toIdempotencyData.violation = none := by decide
deriving DecidableEq

def IdempotencyContract.ofData : IdempotencyData → Except PyError IdempotencyContract :=
  construct IdempotencyData.violation fun data valid => ⟨data, valid⟩

/-- `IdempotencyContract(mode=…, scope=…, key_field=…, payload_hash_required=…)`. -/
def IdempotencyContract.build (mode : IdempotencyMode) (scope : IdempotencyScope)
    (keyField payloadHashRequired : Json) : Except PyError IdempotencyContract := do
  if mode = .keyRequired ∧ keyField.truthy = false then
    throw (.valueError "KEY_REQUIRED idempotency MUST declare key_field")
  if mode = .none ∧ keyField ≠ .null then
    throw (.valueError "NONE idempotency cannot declare key_field")
  let keyField ← requireOptionalText "idempotency key_field MUST be non-empty when provided" keyField
  let payloadHashRequired ← requireBool "payload_hash_required MUST be boolean" payloadHashRequired
  IdempotencyContract.ofData ⟨mode, scope, keyField, payloadHashRequired⟩

@[simp] theorem IdempotencyContract.ofData_toIdempotencyData (contract : IdempotencyContract) :
    IdempotencyContract.ofData contract.toIdempotencyData = .ok contract :=
  construct_of_valid contract.valid

theorem IdempotencyContract.keyField_nonBlank (contract : IdempotencyContract) (text : String)
    (given : contract.keyField = some text) : isBlank text = false := by
  have valid := contract.valid
  unfold IdempotencyData.violation at valid
  simp only [check_eq_none] at valid
  obtain ⟨keyless, unexpected, blank, -⟩ := valid
  rw [given] at blank
  exact Bool.eq_false_of_not_eq_true blank

/-- Built from its own values, a contract is itself. -/
theorem IdempotencyContract.build_self (contract : IdempotencyContract) :
    IdempotencyContract.build contract.mode contract.scope (optionalText contract.keyField)
      (.bool contract.payloadHashRequired) = .ok contract := by
  have valid := contract.valid
  unfold IdempotencyData.violation at valid
  simp only [check_eq_none] at valid
  obtain ⟨keyless, unexpected, blank, -⟩ := valid
  have required : ¬ (contract.mode = .keyRequired ∧
      (optionalText contract.keyField).truthy = false) := by
    rintro ⟨mode, falsy⟩
    refine keyless ⟨mode, ?_⟩
    cases key : contract.keyField with
    | none => exact Or.inl rfl
    | some text =>
      rw [key] at falsy
      exact Or.inr (congrArg some (by simpa [optionalText, Json.truthy] using falsy))
  have absent : ¬ (contract.mode = .none ∧ optionalText contract.keyField ≠ .null) := by
    rintro ⟨mode, present⟩
    refine unexpected ⟨mode, fun none => present ?_⟩
    rw [none]
    rfl
  unfold IdempotencyContract.build
  rw [if_neg required, if_neg absent,
    requireOptionalText_optionalText _ contract.keyField_nonBlank]
  exact IdempotencyContract.ofData_toIdempotencyData contract

/-! ### Side effects -/

structure SideEffectData where
  classification : SideEffectClass := .none
  effectTypes : Finset EffectType := ∅
  compensationAction : Option String := none
  minimumIsolation : IsolationGrade := .i0None
deriving DecidableEq

/-- `bool(self.compensation_action)`. -/
def SideEffectData.compensates (data : SideEffectData) : Bool :=
  data.compensationAction.any fun action => action != ""

/-- `SideEffectContract.__post_init__` on values of the declared types. -/
def SideEffectData.violation (data : SideEffectData) : Option PyError :=
  if data.compensationAction.any isBlank then
    some (.valueError "compensation_action MUST be non-empty when provided")
  else if data.classification = .none then
    if data.effectTypes ≠ ∅ ∨ data.compensates then
      some (.valueError "effect-free units cannot declare effects or compensation")
    else if data.minimumIsolation ≠ .i0None then
      some (.valueError "effect-free units MUST use I0_NONE effect isolation")
    else none
  else if data.effectTypes = ∅ then
    some (.valueError "effectful units MUST declare effect_types")
  else if data.minimumIsolation.rank < IsolationGrade.i2ProcessLocal.rank then
    some (.valueError "effectful units require at least process-local isolation")
  else if (data.classification = .reversible ∨ data.classification = .compensatable) ∧
      data.compensates = false then
    some (.valueError "reversible or compensatable effects MUST declare compensation_action")
  else if data.classification = .irreversible then
    if data.compensates then
      some (.valueError "irreversible effects cannot declare compensation_action")
    else if data.minimumIsolation.rank < IsolationGrade.i3RecordedExternals.rank then
      some (.valueError "irreversible effects require recorded-external isolation")
    else none
  else none

theorem SideEffectData.default_valid : ({} : SideEffectData).violation = none := by decide

structure SideEffectContract extends SideEffectData where
  valid : toSideEffectData.violation = none := by decide
deriving DecidableEq

def SideEffectContract.ofData : SideEffectData → Except PyError SideEffectContract :=
  construct SideEffectData.violation fun data valid => ⟨data, valid⟩

/-- `SideEffectContract(classification=…, effect_types=…, compensation_action=…,
minimum_isolation=…)`. -/
def SideEffectContract.build (classification : SideEffectClass) (effectTypes : Finset EffectType)
    (compensationAction : Json) (minimumIsolation : IsolationGrade) :
    Except PyError SideEffectContract := do
  let compensationAction ←
    requireOptionalText "compensation_action MUST be non-empty when provided" compensationAction
  SideEffectContract.ofData ⟨classification, effectTypes, compensationAction, minimumIsolation⟩

@[simp] theorem SideEffectContract.ofData_toSideEffectData (contract : SideEffectContract) :
    SideEffectContract.ofData contract.toSideEffectData = .ok contract :=
  construct_of_valid contract.valid

theorem SideEffectContract.compensationAction_nonBlank (contract : SideEffectContract)
    (text : String) (given : contract.compensationAction = some text) : isBlank text = false := by
  have valid := contract.valid
  unfold SideEffectData.violation at valid
  split_ifs at valid with blank
  all_goals
    rw [given] at blank
    exact Bool.eq_false_of_not_eq_true blank

theorem SideEffectContract.build_self (contract : SideEffectContract) :
    SideEffectContract.build contract.classification contract.effectTypes
      (optionalText contract.compensationAction) contract.minimumIsolation = .ok contract := by
  unfold SideEffectContract.build
  rw [requireOptionalText_optionalText _ contract.compensationAction_nonBlank]
  exact SideEffectContract.ofData_toSideEffectData contract

/-! ### Placement -/

/-- Some element is blank. -/
def anyBlank (texts : Finset String) : Prop := ∃ text ∈ texts, isBlank text = true

instance (texts : Finset String) : Decidable (anyBlank texts) :=
  inferInstanceAs (Decidable (∃ text ∈ texts, isBlank text = true))

theorem not_anyBlank {texts : Finset String} :
    ¬ anyBlank texts ↔ ∀ text ∈ sortedElems texts, isBlank text = false := by
  unfold anyBlank
  push Not
  simp only [mem_sortedElems, Bool.not_eq_true]

/-- The elements of a set without blank strings, sorted, pass the check. -/
theorem requireTexts_sortedElems {texts : Finset String} (name : String)
    (clean : ¬ anyBlank texts) :
    requireTexts name ((sortedElems texts).map Json.str) = .ok (sortedElems texts) :=
  requireTexts_map_str name (not_anyBlank.mp clean)

theorem requireTexts_list {texts : List String} (name : String)
    (clean : ¬ texts.any isBlank = true) :
    requireTexts name (texts.map Json.str) = .ok texts := by
  refine requireTexts_map_str name fun text member => ?_
  by_contra blank
  exact clean (List.any_eq_true.mpr ⟨text, member, Bool.not_eq_false _ ▸ blank⟩)

structure PlacementData where
  allowedRegions : Finset String := ∅
  allowedDevices : Finset String := ∅
  allowedRuntimes : Finset String := ∅
  requiredCapabilities : Finset String := ∅
  preferredRegions : List String := []
  preferredDevices : List String := []
  requiresLocalInputs : Bool := false
deriving DecidableEq

/-- `PlacementContract.__post_init__` on values of the declared types. -/
def PlacementData.violation (data : PlacementData) : Option PyError :=
  if anyBlank data.allowedRegions then
    some (.valueError "allowed_regions MUST contain non-empty strings")
  else if anyBlank data.allowedDevices then
    some (.valueError "allowed_devices MUST contain non-empty strings")
  else if anyBlank data.allowedRuntimes then
    some (.valueError "allowed_runtimes MUST contain non-empty strings")
  else if anyBlank data.requiredCapabilities then
    some (.valueError "required_capabilities MUST contain non-empty strings")
  else if data.preferredRegions.any isBlank then
    some (.valueError "preferred_regions MUST contain non-empty strings")
  else if data.preferredDevices.any isBlank then
    some (.valueError "preferred_devices MUST contain non-empty strings")
  else if data.allowedRegions ≠ ∅ ∧ ¬ data.preferredRegions.toFinset ⊆ data.allowedRegions then
    some (.valueError "preferred_regions MUST be allowed")
  else if data.allowedDevices ≠ ∅ ∧ ¬ data.preferredDevices.toFinset ⊆ data.allowedDevices then
    some (.valueError "preferred_devices MUST be allowed")
  else if ¬ data.preferredRegions.Nodup then
    some (.valueError "preferred_regions MUST be unique")
  else if ¬ data.preferredDevices.Nodup then
    some (.valueError "preferred_devices MUST be unique")
  else none

theorem PlacementData.default_valid : ({} : PlacementData).violation = none := by decide

structure PlacementContract extends PlacementData where
  valid : toPlacementData.violation = none := by decide
deriving DecidableEq

def PlacementContract.ofData : PlacementData → Except PyError PlacementContract :=
  construct PlacementData.violation fun data valid => ⟨data, valid⟩

/-- `PlacementContract(allowed_regions=…, …, requires_local_inputs=…)`, given the elements of the
sets and tuples. -/
def PlacementContract.build (allowedRegions allowedDevices allowedRuntimes requiredCapabilities
    preferredRegions preferredDevices : List Json) (requiresLocalInputs : Json) :
    Except PyError PlacementContract := do
  let allowedRegions ← requireTexts "allowed_regions" allowedRegions
  let allowedDevices ← requireTexts "allowed_devices" allowedDevices
  let allowedRuntimes ← requireTexts "allowed_runtimes" allowedRuntimes
  let requiredCapabilities ← requireTexts "required_capabilities" requiredCapabilities
  let preferredRegions ← requireTexts "preferred_regions" preferredRegions
  let preferredDevices ← requireTexts "preferred_devices" preferredDevices
  let contract ← PlacementContract.ofData {
    allowedRegions := allowedRegions.toFinset
    allowedDevices := allowedDevices.toFinset
    allowedRuntimes := allowedRuntimes.toFinset
    requiredCapabilities := requiredCapabilities.toFinset
    preferredRegions := preferredRegions
    preferredDevices := preferredDevices }
  -- the last check of `__post_init__`: no earlier one reads this field
  let requiresLocalInputs ← requireBool "requires_local_inputs MUST be boolean" requiresLocalInputs
  PlacementContract.ofData { contract.toPlacementData with requiresLocalInputs }

@[simp] theorem PlacementContract.ofData_toPlacementData (contract : PlacementContract) :
    PlacementContract.ofData contract.toPlacementData = .ok contract :=
  construct_of_valid contract.valid

/-- What the check leaves of the texts of a placement contract: no set and no list holds a blank
string, and no list repeats one. -/
theorem PlacementContract.texts (contract : PlacementContract) :
    (∀ texts ∈ [contract.allowedRegions, contract.allowedDevices, contract.allowedRuntimes,
      contract.requiredCapabilities], ¬ anyBlank texts) ∧
    ∀ texts ∈ [contract.preferredRegions, contract.preferredDevices],
      ¬ texts.any isBlank = true ∧ texts.Nodup := by
  have valid := contract.valid
  unfold PlacementData.violation at valid
  simp only [check_eq_none, not_not] at valid
  obtain ⟨regions, devices, runtimes, capabilities, preferredRegions, preferredDevices, -, -,
    regionsDistinct, devicesDistinct, -⟩ := valid
  simp only [List.forall_mem_cons]
  exact ⟨⟨regions, devices, runtimes, capabilities, List.forall_mem_nil _⟩,
    ⟨preferredRegions, regionsDistinct⟩, ⟨preferredDevices, devicesDistinct⟩,
    List.forall_mem_nil _⟩

theorem PlacementContract.build_self (contract : PlacementContract) :
    PlacementContract.build ((sortedElems contract.allowedRegions).map .str)
      ((sortedElems contract.allowedDevices).map .str)
      ((sortedElems contract.allowedRuntimes).map .str)
      ((sortedElems contract.requiredCapabilities).map .str)
      (contract.preferredRegions.map .str) (contract.preferredDevices.map .str)
      (.bool contract.requiresLocalInputs) = .ok contract := by
  obtain ⟨sets, lists⟩ := contract.texts
  simp only [List.forall_mem_cons] at sets lists
  obtain ⟨regions, devices, runtimes, capabilities, -⟩ := sets
  obtain ⟨⟨preferredRegions, -⟩, ⟨preferredDevices, -⟩, -⟩ := lists
  have unread : ({ contract.toPlacementData with requiresLocalInputs := false } :
      PlacementData).violation = none := contract.valid
  have built : PlacementContract.ofData {
      allowedRegions := contract.allowedRegions
      allowedDevices := contract.allowedDevices
      allowedRuntimes := contract.allowedRuntimes
      requiredCapabilities := contract.requiredCapabilities
      preferredRegions := contract.preferredRegions
      preferredDevices := contract.preferredDevices } = .ok ⟨_, unread⟩ :=
    PlacementContract.ofData_toPlacementData ⟨_, unread⟩
  unfold PlacementContract.build
  simp only [requireTexts_sortedElems _ regions, requireTexts_sortedElems _ devices,
    requireTexts_sortedElems _ runtimes, requireTexts_sortedElems _ capabilities,
    requireTexts_list _ preferredRegions, requireTexts_list _ preferredDevices,
    toFinset_sortedElems, built, requireBool, bind, Except.bind]
  exact PlacementContract.ofData_toPlacementData contract

/-! ### Security -/

inductive DataClassification where
  | «public» | internal | confidential | restricted
deriving DecidableEq, Repr

instance : PyEnum DataClassification where
  name := "DataClassification"
  members := [.«public», .internal, .confidential, .restricted]
  value
    | .«public» => "PUBLIC"
    | .internal => "INTERNAL"
    | .confidential => "CONFIDENTIAL"
    | .restricted => "RESTRICTED"

/-- `DataClassification.rank`. -/
def DataClassification.rank (classification : DataClassification) : Nat :=
  PyEnum.rank classification

structure SecurityData where
  tenantId : Option String := none
  requiredPermissions : Finset String := ∅
  securityLabels : Finset String := ∅
  outputClassification : DataClassification := .internal
  maximumInputClassification : DataClassification := .restricted
  allowedResidencies : Finset String := ∅
  trustZone : String := ""
  acceptedTrustZones : Finset String := ∅
  confidentialComputeRequired : Bool := false
deriving DecidableEq

/-- `SecurityContract.__post_init__` on values of the declared types. -/
def SecurityData.violation (data : SecurityData) : Option PyError :=
  if data.tenantId.any isBlank then
    some (.valueError "security tenant_id MUST be non-empty when provided")
  else if anyBlank data.requiredPermissions then
    some (.valueError "required_permissions MUST contain non-empty strings")
  else if anyBlank data.securityLabels then
    some (.valueError "security_labels MUST contain non-empty strings")
  else if anyBlank data.allowedResidencies then
    some (.valueError "allowed_residencies MUST contain non-empty strings")
  else if anyBlank data.acceptedTrustZones then
    some (.valueError "accepted_trust_zones MUST contain non-empty strings")
  else none

theorem SecurityData.default_valid : ({} : SecurityData).violation = none := by decide

structure SecurityContract extends SecurityData where
  valid : toSecurityData.violation = none := by decide
deriving DecidableEq

def SecurityContract.ofData : SecurityData → Except PyError SecurityContract :=
  construct SecurityData.violation fun data valid => ⟨data, valid⟩

/-- `SecurityContract(tenant_id=…, …, confidential_compute_required=…)`, given the elements of the
sets. -/
def SecurityContract.build (tenantId : Json) (requiredPermissions securityLabels : List Json)
    (outputClassification maximumInputClassification : DataClassification)
    (allowedResidencies : List Json) (trustZone : Json) (acceptedTrustZones : List Json)
    (confidentialComputeRequired : Json) : Except PyError SecurityContract := do
  let tenantId ←
    requireOptionalText "security tenant_id MUST be non-empty when provided" tenantId
  let requiredPermissions ← requireTexts "required_permissions" requiredPermissions
  let securityLabels ← requireTexts "security_labels" securityLabels
  let allowedResidencies ← requireTexts "allowed_residencies" allowedResidencies
  let acceptedTrustZones ← requireTexts "accepted_trust_zones" acceptedTrustZones
  let trustZone ← match trustZone with
    | .str text => .ok text
    | _ => .error (.typeError "trust_zone MUST be a string")
  let confidentialComputeRequired ←
    requireBool "confidential_compute_required MUST be boolean" confidentialComputeRequired
  SecurityContract.ofData {
    tenantId, outputClassification, maximumInputClassification, trustZone,
    confidentialComputeRequired
    requiredPermissions := requiredPermissions.toFinset
    securityLabels := securityLabels.toFinset
    allowedResidencies := allowedResidencies.toFinset
    acceptedTrustZones := acceptedTrustZones.toFinset }

@[simp] theorem SecurityContract.ofData_toSecurityData (contract : SecurityContract) :
    SecurityContract.ofData contract.toSecurityData = .ok contract :=
  construct_of_valid contract.valid

/-- What the check leaves of the texts of a security contract: none is blank. -/
theorem SecurityContract.texts (contract : SecurityContract) :
    (∀ text, contract.tenantId = some text → isBlank text = false) ∧
    ∀ texts ∈ [contract.requiredPermissions, contract.securityLabels, contract.allowedResidencies,
      contract.acceptedTrustZones], ¬ anyBlank texts := by
  have valid := contract.valid
  unfold SecurityData.violation at valid
  simp only [check_eq_none] at valid
  obtain ⟨blank, permissions, labels, residencies, zones, -⟩ := valid
  refine ⟨fun text given => ?_, ?_⟩
  · rw [given] at blank
    exact Bool.eq_false_of_not_eq_true blank
  · simp only [List.forall_mem_cons]
    exact ⟨permissions, labels, residencies, zones, List.forall_mem_nil _⟩

theorem SecurityContract.build_self (contract : SecurityContract) :
    SecurityContract.build (optionalText contract.tenantId)
      ((sortedElems contract.requiredPermissions).map .str)
      ((sortedElems contract.securityLabels).map .str) contract.outputClassification
      contract.maximumInputClassification ((sortedElems contract.allowedResidencies).map .str)
      (.str contract.trustZone) ((sortedElems contract.acceptedTrustZones).map .str)
      (.bool contract.confidentialComputeRequired) = .ok contract := by
  obtain ⟨nonBlank, clean⟩ := contract.texts
  simp only [List.forall_mem_cons] at clean
  obtain ⟨permissions, labels, residencies, zones, -⟩ := clean
  unfold SecurityContract.build
  rw [requireOptionalText_optionalText _ nonBlank, requireTexts_sortedElems _ permissions,
    requireTexts_sortedElems _ labels, requireTexts_sortedElems _ residencies,
    requireTexts_sortedElems _ zones]
  show SecurityContract.ofData _ = _
  simp only [toFinset_sortedElems]
  exact SecurityContract.ofData_toSecurityData contract

end Dnc
