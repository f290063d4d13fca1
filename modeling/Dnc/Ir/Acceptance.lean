/-
**What the encoder writes passes the check.**

The check of a document reads objects by key only, as the decoder does, so every lemma is about
`t` of an encoded part for a change of key order `t`. What the check asks of a section (non-blank
texts, no repetition in a list, values of an enumeration) is what the contract promises when it is
built, so each section passes by the validity of its contract.

Of an edge the check asks that its ports are strings or absent (`Edge.PortsNamed`).
-/

import Dnc.Ir.Decoding
import Dnc.Logic.Sequence

namespace Dnc

open PyLib Json Logic

/-- The ports an edge names are strings, or absent. -/
def Edge.PortsNamed (edge : Edge) : Prop :=
  (∃ text?, edge.sourcePort = optionalText text?) ∧ ∃ text?, edge.targetPort = optionalText text?

namespace Schema

/-! ### Single fields -/

theorem requireType_of_lookup {container : JsonObject} {field : String} {expected : Json → Bool}
    {value : Json} (found : container.lookup field = some value) (typed : expected value = true)
    (expectedName path : String) :
    requireType container field expected expectedName path = .ok value := by
  unfold requireType
  rw [found]
  exact if_pos typed

/-- The type check of several fields of one type. -/
theorem requireTypes_of_lookup {container : JsonObject} {fields : List String}
    {expected : Json → Bool} (found : ∀ field ∈ fields, ∃ value,
      container.lookup field = some value ∧ expected value = true) (expectedName path : String) :
    fields.forM (fun field =>
      (requireType container field expected expectedName path).map fun _ => ()) = .ok () := by
  refine forM_eq_ok.mpr fun field member => ?_
  obtain ⟨value, present, typed⟩ := found field member
  rw [requireType_of_lookup present typed]
  rfl

theorem requireEnum_of_lookup {α : Type} [PyEnum α] {container : JsonObject} {field : String}
    {member : α} (found : container.lookup field = some (enumText member)) (path : String) :
    requireEnum container field (valuesOf α) path = .ok () := by
  have listed : enumText member ∈ (valuesOf α).map Json.str :=
    List.mem_map_of_mem (List.mem_map_of_mem (PyEnum.complete member))
  unfold requireEnum
  rw [requireType_of_lookup found rfl]
  exact if_pos listed

theorem requireNullableString_of_lookup {container : JsonObject} {field : String}
    {text? : Option String} (found : container.lookup field = some (optionalText text?))
    (nonBlank : ∀ text, text? = some text → isBlank text = false) (path : String) :
    requireNullableString container field path = .ok () := by
  unfold requireNullableString
  rw [found]
  cases text? with
  | none => rfl
  | some text => simp [optionalText, nonBlank text rfl]

theorem requireStringArray_of_lookup {container : JsonObject} {field : String}
    {texts : List String} (found : container.lookup field = some (textList texts))
    (nonBlank : ∀ text ∈ texts, isBlank text = false) (distinct : texts.Nodup) (path : String) :
    requireStringArray container field path = .ok texts := by
  have clean : ¬ ((texts.map Json.str).any fun item => item.text?.all isBlank) = true := by
    rw [List.any_eq_true]
    rintro ⟨item, member, blank⟩
    obtain ⟨text, listed, rfl⟩ := List.mem_map.mp member
    simp [Json.text?, nonBlank text listed] at blank
  unfold requireStringArray
  rw [requireType_of_lookup found rfl]
  show (if _ then _ else if _ then _ else _) = _
  rw [if_neg clean, stringsOf_map_str, if_pos distinct]
  rfl

theorem requireStringArray_sorted {container : JsonObject} {field : String}
    {texts : Finset String} (found : container.lookup field = some (sortedTexts texts))
    (clean : ¬ anyBlank texts) (path : String) :
    requireStringArray container field path = .ok (sortedElems texts) :=
  requireStringArray_of_lookup found (not_anyBlank.mp clean) (sortedElems_nodup texts) path

theorem requireStringArray_list {container : JsonObject} {field : String} {texts : List String}
    (found : container.lookup field = some (textList texts))
    (clean : ¬ texts.any isBlank = true ∧ texts.Nodup) (path : String) :
    requireStringArray container field path = .ok texts := by
  refine requireStringArray_of_lookup found (fun text member => ?_) clean.2 path
  by_contra blank
  exact clean.1 (List.any_eq_true.mpr ⟨text, member, Bool.not_eq_false _ ▸ blank⟩)

section Accepts

variable {t : Json → Json} (reorders : Reorders t)

include reorders

theorem isObject_reordered {encoded : Json} (object : isObject encoded = true) :
    isObject (t encoded) = true := by
  cases encoded with
  | obj fields =>
    obtain ⟨entries, same, -, -⟩ := reorders.obj fields
    rw [same]
    rfl
  | _ => simp [isObject] at object

/-- What an encoded object holds under a key, given what `t` makes of it. -/
theorem lookup_reordered {encoded value read : Json} {key : String}
    (given : (entriesOf encoded).lookup key = some value) (same : t value = read) :
    (entriesOf (t encoded)).lookup key = some read := by
  cases encoded with
  | obj fields =>
    obtain ⟨entries, object, -, lookups⟩ := reorders.obj fields
    have found : fields.lookup key = some value := given
    rw [object]
    show entries.lookup key = _
    rw [lookups, found, Option.map_some, same]
  | _ => simp [entriesOf] at given

theorem text_reordered {encoded : Json} {key text : String}
    (given : (entriesOf encoded).lookup key = some (.str text)) :
    ∃ value, (entriesOf (t encoded)).lookup key = some value ∧ isString value = true :=
  ⟨_, lookup_reordered reorders given (reorders.str _), rfl⟩

/-! ### The sections of a contract -/

theorem validatePort_encodePort (path : String) (port : PortContract) :
    validatePort path (t (encodePort port)) = .ok () := by
  have object : isObject (t (encodePort port)) = true := isObject_reordered reorders rfl
  have texts : ∀ field ∈ ["port_id", "direction", "kind", "cardinality", "description"],
      ∃ value, (entriesOf (t (encodePort port))).lookup field = some value ∧
        isString value = true := by
    simp only [List.forall_mem_cons]
    exact ⟨text_reordered reorders rfl, text_reordered reorders rfl,
      text_reordered reorders rfl, text_reordered reorders rfl, text_reordered reorders rfl, nofun⟩
  have direction : (entriesOf (t (encodePort port))).lookup "direction" =
      some (enumText port.direction) :=
    lookup_reordered reorders rfl (reordered_enumText reorders _)
  have kind : (entriesOf (t (encodePort port))).lookup "kind" = some (enumText port.kind) :=
    lookup_reordered reorders rfl (reordered_enumText reorders _)
  have cardinality : (entriesOf (t (encodePort port))).lookup "cardinality" =
      some (enumText port.cardinality) :=
    lookup_reordered reorders rfl (reordered_enumText reorders _)
  have fields : (entriesOf (t (encodePort port))).lookup "schema" = some (t (.obj port.schema)) :=
    lookup_reordered reorders rfl rfl
  have schema : isObject (t (.obj port.schema)) = true := isObject_reordered reorders rfl
  unfold validatePort
  simp only [object, Bool.true_eq_false, if_false, requireTypes_of_lookup texts,
    requireType_of_lookup fields schema, requireEnum_of_lookup direction,
    requireEnum_of_lookup kind, requireEnum_of_lookup cardinality, bind, Except.bind]

theorem idempotency_accepted (contract : IdempotencyContract) (path : String) :
    requireEnum (entriesOf (t (encodeIdempotency contract))) "mode" (valuesOf IdempotencyMode)
        path = .ok () ∧
      requireEnum (entriesOf (t (encodeIdempotency contract))) "scope" (valuesOf IdempotencyScope)
        path = .ok () ∧
      requireNullableString (entriesOf (t (encodeIdempotency contract))) "key_field" path =
        .ok () ∧
      requireType (entriesOf (t (encodeIdempotency contract))) "payload_hash_required" isBoolean
        "boolean" path = .ok (.bool contract.payloadHashRequired) :=
  ⟨requireEnum_of_lookup (lookup_reordered reorders rfl (reordered_enumText reorders _)) _,
    requireEnum_of_lookup (lookup_reordered reorders rfl (reordered_enumText reorders _)) _,
    requireNullableString_of_lookup
      (lookup_reordered reorders rfl (reordered_optionalText reorders _))
      contract.keyField_nonBlank _,
    requireType_of_lookup (lookup_reordered reorders rfl (reorders.bool _)) rfl _ _⟩

theorem sideEffects_accepted (contract : SideEffectContract) (path : String) :
    requireEnum (entriesOf (t (encodeSideEffects contract))) "classification"
        (valuesOf SideEffectClass) path = .ok () ∧
      requireStringArray (entriesOf (t (encodeSideEffects contract))) "effect_types" path =
        .ok (sortedElems (contract.effectTypes.image PyEnum.value)) ∧
      (∀ text ∈ sortedElems (contract.effectTypes.image PyEnum.value),
        text ∈ valuesOf EffectType) ∧
      requireNullableString (entriesOf (t (encodeSideEffects contract))) "compensation_action"
        path = .ok () ∧
      requireEnum (entriesOf (t (encodeSideEffects contract))) "minimum_isolation"
        (valuesOf IsolationGrade) path = .ok () := by
  have values : ∀ text ∈ contract.effectTypes.image PyEnum.value, text ∈ valuesOf EffectType := by
    intro text member
    obtain ⟨effect, -, rfl⟩ := Finset.mem_image.mp member
    exact List.mem_map_of_mem (PyEnum.complete effect)
  have clean : ¬ anyBlank (contract.effectTypes.image PyEnum.value) := by
    rintro ⟨text, member, blank⟩
    have none : ∀ text ∈ valuesOf EffectType, isBlank text = false := by decide
    rw [none text (values text member)] at blank
    cases blank
  exact ⟨requireEnum_of_lookup (lookup_reordered reorders rfl (reordered_enumText reorders _)) _,
    requireStringArray_sorted
      (lookup_reordered reorders rfl (reordered_sortedTexts reorders _)) clean _,
    fun text member => values text (mem_sortedElems.mp member),
    requireNullableString_of_lookup
      (lookup_reordered reorders rfl (reordered_optionalText reorders _))
      contract.compensationAction_nonBlank _,
    requireEnum_of_lookup (lookup_reordered reorders rfl (reordered_enumText reorders _)) _⟩

theorem placement_accepted (contract : PlacementContract) (path : String) :
    ["allowed_regions", "allowed_devices", "allowed_runtimes", "required_capabilities",
        "preferred_regions", "preferred_devices"].forM (fun field =>
      (requireStringArray (entriesOf (t (encodePlacement contract))) field path).map fun _ => ()) =
        .ok () ∧
      requireType (entriesOf (t (encodePlacement contract))) "requires_local_inputs" isBoolean
        "boolean" path = .ok (.bool contract.requiresLocalInputs) := by
  obtain ⟨sets, lists⟩ := contract.texts
  simp only [List.forall_mem_cons] at sets lists
  obtain ⟨regions, devices, runtimes, capabilities, -⟩ := sets
  obtain ⟨preferredRegions, preferredDevices, -⟩ := lists
  have sorted : ∀ {field : String} {texts : Finset String}, ¬ anyBlank texts →
      (entriesOf (encodePlacement contract)).lookup field = some (sortedTexts texts) →
      (requireStringArray (entriesOf (t (encodePlacement contract))) field path).map
        (fun _ => ()) = .ok () := fun clean given => by
    rw [requireStringArray_sorted
      (lookup_reordered reorders given (reordered_sortedTexts reorders _)) clean]
    rfl
  have list : ∀ {field : String} {texts : List String}, ¬ texts.any isBlank = true ∧ texts.Nodup →
      (entriesOf (encodePlacement contract)).lookup field = some (textList texts) →
      (requireStringArray (entriesOf (t (encodePlacement contract))) field path).map
        (fun _ => ()) = .ok () := fun clean given => by
    rw [requireStringArray_list
      (lookup_reordered reorders given (reordered_textList reorders _)) clean]
    rfl
  refine ⟨forM_eq_ok.mpr ?_,
    requireType_of_lookup (lookup_reordered reorders rfl (reorders.bool _)) rfl _ _⟩
  simp only [List.forall_mem_cons]
  exact ⟨sorted regions rfl, sorted devices rfl, sorted runtimes rfl, sorted capabilities rfl,
    list preferredRegions rfl, list preferredDevices rfl, nofun⟩

theorem security_accepted (contract : SecurityContract) (path : String) :
    requireNullableString (entriesOf (t (encodeSecurity contract))) "tenant_id" path = .ok () ∧
      ["required_permissions", "security_labels", "allowed_residencies",
        "accepted_trust_zones"].forM (fun field =>
      (requireStringArray (entriesOf (t (encodeSecurity contract))) field path).map fun _ => ()) =
        .ok () ∧
      requireEnum (entriesOf (t (encodeSecurity contract))) "output_classification"
        (valuesOf DataClassification) path = .ok () ∧
      requireEnum (entriesOf (t (encodeSecurity contract))) "maximum_input_classification"
        (valuesOf DataClassification) path = .ok () ∧
      requireType (entriesOf (t (encodeSecurity contract))) "trust_zone" isString "string" path =
        .ok (.str contract.trustZone) ∧
      requireType (entriesOf (t (encodeSecurity contract))) "confidential_compute_required"
        isBoolean "boolean" path = .ok (.bool contract.confidentialComputeRequired) := by
  obtain ⟨nonBlank, sets⟩ := contract.texts
  simp only [List.forall_mem_cons] at sets
  obtain ⟨permissions, labels, residencies, zones, -⟩ := sets
  have sorted : ∀ {field : String} {texts : Finset String}, ¬ anyBlank texts →
      (entriesOf (encodeSecurity contract)).lookup field = some (sortedTexts texts) →
      (requireStringArray (entriesOf (t (encodeSecurity contract))) field path).map
        (fun _ => ()) = .ok () := fun clean given => by
    rw [requireStringArray_sorted
      (lookup_reordered reorders given (reordered_sortedTexts reorders _)) clean]
    rfl
  refine ⟨requireNullableString_of_lookup
      (lookup_reordered reorders rfl (reordered_optionalText reorders _)) nonBlank _,
    forM_eq_ok.mpr ?_,
    requireEnum_of_lookup (lookup_reordered reorders rfl (reordered_enumText reorders _)) _,
    requireEnum_of_lookup (lookup_reordered reorders rfl (reordered_enumText reorders _)) _,
    requireType_of_lookup (lookup_reordered reorders rfl (reorders.str _)) rfl _ _,
    requireType_of_lookup (lookup_reordered reorders rfl (reorders.bool _)) rfl _ _⟩
  simp only [List.forall_mem_cons]
  exact ⟨sorted permissions rfl, sorted labels rfl, sorted residencies rfl, sorted zones rfl,
    nofun⟩

theorem validateGovernanceContract_encodeContract (contract : UnitContract) (path : String) :
    validateGovernanceContract (entriesOf (t (encodeContract contract))) path = .ok () := by
  have idempotency : (entriesOf (t (encodeContract contract))).lookup "idempotency" =
      some (t (encodeIdempotency contract.idempotency)) := lookup_reordered reorders rfl rfl
  have effects : (entriesOf (t (encodeContract contract))).lookup "side_effects" =
      some (t (encodeSideEffects contract.sideEffects)) := lookup_reordered reorders rfl rfl
  have placement : (entriesOf (t (encodeContract contract))).lookup "placement" =
      some (t (encodePlacement contract.placement)) := lookup_reordered reorders rfl rfl
  have security : (entriesOf (t (encodeContract contract))).lookup "security" =
      some (t (encodeSecurity contract.security)) := lookup_reordered reorders rfl rfl
  have objects : ∀ field ∈ ["idempotency", "side_effects", "placement", "security"],
      ∃ value, (entriesOf (t (encodeContract contract))).lookup field = some value ∧
        isObject value = true := by
    simp only [List.forall_mem_cons]
    exact ⟨⟨_, idempotency, isObject_reordered reorders rfl⟩,
      ⟨_, effects, isObject_reordered reorders rfl⟩,
      ⟨_, placement, isObject_reordered reorders rfl⟩,
      ⟨_, security, isObject_reordered reorders rfl⟩, nofun⟩
  obtain ⟨classification, effectTypes, supported, compensation, isolation⟩ :=
    sideEffects_accepted reorders contract.sideEffects s!"{path}.side_effects"
  unfold validateGovernanceContract
  simp only [requireTypes_of_lookup objects, idempotency, effects, placement, security,
    Option.getD_some, idempotency_accepted reorders, classification, effectTypes, compensation,
    isolation, placement_accepted reorders, security_accepted reorders, bind, Except.bind]
  refine if_neg fun unsupported => ?_
  obtain ⟨text, member, unknown⟩ := List.any_eq_true.mp unsupported
  exact of_decide_eq_true unknown (supported text member)

/-! ### Units and edges -/

theorem validateContract_encodeUnit (version : SchemaVersion) (unit : ComputationalUnit)
    (allowed : List Json) (unitKey : String) :
    validateContract version (entriesOf (t (encodeUnitWith unit allowed))) unitKey = .ok () := by
  have contract : (entriesOf (t (encodeUnitWith unit allowed))).lookup "contract" =
      some (t (encodeContract unit.contract)) := lookup_reordered reorders rfl rfl
  have object : isObject (t (encodeContract unit.contract)) = true :=
    isObject_reordered reorders rfl
  have ports : (entriesOf (t (encodeContract unit.contract))).lookup "ports" =
      some (.arr ((unit.contract.ports.map encodePort).map t)) :=
    lookup_reordered reorders rfl (reorders.arr _)
  have array : isArray (.arr ((unit.contract.ports.map encodePort).map t)) = true := rfl
  have each : ((unit.contract.ports.map encodePort).map t).zipIdx.forM (fun entry =>
      validatePort s!"units.{unitKey}.contract.ports.{entry.2}" entry.1) = .ok () := by
    refine forM_eq_ok.mpr fun entry member => ?_
    have listed := List.fst_mem_of_mem_zipIdx member
    rw [List.map_map] at listed
    obtain ⟨origin, -, written⟩ := List.mem_map.mp listed
    rw [← written]
    exact validatePort_encodePort reorders _ origin
  unfold validateContract
  simp only [requireType_of_lookup contract object, requireType_of_lookup ports array, itemsOf, each,
    validateGovernanceContract_encodeContract reorders, bind, Except.bind]
  exact ite_self _

theorem validateUnit_encodeUnit (version : Option SchemaVersion) (unit : ComputationalUnit)
    (allowed : List Json) :
    validateUnit version (unit.unitId.value, t (encodeUnitWith unit allowed)) = .ok () := by
  have object : isObject (t (encodeUnitWith unit allowed)) = true := isObject_reordered reorders rfl
  have unitId : (entriesOf (t (encodeUnitWith unit allowed))).lookup "unit_id" =
      some (.str unit.unitId.value) := lookup_reordered reorders rfl (reorders.str _)
  have text : isString (.str unit.unitId.value) = true := rfl
  have texts : ∀ field ∈ ["name", "structure", "visibility", "lifecycle"],
      ∃ value, (entriesOf (t (encodeUnitWith unit allowed))).lookup field = some value ∧
        isString value = true := by
    simp only [List.forall_mem_cons]
    exact ⟨text_reordered reorders rfl, text_reordered reorders rfl,
      text_reordered reorders rfl, text_reordered reorders rfl, nofun⟩
  unfold validateUnit
  simp only [object, requireType_of_lookup unitId text, requireTypes_of_lookup texts,
    validateContract_encodeUnit reorders, ne_eq, not_true_eq_false, Bool.true_eq_false, if_false,
    bind, Except.bind]
  cases version with
  | none => rfl
  | some version => exact ite_self _

theorem validateEdge_encodeEdge (version : Option SchemaVersion) (path : String) {edge : Edge}
    (named : edge.PortsNamed) : validateEdge version path (t (encodeEdge edge)) = .ok () := by
  have object : isObject (t (encodeEdge edge)) = true := isObject_reordered reorders rfl
  have texts : ∀ field ∈ ["source", "target", "edge_type"],
      ∃ value, (entriesOf (t (encodeEdge edge))).lookup field = some value ∧
        isString value = true := by
    simp only [List.forall_mem_cons]
    exact ⟨text_reordered reorders rfl, text_reordered reorders rfl,
      text_reordered reorders rfl, nofun⟩
  have binding : ∀ {field : String} {port : Json}, (∃ text?, port = optionalText text?) →
      (entriesOf (encodeEdge edge)).lookup field = some port →
      validateBinding (entriesOf (t (encodeEdge edge))) field path = .ok () := by
    rintro field port ⟨text?, rfl⟩ given
    unfold validateBinding
    rw [lookup_reordered reorders given (reordered_optionalText reorders text?)]
    cases text? <;> rfl
  have bindings : ["source_port", "target_port"].forM (fun field =>
      validateBinding (entriesOf (t (encodeEdge edge))) field path) = .ok () := by
    refine forM_eq_ok.mpr ?_
    simp only [List.forall_mem_cons]
    exact ⟨binding named.1 rfl, binding named.2 rfl, nofun⟩
  unfold validateEdge
  simp only [object, requireTypes_of_lookup texts, bindings, Bool.true_eq_false, if_false, bind,
    Except.bind]
  exact ite_self _

/-! ### Documents -/

theorem validateVersion_encodeVersion (version : GraphVersion) :
    ["major", "minor", "patch", "sequence"].forM
      (validateVersionField (entriesOf (t (encodeVersion version)))) = .ok () := by
  have natural : ∀ {field : String} {value : Nat},
      (entriesOf (encodeVersion version)).lookup field = some (.int value) →
      validateVersionField (entriesOf (t (encodeVersion version))) field = .ok () := by
    intro field value given
    unfold validateVersionField
    rw [lookup_reordered reorders given (reorders.int value)]
    exact if_neg (by omega)
  refine forM_eq_ok.mpr ?_
  simp only [List.forall_mem_cons]
  exact ⟨natural rfl, natural rfl, natural rfl, natural rfl, nofun⟩

end Accepts

end Schema

end Dnc
