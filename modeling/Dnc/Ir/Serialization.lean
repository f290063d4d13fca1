/-
**Serialization.**

`dnc.ir.serialization.DNWIRSerializer`. `toDict` and `toJson` write a graph as a document of the
current version: units in the order of their identifiers, edges in the order of endpoints, type and
ports, sets as sorted lists. Sorting may raise, on a set of allowed mutations whose elements do not
compare and on ports that are no strings.

`fromDict` checks a document and then decodes it field by field. The decoder is lenient where the
check of the document's version was: a missing field takes its default, and whatever can be iterated
or made a dictionary of is accepted in the place of a list or an object. Every exception of the
decoder is reported as the same validation error.
-/

import Dnc.Ir.Graph
import Dnc.Ir.Schema
import Dnc.PyLib.Compare
import Dnc.PyLib.JsonText

namespace Dnc

open PyLib Logic

/-! ### Encoding -/

def enumText {α : Type} [PyEnum α] (member : α) : Json := .str (PyEnum.value member)

def textList (texts : List String) : Json := .arr (texts.map .str)

/-- `sorted(texts)` of a set of strings. -/
def sortedTexts (texts : Finset String) : Json := textList (sortedElems texts)

def encodePort (port : PortContract) : Json := .obj [
  ("port_id", .str port.portId),
  ("direction", enumText port.direction),
  ("kind", enumText port.kind),
  ("schema", .obj port.schema),
  ("cardinality", enumText port.cardinality),
  ("description", .str port.description)]

def encodeIdempotency (contract : IdempotencyContract) : Json := .obj [
  ("mode", enumText contract.mode),
  ("scope", enumText contract.scope),
  ("key_field", optionalText contract.keyField),
  ("payload_hash_required", .bool contract.payloadHashRequired)]

def encodeSideEffects (contract : SideEffectContract) : Json := .obj [
  ("classification", enumText contract.classification),
  ("effect_types", sortedTexts (contract.effectTypes.image PyEnum.value)),
  ("compensation_action", optionalText contract.compensationAction),
  ("minimum_isolation", enumText contract.minimumIsolation)]

def encodePlacement (contract : PlacementContract) : Json := .obj [
  ("allowed_regions", sortedTexts contract.allowedRegions),
  ("allowed_devices", sortedTexts contract.allowedDevices),
  ("allowed_runtimes", sortedTexts contract.allowedRuntimes),
  ("required_capabilities", sortedTexts contract.requiredCapabilities),
  ("preferred_regions", textList contract.preferredRegions),
  ("preferred_devices", textList contract.preferredDevices),
  ("requires_local_inputs", .bool contract.requiresLocalInputs)]

def encodeSecurity (contract : SecurityContract) : Json := .obj [
  ("tenant_id", optionalText contract.tenantId),
  ("required_permissions", sortedTexts contract.requiredPermissions),
  ("security_labels", sortedTexts contract.securityLabels),
  ("output_classification", enumText contract.outputClassification),
  ("maximum_input_classification", enumText contract.maximumInputClassification),
  ("allowed_residencies", sortedTexts contract.allowedResidencies),
  ("trust_zone", .str contract.trustZone),
  ("accepted_trust_zones", sortedTexts contract.acceptedTrustZones),
  ("confidential_compute_required", .bool contract.confidentialComputeRequired)]

def encodeContract (contract : UnitContract) : Json := .obj [
  ("input_schema", contract.inputSchema),
  ("output_schema", contract.outputSchema),
  ("preconditions", contract.preconditions),
  ("postconditions", contract.postconditions),
  ("resource_limits", contract.resourceLimits),
  ("ports", .arr (contract.ports.map encodePort)),
  ("idempotency", encodeIdempotency contract.idempotency),
  ("side_effects", encodeSideEffects contract.sideEffects),
  ("placement", encodePlacement contract.placement),
  ("security", encodeSecurity contract.security)]

/-- The mutation contract, given its sorted mutations. -/
def encodeMutationContract (contract : MutationContract) (allowed : List Json) : Json := .obj [
  ("allowed_mutations", .arr allowed),
  ("max_children", contract.maxChildren),
  ("is_immutable", contract.isImmutable)]

def encodeConstraint (constraint : Constraint) : Json := .obj [
  ("constraint_id", constraint.constraintId),
  ("tier", enumText constraint.tier),
  ("expression", constraint.expression),
  ("description", constraint.description)]

/-- The unit, given its sorted mutations. -/
def encodeUnitWith (unit : ComputationalUnit) (allowed : List Json) : Json := .obj [
  ("unit_id", .str unit.unitId.value),
  ("name", .str unit.name),
  ("structure", enumText unit.«structure»),
  ("visibility", enumText unit.visibility),
  ("lifecycle", enumText unit.lifecycle),
  ("contract", encodeContract unit.contract),
  ("mutation_contract", encodeMutationContract unit.mutationContract allowed),
  ("constraints", .arr (unit.constraints.map encodeConstraint)),
  ("metadata", unit.metadata),
  ("sub_units", textList (unit.subUnits.map UnitID.value))]

def encodeUnit (unit : ComputationalUnit) : Except PyError Json :=
  unit.mutationContract.allowedMutations.sorted.map (encodeUnitWith unit)

def encodeEdge (edge : Edge) : Json := .obj [
  ("source", .str edge.source.value),
  ("target", .str edge.target.value),
  ("edge_type", enumText edge.edgeType),
  ("metadata", edge.metadata),
  ("source_port", edge.sourcePort),
  ("target_port", edge.targetPort)]

/-- `port or ""`. -/
def portOrEmpty (port : Json) : Json := if port.truthy then port else .str ""

/-- The key that edges are sorted by. -/
def Edge.sortKey (edge : Edge) : Json := .arr [
  .str edge.source.value, .str edge.target.value, enumText edge.edgeType,
  portOrEmpty edge.sourcePort, portOrEmpty edge.targetPort]

def sortEdges (edges : List Edge) : Except PyError (List Edge) :=
  sortM (fun first second => Json.less first.sortKey second.sortKey) edges

def encodeVersion (version : GraphVersion) : Json := .obj [
  ("major", .int version.major),
  ("minor", .int version.minor),
  ("patch", .int version.patch),
  ("sequence", .int version.sequence)]

/-- The document, given its units and edges. -/
def encodeGraphWith (graph : StructuralGraph) (units : JsonObject) (edges : List Edge) : Json :=
  .obj (schemaHeader ++ [
    ("graph_id", .str graph.graphId.value),
    ("version", encodeVersion graph.version),
    ("units", .obj units),
    ("edges", .arr (edges.map encodeEdge)),
    ("metadata", .obj graph.metadata)])

/-- One entry of the document's units. -/
def encodeUnitEntry (entry : String × ComputationalUnit) : Except PyError (String × Json) :=
  (encodeUnit entry.2).map fun unit => (entry.1, unit)

/-- `DNWIRSerializer.to_dict`. -/
def toDict (graph : StructuralGraph) : Except PyError Json := do
  let units ← (sortBy Prod.fst graph.units.entries).mapM encodeUnitEntry
  let edges ← sortEdges graph.edges
  return encodeGraphWith graph units edges

/-- `DNWIRSerializer.to_json`. -/
def toJson (graph : StructuralGraph) : Except PyError String := (toDict graph).map Json.dumps

/-! ### What is written -/

theorem encodeUnit_eq_ok {unit : ComputationalUnit} {document : Json}
    (encoded : encodeUnit unit = .ok document) :
    ∃ allowed : List Json, allowed.Perm unit.mutationContract.allowedMutations.elems ∧
      document = encodeUnitWith unit allowed := by
  obtain ⟨allowed, sorted, same⟩ := map_eq_ok.mp encoded
  exact ⟨allowed, PySet.sorted_perm sorted, same.symm⟩

theorem encodeUnitEntry_eq_ok {entry : String × ComputationalUnit} {written : String × Json}
    (encoded : encodeUnitEntry entry = .ok written) :
    written.1 = entry.1 ∧ encodeUnit entry.2 = .ok written.2 := by
  obtain ⟨document, encodes, rfl⟩ := map_eq_ok.mp encoded
  exact ⟨rfl, encodes⟩

/-- The units of a document: those of the graph, encoded under their keys. -/
structure WritesUnits (graph : StructuralGraph) (units : JsonObject) : Prop where
  distinct : (units.map Prod.fst).Nodup
  related : ∀ uid, Option.Rel (fun unit document => encodeUnit unit = .ok document)
    (graph.units.get? uid) (units.lookup uid)

/-- A unit of a document is a unit of the graph. -/
theorem WritesUnits.unit {graph : StructuralGraph} {units : JsonObject}
    (writes : WritesUnits graph units) {uid : String} {document : Json}
    (listed : units.lookup uid = some document) :
    ∃ unit, graph.units.get? uid = some unit ∧ encodeUnit unit = .ok document := by
  have related := writes.related uid
  rw [listed] at related
  cases stored : graph.units.get? uid with
  | none =>
    rw [stored] at related
    cases related
  | some unit =>
    rw [stored] at related
    cases related with
    | some encoded => exact ⟨unit, rfl, encoded⟩

theorem WritesUnits.absent {graph : StructuralGraph} {units : JsonObject}
    (writes : WritesUnits graph units) {uid : String} (missing : graph.units.get? uid = none) :
    units.lookup uid = none := by
  have related := writes.related uid
  rw [missing] at related
  cases listed : units.lookup uid with
  | none => rfl
  | some document =>
    rw [listed] at related
    cases related

/-- A unit of the graph is a unit of the document. -/
theorem WritesUnits.stored {graph : StructuralGraph} {units : JsonObject}
    (writes : WritesUnits graph units) {uid : String} {unit : ComputationalUnit}
    (stored : graph.units.get? uid = some unit) :
    ∃ document, units.lookup uid = some document ∧ encodeUnit unit = .ok document := by
  have related := writes.related uid
  rw [stored] at related
  cases listed : units.lookup uid with
  | none =>
    rw [listed] at related
    cases related
  | some document =>
    rw [listed] at related
    cases related with
    | some encoded => exact ⟨document, rfl, encoded⟩

theorem keys_encodeUnitEntries {entries : List (String × ComputationalUnit)} {units : JsonObject}
    (encoded : entries.mapM encodeUnitEntry = .ok units) :
    units.map Prod.fst = entries.map Prod.fst := by
  have related := mapM_eq_ok.mp encoded
  clear encoded
  induction related with
  | nil => rfl
  | cons here _ ih => rw [List.map_cons, List.map_cons, ih, (encodeUnitEntry_eq_ok here).1]

theorem lookup_encodeUnitEntries {entries : List (String × ComputationalUnit)}
    {units : JsonObject} (encoded : entries.mapM encodeUnitEntry = .ok units) (uid : String) :
    Option.Rel (fun unit document => encodeUnit unit = .ok document) (entries.lookup uid)
      (units.lookup uid) := by
  have related := mapM_eq_ok.mp encoded
  clear encoded
  induction related with
  | nil => exact Option.Rel.none
  | cons here _ ih =>
    obtain ⟨key, encodes⟩ := encodeUnitEntry_eq_ok here
    rw [lookup_cons_ite, lookup_cons_ite, key]
    split_ifs
    · exact Option.Rel.some encodes
    · exact ih

/-- **What `toDict` writes**: the units in the order of their keys and the edges in some order. -/
theorem toDict_eq_ok {graph : StructuralGraph} {document : Json}
    (written : toDict graph = .ok document) :
    ∃ units edges, (sortBy Prod.fst graph.units.entries).mapM encodeUnitEntry = .ok units ∧
      sortEdges graph.edges = .ok edges ∧ WritesUnits graph units ∧
      edges.Perm graph.edges ∧ document = encodeGraphWith graph units edges := by
  obtain ⟨units, encoded, written⟩ := bind_eq_ok.mp written
  obtain ⟨edges, sorted, same⟩ := bind_eq_ok.mp written
  refine ⟨units, edges, encoded, sorted, ⟨?_, fun uid => ?_⟩, sortM_perm sorted,
    (Except.ok.inj same).symm⟩
  · rw [keys_encodeUnitEntries encoded, ((sortBy_perm _ _).map Prod.fst).nodup_iff]
    exact graph.units.nodup
  · have related := lookup_encodeUnitEntries encoded uid
    rw [Json.lookup_sortBy_fst] at related
    exact related

/-! ### Decoding -/

/-- A string that the check of the document has found to be one. -/
def decodeText : Json → Except PyError String
  | .str text => .ok text
  | _ => .error (.typeError "expected a string")

/-- An object that the check of the document has found to be one. -/
def decodeObject : Json → Except PyError JsonObject
  | .obj fields => .ok fields
  | _ => .error (.typeError "expected an object")

/-- A component of a version, as `GraphVersion.__post_init__` accepts it. -/
def decodeNatural (name : String) : Json → Except PyError Nat
  | .int (.ofNat value) => .ok value
  | _ => .error (.valueError s!"GraphVersion {name} MUST be a non-negative integer")

/-- `value.get(name, default)` as a member of an enumeration. -/
def decodeEnumD {α : Type} [PyEnum α] (value : Json) (name : String) (fallback : α) :
    Except PyError α := do
  PyEnum.parse (← value.getD name (enumText fallback))

/-- `value[name]` as a member of an enumeration. -/
def decodeEnum {α : Type} [PyEnum α] (value : Json) (name : String) : Except PyError α := do
  PyEnum.parse (← value.getItem name)

/-- The elements of `value.get(name, [])`. -/
def decodeItems (value : Json) (name : String) : Except PyError (List Json) := do
  (← value.getD name (.arr [])).iterate

/-- `dict(value)`. A key that is no string is rejected here; the source rejects it as a keyword. -/
def dictOf (value : Json) : Except PyError JsonObject :=
  match value with
  | .obj fields => .ok fields
  | _ => do
    (← value.iterate).foldlM (fun entries item => do
      match ← item.iterate with
      | [.str key, entry] => return setItem entries key entry
      | [_, _] => throw (.typeError "keywords must be strings")
      | _ => throw (.valueError "dictionary update sequence element has the wrong length")) []

def decodePort (value : Json) : Except PyError PortContract := do
  let portId ← value.getItem "port_id"
  let direction ← decodeEnum value "direction"
  let kind ← decodeEnum value "kind"
  let schema ← value.getD "schema" (.obj [])
  let cardinality ← decodeEnumD value "cardinality" PortCardinality.exactlyOne
  let description ← value.getD "description" (.str "")
  PortContract.build portId direction kind schema cardinality description

def decodeIdempotency (value : Json) : Except PyError IdempotencyContract := do
  let mode ← decodeEnumD value "mode" IdempotencyMode.none
  let scope ← decodeEnumD value "scope" IdempotencyScope.task
  let keyField ← value.getD "key_field" .null
  let payloadHashRequired ← value.getD "payload_hash_required" (.bool true)
  IdempotencyContract.build mode scope keyField payloadHashRequired

def decodeSideEffects (value : Json) : Except PyError SideEffectContract := do
  let classification ← decodeEnumD value "classification" SideEffectClass.none
  let effectTypes : List EffectType ← (← decodeItems value "effect_types").mapM PyEnum.parse
  let compensationAction ← value.getD "compensation_action" .null
  let minimumIsolation ← decodeEnumD value "minimum_isolation" IsolationGrade.i0None
  SideEffectContract.build classification effectTypes.toFinset compensationAction minimumIsolation

/-- An element without a hash fails in `frozenset`; here it fails as no string does. -/
def decodePlacement (value : Json) : Except PyError PlacementContract := do
  let allowedRegions ← decodeItems value "allowed_regions"
  let allowedDevices ← decodeItems value "allowed_devices"
  let allowedRuntimes ← decodeItems value "allowed_runtimes"
  let requiredCapabilities ← decodeItems value "required_capabilities"
  let preferredRegions ← decodeItems value "preferred_regions"
  let preferredDevices ← decodeItems value "preferred_devices"
  let requiresLocalInputs ← value.getD "requires_local_inputs" (.bool false)
  PlacementContract.build allowedRegions allowedDevices allowedRuntimes requiredCapabilities
    preferredRegions preferredDevices requiresLocalInputs

def decodeSecurity (value : Json) : Except PyError SecurityContract := do
  let tenantId ← value.getD "tenant_id" .null
  let requiredPermissions ← decodeItems value "required_permissions"
  let securityLabels ← decodeItems value "security_labels"
  let outputClassification ←
    decodeEnumD value "output_classification" DataClassification.internal
  let maximumInputClassification ←
    decodeEnumD value "maximum_input_classification" DataClassification.restricted
  let allowedResidencies ← decodeItems value "allowed_residencies"
  let trustZone ← value.getD "trust_zone" (.str "")
  let acceptedTrustZones ← decodeItems value "accepted_trust_zones"
  let confidentialComputeRequired ← value.getD "confidential_compute_required" (.bool false)
  SecurityContract.build tenantId requiredPermissions securityLabels outputClassification
    maximumInputClassification allowedResidencies trustZone acceptedTrustZones
    confidentialComputeRequired

/-- The keywords `UnitContract(**c_data, …)` takes besides the decoded ones. -/
def contractKeywords : List String :=
  ["input_schema", "output_schema", "preconditions", "postconditions", "resource_limits"]

/-- The keys that are popped before. -/
def contractSections : List String :=
  ["ports", "idempotency", "side_effects", "placement", "security"]

def decodeContract (value : Json) : Except PyError UnitContract := do
  let fields ← dictOf value
  let ports ← (← ((fields.lookup "ports").getD (.arr [])).iterate).mapM decodePort
  let idempotency ← decodeIdempotency ((fields.lookup "idempotency").getD (.obj []))
  let sideEffects ← decodeSideEffects ((fields.lookup "side_effects").getD (.obj []))
  let placement ← decodePlacement ((fields.lookup "placement").getD (.obj []))
  let security ← decodeSecurity ((fields.lookup "security").getD (.obj []))
  if fields.any fun field => field.1 ∉ contractKeywords ++ contractSections then
    throw (.typeError "UnitContract.__init__() got an unexpected keyword argument")
  return {
    inputSchema := (fields.lookup "input_schema").getD (.obj [])
    outputSchema := (fields.lookup "output_schema").getD (.obj [])
    preconditions := (fields.lookup "preconditions").getD (.arr [])
    postconditions := (fields.lookup "postconditions").getD (.arr [])
    resourceLimits := (fields.lookup "resource_limits").getD (.obj [])
    ports, idempotency, sideEffects, placement, security }

def decodeMutationContract (value : Json) : Except PyError MutationContract := do
  let allowedMutations ← PySet.ofList (← decodeItems value "allowed_mutations")
  let maxChildren ← value.getD "max_children" (.int 100)
  let isImmutable ← value.getD "is_immutable" (.bool false)
  return { allowedMutations, maxChildren, isImmutable }

def decodeConstraint (value : Json) : Except PyError Constraint := do
  let constraintId ← value.getItem "constraint_id"
  let tier ← decodeEnum value "tier"
  let expression ← value.getItem "expression"
  let description ← value.getItem "description"
  return { constraintId, tier, expression, description }

def decodeUnit (value : Json) : Except PyError ComputationalUnit := do
  let unitId ← UnitID.ofJson (← value.getItem "unit_id")
  let name ← decodeText (← value.getItem "name")
  let «structure» ← decodeEnum value "structure"
  let visibility ← decodeEnum value "visibility"
  let lifecycle ← decodeEnum value "lifecycle"
  let subUnits ← (← decodeItems value "sub_units").mapM UnitID.ofJson
  let metadata ← value.getD "metadata" (.obj [])
  let contract ← decodeContract (← value.getD "contract" (.obj []))
  let mutationContract ← decodeMutationContract (← value.getD "mutation_contract" (.obj []))
  let constraints ← (← decodeItems value "constraints").mapM decodeConstraint
  return {
    unitId, name, «structure», visibility, lifecycle, contract, mutationContract, constraints,
    metadata, subUnits }

def decodeEdge (value : Json) : Except PyError Edge := do
  let source ← UnitID.ofJson (← value.getItem "source")
  let target ← UnitID.ofJson (← value.getItem "target")
  let edgeType ← decodeEnum value "edge_type"
  let metadata ← value.getD "metadata" (.obj [])
  let sourcePort ← value.getD "source_port" .null
  let targetPort ← value.getD "target_port" .null
  return { source, target, edgeType, metadata, sourcePort, targetPort }

def decodeVersion (value : Json) : Except PyError GraphVersion := do
  let major ← decodeNatural "major" (← value.getD "major" (.int 1))
  let minor ← decodeNatural "minor" (← value.getD "minor" (.int 0))
  let patch ← decodeNatural "patch" (← value.getD "patch" (.int 0))
  let sequence ← decodeNatural "sequence" (← value.getD "sequence" (.int 0))
  return { major, minor, patch, sequence }

/-- The body of the loop over the units. -/
def addDecodedUnit (graph : StructuralGraph) (entry : String × Json) :
    Except PyError StructuralGraph := do
  graph.addUnit (← decodeUnit entry.2)

/-- `_from_validated_dict`. -/
def fromValidatedDict (data : Json) : Except PyError StructuralGraph := do
  let graphId ← GraphID.ofJson (← data.getItem "graph_id")
  let version ← decodeVersion (← data.getD "version" (.obj []))
  let metadata ← decodeObject (← data.getD "metadata" (.obj []))
  let units ← decodeObject (← data.getD "units" (.obj []))
  let graph ← units.foldlM addDecodedUnit { graphId, version, metadata }
  let edges ← (← decodeItems data "edges").mapM decodeEdge
  return { graph with edges := graph.edges ++ edges }

/-- The exceptions that `from_dict` translates. -/
def translated : PyError → Bool
  | .attributeError _ | .indexError _ | .keyError _ | .typeError _ | .valueError _ => true
  | _ => false

/-- `DNWIRSerializer.from_dict`. -/
def fromDict (data : Json) : Except PyError StructuralGraph := do
  validateIrDocument data
  match fromValidatedDict data with
  | .ok graph => return graph
  | .error error =>
    if translated error then throw (.dncValidationError "invalid DNC-IR document semantics")
    else throw error

/-- `DNWIRSerializer.from_json`. -/
def fromJson (text : String) : Except PyError StructuralGraph :=
  match Json.loads text with
  | some data => fromDict data
  | none => .error (.dncValidationError "DNC-IR payload MUST be valid JSON")

end Dnc
