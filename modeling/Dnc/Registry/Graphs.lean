/-
**The graph registry.**

`dnc.registry.GraphRegistry`: graphs by tenant and content reference, over the tenant-scoped object
store. `register` admits a graph (it is valid, and either nothing in it requires a context or the
given one permits it), writes it as compact JSON, reads that back and admits what it has read
(`canonicalize`); then it puts the payload into the store and describes it in a record. `load` reads
the payload of a record, admits the graph and compares its description with the record.

* `admitGraph_eq_ok`: what admission asks of a graph; it is a property of the content
  (`Admitted.of_content`).
* `canonicalize_content` — the graph that is read back has the content of the one that was given.
* `canonicalize_of_content` — a graph with the same content is written as the same payload.
* `canonicalizes_iff` — what is asked of a graph, its tenant and its context.
-/

import Dnc.Ir.Canonical
import Dnc.Ir.ExecutionContext
import Dnc.Ir.Upgrade
import Dnc.Ir.ValidContent
import Dnc.Persistence.ObjectStore

namespace Dnc.Registry

open PyLib Logic

/-! ### Bytes and references -/

/-- `text.encode("utf-8")`. -/
def encodeUtf8 (text : String) : Bytes := text.toUTF8.data.toList

/-- `data.decode("utf-8")`, where it does not raise. -/
def decodeUtf8 (data : Bytes) : Option String := String.fromUTF8? ⟨data.toArray⟩

theorem decodeUtf8_encodeUtf8 (text : String) : decodeUtf8 (encodeUtf8 text) = some text := by
  have bytes : (⟨(encodeUtf8 text).toArray⟩ : ByteArray) = text.toUTF8 := by
    unfold encodeUtf8
    rw [Array.toArray_toList]
  have valid : text.toUTF8.IsValidUTF8 := text.isValidUTF8
  unfold decodeUtf8
  rw [bytes]
  exact dif_pos valid

/-- `[0-9a-f]{64}` matches all of the text. -/
def isDigest (text : String) : Bool :=
  text.length == 64 && text.toList.all fun c =>
    ('0' ≤ c && c ≤ '9') || ('a' ≤ c && c ≤ 'f')

/-- A digest is seen by its characters. -/
theorem isDigest_of_spelled {text : String} {chars : List Char} (spelled : text = String.ofList chars)
    (long : chars.length = 64) (hex : (chars.all fun c =>
      ('0' ≤ c && c ≤ '9') || ('a' ≤ c && c ≤ 'f')) = true) : isDigest text = true := by
  rw [isDigest, length_of_spelled spelled, toList_of_spelled spelled, long, hex]
  rfl

/-- `f"sha256:{digest}"`. -/
def contentRefOf (digest : String) : String := "sha256:" ++ digest

/-- The group of `_CONTENT_REF`, where it matches all of the reference. -/
def referencedDigest (contentRef : String) : Option String :=
  let digest := String.ofList (contentRef.toList.drop 7)
  if contentRef = contentRefOf digest ∧ isDigest digest = true then some digest else none

/-- `_digest`. -/
def digestOfRef (contentRef : String) : Except PyError String :=
  match referencedDigest contentRef with
  | some digest => .ok digest
  | none => .error (.dncValidationError
      "content_ref MUST be a lowercase sha256:<digest> reference")

/-- `_validate_content_ref`. -/
def validateContentRef (contentRef : String) : Except PyError String :=
  (digestOfRef contentRef).map fun _ => contentRef

theorem contentRefOf_injective : Function.Injective contentRefOf := by
  intro first second same
  have lists := congrArg String.toList same
  unfold contentRefOf at lists
  rw [String.toList_append, String.toList_append] at lists
  exact String.toList_inj.mp (List.append_cancel_left lists)

theorem digestOfRef_contentRefOf {digest : String} (hex : isDigest digest = true) :
    digestOfRef (contentRefOf digest) = .ok digest := by
  have dropped : String.ofList ((contentRefOf digest).toList.drop 7) = digest := by
    unfold contentRefOf
    rw [String.toList_append]
    exact String.ofList_toList
  unfold digestOfRef referencedDigest
  simp only [dropped]
  rw [if_pos ⟨trivial, hex⟩]

theorem validateContentRef_contentRefOf {digest : String} (hex : isDigest digest = true) :
    validateContentRef (contentRefOf digest) = .ok (contentRefOf digest) := by
  unfold validateContentRef
  rw [digestOfRef_contentRefOf hex]
  rfl

/-! ### Admission -/

/-- `_validate_tenant`. -/
def validateTenant (tenantId : String) : Except PyError String :=
  if isNormalized tenantId = false then
    .error (.dncValidationError "tenant_id MUST be normalized and non-empty")
  else .ok tenantId

/-- `_validate_tenant_context`. -/
def validateTenantContext (tenantId : String) (context : Option ExecutionContext) :
    Except PyError String := do
  let tenant ← validateTenant tenantId
  if context.any fun context => context.tenantId != tenant then
    .error (.dncPolicyError "execution context tenant does not match registry tenant")
  else .ok tenant

/-- `_validation_message`. -/
def validationMessage (label : String) (result : ValidationResult) : String :=
  let details := "; ".intercalate (result.errors.map fun issue => s!"{issue.code}: {issue.message}")
  s!"invalid {label}: {details}"

/-- The end of `_admit_graph`, where a context is given. -/
def admitContext (graph : StructuralGraph) (context : ExecutionContext) : Except PyError Unit :=
  let execution := validateExecutionContext graph context
  if execution.isValid = false then
    .error (.dncPolicyError (validationMessage "execution context" execution))
  else .ok ()

/-- `_admit_graph`. -/
def admitGraph (graph : StructuralGraph) (context : Option ExecutionContext) :
    Except PyError Unit := do
  let structural ← validateGraph graph
  if structural.isValid = false then
    .error (.dncValidationError (validationMessage "graph" structural))
  else
    let requiresContext := graph.units.entries.any fun entry =>
      entry.2.contract.requiresExecutionContext
    match context with
    | none =>
      if requiresContext = true then
        .error (.dncPolicyError
          "governed graph registration and load require an ExecutionContext")
      else .ok ()
    | some context => admitContext graph context

/-- What admission asks: the graph is valid, and the context permits it if there is one, or nothing
in it requires one. -/
structure Admitted (graph : StructuralGraph) (context : Option ExecutionContext) : Prop where
  valid : Valid graph
  permitted : ∀ given, context = some given → Permitted graph given
  ungoverned : context = none → ¬ graph.Governed

theorem admitContext_eq_ok {graph : StructuralGraph} {context : ExecutionContext} :
    admitContext graph context = .ok () ↔ Permitted graph context := by
  unfold admitContext Permitted
  rw [guard_eq_ok, Bool.not_eq_false]
  exact and_iff_left rfl

theorem governed_iff {graph : StructuralGraph} :
    (graph.units.entries.any fun entry => entry.2.contract.requiresExecutionContext) = true ↔
      graph.Governed := by
  rw [List.any_eq_true]
  constructor
  · rintro ⟨entry, member, requires⟩
    exact ⟨entry.1, entry.2, Dict.mem_entries.mp member, requires⟩
  · rintro ⟨uid, unit, stored, requires⟩
    exact ⟨(uid, unit), Dict.mem_entries.mpr stored, requires⟩

theorem admitGraph_eq_ok {graph : StructuralGraph} {context : Option ExecutionContext} :
    admitGraph graph context = .ok () ↔ Admitted graph context := by
  unfold admitGraph
  rw [bind_eq_ok]
  cases context with
  | none =>
    simp only [guard_eq_ok, Bool.not_eq_false, governed_iff, and_true]
    constructor
    · rintro ⟨result, checked, isValid, ungoverned⟩
      exact ⟨⟨result, checked, isValid⟩, nofun, fun _ => ungoverned⟩
    · rintro ⟨⟨result, checked, isValid⟩, -, ungoverned⟩
      exact ⟨result, checked, isValid, ungoverned rfl⟩
  | some given =>
    simp only [guard_eq_ok, Bool.not_eq_false, admitContext_eq_ok]
    constructor
    · rintro ⟨result, checked, isValid, permitted⟩
      exact ⟨⟨result, checked, isValid⟩, fun _ same => Option.some.inj same ▸ permitted, nofun⟩
    · rintro ⟨⟨result, checked, isValid⟩, permitted, -⟩
      exact ⟨result, checked, isValid, permitted given rfl⟩

/-- **Graphs with the same content are admitted together.** -/
theorem Admitted.of_content {first second : StructuralGraph} {context : Option ExecutionContext}
    (same : first.content = second.content) (admitted : Admitted first context) :
    Admitted second context where
  valid := (valid_iff_of_content same).mp admitted.valid
  permitted given isContext := permitted_of_content same (admitted.permitted given isContext)
  ungoverned missing governed := admitted.ungoverned missing (governed_of_content same governed)

/-! ### Payloads -/

/-- What `register` writes: the document as compact JSON text, encoded. A document holds JSON values
only, so that writing it fails for nothing but a number with too many digits. -/
def graphPayload (graph : StructuralGraph) : Except PyError Bytes := do
  let document ← toDict graph
  if document.sortKeys.showable = false then
    .error (.dncValidationError "graph document MUST contain finite JSON data")
  else .ok (encodeUtf8 (Json.dumpsWith .compact document))

theorem graphPayload_eq_ok {graph : StructuralGraph} {payload : Bytes} :
    graphPayload graph = .ok payload ↔ ∃ document, toDict graph = .ok document ∧
      document.sortKeys.showable = true ∧
        payload = encodeUtf8 (Json.dumpsWith .compact document) := by
  unfold graphPayload
  rw [bind_eq_ok]
  refine exists_congr fun document => and_congr_right fun _ => ?_
  rw [guard_eq_ok, Bool.not_eq_false, Except.ok.injEq]
  exact and_congr_right fun _ => eq_comm

/-- The numbers of the graph's document can be written. -/
def Writable (graph : StructuralGraph) : Prop :=
  ∀ document, toDict graph = .ok document → document.sortKeys.showable = true

/-- `DNWIRSerializer.from_json(payload.decode("utf-8"))`. -/
def decodePayload (payload : Bytes) : Except PyError StructuralGraph :=
  match decodeUtf8 payload with
  | some text => fromJson text
  | none => .error (.valueError "'utf-8' codec can't decode bytes")

/-- The errors of `decodePayload` as `load` reports them. -/
def decodeRegistered (payload : Bytes) : Except PyError StructuralGraph :=
  match decodeUtf8 payload with
  | none => .error (.dncValidationError "registered graph MUST be UTF-8 JSON")
  | some text =>
    match fromJson text with
    | .ok graph => .ok graph
    | .error (.dncValidationError _) | .error (.typeError _) | .error (.valueError _) =>
      .error (.dncValidationError "registered graph MUST be valid DNC-IR JSON")
    | .error error => .error error

/-- The part of `register` before its first write: the payload, and the graph read back from it. -/
def canonicalize (graph : StructuralGraph) (tenantId : String)
    (context : Option ExecutionContext) : Except PyError (Bytes × StructuralGraph) := do
  let _ ← validateTenantContext tenantId context
  admitGraph graph context
  let payload ← graphPayload graph
  let canonicalGraph ← decodePayload payload
  admitGraph canonicalGraph context
  return (payload, canonicalGraph)

theorem decodeRegistered_of_decodePayload {payload : Bytes} {graph : StructuralGraph}
    (decodes : decodePayload payload = .ok graph) : decodeRegistered payload = .ok graph := by
  unfold decodePayload at decodes
  unfold decodeRegistered
  cases read : decodeUtf8 payload with
  | none =>
    rw [read] at decodes
    cases decodes
  | some text =>
    rw [read] at decodes
    have parses : fromJson text = .ok graph := decodes
    dsimp only
    rw [parses]

/-- What `canonicalize` has made, and what it has checked. -/
structure Canonicalizes (graph : StructuralGraph) (tenantId : String)
    (context : Option ExecutionContext) (payload : Bytes) (canonicalGraph : StructuralGraph) :
    Prop where
  tenant : validateTenantContext tenantId context = .ok tenantId
  admitted : Admitted graph context
  writes : graphPayload graph = .ok payload
  reads : decodePayload payload = .ok canonicalGraph
  readmitted : Admitted canonicalGraph context

theorem validateTenantContext_eq_ok {tenantId tenant : String} {context : Option ExecutionContext}
    (checked : validateTenantContext tenantId context = .ok tenant) : tenant = tenantId := by
  obtain ⟨_, normalized, checked⟩ := bind_eq_ok.mp checked
  obtain ⟨-, own⟩ := guard_eq_ok.mp normalized
  obtain ⟨-, same⟩ := guard_eq_ok.mp checked
  exact (Except.ok.inj same).symm.trans (Except.ok.inj own).symm

theorem canonicalize_eq_ok {graph canonicalGraph : StructuralGraph} {tenantId : String}
    {context : Option ExecutionContext} {payload : Bytes} :
    canonicalize graph tenantId context = .ok (payload, canonicalGraph) ↔
      Canonicalizes graph tenantId context payload canonicalGraph := by
  constructor
  · intro ran
    obtain ⟨tenant, checked, ran⟩ := bind_eq_ok.mp ran
    obtain ⟨_, admits, ran⟩ := bind_eq_ok.mp ran
    obtain ⟨written, writes, ran⟩ := bind_eq_ok.mp ran
    obtain ⟨read, reads, ran⟩ := bind_eq_ok.mp ran
    obtain ⟨_, readmits, same⟩ := bind_eq_ok.mp ran
    cases same
    exact ⟨validateTenantContext_eq_ok checked ▸ checked, admitGraph_eq_ok.mp admits, writes, reads,
      admitGraph_eq_ok.mp readmits⟩
  · intro made
    refine bind_eq_ok.mpr ⟨_, made.tenant, bind_eq_ok.mpr ⟨(), ?_, bind_eq_ok.mpr ⟨_, made.writes,
      bind_eq_ok.mpr ⟨_, made.reads, bind_eq_ok.mpr ⟨(), ?_, rfl⟩⟩⟩⟩⟩
    · exact admitGraph_eq_ok.mpr made.admitted
    · exact admitGraph_eq_ok.mpr made.readmitted

/-- A graph whose free-form values are JSON values, and whose sets are sets. -/
structure JsonGraph extends StructuralGraph where
  freeForm : toStructuralGraph.FreeForm
  mutations : toStructuralGraph.MutationsDistinct

/-- A payload is read as its document, in key order. -/
theorem decodePayload_of_toDict {graph : JsonGraph} {document : Json}
    (written : toDict graph.toStructuralGraph = .ok document) :
    decodePayload (encodeUtf8 (Json.dumpsWith .compact document)) = fromDict document.sortKeys := by
  unfold decodePayload
  rw [decodeUtf8_encodeUtf8]
  show fromJson _ = _
  unfold fromJson
  rw [Json.loads_dumpsWith .compact document (wellFormed_toDict graph.freeForm written)]

/-- **Nothing is lost**: the graph that is read back has the content of the one that was given. -/
theorem canonicalize_content {graph : JsonGraph} {tenantId : String}
    {context : Option ExecutionContext} {payload : Bytes} {canonicalGraph : StructuralGraph}
    (made : Canonicalizes graph.toStructuralGraph tenantId context payload canonicalGraph) :
    canonicalGraph.content = graph.content := by
  obtain ⟨document, written, -, rfl⟩ := graphPayload_eq_ok.mp made.writes
  have reads := made.reads
  rw [decodePayload_of_toDict written] at reads
  have documented : graph.Documented :=
    ⟨keysMatch_of_fromDict Json.reorders_sortKeys written reads,
      (edgesSound_of_valid made.admitted.valid).portsNamed⟩
  obtain ⟨decoded, decodes, same⟩ := fromDict_toDict Json.reorders_sortKeys documented written
  rw [reads] at decodes
  rw [Except.ok.inj decodes]
  exact same

/-- A graph with the content of one that is written can be written too. -/
theorem sortable_of_content {graph other : StructuralGraph} {document : Json}
    (written : toDict graph = .ok document) (distinct : graph.MutationsDistinct)
    (same : graph.content = other.content) : other.Sortable := by
  intro uid unit stored
  obtain ⟨origin, storedOrigin, alike⟩ := stored_of_content same stored
  obtain ⟨units, edges, -, -, writes, -, -⟩ := toDict_eq_ok written
  obtain ⟨unitDocument, -, encoded⟩ := writes.stored storedOrigin
  obtain ⟨allowed, sorts, -⟩ := map_eq_ok.mp encoded
  have elems : PySet.Same origin.mutationContract.allowedMutations
      unit.mutationContract.allowedMutations :=
    Quotient.exact (congrArg UnitContent.allowedMutations alike)
  exact ⟨allowed, (distinct uid origin storedOrigin).sorted_congr elems ▸ sorts⟩

/-- **Equal graphs have one payload**: what is made of a graph is made of every graph with the same
content. -/
theorem canonicalize_of_content {graph other : JsonGraph} {tenantId : String}
    {context : Option ExecutionContext} {payload : Bytes} {canonicalGraph : StructuralGraph}
    (same : graph.content = other.content)
    (made : Canonicalizes graph.toStructuralGraph tenantId context payload canonicalGraph) :
    Canonicalizes other.toStructuralGraph tenantId context payload canonicalGraph where
  tenant := made.tenant
  admitted := made.admitted.of_content same
  writes := by
    obtain ⟨document, written, shown, rfl⟩ := graphPayload_eq_ok.mp made.writes
    have sound := edgesSound_of_valid made.admitted.valid
    have soundOther := edgesSound_of_valid (made.admitted.of_content same).valid
    obtain ⟨documentOther, writtenOther⟩ :=
      toDict_total (sortable_of_content written graph.mutations same) soundOther.portsNamed
    have sorted := document_eq_of_content written writtenOther graph.mutations sound soundOther same
    refine graphPayload_eq_ok.mpr ⟨documentOther, writtenOther, sorted ▸ shown, ?_⟩
    unfold Json.dumpsWith
    rw [sorted]
  reads := made.reads
  readmitted := made.readmitted

/-- What `register` asks of its arguments. -/
structure Acceptable (graph : StructuralGraph) (tenantId : String)
    (context : Option ExecutionContext) : Prop where
  tenant : validateTenantContext tenantId context = .ok tenantId
  admitted : Admitted graph context
  keys : graph.KeysMatch
  sortable : graph.Sortable
  writable : Writable graph

/-- **What is canonicalized**: every acceptable graph, and no other. -/
theorem canonicalizes_iff {graph : JsonGraph} {tenantId : String}
    {context : Option ExecutionContext} :
    (∃ payload canonicalGraph,
        Canonicalizes graph.toStructuralGraph tenantId context payload canonicalGraph) ↔
      Acceptable graph.toStructuralGraph tenantId context := by
  constructor
  · rintro ⟨payload, canonicalGraph, made⟩
    obtain ⟨document, written, shown, rfl⟩ := graphPayload_eq_ok.mp made.writes
    have reads := made.reads
    rw [decodePayload_of_toDict written] at reads
    refine ⟨made.tenant, made.admitted, keysMatch_of_fromDict Json.reorders_sortKeys written reads,
      sortable_of_content written graph.mutations rfl, fun other writtenOther => ?_⟩
    rw [← Except.ok.inj (written.symm.trans writtenOther)]
    exact shown
  · intro acceptable
    have ports := (edgesSound_of_valid acceptable.admitted.valid).portsNamed
    obtain ⟨document, written⟩ := toDict_total acceptable.sortable ports
    obtain ⟨decoded, decodes, same⟩ :=
      fromDict_toDict Json.reorders_sortKeys ⟨acceptable.keys, ports⟩ written
    have writes := graphPayload_eq_ok.mpr ⟨_, written, acceptable.writable _ written, rfl⟩
    exact ⟨_, decoded, acceptable.tenant, acceptable.admitted, writes,
      (decodePayload_of_toDict written).trans decodes, acceptable.admitted.of_content same.symm⟩

/-! ### Records -/

structure GraphRecord where
  contentRef : String
  tenantId : String
  graphId : String
  graphVersion : String
  schemaId : String
  schemaVersion : String
  unitCount : Nat
  edgeCount : Nat
deriving DecidableEq

/-- The record of a graph under a reference. -/
def graphRecord (contentRef tenantId : String) (graph : StructuralGraph) : GraphRecord where
  contentRef := contentRef
  tenantId := tenantId
  graphId := graph.graphId.value
  graphVersion := toString graph.version
  schemaId := dncIrSchemaId
  schemaVersion := dncIrSchemaVersion
  unitCount := graph.units.length
  edgeCount := graph.edges.length

structure GraphRegistry where
  objectStore : ContentAddressedObjectStore
  records : Dict (String × String) GraphRecord := ∅

namespace GraphRegistry

variable (digestOf : Bytes → String)

/-- The record of a graph whose payload was put under a digest, unless it conflicts with the one
that is there. -/
def newRecord (registry : GraphRegistry) (digest tenantId : String) (graph : StructuralGraph) :
    Except PyError GraphRecord := do
  let contentRef ← validateContentRef (contentRefOf digest)
  let record := graphRecord contentRef tenantId graph
  if (registry.records.get? (tenantId, contentRef)).any fun previous => previous != record then
    .error (.dncValidationError "graph content conflicts with its registered descriptor")
  else .ok record

/-- `GraphRegistry.register`, given `hashlib.sha256(data).hexdigest()`. A call that fails after its
payload was put leaves the payload in the store. -/
def register (registry : GraphRegistry) (graph : StructuralGraph) (tenantId : String)
    (context : Option ExecutionContext) : GraphRegistry × Except PyError GraphRecord :=
  match canonicalize graph tenantId context with
  | .error error => (registry, .error error)
  | .ok (payload, canonicalGraph) =>
    let (objectStore, digest) := registry.objectStore.put digestOf payload tenantId
    match registry.newRecord digest tenantId canonicalGraph with
    | .error error => ({ registry with objectStore }, .error error)
    | .ok record =>
      ({ objectStore, records := registry.records.set (tenantId, record.contentRef) record },
        .ok record)

/-- `GraphRegistry.record`. -/
def record (registry : GraphRegistry) (contentRef tenantId : String) :
    Except PyError GraphRecord := do
  let tenant ← validateTenant tenantId
  let reference ← validateContentRef contentRef
  match registry.records.get? (tenant, reference) with
  | some record => return record
  | none => .error (.keyError "unknown tenant-scoped graph")

/-- `GraphRegistry.load`. -/
def load (registry : GraphRegistry) (contentRef tenantId : String)
    (context : Option ExecutionContext) : Except PyError StructuralGraph := do
  let tenant ← validateTenantContext tenantId context
  let record ← registry.record contentRef tenant
  let digest ← digestOfRef record.contentRef
  let payload ← registry.objectStore.get digestOf digest tenant
  let graph ← decodeRegistered payload
  admitGraph graph context
  if graphRecord record.contentRef tenant graph ≠ record then
    .error (.dncValidationError "registered graph descriptor does not match stored content")
  else return graph

end GraphRegistry

end Dnc.Registry
