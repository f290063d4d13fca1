/-
**Serialization round trip.**

`fromDict_toDict`: a document that `toDict` wrote, in any order of its keys, is accepted and decodes
to a graph with the same content, provided that every unit is stored under its own identifier and
that the ports of edges are strings or absent (`Documented`). `toDict_total` says when there is a
document to begin with: the sets of allowed mutations must be sortable.

`serialization_roundtrip` is both for a graph and its document, and for its JSON text.

Schemas, conditions, limits, metadata and the texts of constraints are JSON values that nothing
checks. A Python dictionary holds a key once; for a free-form value that is `Json.wellFormed`, and
`FreeForm` says it of every free-form value of a graph. The document of such a graph is well formed
too (`wellFormed_toDict`), and so can be printed and read again.
-/

import Dnc.Ir.Acceptance
import Dnc.Ir.Serialization

namespace Dnc

open PyLib Json

structure ComputationalUnit.FreeForm (unit : ComputationalUnit) : Prop where
  inputSchema : unit.contract.inputSchema.wellFormed = true
  outputSchema : unit.contract.outputSchema.wellFormed = true
  preconditions : unit.contract.preconditions.wellFormed = true
  postconditions : unit.contract.postconditions.wellFormed = true
  resourceLimits : unit.contract.resourceLimits.wellFormed = true
  schemas : ∀ port ∈ unit.contract.ports, (Json.obj port.schema).wellFormed = true
  maxChildren : unit.mutationContract.maxChildren.wellFormed = true
  isImmutable : unit.mutationContract.isImmutable.wellFormed = true
  constraints : ∀ constraint ∈ unit.constraints, constraint.constraintId.wellFormed = true ∧
    constraint.expression.wellFormed = true ∧ constraint.description.wellFormed = true
  metadata : unit.metadata.wellFormed = true

structure Edge.FreeForm (edge : Edge) : Prop where
  metadata : edge.metadata.wellFormed = true
  sourcePort : edge.sourcePort.wellFormed = true
  targetPort : edge.targetPort.wellFormed = true

structure StructuralGraph.FreeForm (graph : StructuralGraph) : Prop where
  metadata : (Json.obj graph.metadata).wellFormed = true
  units : ∀ uid unit, graph.units.get? uid = some unit → unit.FreeForm
  edges : ∀ edge ∈ graph.edges, edge.FreeForm

theorem wellFormed_optionalText (text? : Option String) :
    (optionalText text?).wellFormed = true := by
  cases text? <;> rfl

theorem wellFormed_textList (texts : List String) : (textList texts).wellFormed = true := by
  refine (wellFormed_arr _).mpr fun item member => ?_
  obtain ⟨text, -, rfl⟩ := List.mem_map.mp member
  rfl

theorem wellFormed_hashable {value : Json} (hashed : value.hashable = true) :
    value.wellFormed = true := by
  cases value <;> first | rfl | simp [Json.hashable] at hashed

theorem wellFormed_encodePort {port : PortContract}
    (schema : (Json.obj port.schema).wellFormed = true) : (encodePort port).wellFormed = true := by
  rw [encodePort, wellFormed_obj]
  refine ⟨by simp, ?_⟩
  simp only [List.forall_mem_cons]
  exact ⟨rfl, rfl, rfl, schema, rfl, rfl, List.forall_mem_nil _⟩

theorem wellFormed_encodeContract {unit : ComputationalUnit} (freeForm : unit.FreeForm) :
    (encodeContract unit.contract).wellFormed = true := by
  have ports : (Json.arr (unit.contract.ports.map encodePort)).wellFormed = true := by
    refine (wellFormed_arr _).mpr fun item member => ?_
    obtain ⟨port, listed, rfl⟩ := List.mem_map.mp member
    exact wellFormed_encodePort (freeForm.schemas port listed)
  have idempotency : (encodeIdempotency unit.contract.idempotency).wellFormed = true := by
    rw [encodeIdempotency, wellFormed_obj]
    refine ⟨by simp, ?_⟩
    simp only [List.forall_mem_cons]
    exact ⟨rfl, rfl, wellFormed_optionalText _, rfl, List.forall_mem_nil _⟩
  have sideEffects : (encodeSideEffects unit.contract.sideEffects).wellFormed = true := by
    rw [encodeSideEffects, wellFormed_obj]
    refine ⟨by simp, ?_⟩
    simp only [List.forall_mem_cons]
    exact ⟨rfl, wellFormed_textList _, wellFormed_optionalText _, rfl, List.forall_mem_nil _⟩
  have placement : (encodePlacement unit.contract.placement).wellFormed = true := by
    rw [encodePlacement, wellFormed_obj]
    refine ⟨by simp, ?_⟩
    simp only [List.forall_mem_cons]
    exact ⟨wellFormed_textList _, wellFormed_textList _, wellFormed_textList _,
      wellFormed_textList _, wellFormed_textList _, wellFormed_textList _, rfl,
      List.forall_mem_nil _⟩
  have security : (encodeSecurity unit.contract.security).wellFormed = true := by
    rw [encodeSecurity, wellFormed_obj]
    refine ⟨by simp, ?_⟩
    simp only [List.forall_mem_cons]
    exact ⟨wellFormed_optionalText _, wellFormed_textList _, wellFormed_textList _, rfl, rfl,
      wellFormed_textList _, rfl, wellFormed_textList _, rfl, List.forall_mem_nil _⟩
  rw [encodeContract, wellFormed_obj]
  refine ⟨by simp, ?_⟩
  simp only [List.forall_mem_cons]
  exact ⟨freeForm.inputSchema, freeForm.outputSchema, freeForm.preconditions,
    freeForm.postconditions, freeForm.resourceLimits, ports, idempotency, sideEffects, placement,
    security, List.forall_mem_nil _⟩

theorem wellFormed_encodeUnit {unit : ComputationalUnit} (freeForm : unit.FreeForm)
    {document : Json} (encoded : encodeUnit unit = .ok document) : document.wellFormed = true := by
  obtain ⟨allowed, perm, rfl⟩ := encodeUnit_eq_ok encoded
  have mutation : (encodeMutationContract unit.mutationContract allowed).wellFormed = true := by
    rw [encodeMutationContract, wellFormed_obj]
    refine ⟨by simp, ?_⟩
    simp only [List.forall_mem_cons]
    refine ⟨(wellFormed_arr _).mpr fun item member => ?_, freeForm.maxChildren,
      freeForm.isImmutable, List.forall_mem_nil _⟩
    exact wellFormed_hashable
      (unit.mutationContract.allowedMutations.hashable item (perm.mem_iff.mp member))
  have constraints : (Json.arr (unit.constraints.map encodeConstraint)).wellFormed = true := by
    refine (wellFormed_arr _).mpr fun item member => ?_
    obtain ⟨constraint, listed, rfl⟩ := List.mem_map.mp member
    obtain ⟨constraintId, expression, description⟩ := freeForm.constraints constraint listed
    rw [encodeConstraint, wellFormed_obj]
    refine ⟨by simp, ?_⟩
    simp only [List.forall_mem_cons]
    exact ⟨constraintId, rfl, expression, description, List.forall_mem_nil _⟩
  rw [encodeUnitWith, wellFormed_obj]
  refine ⟨by simp, ?_⟩
  simp only [List.forall_mem_cons]
  exact ⟨rfl, rfl, rfl, rfl, rfl, wellFormed_encodeContract freeForm, mutation, constraints,
    freeForm.metadata, wellFormed_textList _, List.forall_mem_nil _⟩

theorem wellFormed_encodeEdge {edge : Edge} (freeForm : edge.FreeForm) :
    (encodeEdge edge).wellFormed = true := by
  rw [encodeEdge, wellFormed_obj]
  refine ⟨by simp, ?_⟩
  simp only [List.forall_mem_cons]
  exact ⟨rfl, rfl, rfl, freeForm.metadata, freeForm.sourcePort, freeForm.targetPort,
    List.forall_mem_nil _⟩

/-- **The document of a graph with well-formed free-form values is well formed.** -/
theorem wellFormed_toDict {graph : StructuralGraph} (freeForm : graph.FreeForm) {document : Json}
    (written : toDict graph = .ok document) : document.wellFormed = true := by
  obtain ⟨units, edges, -, -, writes, perm, rfl⟩ := toDict_eq_ok written
  have unitsFormed : (Json.obj units).wellFormed = true := by
    refine (wellFormed_obj _).mpr ⟨writes.distinct, fun ⟨uid, unit⟩ member => ?_⟩
    obtain ⟨origin, stored, encoded⟩ := writes.unit ((mem_iff_lookup writes.distinct).mp member)
    exact wellFormed_encodeUnit (freeForm.units uid origin stored) encoded
  have edgesFormed : (Json.arr (edges.map encodeEdge)).wellFormed = true := by
    refine (wellFormed_arr _).mpr fun item member => ?_
    obtain ⟨edge, listed, rfl⟩ := List.mem_map.mp member
    exact wellFormed_encodeEdge (freeForm.edges edge (perm.mem_iff.mp listed))
  have version : (encodeVersion graph.version).wellFormed = true := by
    rw [encodeVersion, wellFormed_obj]
    refine ⟨by simp, ?_⟩
    simp only [List.forall_mem_cons]
    exact ⟨rfl, rfl, rfl, rfl, List.forall_mem_nil _⟩
  rw [encodeGraphWith, wellFormed_obj]
  refine ⟨by simp [schemaHeader], ?_⟩
  simp only [schemaHeader, List.cons_append, List.nil_append, List.forall_mem_cons]
  exact ⟨rfl, rfl, rfl, rfl, version, unitsFormed, edgesFormed, freeForm.metadata,
    List.forall_mem_nil _⟩

open Logic

/-! ### When there is a document -/

/-- A port as a string. -/
def portText (port : Json) : String := port.text?.getD ""

/-- The sort key of an edge, as strings. -/
def Edge.keyTexts (edge : Edge) : List String :=
  [edge.source.value, edge.target.value, PyEnum.value edge.edgeType, portText edge.sourcePort,
    portText edge.targetPort]

theorem portOrEmpty_optionalText (text? : Option String) :
    portOrEmpty (optionalText text?) = .str (portText (optionalText text?)) := by
  cases text? with
  | none => rfl
  | some text =>
    by_cases empty : text = ""
    · subst empty
      rfl
    · have truthy : (Json.str text).truthy = true := by simp [Json.truthy, empty]
      exact if_pos truthy

theorem Edge.PortsNamed.sortKey_eq {edge : Edge} (named : edge.PortsNamed) :
    edge.sortKey = .arr (edge.keyTexts.map .str) := by
  obtain ⟨⟨source?, source⟩, ⟨target?, target⟩⟩ := named
  unfold Edge.sortKey Edge.keyTexts
  rw [source, target, portOrEmpty_optionalText, portOrEmpty_optionalText]
  rfl

/-- Edges whose ports are strings or absent can be sorted. -/
theorem sortEdges_of_named {edges : List Edge} (named : ∀ edge ∈ edges, edge.PortsNamed) :
    sortEdges edges = .ok (sortBy Edge.keyTexts edges) := by
  refine sortM_eq_sortBy fun first inFirst second inSecond => ?_
  rw [(named first inFirst).sortKey_eq, (named second inSecond).sortKey_eq]
  exact (less_texts _ _).trans (congrArg Except.ok (decide_eq_decide.mpr Iff.rfl))

/-- Every set of allowed mutations can be sorted. -/
def StructuralGraph.Sortable (graph : StructuralGraph) : Prop :=
  ∀ uid unit, graph.units.get? uid = some unit →
    ∃ allowed, unit.mutationContract.allowedMutations.sorted = .ok allowed

/-- The units are stored under their own identifiers, and the ports of edges are strings or
absent. -/
structure StructuralGraph.Documented (graph : StructuralGraph) : Prop where
  keys : graph.KeysMatch
  ports : ∀ edge ∈ graph.edges, edge.PortsNamed

theorem toDict_total {graph : StructuralGraph} (sortable : graph.Sortable)
    (ports : ∀ edge ∈ graph.edges, edge.PortsNamed) : ∃ document, toDict graph = .ok document := by
  have each : ∀ entry ∈ sortBy Prod.fst graph.units.entries,
      ∃ written, encodeUnitEntry entry = .ok written := by
    rintro ⟨uid, unit⟩ member
    obtain ⟨allowed, sorts⟩ := sortable uid unit (Dict.mem_entries.mp (mem_sortBy.mp member))
    exact ⟨(uid, encodeUnitWith unit allowed), by
      rw [encodeUnitEntry, encodeUnit, sorts]
      rfl⟩
  obtain ⟨units, encoded⟩ := mapM_total each
  refine ⟨encodeGraphWith graph units (sortBy Edge.keyTexts graph.edges), ?_⟩
  rw [toDict, encoded, sortEdges_of_named ports]
  rfl

/-! ### The document is accepted -/

section Reading

variable {t : Json → Json} (reorders : Reorders t)

include reorders

theorem validateIrDocument_encodeGraphWith {graph : StructuralGraph} {units : JsonObject}
    {edges : List Edge} (keys : graph.KeysMatch) (writes : WritesUnits graph units)
    (named : ∀ edge ∈ edges, edge.PortsNamed) :
    validateIrDocument (t (encodeGraphWith graph units edges)) = .ok () := by
  have found : ∀ {key : String} {value read : Json},
      (Schema.entriesOf (encodeGraphWith graph units edges)).lookup key = some value →
      t value = read →
      (Schema.entriesOf (t (encodeGraphWith graph units edges))).lookup key = some read :=
    Schema.lookup_reordered reorders
  have header := validateSchemaHeader_current (found rfl (reorders.str _))
    (found rfl (reorders.str _)) (found rfl (reorders.str _))
  have graphId : (Schema.entriesOf (t (encodeGraphWith graph units edges))).lookup "graph_id" =
      some (.str graph.graphId.value) := found rfl (reorders.str _)
  have version : (Schema.entriesOf (t (encodeGraphWith graph units edges))).lookup "version" =
      some (t (encodeVersion graph.version)) := found rfl rfl
  have unitsFound : (Schema.entriesOf (t (encodeGraphWith graph units edges))).lookup "units" =
      some (t (.obj units)) := found rfl rfl
  have edgesFound : (Schema.entriesOf (t (encodeGraphWith graph units edges))).lookup "edges" =
      some (.arr ((edges.map encodeEdge).map t)) := found rfl (reorders.arr _)
  have metadata : (Schema.entriesOf (t (encodeGraphWith graph units edges))).lookup "metadata" =
      some (t (.obj graph.metadata)) := found rfl rfl
  have text : Schema.isString (.str graph.graphId.value) = true := rfl
  have nonEmpty : ¬ Json.str graph.graphId.value = .str "" := fun empty =>
    isNormalized_ne_empty graph.graphId.normalized (Json.str.inj empty)
  have parts : Schema.validateParts true
      (Schema.entriesOf (t (encodeGraphWith graph units edges))) = .ok () := by
    have part : ∀ {field : String} {value : Json} {expected : Json → Bool} {name : String},
        (Schema.entriesOf (t (encodeGraphWith graph units edges))).lookup field = some value →
        expected value = true →
        (Schema.requireType (Schema.entriesOf (t (encodeGraphWith graph units edges))) field
          expected name "document").map (fun _ => ()) = .ok () := by
      intro field value expected name present typed
      rw [Schema.requireType_of_lookup present typed]
      rfl
    refine forM_eq_ok.mpr ?_
    simp only [List.forall_mem_cons, if_true]
    exact ⟨part version (Schema.isObject_reordered reorders rfl),
      part unitsFound (Schema.isObject_reordered reorders rfl), part edgesFound rfl,
      part metadata (Schema.isObject_reordered reorders rfl), nofun⟩
  have eachUnit : (Schema.entriesOf (t (.obj units))).forM
      (Schema.validateUnit (some currentSchemaVersion)) = .ok () := by
    obtain ⟨entries, object, perm, -⟩ := reorders.obj units
    rw [object]
    refine forM_eq_ok.mpr fun entry member => ?_
    obtain ⟨⟨uid, document⟩, listed, rfl⟩ := List.mem_map.mp (perm.mem_iff.mp member)
    obtain ⟨unit, stored, encoded⟩ := writes.unit ((mem_iff_lookup writes.distinct).mp listed)
    obtain ⟨allowed, -, rfl⟩ := encodeUnit_eq_ok encoded
    rw [← keys uid unit stored]
    exact Schema.validateUnit_encodeUnit reorders _ unit allowed
  have eachEdge : ((edges.map encodeEdge).map t).zipIdx.forM (fun entry =>
      Schema.validateEdge (some currentSchemaVersion) s!"edges.{entry.2}" entry.1) = .ok () := by
    refine forM_eq_ok.mpr fun entry member => ?_
    have listed := List.fst_mem_of_mem_zipIdx member
    rw [List.map_map] at listed
    obtain ⟨origin, inEdges, written⟩ := List.mem_map.mp listed
    rw [← written]
    exact Schema.validateEdge_encodeEdge reorders _ _ (named origin inEdges)
  have fields : Schema.validateFields (Schema.entriesOf (t (encodeGraphWith graph units edges))) =
      .ok () := by
    unfold Schema.validateFields
    simp only [header, Schema.requireType_of_lookup graphId text, nonEmpty, if_false, parts,
      version, unitsFound, edgesFound, Option.isSome_some, Option.getD_some, Schema.itemsOf,
      Schema.validateVersion_encodeVersion reorders, eachUnit, eachEdge, bind, Except.bind]
  obtain ⟨entries, object, -, -⟩ :=
    reorders.obj (Schema.entriesOf (encodeGraphWith graph units edges))
  have object : t (encodeGraphWith graph units edges) = .obj entries := object
  rw [object] at fields ⊢
  exact fields

end Reading

/-! ### Decoding the document -/

/-- The loop over the units of a document, whose keys are distinct and name the units. -/
theorem foldlM_addDecodedUnit {entries : JsonObject} (distinct : (entries.map Prod.fst).Nodup)
    (decodes : ∀ entry ∈ entries, ∃ unit, decodeUnit entry.2 = .ok unit ∧
      unit.unitId.value = entry.1) (graph : StructuralGraph)
    (fresh : ∀ entry ∈ entries, entry.1 ∉ graph.units) :
    ∃ units, entries.foldlM addDecodedUnit graph = .ok { graph with units } ∧
      ∀ uid, units.get? uid = match entries.lookup uid with
        | some document => (decodeUnit document).toOption
        | none => graph.units.get? uid := by
  induction entries generalizing graph with
  | nil => exact ⟨graph.units, rfl, fun uid => rfl⟩
  | cons entry rest ih =>
    obtain ⟨unit, here, key⟩ := decodes entry List.mem_cons_self
    rw [List.map_cons, List.nodup_cons] at distinct
    have added : addDecodedUnit graph entry =
        .ok { graph with units := graph.units.set entry.1 unit } := by
      have absent := fresh entry List.mem_cons_self
      rw [← key] at absent ⊢
      rw [addDecodedUnit, here]
      exact if_neg absent
    have later : ∀ other ∈ rest, other.1 ∉ graph.units.set entry.1 unit := by
      intro other member present
      rcases Dict.mem_set.mp present with same | old
      · exact distinct.1 (same ▸ List.mem_map_of_mem member)
      · exact fresh other (List.mem_cons_of_mem _ member) old
    obtain ⟨units, adds, lookups⟩ := ih distinct.2
      (fun other member => decodes other (List.mem_cons_of_mem _ member))
      { graph with units := graph.units.set entry.1 unit } later
    refine ⟨units, ?_, fun uid => ?_⟩
    · rw [List.foldlM_cons, added]
      exact adds
    · rw [lookups uid, lookup_cons_ite]
      by_cases same : uid = entry.1
      · have unlisted : rest.lookup uid = none :=
          lookup_eq_none.mpr fun listed => distinct.1 (same ▸ listed)
        rw [unlisted, if_pos same, same]
        show (graph.units.set entry.1 unit).get? entry.1 = (decodeUnit entry.2).toOption
        rw [here]
        exact Dict.get?_set_self _ _ _
      · rw [if_neg same]
        cases found : rest.lookup uid with
        | some document => rfl
        | none => exact Dict.get?_set_of_ne _ same _

section Reading

variable {t : Json → Json} (reorders : Reorders t)

include reorders

theorem decodeVersion_encodeVersion (version : GraphVersion) :
    decodeVersion (t (encodeVersion version)) = .ok version := by
  simp only [decodeVersion, encodeVersion, getD_reordered reorders, List.lookup_cons,
    String.reduceBEq, bind, Except.bind, Option.map_some, Option.getD_some, reorders.int]
  rfl

/-- Every unit of a document decodes, with the content of its unit. -/
theorem decodeUnit_written {graph : StructuralGraph} (keys : graph.KeysMatch) {uid : String}
    {unit : ComputationalUnit} (stored : graph.units.get? uid = some unit) {document : Json}
    (encoded : encodeUnit unit = .ok document) :
    ∃ decoded, decodeUnit (t document) = .ok decoded ∧ decoded.content = unit.content ∧
      decoded.unitId.value = uid := by
  obtain ⟨decoded, decodes, same⟩ := decodeUnit_encodeUnit reorders encoded
  have unitId : decoded.unitId = unit.unitId := congrArg UnitContent.unitId same
  exact ⟨decoded, decodes, same, by rw [unitId, keys uid unit stored]⟩

theorem fromValidatedDict_encodeGraphWith {graph : StructuralGraph} {units : JsonObject}
    {edges : List Edge} (keys : graph.KeysMatch) (writes : WritesUnits graph units)
    (perm : edges.Perm graph.edges) :
    ∃ decoded, fromValidatedDict (t (encodeGraphWith graph units edges)) = .ok decoded ∧
      decoded.content = graph.content := by
  obtain ⟨entries, object, permEntries, lookups⟩ := reorders.obj units
  obtain ⟨metadata, metadataObject, -, -⟩ := reorders.obj graph.metadata
  obtain ⟨items, decodedEdges, iterates, decodesEdges, sameEdges⟩ :=
    decodeList_reordered reorders edges fun edge _ => decodeEdge_encodeEdge reorders edge
  have distinct : (entries.map Prod.fst).Nodup := by
    have keysOf : (units.map (mapEntry t)).map Prod.fst = units.map Prod.fst := by
      rw [List.map_map]
      rfl
    rw [(permEntries.map Prod.fst).nodup_iff, keysOf]
    exact writes.distinct
  have decodes : ∀ entry ∈ entries, ∃ unit, decodeUnit entry.2 = .ok unit ∧
      unit.unitId.value = entry.1 := by
    intro entry member
    obtain ⟨⟨uid, document⟩, listed, rfl⟩ := List.mem_map.mp (permEntries.mem_iff.mp member)
    obtain ⟨unit, stored, encoded⟩ := writes.unit ((mem_iff_lookup writes.distinct).mp listed)
    obtain ⟨decoded, decodes, -, key⟩ := decodeUnit_written reorders keys stored encoded
    exact ⟨decoded, decodes, key⟩
  obtain ⟨decodedUnits, adds, decodedLookups⟩ := foldlM_addDecodedUnit distinct decodes
    { graphId := graph.graphId, version := graph.version, metadata := metadata }
    fun _ _ => List.not_mem_nil
  refine ⟨{ graph with units := decodedUnits, edges := decodedEdges, metadata := metadata },
    ?_, ?_⟩
  · simp only [fromValidatedDict, encodeGraphWith, schemaHeader, List.cons_append, List.nil_append,
      decodeItems, getItem_reordered reorders, getD_reordered reorders, List.lookup_cons,
      String.reduceBEq, bind, Except.bind, Option.map_some, Option.getD_some, reorders.str,
      GraphID.ofJson_value, decodeVersion_encodeVersion reorders, object, metadataObject,
      decodeObject, adds, iterates, decodesEdges]
    rfl
  · have units : ∀ uid, (decodedUnits.get? uid).map ComputationalUnit.content =
        (graph.units.get? uid).map ComputationalUnit.content := by
      intro uid
      rw [decodedLookups uid, lookups uid]
      cases stored : graph.units.get? uid with
      | none =>
        rw [writes.absent stored]
        rfl
      | some unit =>
        obtain ⟨document, listed, encoded⟩ := writes.stored stored
        obtain ⟨decoded, decodes, same, -⟩ := decodeUnit_written reorders keys stored encoded
        rw [listed]
        show (decodeUnit (t document)).toOption.map _ = _
        rw [decodes]
        exact congrArg some same
    have metadataSame : (Json.obj metadata).sortKeys = (Json.obj graph.metadata).sortKeys := by
      rw [← metadataObject]
      exact reorders.same _
    have edgesSame : ((decodedEdges.map Edge.content : List Edge) : Multiset Edge) =
        (graph.edges.map Edge.content : List Edge) := by
      rw [sameEdges]
      exact Quot.sound (perm.map Edge.content)
    unfold StructuralGraph.content
    rw [metadataSame, funext units]
    exact congrArg (fun edges => (⟨graph.graphId, graph.version, _, edges, _⟩ : GraphContent))
      edgesSame

/-- **Decoding a written document** gives a graph with the same content, in any key order. -/
theorem fromDict_toDict {graph : StructuralGraph} {document : Json}
    (documented : graph.Documented) (written : toDict graph = .ok document) :
    ∃ decoded, fromDict (t document) = .ok decoded ∧ decoded.content = graph.content := by
  obtain ⟨units, edges, -, -, writes, perm, rfl⟩ := toDict_eq_ok written
  have accepted := validateIrDocument_encodeGraphWith reorders documented.keys writes
    fun edge member => documented.ports edge (perm.mem_iff.mp member)
  obtain ⟨decoded, decodes, same⟩ :=
    fromValidatedDict_encodeGraphWith reorders documented.keys writes perm
  refine ⟨decoded, ?_, same⟩
  rw [fromDict, accepted, decodes]
  rfl

end Reading

/-- **Serialization loses nothing**: a graph of the declared types is written, and what was written
is accepted and decodes to a graph with the same content, as a document and as JSON text. -/
theorem serialization_roundtrip (graph : StructuralGraph) (documented : graph.Documented)
    (sortable : graph.Sortable) (freeForm : graph.FreeForm) :
    (∃ document decoded, toDict graph = .ok document ∧ fromDict document = .ok decoded ∧
      decoded.content = graph.content) ∧
    ∃ text decoded, toJson graph = .ok text ∧ fromJson text = .ok decoded ∧
      decoded.content = graph.content := by
  obtain ⟨document, written⟩ := toDict_total sortable documented.ports
  constructor
  · obtain ⟨decoded, decodes, same⟩ := fromDict_toDict reorders_id documented written
    exact ⟨document, decoded, written, decodes, same⟩
  · obtain ⟨decoded, decodes, same⟩ := fromDict_toDict reorders_sortKeys documented written
    refine ⟨document.dumps, decoded, ?_, ?_, same⟩
    · rw [toJson, written]
      rfl
    · rw [fromJson, loads_dumps _ (wellFormed_toDict freeForm written)]
      exact decodes

namespace Sample

theorem documented_graph : graph.Documented where
  keys uid unit stored := by
    obtain ⟨unitId, rfl, rfl⟩ := stored_in_graph stored
    rfl
  ports edge member := by
    rw [List.mem_singleton.mp member]
    exact ⟨⟨none, rfl⟩, ⟨none, rfl⟩⟩

theorem sortable_graph : graph.Sortable := by
  intro uid unit stored
  obtain ⟨unitId, rfl, rfl⟩ := stored_in_graph stored
  exact ⟨_, rfl⟩

theorem freeForm_graph : graph.FreeForm where
  metadata := rfl
  units uid unit stored := by
    obtain ⟨unitId, rfl, rfl⟩ := stored_in_graph stored
    exact ⟨rfl, rfl, rfl, rfl, rfl, nofun, rfl, rfl, nofun, rfl⟩
  edges edge member := by
    rw [List.mem_singleton.mp member]
    exact ⟨rfl, rfl, rfl⟩

end Sample

theorem serialization_roundtrip_sample :
    (∃ document decoded, toDict Sample.graph = .ok document ∧ fromDict document = .ok decoded ∧
      decoded.content = Sample.graph.content) ∧
    ∃ text decoded, toJson Sample.graph = .ok text ∧ fromJson text = .ok decoded ∧
      decoded.content = Sample.graph.content :=
  serialization_roundtrip Sample.graph Sample.documented_graph Sample.sortable_graph
    Sample.freeForm_graph

end Dnc
