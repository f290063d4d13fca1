/-
**Upgrade on re-encoding.**

`fromDict` accepts documents of four versions, and the decoder is lenient where the check of the
version is. Whatever was accepted gives a graph whose units are stored under their own identifiers,
so only two things can keep the graph from being written and read again as a current document:

* a set of allowed mutations whose elements do not compare, which `toDict` cannot sort (no version
  checks the mutation contract);
* an edge port that is neither a string nor absent, which the current check rejects (only the two
  latest versions check ports).

`upgrade_iff` says that these are all: re-encoding keeps the content exactly for the documents that
are `Upgradable`.
-/

import Dnc.Ir.RoundTrip

namespace Dnc

open PyLib Json Logic

/-! ### The condition -/

/-- The elements compare: all strings, all numbers, or all equal. -/
def Comparable (items : List Json) : Prop :=
  (∀ item ∈ items, item.text?.isSome = true) ∨ (∀ item ∈ items, item.number?.isSome = true) ∨
    ∀ first ∈ items, ∀ second ∈ items, Json.pyEq first second = true

/-- The elements of `unit.get("mutation_contract", {}).get("allowed_mutations", [])`. -/
def mutationItems (unit : Json) : Except PyError (List Json) := do
  decodeItems (← unit.getD "mutation_contract" (.obj [])) "allowed_mutations"

/-- A document whose units allow mutations that compare, and whose edges name ports by strings or
not at all. -/
structure Upgradable (data : Json) : Prop where
  mutations : ∀ units, data.getD "units" (.obj []) = .ok (.obj units) →
    ∀ entry ∈ units, ∀ items, mutationItems entry.2 = .ok items → Comparable items
  ports : ∀ edges, decodeItems data "edges" = .ok edges → ∀ edge ∈ edges,
    ∀ field ∈ ["source_port", "target_port"], ∀ port, edge.getD field .null = .ok port →
      ∃ text?, port = optionalText text?

/-! ### Sorting a set -/

/-- A set holds elements of the list it was made of, and one for every element of the list. -/
theorem mem_of_ofList {items : List Json} {set : PySet} (built : PySet.ofList items = .ok set) :
    (∀ elem ∈ set.elems, elem ∈ items) ∧
      ∀ item ∈ items, ∃ elem ∈ set.elems, elem.pyNormal = item.pyNormal := by
  refine foldlM_consumes (P := fun (consumed : List Json) (set : PySet) =>
    (∀ elem ∈ set.elems, elem ∈ consumed) ∧
      ∀ item ∈ consumed, ∃ elem ∈ set.elems, elem.pyNormal = item.pyNormal)
    (fun consumed item state next holds added => ?_)
    ⟨fun _ member => absurd member List.not_mem_nil, nofun⟩ built
  obtain ⟨listed, covered⟩ := holds
  unfold PySet.add at added
  split_ifs at added with hashed present
  · cases added
    refine ⟨fun elem member => List.mem_append_left _ (listed elem member), fun other member => ?_⟩
    rcases List.mem_append.mp member with old | new
    · exact covered other old
    · obtain ⟨elem, member, same⟩ := List.mem_map.mp present
      exact ⟨elem, member, by rw [same, List.mem_singleton.mp new]⟩
  · cases added
    refine ⟨fun elem member => ?_, fun other member => ?_⟩
    · exact List.mem_append.mpr ((List.mem_append.mp member).imp (listed elem) id)
    · rcases List.mem_append.mp member with old | new
      · obtain ⟨elem, member, same⟩ := covered other old
        exact ⟨elem, List.mem_append_left _ member, same⟩
      · exact ⟨item, List.mem_append_right _ List.mem_cons_self,
          by rw [List.mem_singleton.mp new]⟩

theorem text_of_pyNormal {first second : Json} (same : first.pyNormal = second.pyNormal)
    (text : first.text?.isSome = true) : second.text?.isSome = true := by
  cases first with
  | str value =>
    rw [pyNormal_str] at same
    rw [pyNormal_eq_str.mp same.symm]
    rfl
  | _ => simp [Json.text?] at text

theorem number_pyNormal (value : Json) : value.pyNormal.number?.isSome = value.number?.isSome := by
  cases value with
  | float lit =>
    rw [pyNormal]
    split_ifs <;> rfl
  | _ => simp [pyNormal, Json.number?]

/-- A set can be sorted exactly when the elements it was made of compare. -/
theorem sorted_iff_comparable {items : List Json} {set : PySet}
    (built : PySet.ofList items = .ok set) :
    (∃ sorted, set.sorted = .ok sorted) ↔ Comparable items := by
  obtain ⟨listed, covered⟩ := mem_of_ofList built
  have texts : (set.elems.all fun elem => elem.text?.isSome) = true ↔
      ∀ item ∈ items, item.text?.isSome = true := by
    rw [List.all_eq_true]
    refine ⟨fun all item member => ?_, fun all elem member => all elem (listed elem member)⟩
    obtain ⟨elem, inSet, same⟩ := covered item member
    exact text_of_pyNormal same (all elem inSet)
  have numbers : (set.elems.all fun elem => elem.number?.isSome) = true ↔
      ∀ item ∈ items, item.number?.isSome = true := by
    rw [List.all_eq_true]
    refine ⟨fun all item member => ?_, fun all elem member => all elem (listed elem member)⟩
    obtain ⟨elem, inSet, same⟩ := covered item member
    rw [← number_pyNormal, ← same, number_pyNormal]
    exact all elem inSet
  have single : set.elems.length ≤ 1 ↔
      ∀ first ∈ items, ∀ second ∈ items, Json.pyEq first second = true := by
    constructor
    · intro short first inFirst second inSecond
      obtain ⟨elem, inSet, same⟩ := covered first inFirst
      obtain ⟨other, otherInSet, sameOther⟩ := covered second inSecond
      have equal : elem = other := by
        obtain ⟨index, bound, rfl⟩ := List.mem_iff_getElem.mp inSet
        obtain ⟨place, placeBound, rfl⟩ := List.mem_iff_getElem.mp otherInSet
        have here : index = place := by omega
        simp only [here]
      rw [pyEq_iff, ← same, ← sameOther, equal]
    · intro all
      match shape : set.elems with
      | [] => simp
      | [_] => simp
      | first :: second :: rest =>
        have distinct := set.distinct
        rw [shape] at distinct listed
        have same := pyEq_iff.mp (all first (listed first (by simp)) second (listed second (by simp)))
        simp [same] at distinct
  unfold PySet.sorted Comparable
  rw [← texts, ← numbers, ← single]
  split_ifs with text number short
  all_goals simp_all

/-! ### What the decoder accepts -/

theorem decodeUnit_mutations {value : Json} {unit : ComputationalUnit}
    (decoded : decodeUnit value = .ok unit) :
    ∃ items, mutationItems value = .ok items ∧
      PySet.ofList items = .ok unit.mutationContract.allowedMutations := by
  simp only [decodeUnit, bind_eq_ok] at decoded
  obtain ⟨_, -, unitId, -, _, -, name, -, dimension, -, visibility, -, lifecycle, -, _, -, subUnits, -,
    metadata, -, _, -, contract, -, mutation, found, mutationContract, decodes, _, -, constraints, -,
    same⟩ := decoded
  simp only [decodeMutationContract, bind_eq_ok] at decodes
  obtain ⟨items, iterates, allowed, builds, _, -, _, -, built⟩ := decodes
  cases same
  cases built
  refine ⟨items, ?_, builds⟩
  rw [mutationItems, found]
  exact iterates

theorem decodeEdge_ports {value : Json} {edge : Edge} (decoded : decodeEdge value = .ok edge) :
    value.getD "source_port" .null = .ok edge.sourcePort ∧
      value.getD "target_port" .null = .ok edge.targetPort := by
  simp only [decodeEdge, bind_eq_ok] at decoded
  obtain ⟨_, -, source, -, _, -, target, -, edgeType, -, metadata, -, sourcePort, readsSource,
    targetPort, readsTarget, same⟩ := decoded
  cases same
  exact ⟨readsSource, readsTarget⟩

/-- The loop over the units of a document stores every unit under its own identifier. -/
theorem foldlM_addDecodedUnit_eq_ok {entries : JsonObject} {start graph : StructuralGraph}
    (empty : start.units = ∅) (ran : entries.foldlM addDecodedUnit start = .ok graph) :
    graph.KeysMatch ∧ graph.edges = start.edges ∧
      (∀ uid unit, graph.units.get? uid = some unit →
        ∃ entry ∈ entries, decodeUnit entry.2 = .ok unit) ∧
      ∀ entry ∈ entries, ∃ uid unit, decodeUnit entry.2 = .ok unit ∧
        graph.units.get? uid = some unit := by
  refine foldlM_consumes (P := fun (consumed : JsonObject) (graph : StructuralGraph) =>
    graph.KeysMatch ∧ graph.edges = start.edges ∧
      (∀ uid unit, graph.units.get? uid = some unit →
        ∃ entry ∈ consumed, decodeUnit entry.2 = .ok unit) ∧
      ∀ entry ∈ consumed, ∃ uid unit, decodeUnit entry.2 = .ok unit ∧
        graph.units.get? uid = some unit)
    (fun consumed entry state next holds added => ?_) ⟨?_, rfl, ?_, nofun⟩ ran
  · obtain ⟨keys, edges, stored, listed⟩ := holds
    obtain ⟨unit, decodes, adds⟩ := bind_eq_ok.mp added
    obtain ⟨fresh, rfl⟩ := StructuralGraph.addUnit_eq_ok adds
    refine ⟨keys.set unit, edges, fun uid other found => ?_, fun other member => ?_⟩
    · have found : (state.units.set unit.unitId.value unit).get? uid = some other := found
      rw [Dict.get?_set] at found
      split_ifs at found
      · cases found
        exact ⟨entry, List.mem_append_right _ List.mem_cons_self, decodes⟩
      · obtain ⟨origin, member, decodesOrigin⟩ := stored uid other found
        exact ⟨origin, List.mem_append_left _ member, decodesOrigin⟩
    · rcases List.mem_append.mp member with old | new
      · obtain ⟨uid, origin, decodesOrigin, found⟩ := listed other old
        refine ⟨uid, origin, decodesOrigin, ?_⟩
        have different : uid ≠ unit.unitId.value := fun same =>
          fresh (same ▸ Dict.mem_of_get? found)
        exact (Dict.get?_set_of_ne _ different _).trans found
      · rw [List.mem_singleton.mp new]
        exact ⟨_, unit, decodes, Dict.get?_set_self _ _ _⟩
  · intro uid unit found
    rw [empty] at found
    cases found
  · intro uid unit found
    rw [empty] at found
    cases found

/-- **What was accepted**: the units and edges of the graph are those of the document, decoded. -/
theorem fromDict_eq_ok {data : Json} {graph : StructuralGraph}
    (accepted : fromDict data = .ok graph) :
    ∃ units edges, data.getD "units" (.obj []) = .ok (.obj units) ∧
      decodeItems data "edges" = .ok edges ∧ graph.KeysMatch ∧
      (∀ uid unit, graph.units.get? uid = some unit →
        ∃ entry ∈ units, decodeUnit entry.2 = .ok unit) ∧
      (∀ entry ∈ units, ∃ uid unit, decodeUnit entry.2 = .ok unit ∧
        graph.units.get? uid = some unit) ∧
      List.Forall₂ (fun value edge => decodeEdge value = .ok edge) edges graph.edges := by
  obtain ⟨_, -, decodes⟩ := bind_eq_ok.mp accepted
  cases decoded : fromValidatedDict data with
  | error error =>
    rw [decoded] at decodes
    dsimp only at decodes
    split_ifs at decodes
  | ok read =>
    rw [decoded] at decodes
    cases decodes
    simp only [fromValidatedDict, bind_eq_ok] at decoded
    obtain ⟨_, -, graphId, -, _, -, version, -, _, -, metadata, -, value, found, units, object, base,
      ran, edges, items, decodedEdges, decodesEdges, same⟩ := decoded
    cases same
    obtain ⟨keys, none, stored, listed⟩ := foldlM_addDecodedUnit_eq_ok rfl ran
    refine ⟨units, edges, ?_, items, keys, stored, listed, ?_⟩
    · cases value with
      | obj fields =>
        cases object
        exact found
      | _ => cases object
    · have edgesOf : base.edges ++ decodedEdges = decodedEdges := by
        rw [none]
        rfl
      show List.Forall₂ _ edges (base.edges ++ decodedEdges)
      rw [edgesOf]
      exact mapM_eq_ok.mp decodesEdges

/-- For what was accepted, the condition on the document is one on the graph. -/
theorem upgradable_iff {data : Json} {graph : StructuralGraph}
    (accepted : fromDict data = .ok graph) :
    Upgradable data ↔ graph.Sortable ∧ ∀ edge ∈ graph.edges, edge.PortsNamed := by
  obtain ⟨units, edges, unitsFound, edgesFound, -, stored, listed, decodes⟩ :=
    fromDict_eq_ok accepted
  constructor
  · intro upgradable
    refine ⟨fun uid unit found => ?_, fun edge member => ?_⟩
    · obtain ⟨entry, member, decodesUnit⟩ := stored uid unit found
      obtain ⟨items, reads, built⟩ := decodeUnit_mutations decodesUnit
      exact (sorted_iff_comparable built).mpr
        (upgradable.mutations units unitsFound entry member items reads)
    · obtain ⟨value, inEdges, decodesEdge⟩ := forall₂_mem_right decodes member
      obtain ⟨readsSource, readsTarget⟩ := decodeEdge_ports decodesEdge
      have ports := upgradable.ports edges edgesFound value inEdges
      exact ⟨ports _ List.mem_cons_self _ readsSource,
        ports _ (List.mem_cons_of_mem _ List.mem_cons_self) _ readsTarget⟩
  · rintro ⟨sortable, named⟩
    refine ⟨fun others othersFound entry member items reads => ?_,
      fun others othersFound value member field isPort port reads => ?_⟩
    · rw [unitsFound] at othersFound
      cases othersFound
      obtain ⟨uid, unit, decodesUnit, found⟩ := listed entry member
      obtain ⟨again, readsAgain, built⟩ := decodeUnit_mutations decodesUnit
      rw [reads] at readsAgain
      cases readsAgain
      exact (sorted_iff_comparable built).mp (sortable uid unit found)
    · rw [edgesFound] at othersFound
      cases othersFound
      obtain ⟨edge, inGraph, decodesEdge⟩ := forall₂_mem_left decodes member
      obtain ⟨readsSource, readsTarget⟩ := decodeEdge_ports decodesEdge
      have ports := named edge inGraph
      rcases List.mem_pair.mp isPort with rfl | rfl
      · rw [readsSource] at reads
        cases reads
        exact ports.1
      · rw [readsTarget] at reads
        cases reads
        exact ports.2

/-! ### What the current check rejects -/

theorem validateBinding_eq_ok {edge : JsonObject} {field path : String}
    (accepted : Schema.validateBinding edge field path = .ok ()) :
    ∃ text?, edge.lookup field = some (optionalText text?) := by
  unfold Schema.validateBinding at accepted
  split at accepted
  · cases accepted
  · rename_i found
    exact ⟨none, found⟩
  · rename_i text found
    exact ⟨some text, found⟩
  · cases accepted

theorem portsNamed_of_validateEdge {edge : Edge} {path : String}
    (accepted : Schema.validateEdge (some currentSchemaVersion) path (encodeEdge edge) = .ok ()) :
    edge.PortsNamed := by
  have checked : Option.any Schema.checksPorts (some currentSchemaVersion) = true := by
    decide +kernel
  have object : Schema.isObject (encodeEdge edge) = true := rfl
  simp only [Schema.validateEdge, object, Bool.true_eq_false, if_false, checked, if_true,
    bind_eq_ok] at accepted
  obtain ⟨_, -, bindings⟩ := accepted
  have each := forM_eq_ok.mp bindings
  obtain ⟨source?, source⟩ := validateBinding_eq_ok (each _ List.mem_cons_self)
  obtain ⟨target?, target⟩ :=
    validateBinding_eq_ok (each _ (List.mem_cons_of_mem _ List.mem_cons_self))
  exact ⟨⟨source?, Option.some.inj source⟩, ⟨target?, Option.some.inj target⟩⟩

/-- A document in the current version is accepted only if its edges name ports by strings. -/
theorem portsNamed_of_fromDict {graph decoded : StructuralGraph} {document : Json}
    (written : toDict graph = .ok document) (accepted : fromDict document = .ok decoded) :
    ∀ edge ∈ graph.edges, edge.PortsNamed := by
  obtain ⟨units, edges, -, -, -, perm, rfl⟩ := toDict_eq_ok written
  obtain ⟨_, checked, -⟩ := bind_eq_ok.mp accepted
  have header : validateSchemaHeader (Schema.entriesOf (encodeGraphWith graph units edges)) =
      .ok (some currentSchemaVersion) := validateSchemaHeader_current rfl rfl rfl
  have fields : Schema.validateFields (Schema.entriesOf (encodeGraphWith graph units edges)) =
      .ok () := checked
  have version : (Schema.entriesOf (encodeGraphWith graph units edges)).lookup "version" =
      some (encodeVersion graph.version) := rfl
  have listed : (Schema.entriesOf (encodeGraphWith graph units edges)).lookup "edges" =
      some (.arr (edges.map encodeEdge)) := rfl
  simp only [Schema.validateFields, header, bind_eq_ok, version, listed, Option.getD_some,
    Schema.itemsOf] at fields
  obtain ⟨schemaVersion, current, graphId, -, fields⟩ := fields
  obtain rfl : some currentSchemaVersion = schemaVersion := Except.ok.inj current
  have each : ∀ entry ∈ (edges.map encodeEdge).zipIdx, Schema.validateEdge
      (some currentSchemaVersion) s!"edges.{entry.2}" entry.1 = .ok () := by
    split_ifs at fields with blank
    · obtain ⟨_, failed, -⟩ := bind_eq_ok.mp fields
      cases failed
    · obtain ⟨_, -, fields⟩ := bind_eq_ok.mp fields
      obtain ⟨_, -, fields⟩ := bind_eq_ok.mp fields
      obtain ⟨_, -, fields⟩ := bind_eq_ok.mp fields
      exact forM_eq_ok.mp fields
  intro edge member
  obtain ⟨index, bound, same⟩ := List.mem_iff_getElem.mp (perm.mem_iff.mpr member)
  have entry : (encodeEdge edge, index) ∈ (edges.map encodeEdge).zipIdx := by
    refine List.mk_mem_zipIdx_iff_getElem?.mpr ?_
    rw [List.getElem?_map, List.getElem?_eq_getElem bound, same]
    rfl
  exact portsNamed_of_validateEdge (each _ entry)

/-- An accepted unit names the key that it is listed under. -/
theorem unitId_of_validateUnit {version : Option SchemaVersion} {entry : String × Json}
    (accepted : Schema.validateUnit version entry = .ok ()) :
    (Schema.entriesOf entry.2).lookup "unit_id" = some (.str entry.1) := by
  obtain ⟨unitKey, unit⟩ := entry
  have fails : ∀ {message : String} {next : Unit → Except PyError Unit},
      ¬ (Schema.invalid message >>= next) = .ok () := fun failed => by
    obtain ⟨_, invalid, -⟩ := bind_eq_ok.mp failed
    cases invalid
  simp only [Schema.validateUnit] at accepted
  split_ifs at accepted with plain
  · exact absurd accepted fails
  obtain ⟨unitId, required, accepted⟩ := bind_eq_ok.mp accepted
  split_ifs at accepted with named
  · exact absurd accepted fails
  unfold Schema.requireType at required
  cases found : (Schema.entriesOf unit).lookup "unit_id" with
  | none =>
    rw [found] at required
    cases required
  | some value =>
    rw [found] at required
    dsimp only at required
    split_ifs at required
    · obtain rfl := Except.ok.inj required
      exact congrArg some (not_not.mp named)
    · cases required

/-- A written document is accepted only if its graph holds every unit under its own identifier. -/
theorem keysMatch_of_fromDict {t : Json → Json} (reorders : Reorders t)
    {graph decoded : StructuralGraph} {document : Json} (written : toDict graph = .ok document)
    (accepted : fromDict (t document) = .ok decoded) : graph.KeysMatch := by
  obtain ⟨units, edges, -, -, writes, -, rfl⟩ := toDict_eq_ok written
  obtain ⟨_, checked, -⟩ := bind_eq_ok.mp accepted
  obtain ⟨fields, object, -, -⟩ :=
    reorders.obj (Schema.entriesOf (encodeGraphWith graph units edges))
  have object : t (encodeGraphWith graph units edges) = .obj fields := object
  have listed : (Schema.entriesOf (t (encodeGraphWith graph units edges))).lookup "units" =
      some (t (.obj units)) := Schema.lookup_reordered reorders rfl rfl
  have versioned : (Schema.entriesOf (t (encodeGraphWith graph units edges))).lookup "version" =
      some (t (encodeVersion graph.version)) := Schema.lookup_reordered reorders rfl rfl
  rw [object] at checked listed versioned
  have listed : fields.lookup "units" = some (t (.obj units)) := listed
  have versioned : fields.lookup "version" = some (t (encodeVersion graph.version)) := versioned
  have checked : Schema.validateFields fields = .ok () := checked
  have each : ∃ version, (Schema.entriesOf (t (.obj units))).forM
      (Schema.validateUnit version) = .ok () := by
    simp only [Schema.validateFields, bind_eq_ok, listed, versioned, Option.getD_some] at checked
    obtain ⟨version, -, graphId, -, checked⟩ := checked
    split_ifs at checked with blank
    · obtain ⟨_, failed, -⟩ := bind_eq_ok.mp checked
      cases failed
    · obtain ⟨_, -, checked⟩ := bind_eq_ok.mp checked
      obtain ⟨_, -, checked⟩ := bind_eq_ok.mp checked
      obtain ⟨_, units, -⟩ := bind_eq_ok.mp checked
      exact ⟨version, units⟩
  obtain ⟨version, each⟩ := each
  obtain ⟨entries, unitsObject, perm, -⟩ := reorders.obj units
  rw [unitsObject] at each
  intro uid unit stored
  obtain ⟨unitDocument, inUnits, encoded⟩ := writes.stored stored
  obtain ⟨allowed, -, rfl⟩ := encodeUnit_eq_ok encoded
  have member : (uid, t (encodeUnitWith unit allowed)) ∈ entries :=
    perm.mem_iff.mpr (List.mem_map_of_mem ((mem_iff_lookup writes.distinct).mpr inUnits))
  have named := unitId_of_validateUnit (forM_eq_ok.mp each _ member)
  have own : (Schema.entriesOf (t (encodeUnitWith unit allowed))).lookup "unit_id" =
      some (.str unit.unitId.value) := Schema.lookup_reordered reorders rfl (reorders.str _)
  exact Json.str.inj (Option.some.inj (own.symm.trans named))

/-- **Re-encoding upgrades.** A graph that was read from an accepted document, of whatever version,
is written as a document of the current version that is accepted and says the same, exactly when
the document is upgradable. -/
theorem upgrade_iff (data : Json) (graph : StructuralGraph) (accepted : fromDict data = .ok graph) :
    (∃ document decoded, toDict graph = .ok document ∧
      validateSchemaHeader (Schema.entriesOf document) = .ok (some currentSchemaVersion) ∧
      fromDict document = .ok decoded ∧ decoded.content = graph.content) ↔ Upgradable data := by
  rw [upgradable_iff accepted]
  constructor
  · rintro ⟨document, decoded, written, -, decodes, -⟩
    refine ⟨fun uid unit stored => ?_, portsNamed_of_fromDict written decodes⟩
    obtain ⟨units, edges, -, -, writes, -, -⟩ := toDict_eq_ok written
    obtain ⟨document, -, encoded⟩ := writes.stored stored
    obtain ⟨allowed, sorted, -⟩ := map_eq_ok.mp encoded
    exact ⟨allowed, sorted⟩
  · rintro ⟨sortable, named⟩
    obtain ⟨_, _, -, -, keys, -, -, -⟩ := fromDict_eq_ok accepted
    obtain ⟨document, written⟩ := toDict_total sortable named
    obtain ⟨decoded, decodes, same⟩ := fromDict_toDict reorders_id ⟨keys, named⟩ written
    refine ⟨document, decoded, written, ?_, decodes, same⟩
    obtain ⟨units, edges, -, -, -, -, rfl⟩ := toDict_eq_ok written
    exact validateSchemaHeader_current rfl rfl rfl

namespace Sample

/-- A legacy document with an edge from unit_a to unit_b. -/
def legacy (sourcePort : Json) : Json := .obj [
  ("graph_id", .str "graph"),
  ("edges", .arr [.obj [("source", .str "unit_a"), ("target", .str "unit_b"),
    ("edge_type", .str "DATA"), ("source_port", sourcePort)]])]

/-- What the legacy document is decoded to. -/
def legacyGraph (sourcePort : Json) : StructuralGraph where
  graphId := ⟨"graph", graph_normalized⟩
  edges := [{ source := unitA, target := unitB, edgeType := .data, sourcePort }]

theorem fromDict_legacy (sourcePort : Json) :
    fromDict (legacy sourcePort) = .ok (legacyGraph sourcePort) := rfl

/-- A 1.1.0 document with one unit, whose allowed mutations are a string and a number. -/
def mixedMutations : Json := .obj [
  ("schema_id", .str dncIrSchemaId), ("schema_version", .str "1.1.0"),
  ("compatibility_version", .str kernelCompatibilityVersion), ("graph_id", .str "graph"),
  ("version", .obj [("major", .int 1), ("minor", .int 0), ("patch", .int 0), ("sequence", .int 0)]),
  ("units", .obj [("unit_a", .obj [("unit_id", .str "unit_a"), ("name", .str "unit_a"),
    ("structure", .str "PRIMITIVE"), ("visibility", .str "INSPECTABLE"),
    ("lifecycle", .str "BASE"),
    ("mutation_contract", .obj [("allowed_mutations", .arr [.str "ADD", .int 1])])])]),
  ("edges", .arr []), ("metadata", .obj [])]

/-- What the document is decoded to. -/
def mixedGraph : StructuralGraph where
  graphId := ⟨"graph", graph_normalized⟩
  units := Dict.set ∅ "unit_a" { unitNamed unitA with
    mutationContract := { allowedMutations := ⟨[.str "ADD", .int 1], by decide, by decide⟩ } }

end Sample

/-- A legacy edge whose port is a string is upgraded. -/
theorem upgrade_legacy :
    (∃ document decoded, toDict (Sample.legacyGraph (.str "out")) = .ok document ∧
      validateSchemaHeader (Schema.entriesOf document) = .ok (some currentSchemaVersion) ∧
      fromDict document = .ok decoded ∧
      decoded.content = (Sample.legacyGraph (.str "out")).content) ∧
    Upgradable (Sample.legacy (.str "out")) := by
  have decides := upgrade_iff (Sample.legacy (.str "out")) (Sample.legacyGraph (.str "out"))
    (Sample.fromDict_legacy _)
  have upgradable : Upgradable (Sample.legacy (.str "out")) := by
    refine (upgradable_iff (Sample.fromDict_legacy _)).mpr ⟨fun uid unit stored => ?_, ?_⟩
    · have stored : (∅ : Dict String ComputationalUnit).get? uid = some unit := stored
      rw [Dict.get?_empty] at stored
      cases stored
    · intro edge member
      rw [List.mem_singleton.mp member]
      exact ⟨⟨some "out", rfl⟩, ⟨none, rfl⟩⟩
  exact ⟨decides.mpr upgradable, upgradable⟩

/-- **Re-encoding can fail**: a 1.1.0 document whose allowed mutations do not compare is accepted
and cannot be written, and a legacy edge whose port is a number is accepted and written as a current
document, which is rejected. -/
theorem upgrade_fails :
    (fromDict Sample.mixedMutations = .ok Sample.mixedGraph ∧
      toDict Sample.mixedGraph = .error (.typeError "'<' not supported between instances")) ∧
    ∃ graph document, fromDict (Sample.legacy (.int 1)) = .ok graph ∧
      toDict graph = .ok document ∧
      fromDict document =
        .error (.dncValidationError "edges.0.source_port MUST be a string or null") :=
  ⟨⟨by decide +kernel, by decide +kernel⟩, Sample.legacyGraph (.int 1), _, rfl, rfl,
    by decide +kernel⟩

end Dnc
