/-
**Canonical form.**

Two graphs of the declared types whose edges are sound (`EdgesSound`, what the validator promises)
have the same document up to key order exactly when they have the same content, and so the same JSON
text (`toJson_eq_iff`).

* Equal documents decode to equal contents, whatever the graphs are (`content_eq_of_document`).
* Equal contents are written alike (`document_eq_of_content`). Units and dictionaries are put in key
  order, sets are sorted lists. The edges are sorted by a key that takes a missing port for an empty
  name and leaves the metadata out; on sound edges it still tells any two edges apart
  (`keyTexts_injective`): a bound port has a non-empty name, and no two edges share endpoints, type
  and ports.
-/

import Dnc.Ir.RoundTrip
import Dnc.Ir.Validator

namespace Dnc

open PyLib Json Logic

/-! ### From the document to the content -/

/-- What a document says under a key, up to key order. -/
theorem lookup_of_sortKeys_eq {first second : JsonObject}
    (same : (Json.obj first).sortKeys = (Json.obj second).sortKeys) (key : String) :
    (first.lookup key).map sortKeys = (second.lookup key).map sortKeys := by
  rw [sortKeys_obj, sortKeys_obj] at same
  rw [← lookup_map_mapEntry, ← lookup_map_mapEntry, ← lookup_sortBy_fst,
    ← lookup_sortBy_fst (second.map _), Json.obj.inj same]

/-- Units that are written alike have the same content. -/
theorem unit_content_eq {first second : ComputationalUnit} {document other : Json}
    (writesFirst : encodeUnit first = .ok document) (writesSecond : encodeUnit second = .ok other)
    (same : document.sortKeys = other.sortKeys) : first.content = second.content := by
  obtain ⟨decoded, decodes, content⟩ := decodeUnit_encodeUnit reorders_sortKeys writesFirst
  obtain ⟨decodedOther, decodesOther, contentOther⟩ :=
    decodeUnit_encodeUnit reorders_sortKeys writesSecond
  rw [same, decodesOther] at decodes
  rw [← content, ← contentOther, Except.ok.inj decodes]

/-- Edges that are written alike have the same content. -/
theorem edge_content_eq {first second : Edge}
    (same : (encodeEdge first).sortKeys = (encodeEdge second).sortKeys) :
    first.content = second.content := by
  obtain ⟨decoded, decodes, content⟩ := decodeEdge_encodeEdge reorders_sortKeys first
  obtain ⟨decodedOther, decodesOther, contentOther⟩ :=
    decodeEdge_encodeEdge reorders_sortKeys second
  rw [same, decodesOther] at decodes
  rw [← content, ← contentOther, Except.ok.inj decodes]

/-- What two functions that agree on a pair of lists make of them: if one follows from the other
element by element, it does for the lists. -/
theorem map_eq_of_map_eq {α β γ : Type} {f : α → β} {g : α → γ}
    (follows : ∀ x y, f x = f y → g x = g y) {xs ys : List α} (same : xs.map f = ys.map f) :
    xs.map g = ys.map g := by
  induction xs generalizing ys with
  | nil =>
    cases ys with
    | nil => rfl
    | cons y ys => simp at same
  | cons x xs ih =>
    cases ys with
    | nil => simp at same
    | cons y ys =>
      rw [List.map_cons, List.map_cons, List.cons.injEq] at same
      rw [List.map_cons, List.map_cons, follows x y same.1, ih same.2]

/-- The same for two optional values and what they are related to. -/
theorem map_eq_of_rel {α β γ δ : Type} {r : α → β → Prop} {f : α → γ} {g : β → δ}
    (follows : ∀ x y x' y', r x y → r x' y' → g y = g y' → f x = f x') {x? x?' : Option α}
    {y? y?' : Option β} (related : Option.Rel r x? y?) (related' : Option.Rel r x?' y?')
    (same : y?.map g = y?'.map g) : x?.map f = x?'.map f := by
  cases related with
  | none =>
    cases related' with
    | none => rfl
    | some _ => simp at same
  | some here =>
    cases related' with
    | none => simp at same
    | some there => exact congrArg some (follows _ _ _ _ here there (Option.some.inj same))

/-- **Graphs that are written alike have the same content.** -/
theorem content_eq_of_document {first second : StructuralGraph} {document other : Json}
    (writesFirst : toDict first = .ok document) (writesSecond : toDict second = .ok other)
    (same : document.sortKeys = other.sortKeys) : first.content = second.content := by
  obtain ⟨units, edges, -, -, writes, perm, rfl⟩ := toDict_eq_ok writesFirst
  obtain ⟨unitsOther, edgesOther, -, -, writesOther, permOther, rfl⟩ := toDict_eq_ok writesSecond
  have fields := lookup_of_sortKeys_eq same
  have graphId : first.graphId = second.graphId := by
    have texts : some (Json.str first.graphId.value).sortKeys =
      some (Json.str second.graphId.value).sortKeys := fields "graph_id"
    rw [sortKeys_str, sortKeys_str, Option.some.injEq, Json.str.injEq] at texts
    exact GraphID.value_injective texts
  have version : first.version = second.version := by
    have versions : some (encodeVersion first.version).sortKeys =
      some (encodeVersion second.version).sortKeys := fields "version"
    have decodes := decodeVersion_encodeVersion reorders_sortKeys first.version
    rw [Option.some.inj versions, decodeVersion_encodeVersion reorders_sortKeys] at decodes
    exact (Except.ok.inj decodes).symm
  have unitsSame : ∀ uid, (first.units.get? uid).map ComputationalUnit.content =
      (second.units.get? uid).map ComputationalUnit.content := by
    have objects : some (Json.obj units).sortKeys = some (Json.obj unitsOther).sortKeys :=
      fields "units"
    intro uid
    have documents := lookup_of_sortKeys_eq (Option.some.inj objects) uid
    exact map_eq_of_rel (r := fun unit document => encodeUnit unit = .ok document)
      (fun _ _ _ _ here there same => unit_content_eq here there same) (writes.related uid)
      (writesOther.related uid) documents
  have edgesSame : (first.edges.map Edge.content : Multiset Edge) =
      (second.edges.map Edge.content : List Edge) := by
    have arrays : some (Json.arr (edges.map encodeEdge)).sortKeys =
      some (Json.arr (edgesOther.map encodeEdge)).sortKeys := fields "edges"
    rw [sortKeys_arr, sortKeys_arr, List.map_map, List.map_map, Option.some.injEq,
      Json.arr.injEq] at arrays
    have contents : edges.map Edge.content = edgesOther.map Edge.content :=
      map_eq_of_map_eq (fun edge another => edge_content_eq) arrays
    refine Quot.sound ?_
    exact (perm.symm.map _).trans (contents ▸ permOther.map _)
  have metadata : (Json.obj first.metadata).sortKeys = (Json.obj second.metadata).sortKeys := by
    have objects : some (Json.obj first.metadata).sortKeys =
      some (Json.obj second.metadata).sortKeys := fields "metadata"
    exact Option.some.inj objects
  unfold StructuralGraph.content
  rw [graphId, version, funext unitsSame, metadata]
  exact congrArg (fun edges => (⟨_, _, _, edges, _⟩ : GraphContent)) edgesSame

/-! ### From the content to the document -/

/-- Dictionaries with the same lookups, up to key order, have the same form in key order. -/
theorem sortKeys_obj_eq {first second : JsonObject} (distinct : (first.map Prod.fst).Nodup)
    (distinctOther : (second.map Prod.fst).Nodup)
    (same : ∀ key, (first.lookup key).map sortKeys = (second.lookup key).map sortKeys) :
    (Json.obj first).sortKeys = (Json.obj second).sortKeys := by
  have keys : ∀ fields : JsonObject, (fields.map (mapEntry sortKeys)).map Prod.fst =
      fields.map Prod.fst := fun fields => by
    rw [List.map_map]
    rfl
  let entries : Dict String Json := ⟨first.map (mapEntry sortKeys), by rw [keys]; exact distinct⟩
  let others : Dict String Json :=
    ⟨second.map (mapEntry sortKeys), by rw [keys]; exact distinctOther⟩
  have perm : entries.entries.Perm others.entries := Dict.perm_of_get? fun key => by
    show (first.map _).lookup key = (second.map _).lookup key
    rw [lookup_map_mapEntry, lookup_map_mapEntry, same]
  rw [sortKeys_obj, sortKeys_obj]
  exact congrArg Json.obj (sortBy_eq_of_perm perm
    fun x inFirst y alsoInFirst => List.inj_on_of_nodup_map entries.nodup inFirst alsoInFirst)

theorem sortKeys_encodePort {first second : PortContract}
    (same : first.content = second.content) :
    (encodePort first).sortKeys = (encodePort second).sortKeys := by
  unfold PortContract.content at same
  rw [Prod.mk.injEq, PortData.mk.injEq] at same
  obtain ⟨⟨portId, direction, kind, -, cardinality, description⟩, schema⟩ := same
  simp only [encodePort, sortKeys_obj, List.map_cons, List.map_nil, mapEntry] at schema ⊢
  rw [portId, direction, kind, cardinality, description, schema]

theorem sortKeys_encodeConstraint {first second : Constraint}
    (same : first.content = second.content) :
    (encodeConstraint first).sortKeys = (encodeConstraint second).sortKeys := by
  unfold Constraint.content at same
  rw [Constraint.mk.injEq] at same
  obtain ⟨constraintId, tier, expression, description⟩ := same
  simp only [encodeConstraint, sortKeys_obj, List.map_cons, List.map_nil, mapEntry]
  rw [constraintId, tier, expression, description]

theorem sortKeys_encodeEdge {first second : Edge} (same : first.content = second.content) :
    (encodeEdge first).sortKeys = (encodeEdge second).sortKeys := by
  unfold Edge.content at same
  rw [Edge.mk.injEq] at same
  obtain ⟨source, target, edgeType, metadata, sourcePort, targetPort⟩ := same
  simp only [encodeEdge, sortKeys_obj, List.map_cons, List.map_nil, mapEntry]
  rw [source, target, edgeType, metadata, sourcePort, targetPort]

/-- Units with the same content are written alike, given the same sorted mutations. -/
theorem sortKeys_encodeUnitWith {first second : ComputationalUnit}
    (same : first.content = second.content) (allowed : List Json) :
    (encodeUnitWith first allowed).sortKeys = (encodeUnitWith second allowed).sortKeys := by
  unfold ComputationalUnit.content at same
  rw [UnitContent.mk.injEq] at same
  obtain ⟨unitId, name, dimension, visibility, lifecycle, inputs, outputs, before, after, limits,
    ports, idempotency, effects, placement, security, -, children, immutable, constraints,
    metadata, subUnits⟩ := same
  have portsSame : (first.contract.ports.map encodePort).map sortKeys =
      (second.contract.ports.map encodePort).map sortKeys := by
    rw [List.map_map, List.map_map]
    exact map_eq_of_map_eq (fun _ _ => sortKeys_encodePort) ports
  have constraintsSame : (first.constraints.map encodeConstraint).map sortKeys =
      (second.constraints.map encodeConstraint).map sortKeys := by
    rw [List.map_map, List.map_map]
    exact map_eq_of_map_eq (fun _ _ => sortKeys_encodeConstraint) constraints
  have contract : (encodeContract first.contract).sortKeys =
      (encodeContract second.contract).sortKeys := by
    simp only [encodeContract, sortKeys_obj, sortKeys_arr, List.map_cons, List.map_nil, mapEntry]
    rw [inputs, outputs, before, after, limits, portsSame, idempotency, effects, placement,
      security]
  have mutation : (encodeMutationContract first.mutationContract allowed).sortKeys =
      (encodeMutationContract second.mutationContract allowed).sortKeys := by
    simp only [encodeMutationContract, sortKeys_obj, List.map_cons, List.map_nil, mapEntry]
    rw [children, immutable]
  simp only [encodeUnitWith, sortKeys_obj, sortKeys_arr, List.map_cons, List.map_nil, mapEntry]
  rw [unitId, name, dimension, visibility, lifecycle, contract, mutation, constraintsSame,
    metadata, subUnits]

/-- The allowed mutations of every unit are strings, as their type declares. -/
def StructuralGraph.MutationsNamed (graph : StructuralGraph) : Prop :=
  ∀ uid unit, graph.units.get? uid = some unit → unit.mutationContract.allowedMutations.Texts

theorem StructuralGraph.MutationsNamed.sortable {graph : StructuralGraph}
    (named : graph.MutationsNamed) : graph.Sortable :=
  fun uid unit stored => ⟨_, (named uid unit stored).sorted_eq⟩

/-- No two allowed mutations of a unit are the same number. -/
def StructuralGraph.MutationsDistinct (graph : StructuralGraph) : Prop :=
  ∀ uid unit, graph.units.get? uid = some unit →
    unit.mutationContract.allowedMutations.NumbersDistinct

theorem StructuralGraph.MutationsNamed.distinct {graph : StructuralGraph}
    (named : graph.MutationsNamed) : graph.MutationsDistinct :=
  fun uid unit stored => (named uid unit stored).numbersDistinct

theorem unit_document_eq {first second : ComputationalUnit} {document other : Json}
    (distinct : first.mutationContract.allowedMutations.NumbersDistinct)
    (writesFirst : encodeUnit first = .ok document) (writesSecond : encodeUnit second = .ok other)
    (same : first.content = second.content) : document.sortKeys = other.sortKeys := by
  have elems : PySet.Same first.mutationContract.allowedMutations
      second.mutationContract.allowedMutations :=
    Quotient.exact (congrArg UnitContent.allowedMutations same)
  obtain ⟨allowed, sorts, rfl⟩ := map_eq_ok.mp writesFirst
  obtain ⟨allowedOther, sortsOther, rfl⟩ := map_eq_ok.mp writesSecond
  rw [distinct.sorted_congr elems, sortsOther] at sorts
  rw [Except.ok.inj sorts]
  exact sortKeys_encodeUnitWith same allowed

/-! ### The order of the edges -/

/-- The port is absent, or a non-empty string. -/
def PortBound (port : Json) : Prop := port = .null ∨ ∃ text, port = .str text ∧ text ≠ ""

theorem PortBound.eq_of_portText {first second : Json} (bound : PortBound first)
    (boundOther : PortBound second) (same : portText first = portText second) : first = second := by
  obtain rfl | ⟨text, rfl, nonEmpty⟩ := bound
  · obtain rfl | ⟨other, rfl, nonEmptyOther⟩ := boundOther
    · rfl
    · exact absurd same.symm nonEmptyOther
  · obtain rfl | ⟨other, rfl, -⟩ := boundOther
    · exact absurd same nonEmpty
    · exact congrArg Json.str same

/-- A port that a unit declares has a name. -/
theorem PortsBound.portBound {units : Dict String ComputationalUnit} {edge : Edge}
    (bound : PortsBound units edge) : PortBound edge.sourcePort ∧ PortBound edge.targetPort := by
  obtain ⟨source, target⟩ | ⟨_, _, sourcePort, targetPort, -, -, -, source, -, target⟩ := bound
  · exact ⟨Or.inl source, Or.inl target⟩
  · exact ⟨Or.inr ⟨_, source, isNormalized_ne_empty sourcePort.normalized⟩,
      Or.inr ⟨_, target, isNormalized_ne_empty targetPort.normalized⟩⟩

theorem PortBound.optionalText {port : Json} (bound : PortBound port) :
    ∃ text?, port = optionalText text? := by
  obtain rfl | ⟨text, rfl, -⟩ := bound
  · exact ⟨none, rfl⟩
  · exact ⟨some text, rfl⟩

theorem EdgesSound.portsNamed {graph : StructuralGraph} (sound : EdgesSound graph) :
    ∀ edge ∈ graph.edges, edge.PortsNamed := fun edge member =>
  ⟨(sound.bound edge member).portBound.1.optionalText,
    (sound.bound edge member).portBound.2.optionalText⟩

/-- **The sort key tells sound edges apart.** -/
theorem keyTexts_injective {graph : StructuralGraph} (sound : EdgesSound graph)
    {first second : Edge} (inFirst : first ∈ graph.edges) (inSecond : second ∈ graph.edges)
    (same : first.keyTexts = second.keyTexts) : first = second := by
  simp only [Edge.keyTexts, List.cons.injEq, and_true] at same
  obtain ⟨source, target, edgeType, sourcePort, targetPort⟩ := same
  have sourcePorts := (sound.bound first inFirst).portBound.1.eq_of_portText
    (sound.bound second inSecond).portBound.1 sourcePort
  have targetPorts := (sound.bound first inFirst).portBound.2.eq_of_portText
    (sound.bound second inSecond).portBound.2 targetPort
  refine List.inj_on_of_nodup_map sound.distinct inFirst inSecond ?_
  unfold Edge.identity
  rw [source, target, edgeType, sourcePorts, targetPorts]

theorem portText_sortKeys (port : Json) : portText port.sortKeys = portText port := by
  cases port <;> simp [portText, Json.text?]

/-- The sort key reads nothing that the content leaves out. -/
theorem keyTexts_content (edge : Edge) : edge.content.keyTexts = edge.keyTexts := by
  unfold Edge.keyTexts Edge.content
  simp only [portText_sortKeys]

/-- Sorted, sound edges with the same contents have the same contents in the same order. -/
theorem sortBy_keyTexts_content {first second : StructuralGraph} (sound : EdgesSound first)
    (perm : (first.edges.map Edge.content).Perm (second.edges.map Edge.content)) :
    (sortBy Edge.keyTexts first.edges).map Edge.content =
      (sortBy Edge.keyTexts second.edges).map Edge.content := by
  have keys : Edge.keyTexts ∘ Edge.content = Edge.keyTexts := funext keyTexts_content
  have sorted : ∀ edges : List Edge, (sortBy Edge.keyTexts edges).map Edge.content =
      sortBy Edge.keyTexts (edges.map Edge.content) := fun edges => by
    rw [sortBy_map, keys]
  rw [sorted, sorted]
  refine sortBy_eq_of_perm perm fun x inFirst y alsoInFirst same => ?_
  obtain ⟨edge, member, rfl⟩ := List.mem_map.mp inFirst
  obtain ⟨other, otherMember, rfl⟩ := List.mem_map.mp alsoInFirst
  rw [keyTexts_content, keyTexts_content] at same
  rw [keyTexts_injective sound member otherMember same]

/-- **Sound graphs with the same content are written alike.** -/
theorem document_eq_of_content {first second : StructuralGraph} {document other : Json}
    (writesFirst : toDict first = .ok document) (writesSecond : toDict second = .ok other)
    (distinct : first.MutationsDistinct) (sound : EdgesSound first)
    (soundOther : EdgesSound second) (same : first.content = second.content) :
    document.sortKeys = other.sortKeys := by
  obtain ⟨units, edges, -, sorts, writes, -, rfl⟩ := toDict_eq_ok writesFirst
  obtain ⟨unitsOther, edgesOther, -, sortsOther, writesOther, -, rfl⟩ := toDict_eq_ok writesSecond
  have graphId : first.graphId = second.graphId := congrArg GraphContent.graphId same
  have version : first.version = second.version := congrArg GraphContent.version same
  have metadata : (Json.obj first.metadata).sortKeys = (Json.obj second.metadata).sortKeys :=
    congrArg GraphContent.metadata same
  have unitsSame : (Json.obj units).sortKeys = (Json.obj unitsOther).sortKeys := by
    refine sortKeys_obj_eq writes.distinct writesOther.distinct fun uid => ?_
    have contents : (first.units.get? uid).map ComputationalUnit.content =
        (second.units.get? uid).map ComputationalUnit.content :=
      congrFun (congrArg GraphContent.units same) uid
    cases stored : first.units.get? uid with
    | none =>
      rw [stored] at contents
      have missing : second.units.get? uid = none := Option.map_eq_none_iff.mp contents.symm
      rw [writes.absent stored, writesOther.absent missing]
    | some unit =>
      rw [stored] at contents
      obtain ⟨other, storedOther, content⟩ := Option.map_eq_some_iff.mp contents.symm
      obtain ⟨document, listed, encoded⟩ := writes.stored stored
      obtain ⟨documentOther, listedOther, encodedOther⟩ := writesOther.stored storedOther
      rw [listed, listedOther]
      exact congrArg some
        (unit_document_eq (distinct uid unit stored) encoded encodedOther content.symm)
  have edgesSame : (edges.map encodeEdge).map sortKeys =
      (edgesOther.map encodeEdge).map sortKeys := by
    rw [sortEdges_of_named sound.portsNamed] at sorts
    rw [sortEdges_of_named soundOther.portsNamed] at sortsOther
    have perm : (first.edges.map Edge.content).Perm (second.edges.map Edge.content) :=
      Quotient.exact (congrArg GraphContent.edges same)
    have contents := sortBy_keyTexts_content sound perm
    rw [Except.ok.inj sorts, Except.ok.inj sortsOther] at contents
    rw [List.map_map, List.map_map]
    exact map_eq_of_map_eq (fun _ _ => sortKeys_encodeEdge) contents
  simp only [encodeGraphWith, schemaHeader, List.cons_append, List.nil_append, sortKeys_obj,
    sortKeys_arr, List.map_cons, List.map_nil, mapEntry] at unitsSame metadata ⊢
  rw [graphId, version, unitsSame, edgesSame, metadata]

/-- **Canonical text**: on sound graphs of the declared types there is a JSON text, and two graphs
have the same text exactly when they have the same content. -/
theorem toJson_eq_iff {first second : StructuralGraph} (sound : EdgesSound first)
    (soundOther : EdgesSound second) (named : first.MutationsNamed)
    (namedOther : second.MutationsNamed) (freeForm : first.FreeForm)
    (freeFormOther : second.FreeForm) :
    ∃ text other, toJson first = .ok text ∧ toJson second = .ok other ∧
      (text = other ↔ first.content = second.content) := by
  obtain ⟨document, written⟩ := toDict_total named.sortable sound.portsNamed
  obtain ⟨documentOther, writtenOther⟩ := toDict_total namedOther.sortable soundOther.portsNamed
  refine ⟨document.dumps, documentOther.dumps, ?_, ?_, fun same => ?_, fun same => ?_⟩
  · rw [toJson, written]
    rfl
  · rw [toJson, writtenOther]
    rfl
  · have read := loads_dumps document (wellFormed_toDict freeForm written)
    rw [same, loads_dumps documentOther (wellFormed_toDict freeFormOther writtenOther)] at read
    exact content_eq_of_document written writtenOther (Option.some.inj read).symm
  · have sorted :=
      document_eq_of_content written writtenOther named.distinct sound soundOther same
    unfold Json.dumps Json.dumpsWith
    rw [sorted]

end Dnc
