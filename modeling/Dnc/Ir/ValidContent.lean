/-
**Validity is a property of the content.**

The validator walks over the units and edges in the order they were added, and reports what it finds
in that order. Whether it finds anything does not depend on the order: a graph is valid exactly when
every unit and every edge of it is clean and no two edges share an identity (`valid_iff_clean`), and
each of these checks reads nothing that the content of the graph leaves out. So graphs with the same
content are valid together (`valid_iff_of_content`).
-/

import Dnc.Ir.Content
import Dnc.Ir.Validator

namespace Dnc

open PyLib Json

/-! ### Clean graphs -/

/-- No check of the unit reports anything. -/
structure CleanUnit (edges : List Edge) (uid : String) (unit : ComputationalUnit) : Prop where
  errors : unitErrors uid unit = []
  ports : ∀ port ∈ unit.contract.ports, cardinalityErrors edges uid port = []
  constraints : ∀ constraint ∈ unit.constraints, constraintErrors uid constraint = []

/-- No check of the graph reports anything. -/
structure Clean (graph : StructuralGraph) : Prop where
  units : ∀ uid unit, graph.units.get? uid = some unit → CleanUnit graph.edges uid unit
  hashable : ∀ edge ∈ graph.edges, edge.PortsHashable
  edges : ∀ edge ∈ graph.edges, edgeErrors graph.units edge = []
  distinct : (graph.edges.map Edge.identity).Nodup

/-- Clean edges of different identities pass the loop over the edges. -/
theorem edgeIntegrityErrors_of_clean {units : Dict String ComputationalUnit} {edges : List Edge}
    (hashable : ∀ edge ∈ edges, edge.PortsHashable)
    (clean : ∀ edge ∈ edges, edgeErrors units edge = [])
    (distinct : (edges.map Edge.identity).Nodup)
    {seen : List (String × Json × String × Json × String)}
    (unseen : ∀ edge ∈ edges, edge.identity ∉ seen) :
    edgeIntegrityErrors units edges seen = .ok [] := by
  induction edges generalizing seen with
  | nil => rfl
  | cons edge rest ih =>
    rw [List.map_cons, List.nodup_cons] at distinct
    have later : edgeIntegrityErrors units rest (edge.identity :: seen) = .ok [] := by
      refine ih (fun other member => hashable other (List.mem_cons_of_mem _ member))
        (fun other member => clean other (List.mem_cons_of_mem _ member)) distinct.2
        fun other member old => ?_
      rcases List.mem_cons.mp old with repeated | old
      · exact distinct.1 (repeated ▸ List.mem_map_of_mem member)
      · exact unseen other (List.mem_cons_of_mem _ member) old
    have hashed := Edge.requireHashable_eq_ok.mpr (hashable edge List.mem_cons_self)
    rw [edgeIntegrityErrors, hashed]
    simp only [bind, Except.bind, later]
    rw [clean edge List.mem_cons_self, decide_eq_false (unseen edge List.mem_cons_self)]
    rfl

/-- **A graph is valid exactly when it is clean.** -/
theorem valid_iff_clean {graph : StructuralGraph} : Valid graph ↔ Clean graph := by
  constructor
  · intro valid
    have hashable := validateGraph_returns.mp ⟨_, valid.choose_spec.1⟩
    obtain ⟨result, checked, isValid⟩ := valid
    obtain ⟨integrity, walked, same⟩ := Logic.bind_eq_ok.mp checked
    obtain rfl := Except.ok.inj same
    simp only [List.isEmpty_iff, List.append_eq_nil_iff, Dict.flatMap_entries_eq_nil] at isValid
    simp only [List.flatMap_eq_nil_iff] at isValid
    obtain ⟨⟨⟨structural, none⟩, cardinality⟩, constraint⟩ := isValid
    subst none
    obtain ⟨clean, distinct⟩ := edgeIntegrityErrors_eq_nil walked
    exact ⟨fun uid unit stored => ⟨structural uid unit stored, cardinality uid unit stored,
      constraint uid unit stored⟩, hashable, fun edge member => (clean edge member).1, distinct⟩
  · intro clean
    have walked : edgeIntegrityErrors graph.units graph.edges [] = .ok [] :=
      edgeIntegrityErrors_of_clean clean.hashable clean.edges clean.distinct
        fun _ _ => List.not_mem_nil
    refine ⟨_, Logic.bind_eq_ok.mpr ⟨[], walked, rfl⟩, ?_⟩
    simp only [List.isEmpty_iff, List.append_eq_nil_iff, Dict.flatMap_entries_eq_nil]
    simp only [List.flatMap_eq_nil_iff, and_true]
    exact ⟨⟨fun uid unit stored => (clean.units uid unit stored).errors,
      fun uid unit stored => (clean.units uid unit stored).ports⟩,
      fun uid unit stored => (clean.units uid unit stored).constraints⟩

/-! ### Units with the same content -/

theorem truthy_sortKeys (value : Json) : value.sortKeys.truthy = value.truthy := by
  cases value with
  | arr items => rw [sortKeys_arr, truthy, truthy, List.isEmpty_map]
  | obj fields =>
    have lengths := (sortBy_perm Prod.fst (fields.map (mapEntry sortKeys))).length_eq
    rw [List.length_map] at lengths
    rw [sortKeys_obj, truthy, truthy, Bool.not_inj_iff, Bool.eq_iff_iff,
      List.isEmpty_iff_length_eq_zero, List.isEmpty_iff_length_eq_zero, lengths]
  | _ => rw [sortKeys]

section Units

variable {first second : ComputationalUnit} (same : first.content = second.content)

include same

theorem ports_of_content : first.contract.ports.map PortContract.content =
    second.contract.ports.map PortContract.content := congrArg UnitContent.ports same

theorem constraints_of_content : first.constraints.map Constraint.content =
    second.constraints.map Constraint.content := congrArg UnitContent.constraints same

theorem unitErrors_of_content (uid : String) : unitErrors uid first = unitErrors uid second := by
  have dimension : first.«structure» = second.«structure» := congrArg UnitContent.structure same
  have subUnits : first.subUnits = second.subUnits := congrArg UnitContent.subUnits same
  have portIds : first.contract.ports.map (fun port => port.portId) =
      second.contract.ports.map fun port => port.portId := by
    have ids := congrArg (List.map fun port : PortData × Json => port.1.portId)
      (ports_of_content same)
    rw [List.map_map, List.map_map] at ids
    exact ids
  have idempotency : first.contract.idempotency = second.contract.idempotency :=
    congrArg UnitContent.idempotency same
  have effects : first.contract.sideEffects = second.contract.sideEffects :=
    congrArg UnitContent.sideEffects same
  unfold unitErrors ComputationalUnit.validateDimensions UnitContract.validatePorts
  rw [dimension, subUnits, portIds, idempotency, effects]

theorem ports_isEmpty_of_content :
    first.contract.ports.isEmpty = second.contract.ports.isEmpty := by
  have lengths := congrArg List.isEmpty (ports_of_content same)
  rwa [List.isEmpty_map, List.isEmpty_map] at lengths

/-- Units with the same content find the same port under a name. -/
theorem port_of_content (portId : Json) :
    (first.contract.port portId).map PortContract.content =
      (second.contract.port portId).map PortContract.content := by
  have finds : ∀ contract : UnitContract, (contract.port portId).map PortContract.content =
      (contract.ports.map PortContract.content).find? fun port =>
        Json.pyEq (.str port.1.portId) portId := fun contract => by
    rw [List.find?_map]
    rfl
  rw [finds, finds, ports_of_content same]

theorem cleanUnit_of_content {edges others : List Edge} {uid : String}
    (counts : ∀ portId, connectionCount edges uid portId = connectionCount others uid portId)
    (clean : CleanUnit edges uid first) : CleanUnit others uid second where
  errors := unitErrors_of_content same uid ▸ clean.errors
  ports port member := by
    have listed : port.content ∈ first.contract.ports.map PortContract.content := by
      rw [ports_of_content same]
      exact List.mem_map_of_mem member
    obtain ⟨origin, inFirst, alike⟩ := List.mem_map.mp listed
    have portId : origin.portId = port.portId := congrArg (fun content => content.1.portId) alike
    have cardinality : origin.cardinality = port.cardinality :=
      congrArg (fun content => content.1.cardinality) alike
    have here := clean.ports origin inFirst
    unfold cardinalityErrors at here ⊢
    rwa [portId, cardinality, counts] at here
  constraints constraint member := by
    have listed : constraint.content ∈ first.constraints.map Constraint.content := by
      rw [constraints_of_content same]
      exact List.mem_map_of_mem member
    obtain ⟨origin, inFirst, alike⟩ := List.mem_map.mp listed
    unfold Constraint.content at alike
    rw [Constraint.mk.injEq] at alike
    obtain ⟨-, tier, expression, -⟩ := alike
    have here := clean.constraints origin inFirst
    unfold constraintErrors at here ⊢
    rw [report_eq_nil] at here ⊢
    rwa [tier, ← truthy_sortKeys, expression, truthy_sortKeys] at here

end Units

/-! ### Edges with the same content -/

/-- Ports with the same content have equal schemas. -/
theorem schema_of_content {first second : PortContract} (same : first.content = second.content) :
    (Json.obj first.schema).pyNormal = (Json.obj second.schema).pyNormal := by
  rw [← pyNormal_sortKeys, ← pyNormal_sortKeys (.obj second.schema)]
  exact congrArg Json.pyNormal (congrArg Prod.snd same)

/-- The check of an edge reads the contents of its units. -/
theorem validateEdgeContract_of_content {source target source' target' : ComputationalUnit}
    (sourceSame : source.content = source'.content) (targetSame : target.content = target'.content)
    (edge : Edge) :
    validateEdgeContract source target edge = validateEdgeContract source' target' edge := by
  have sourcePort := port_of_content sourceSame edge.sourcePort
  have targetPort := port_of_content targetSame edge.targetPort
  unfold validateEdgeContract
  rw [ports_isEmpty_of_content sourceSame, ports_isEmpty_of_content targetSame]
  refine ite_congr rfl (fun _ => rfl) fun _ => ite_congr rfl (fun _ => rfl) fun _ => ?_
  cases found : source.contract.port edge.sourcePort with
  | none =>
    rw [found] at sourcePort
    rw [Option.map_eq_none_iff.mp sourcePort.symm]
  | some port =>
    rw [found] at sourcePort
    obtain ⟨port', found', alike⟩ := Option.map_eq_some_iff.mp sourcePort.symm
    cases foundTarget : target.contract.port edge.targetPort with
    | none =>
      rw [foundTarget] at targetPort
      rw [found', Option.map_eq_none_iff.mp targetPort.symm]
    | some other =>
      rw [foundTarget] at targetPort
      obtain ⟨other', foundTarget', alikeTarget⟩ := Option.map_eq_some_iff.mp targetPort.symm
      have direction : port'.direction = port.direction :=
        congrArg (fun content => content.1.direction) alike
      have kind : port'.kind = port.kind := congrArg (fun content => content.1.kind) alike
      have otherDirection : other'.direction = other.direction :=
        congrArg (fun content => content.1.direction) alikeTarget
      have otherKind : other'.kind = other.kind :=
        congrArg (fun content => content.1.kind) alikeTarget
      have schemas : Json.pyEq (.obj port'.schema) (.obj other'.schema) =
          Json.pyEq (.obj port.schema) (.obj other.schema) := by
        unfold Json.pyEq
        rw [schema_of_content alike, schema_of_content alikeTarget]
      rw [found', foundTarget']
      show _ = report _ _ ++ report _ _ ++ report _ _
      rw [direction, kind, otherDirection, otherKind, schemas]

theorem validateEdgeGovernance_of_content {source target source' target' : ComputationalUnit}
    (sourceSame : source.content = source'.content) (targetSame : target.content = target'.content)
    (edge : Edge) :
    validateEdgeGovernance source target edge = validateEdgeGovernance source' target' edge := by
  have security : source.contract.security = source'.contract.security :=
    congrArg UnitContent.security sourceSame
  have placement : source.contract.placement = source'.contract.placement :=
    congrArg UnitContent.placement sourceSame
  have targetSecurity : target.contract.security = target'.contract.security :=
    congrArg UnitContent.security targetSame
  have targetPlacement : target.contract.placement = target'.contract.placement :=
    congrArg UnitContent.placement targetSame
  unfold validateEdgeGovernance
  rw [security, placement, targetSecurity, targetPlacement]

/-- Unit maps that hold the same contents. -/
def SameUnits (first second : Dict String ComputationalUnit) : Prop :=
  ∀ uid, (first.get? uid).map ComputationalUnit.content =
    (second.get? uid).map ComputationalUnit.content

theorem SameUnits.mem_iff {first second : Dict String ComputationalUnit}
    (same : SameUnits first second) {uid : String} : uid ∈ first ↔ uid ∈ second := by
  have present := congrArg Option.isSome (same uid)
  rw [Option.isSome_map, Option.isSome_map, Bool.eq_iff_iff, Option.isSome_iff_exists,
    Option.isSome_iff_exists] at present
  rw [Dict.mem_iff_get?, Dict.mem_iff_get?]
  exact present

theorem edgeErrors_of_units {first second : Dict String ComputationalUnit}
    (same : SameUnits first second) (edge : Edge) :
    edgeErrors first edge = edgeErrors second edge := by
  have source := same edge.source.value
  have target := same edge.target.value
  unfold edgeErrors
  rw [decide_eq_decide.mpr (not_congr same.mem_iff), decide_eq_decide.mpr (not_congr same.mem_iff)]
  refine congrArg _ ?_
  cases found : first.get? edge.source.value with
  | none =>
    rw [found] at source
    rw [Option.map_eq_none_iff.mp source.symm]
  | some unit =>
    rw [found] at source
    obtain ⟨unit', found', alike⟩ := Option.map_eq_some_iff.mp source.symm
    cases foundTarget : first.get? edge.target.value with
    | none =>
      rw [foundTarget] at target
      rw [found', Option.map_eq_none_iff.mp target.symm]
    | some other =>
      rw [foundTarget] at target
      obtain ⟨other', foundTarget', alikeTarget⟩ := Option.map_eq_some_iff.mp target.symm
      rw [found', foundTarget']
      show validateEdgeContract _ _ _ ++ _ = validateEdgeContract _ _ _ ++ _
      rw [validateEdgeContract_of_content alike alikeTarget,
        validateEdgeGovernance_of_content alike alikeTarget]

theorem Edge.identity_content (edge : Edge) : edge.content.identity = edge.identity := by
  unfold Edge.identity Edge.content
  rw [pyNormal_sortKeys, pyNormal_sortKeys]

theorem hashable_sortKeys (value : Json) : value.sortKeys.hashable = value.hashable := by
  cases value <;> simp [Json.hashable]

theorem Edge.portsHashable_content (edge : Edge) :
    edge.content.PortsHashable ↔ edge.PortsHashable := by
  unfold Edge.PortsHashable Edge.content
  rw [hashable_sortKeys, hashable_sortKeys]

theorem sortKeys_beq_null (value : Json) : (value.sortKeys == .null) = (value == .null) := by
  cases value <;> simp

/-- Nothing that the checks of an edge read is left out of its content. -/
theorem edgeErrors_content (units : Dict String ComputationalUnit) (edge : Edge) :
    edgeErrors units edge.content = edgeErrors units edge := by
  have ports : ∀ (contract : UnitContract) (port : Json),
      contract.port port.sortKeys = contract.port port := fun contract port => by
    unfold UnitContract.port Json.pyEq
    rw [pyNormal_sortKeys]
  have contracts : ∀ source target, validateEdgeContract source target edge.content =
      validateEdgeContract source target edge := fun source target => by
    unfold validateEdgeContract Edge.content
    rw [sortKeys_beq_null, sortKeys_beq_null, ports, ports]
    rfl
  unfold edgeErrors
  simp only [contracts]
  rfl

theorem connectionCount_content (edges : List Edge) (uid portId : String) :
    connectionCount (edges.map Edge.content) uid portId = connectionCount edges uid portId := by
  unfold connectionCount
  rw [List.countP_map, List.countP_map]
  unfold Edge.content Json.pyEq Function.comp
  simp only [pyNormal_sortKeys]

theorem connectionCount_of_perm {first second : List Edge} (perm : first.Perm second)
    (uid portId : String) :
    connectionCount first uid portId = connectionCount second uid portId := by
  unfold connectionCount
  rw [perm.countP_eq, perm.countP_eq]

/-! ### Graphs with the same content -/

/-- **A graph with the content of a clean one is clean.** -/
theorem Clean.of_content {first second : StructuralGraph} (same : first.content = second.content)
    (clean : Clean first) : Clean second := by
  have units : SameUnits first.units second.units := fun uid =>
    congrFun (congrArg GraphContent.units same) uid
  have perm : (first.edges.map Edge.content).Perm (second.edges.map Edge.content) :=
    Quotient.exact (congrArg GraphContent.edges same)
  have origin : ∀ edge ∈ second.edges, ∃ other ∈ first.edges, other.content = edge.content :=
    fun edge member => List.mem_map.mp (perm.mem_iff.mpr (List.mem_map_of_mem member))
  constructor
  · intro uid unit stored
    have found := units uid
    rw [stored] at found
    obtain ⟨before, storedBefore, alike⟩ := Option.map_eq_some_iff.mp found
    refine cleanUnit_of_content alike (fun portId => ?_) (clean.units uid before storedBefore)
    rw [← connectionCount_content, connectionCount_of_perm perm, connectionCount_content]
  · intro edge member
    obtain ⟨other, inFirst, alike⟩ := origin edge member
    rw [← edge.portsHashable_content, ← alike, other.portsHashable_content]
    exact clean.hashable other inFirst
  · intro edge member
    obtain ⟨other, inFirst, alike⟩ := origin edge member
    rw [← edgeErrors_content, ← alike, edgeErrors_content, ← edgeErrors_of_units units]
    exact clean.edges other inFirst
  · have identities : ∀ edges : List Edge,
        (edges.map Edge.content).map Edge.identity = edges.map Edge.identity := fun edges => by
      rw [List.map_map]
      exact List.map_congr_left fun edge _ => edge.identity_content
    rw [← identities, ← (perm.map Edge.identity).nodup_iff, identities]
    exact clean.distinct

/-- **Graphs with the same content are valid together.** -/
theorem valid_iff_of_content {first second : StructuralGraph}
    (same : first.content = second.content) : Valid first ↔ Valid second := by
  rw [valid_iff_clean, valid_iff_clean]
  exact ⟨Clean.of_content same, Clean.of_content same.symm⟩

end Dnc
