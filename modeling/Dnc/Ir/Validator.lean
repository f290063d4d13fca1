/-
**The graph validator.**

`dnc.ir.validator.DNCIRValidator.validate_graph`: dimension rules, port contracts and effect rules
of every unit, integrity and contracts of every edge, port cardinalities, constraints. The result
lists every violation in the order the source finds them. Checking for duplicate edges puts port
bindings in a set, so a port that is a list or an object raises.

What a valid graph promises about its edges is `EdgesSound`, and `edgesSound_of_valid` derives it:
endpoints exist, ports are bound on both sides or on neither, a bound port is declared by its unit
under exactly that name, and no two edges share endpoints, ports and type.
-/

import Dnc.Ir.Graph

namespace Dnc

open PyLib

structure ValidationError where
  tier : EnforcementTier
  code : String
  message : String
  targetId : String := ""
deriving DecidableEq

/-- `repr(error)` of a validation error. -/
def ValidationError.repr (error : ValidationError) : String :=
  let tier : String := PyEnum.value error.tier
  s!"ValidationError(tier=<{PyEnum.display error.tier}: {Json.textRepr tier}>, " ++
    s!"code={Json.textRepr error.code}, message={Json.textRepr error.message}, " ++
    s!"target_id={Json.textRepr error.targetId})"

structure ValidationResult where
  isValid : Bool
  errors : List ValidationError := []
  warnings : List ValidationError := []
deriving DecidableEq

/-- `ValidationError(tier=EnforcementTier.INVARIANT, …)`. -/
def invariantError (code message targetId : String) : ValidationError :=
  ⟨.invariant, code, message, targetId⟩

/-- The error, if the condition that reports it holds. -/
def report (failed : Bool) (error : ValidationError) : List ValidationError :=
  if failed then [error] else []

/-! ### Units -/

/-- The structural invariants of one unit. -/
def unitErrors (uid : String) (unit : ComputationalUnit) : List ValidationError :=
  let effects := unit.contract.sideEffects
  let idempotency := unit.contract.idempotency
  report (!unit.validateDimensions)
    (invariantError "INV_UNIT_DIMENSION" s!"Unit {uid} violates dimensional structure rules." uid) ++
  report (!unit.contract.validatePorts)
    (invariantError "INV_PORT_ID_DUPLICATE" s!"Unit {uid} declares duplicate port identifiers."
      uid) ++
  report (effects.classification != .none && idempotency.mode == .none)
    (invariantError "INV_EFFECT_IDEMPOTENCY_REQUIRED"
      s!"Effectful unit {uid} MUST declare idempotency semantics." uid) ++
  report (effects.classification == .irreversible &&
      !(idempotency.mode == .keyRequired || idempotency.mode == .atMostOnce))
    (invariantError "INV_IRREVERSIBLE_EFFECT_DUPLICATION_CONTROL"
      s!"Irreversible unit {uid} MUST require an idempotency key or at-most-once dispatch." uid)

/-! ### Edges -/

/-- `f"{edge.source.value}->{edge.target.value}"`. -/
def Edge.label (edge : Edge) : String := s!"{edge.source.value}->{edge.target.value}"

/-- The tuple of `seen_edges`. Ports are compared as Python compares them. -/
def Edge.identity (edge : Edge) : String × Json × String × Json × String :=
  (edge.source.value, edge.sourcePort.pyNormal, edge.target.value, edge.targetPort.pyNormal,
    PyEnum.value edge.edgeType)

/-- `hash(edge_identity)`. -/
def Edge.requireHashable (edge : Edge) : Except PyError Unit :=
  if edge.sourcePort.hashable = false then
    .error (.typeError s!"unhashable type: '{edge.sourcePort.typeName}'")
  else if edge.targetPort.hashable = false then
    .error (.typeError s!"unhashable type: '{edge.targetPort.typeName}'")
  else .ok ()

/-- `_validate_edge_contract`. -/
def validateEdgeContract (sourceUnit targetUnit : ComputationalUnit) (edge : Edge) :
    List ValidationError :=
  let typedEndpoints := !sourceUnit.contract.ports.isEmpty || !targetUnit.contract.ports.isEmpty
  if (edge.sourcePort == .null) != (edge.targetPort == .null) then
    [invariantError "INV_EDGE_PORT_BINDING_INCOMPLETE"
      "An edge port binding MUST name both source and target ports." edge.label]
  else if edge.sourcePort == .null then
    report typedEndpoints
      (invariantError "INV_EDGE_PORT_BINDING_REQUIRED"
        "Edges touching typed units MUST bind source and target ports." edge.label)
  else
    match sourceUnit.contract.port edge.sourcePort, targetUnit.contract.port edge.targetPort with
    | some sourcePort, some targetPort =>
      report (sourcePort.direction != .output || targetPort.direction != .input)
        (invariantError "INV_EDGE_PORT_DIRECTION" "Edges MUST connect OUTPUT ports to INPUT ports."
          edge.label) ++
      report (PyEnum.value sourcePort.kind != PyEnum.value edge.edgeType ||
          PyEnum.value targetPort.kind != PyEnum.value edge.edgeType)
        (invariantError "INV_EDGE_PORT_KIND" "Edge type MUST match both bound port kinds."
          edge.label) ++
      report (!Json.pyEq (.obj sourcePort.schema) (.obj targetPort.schema))
        (invariantError "INV_EDGE_SCHEMA_MISMATCH"
          "Bound source and target port schemas MUST be equal." edge.label)
    | _, _ =>
      [invariantError "INV_EDGE_PORT_MISSING"
        "Edge references an undeclared source or target port." edge.label]

/-- `first and second and first.isdisjoint(second)`. -/
def conflicting (first second : Finset String) : Bool :=
  decide (first ≠ ∅ ∧ second ≠ ∅ ∧ Disjoint first second)

/-- One locality check of `_validate_edge_governance`. -/
def localityError (name : String) (sourceValues targetValues : Finset String) (edge : Edge) :
    List ValidationError :=
  report (conflicting sourceValues targetValues)
    (invariantError "INV_EDGE_LOCALITY_CONFLICT" s!"Local-input edge has incompatible {name}."
      edge.label)

/-- `_validate_edge_governance`. -/
def validateEdgeGovernance (sourceUnit targetUnit : ComputationalUnit) (edge : Edge) :
    List ValidationError :=
  let sourceSecurity := sourceUnit.contract.security
  let targetSecurity := targetUnit.contract.security
  let sourcePlacement := sourceUnit.contract.placement
  let targetPlacement := targetUnit.contract.placement
  report (sourceSecurity.tenantId.isSome && targetSecurity.tenantId.isSome &&
      sourceSecurity.tenantId != targetSecurity.tenantId)
    (invariantError "INV_EDGE_TENANT_MISMATCH" "Edges cannot cross explicit tenant boundaries."
      edge.label) ++
  report ((edge.edgeType == .data || edge.edgeType == .state || edge.edgeType == .resource) &&
      decide (sourceSecurity.outputClassification.rank >
        targetSecurity.maximumInputClassification.rank))
    (invariantError "INV_EDGE_CLASSIFICATION_DOWNGRADE"
      "Target cannot accept the source data classification." edge.label) ++
  report (conflicting sourceSecurity.allowedResidencies targetSecurity.allowedResidencies)
    (invariantError "INV_EDGE_RESIDENCY_CONFLICT"
      "Connected units have no common permitted data residency." edge.label) ++
  report (decide (sourceSecurity.trustZone ≠ "" ∧ targetSecurity.acceptedTrustZones ≠ ∅ ∧
      sourceSecurity.trustZone ∉ targetSecurity.acceptedTrustZones))
    (invariantError "INV_EDGE_TRUST_ZONE_DENIED" "Target does not accept the source trust zone."
      edge.label) ++
  if targetPlacement.requiresLocalInputs then
    localityError "allowed_regions" sourcePlacement.allowedRegions targetPlacement.allowedRegions
      edge ++
    localityError "allowed_devices" sourcePlacement.allowedDevices targetPlacement.allowedDevices
      edge ++
    localityError "allowed_runtimes" sourcePlacement.allowedRuntimes
      targetPlacement.allowedRuntimes edge
  else []

/-- The checks of one edge after the duplicate check, against the units of the graph. -/
def edgeErrors (units : Dict String ComputationalUnit) (edge : Edge) : List ValidationError :=
  report (decide (edge.source.value ∉ units))
    (invariantError "INV_EDGE_SOURCE_MISSING"
      s!"Edge references non-existent source unit {edge.source}." edge.source.value) ++
  report (decide (edge.target.value ∉ units))
    (invariantError "INV_EDGE_TARGET_MISSING"
      s!"Edge references non-existent target unit {edge.target}." edge.target.value) ++
  match units.get? edge.source.value, units.get? edge.target.value with
  | some sourceUnit, some targetUnit =>
    validateEdgeContract sourceUnit targetUnit edge ++
      validateEdgeGovernance sourceUnit targetUnit edge
  | _, _ => []

/-- The loop over the edges; `seen` holds the identities of the edges before. -/
def edgeIntegrityErrors (units : Dict String ComputationalUnit) :
    List Edge → List (String × Json × String × Json × String) →
      Except PyError (List ValidationError)
  | [], _ => .ok []
  | edge :: rest, seen => do
    edge.requireHashable
    let later ← edgeIntegrityErrors units rest (edge.identity :: seen)
    return report (decide (edge.identity ∈ seen))
      (invariantError "INV_EDGE_DUPLICATE"
        "Duplicate edges between the same port pair are forbidden." edge.label) ++
      edgeErrors units edge ++ later

/-! ### Cardinalities and constraints -/

/-- `connection_counts[(uid, port_id)]`. -/
def connectionCount (edges : List Edge) (uid portId : String) : Nat :=
  edges.countP (fun edge => edge.source.value == uid && Json.pyEq (.str portId) edge.sourcePort) +
  edges.countP (fun edge => edge.target.value == uid && Json.pyEq (.str portId) edge.targetPort)

/-- The cardinality check of one port. -/
def cardinalityErrors (edges : List Edge) (uid : String) (port : PortContract) :
    List ValidationError :=
  let count := connectionCount edges uid port.portId
  report (decide (count < port.cardinality.minimum) ||
      port.cardinality.maximum.any fun maximum => decide (count > maximum))
    (invariantError "INV_PORT_CARDINALITY"
      (s!"Port {uid}.{port.portId} has {count} connections; " ++
        s!"requires {PyEnum.value port.cardinality}.") uid)

def constraintErrors (uid : String) (constraint : Constraint) : List ValidationError :=
  report (constraint.tier == .invariant && !constraint.expression.truthy)
    (invariantError "INV_CONSTRAINT_EMPTY"
      s!"Unit {uid} has empty invariant constraint {constraint.constraintId.pyStr}." uid)

def constraintWarnings (uid : String) (constraint : Constraint) : List ValidationError :=
  report (constraint.tier == .constraint && !constraint.expression.truthy)
    ⟨.constraint, "WARN_CONSTRAINT_EMPTY",
      s!"Unit {uid} has empty negotiable constraint {constraint.constraintId.pyStr}.", uid⟩

/-- `DNCIRValidator.validate_graph`. -/
def validateGraph (graph : StructuralGraph) : Except PyError ValidationResult := do
  let units := graph.units.entries
  let structural := units.flatMap fun entry => unitErrors entry.1 entry.2
  let integrity ← edgeIntegrityErrors graph.units graph.edges []
  let cardinality := units.flatMap fun entry =>
    entry.2.contract.ports.flatMap (cardinalityErrors graph.edges entry.1)
  let constraint := units.flatMap fun entry =>
    entry.2.constraints.flatMap (constraintErrors entry.1)
  let warnings := units.flatMap fun entry =>
    entry.2.constraints.flatMap (constraintWarnings entry.1)
  let errors := structural ++ integrity ++ cardinality ++ constraint
  return { isValid := errors.isEmpty, errors, warnings }

/-- `validate_graph` returns, and finds the graph valid. -/
def Valid (graph : StructuralGraph) : Prop :=
  ∃ result, validateGraph graph = .ok result ∧ result.isValid = true

/-! ### When the validator returns -/

/-- Both ports can be put in a set. -/
def Edge.PortsHashable (edge : Edge) : Prop :=
  edge.sourcePort.hashable = true ∧ edge.targetPort.hashable = true

theorem Edge.requireHashable_eq_ok {edge : Edge} :
    edge.requireHashable = .ok () ↔ edge.PortsHashable := by
  unfold Edge.requireHashable Edge.PortsHashable
  cases edge.sourcePort.hashable <;> cases edge.targetPort.hashable <;> simp

theorem edgeIntegrityErrors_returns {units : Dict String ComputationalUnit} {edges : List Edge}
    {seen : List (String × Json × String × Json × String)} :
    (∃ errors, edgeIntegrityErrors units edges seen = .ok errors) ↔
      ∀ edge ∈ edges, edge.PortsHashable := by
  induction edges generalizing seen with
  | nil => exact iff_of_true ⟨[], rfl⟩ fun _ member => absurd member List.not_mem_nil
  | cons edge rest ih =>
    rw [List.forall_mem_cons, ← Edge.requireHashable_eq_ok, ← @ih (edge.identity :: seen),
      edgeIntegrityErrors]
    cases edge.requireHashable with
    | error error => simp [bind, Except.bind]
    | ok done =>
      cases edgeIntegrityErrors units rest (edge.identity :: seen) with
      | error error => simp [bind, Except.bind]
      | ok errors => simp [bind, Except.bind, pure, Except.pure]

/-- **The validator returns exactly where every port of an edge is hashable.** -/
theorem validateGraph_returns {graph : StructuralGraph} :
    (∃ result, validateGraph graph = .ok result) ↔ ∀ edge ∈ graph.edges, edge.PortsHashable := by
  rw [← @edgeIntegrityErrors_returns graph.units graph.edges [], validateGraph]
  cases edgeIntegrityErrors graph.units graph.edges [] with
  | error error => simp [bind, Except.bind]
  | ok errors => simp [bind, Except.bind, pure, Except.pure]

/-! ### What a valid graph promises -/

/-- The ports of an edge: bound on neither side, or on both to ports that the units declare. -/
def PortsBound (units : Dict String ComputationalUnit) (edge : Edge) : Prop :=
  (edge.sourcePort = .null ∧ edge.targetPort = .null) ∨
    ∃ sourceUnit targetUnit sourcePort targetPort,
      units.get? edge.source.value = some sourceUnit ∧
      units.get? edge.target.value = some targetUnit ∧
      sourcePort ∈ sourceUnit.contract.ports ∧ edge.sourcePort = .str sourcePort.portId ∧
      targetPort ∈ targetUnit.contract.ports ∧ edge.targetPort = .str targetPort.portId

/-- **The edges of a valid graph.** -/
structure EdgesSound (graph : StructuralGraph) : Prop where
  present : ∀ edge ∈ graph.edges, edge.source.value ∈ graph.units ∧ edge.target.value ∈ graph.units
  bound : ∀ edge ∈ graph.edges, PortsBound graph.units edge
  distinct : (graph.edges.map Edge.identity).Nodup

@[simp] theorem report_eq_nil {failed : Bool} {error : ValidationError} :
    report failed error = [] ↔ failed = false := by
  cases failed <;> simp [report]

/-- Validation reads the units and the edges only. -/
theorem validateGraph_congr {first second : StructuralGraph} (units : first.units = second.units)
    (edges : first.edges = second.edges) : validateGraph first = validateGraph second := by
  unfold validateGraph
  rw [units, edges]

theorem Valid.congr {first second : StructuralGraph} (valid : Valid first)
    (units : first.units = second.units) (edges : first.edges = second.edges) : Valid second := by
  obtain ⟨result, checked, isValid⟩ := valid
  exact ⟨result, validateGraph_congr units edges ▸ checked, isValid⟩

theorem edgeErrors_eq_nil {units : Dict String ComputationalUnit} {edge : Edge}
    (clean : edgeErrors units edge = []) :
    ∃ sourceUnit targetUnit, units.get? edge.source.value = some sourceUnit ∧
      units.get? edge.target.value = some targetUnit ∧
      validateEdgeContract sourceUnit targetUnit edge = [] := by
  unfold edgeErrors at clean
  simp only [List.append_eq_nil_iff, report_eq_nil, decide_eq_false_iff_not, not_not] at clean
  obtain ⟨⟨source, target⟩, contract⟩ := clean
  obtain ⟨sourceUnit, sourceFound⟩ := Dict.mem_iff_get?.mp source
  obtain ⟨targetUnit, targetFound⟩ := Dict.mem_iff_get?.mp target
  rw [sourceFound, targetFound] at contract
  exact ⟨sourceUnit, targetUnit, sourceFound, targetFound, (List.append_eq_nil_iff.mp contract).1⟩

/-- An edge without a contract error has both ports unbound or both declared. -/
theorem portsBound_of_contract {units : Dict String ComputationalUnit} {edge : Edge}
    {sourceUnit targetUnit : ComputationalUnit}
    (sourceFound : units.get? edge.source.value = some sourceUnit)
    (targetFound : units.get? edge.target.value = some targetUnit)
    (clean : validateEdgeContract sourceUnit targetUnit edge = []) : PortsBound units edge := by
  simp only [validateEdgeContract] at clean
  split_ifs at clean with incomplete unbound
  · have both : (edge.sourcePort == Json.null) = (edge.targetPort == Json.null) := by
      simpa using incomplete
    have target : (edge.targetPort == Json.null) = true := both ▸ unbound
    exact Or.inl ⟨by simpa using unbound, by simpa using target⟩
  · cases source : sourceUnit.contract.port edge.sourcePort with
    | none => simp [source] at clean
    | some sourcePort =>
      cases target : targetUnit.contract.port edge.targetPort with
      | none => simp [source, target] at clean
      | some targetPort =>
        obtain ⟨sourceName, sourceMember⟩ := UnitContract.port_eq_some source
        obtain ⟨targetName, targetMember⟩ := UnitContract.port_eq_some target
        exact Or.inr ⟨sourceUnit, targetUnit, sourcePort, targetPort, sourceFound, targetFound,
          sourceMember, sourceName, targetMember, targetName⟩

/-- The edge loop without an error: every edge is clean and its identity is new. -/
theorem edgeIntegrityErrors_eq_nil {units : Dict String ComputationalUnit} :
    ∀ {edges : List Edge} {seen : List (String × Json × String × Json × String)},
      edgeIntegrityErrors units edges seen = .ok [] →
      (∀ edge ∈ edges, edgeErrors units edge = [] ∧ edge.identity ∉ seen) ∧
        (edges.map Edge.identity).Nodup
  | [], _, _ => by simp
  | edge :: rest, seen, clean => by
    cases hashed : edge.requireHashable with
    | error error => simp [edgeIntegrityErrors, hashed, bind, Except.bind] at clean
    | ok done =>
      cases later : edgeIntegrityErrors units rest (edge.identity :: seen) with
      | error error => simp [edgeIntegrityErrors, hashed, later, bind, Except.bind] at clean
      | ok errors =>
        simp only [edgeIntegrityErrors, hashed, later, bind, Except.bind, pure, Except.pure,
          Except.ok.injEq, List.append_eq_nil_iff, report_eq_nil, decide_eq_false_iff_not] at clean
        obtain ⟨⟨fresh, here⟩, none⟩ := clean
        subst none
        obtain ⟨rests, nodup⟩ := edgeIntegrityErrors_eq_nil later
        have unseen : ∀ other ∈ rest, other.identity ≠ edge.identity ∧ other.identity ∉ seen :=
          fun other member => by simpa using (rests other member).2
        refine ⟨fun other member => ?_, ?_⟩
        · rcases List.mem_cons.mp member with same | old
          · rw [same]
            exact ⟨here, fresh⟩
          · exact ⟨(rests other old).1, (unseen other old).2⟩
        · rw [List.map_cons, List.nodup_cons]
          refine ⟨fun repeated => ?_, nodup⟩
          obtain ⟨other, member, same⟩ := List.mem_map.mp repeated
          exact (unseen other member).1 same

/-- **A valid graph has sound edges.** -/
theorem edgesSound_of_valid {graph : StructuralGraph} (valid : Valid graph) : EdgesSound graph := by
  obtain ⟨result, checked, isValid⟩ := valid
  unfold validateGraph at checked
  cases integrity : edgeIntegrityErrors graph.units graph.edges [] with
  | error error => simp [integrity, bind, Except.bind] at checked
  | ok errors =>
    simp only [integrity, bind, Except.bind, pure, Except.pure, Except.ok.injEq] at checked
    rw [← checked] at isValid
    simp only [List.isEmpty_iff, List.append_eq_nil_iff] at isValid
    have none : errors = [] := isValid.1.1.2
    subst none
    obtain ⟨clean, nodup⟩ := edgeIntegrityErrors_eq_nil integrity
    refine ⟨fun edge member => ?_, fun edge member => ?_, nodup⟩
    · obtain ⟨_, _, source, target, _⟩ := edgeErrors_eq_nil (clean edge member).1
      exact ⟨Dict.mem_of_get? source, Dict.mem_of_get? target⟩
    · obtain ⟨_, _, source, target, contract⟩ := edgeErrors_eq_nil (clean edge member).1
      exact portsBound_of_contract source target contract

end Dnc
