/-
**Growing a valid graph.**

What the validator asks of a graph that was valid before a unit or an edge without ports was added:
nothing about what was there already.

* `clean_addUnit_iff`: a unit under a new identifier has to be clean itself.
* `clean_addEdge_iff`: an edge has to be clean, and no edge before it may have its identity.
* `edgeErrors_eq_nil_iff`: an edge without ports is clean exactly where neither unit declares ports
  and the governance of the units lets it pass (`Governed`).
-/

import Dnc.Ir.ValidContent

namespace Dnc

open PyLib Json

/-- The edge binds no ports. -/
def Edge.Unbound (edge : Edge) : Prop := edge.sourcePort = .null ∧ edge.targetPort = .null

/-! ### One more unit -/

/-- The checks of an edge read the units at its ends. -/
theorem edgeErrors_congr {units others : Dict String ComputationalUnit} {edge : Edge}
    (source : others.get? edge.source.value = units.get? edge.source.value)
    (target : others.get? edge.target.value = units.get? edge.target.value) :
    edgeErrors others edge = edgeErrors units edge := by
  have stored : ∀ {uid : String}, others.get? uid = units.get? uid →
      (uid ∉ others ↔ uid ∉ units) := by
    intro uid same
    rw [← Dict.get?_eq_none, ← Dict.get?_eq_none, same]
  unfold edgeErrors
  rw [source, target, decide_eq_decide.mpr (stored source), decide_eq_decide.mpr (stored target)]

/-- **A new unit has to be clean itself.** -/
theorem clean_addUnit_iff {graph : StructuralGraph} (clean : Clean graph) {uid : String}
    (fresh : uid ∉ graph.units) (unit : ComputationalUnit) :
    Clean { graph with units := graph.units.set uid unit } ↔ CleanUnit graph.edges uid unit := by
  constructor
  · intro grown
    exact grown.units uid unit (Dict.get?_set_self graph.units uid unit)
  · intro cleanUnit
    refine ⟨fun other stored found => ?_, clean.hashable, fun edge member => ?_, clean.distinct⟩
    · have lookup : (graph.units.set uid unit).get? other = some stored := found
      rw [Dict.get?_set] at lookup
      split_ifs at lookup with same
      · obtain rfl := Option.some.inj lookup
        exact same ▸ cleanUnit
      · exact clean.units other stored lookup
    · obtain ⟨_, _, source, target, -⟩ := edgeErrors_eq_nil (clean.edges edge member)
      have old : ∀ {other : String} {stored : ComputationalUnit},
          graph.units.get? other = some stored →
            (graph.units.set uid unit).get? other = graph.units.get? other := by
        intro other stored found
        refine Dict.get?_set_of_ne _ (fun same => fresh ?_) unit
        exact same ▸ Dict.mem_of_get? found
      show edgeErrors (graph.units.set uid unit) edge = []
      rw [edgeErrors_congr (old source) (old target)]
      exact clean.edges edge member

/-! ### One more edge -/

/-- An edge without ports is counted at no port. -/
theorem connectionCount_append {edge : Edge} (unbound : edge.Unbound) (edges : List Edge)
    (uid portId : String) :
    connectionCount (edges ++ [edge]) uid portId = connectionCount edges uid portId := by
  have other : Json.pyEq (.str portId) .null = false := by
    rw [← Bool.not_eq_true, pyEq_str]
    exact nofun
  unfold connectionCount
  rw [List.countP_append, List.countP_append, List.countP_singleton, List.countP_singleton,
    unbound.1, unbound.2, other, Bool.and_false, Bool.and_false]
  rfl

theorem cleanUnit_append_iff {edge : Edge} (unbound : edge.Unbound) {edges : List Edge}
    {uid : String} {unit : ComputationalUnit} :
    CleanUnit (edges ++ [edge]) uid unit ↔ CleanUnit edges uid unit := by
  have cardinality : ∀ port, cardinalityErrors (edges ++ [edge]) uid port =
      cardinalityErrors edges uid port := by
    intro port
    unfold cardinalityErrors
    rw [connectionCount_append unbound]
  constructor
  · rintro ⟨errors, ports, constraints⟩
    exact ⟨errors, fun port member => cardinality port ▸ ports port member, constraints⟩
  · rintro ⟨errors, ports, constraints⟩
    exact ⟨errors, fun port member => (cardinality port).symm ▸ ports port member, constraints⟩

/-- **A new edge has to be clean and to differ from the others.** -/
theorem clean_addEdge_iff {graph : StructuralGraph} (clean : Clean graph) {edge : Edge}
    (unbound : edge.Unbound) :
    Clean (graph.addEdge edge) ↔
      edgeErrors graph.units edge = [] ∧ ∀ old ∈ graph.edges, old.identity ≠ edge.identity := by
  have last : ∀ {P : Edge → Prop}, (∀ old ∈ graph.edges, P old) →
      ((∀ old ∈ (graph.addEdge edge).edges, P old) ↔ P edge) := by
    intro P before
    constructor
    · exact fun all => all edge (List.mem_append_right _ (List.mem_singleton_self edge))
    · intro here old member
      rcases List.mem_append.mp member with present | new
      · exact before old present
      · rwa [List.mem_singleton.mp new]
  have distinct : ((graph.addEdge edge).edges.map Edge.identity).Nodup ↔
      ∀ old ∈ graph.edges, old.identity ≠ edge.identity := by
    show ((graph.edges ++ [edge]).map Edge.identity).Nodup ↔ _
    rw [List.map_append, List.nodup_append]
    simp only [List.map_cons, List.map_nil, List.mem_singleton, forall_eq, List.nodup_singleton,
      true_and, clean.distinct, List.forall_mem_map]
  constructor
  · intro grown
    exact ⟨(last clean.edges).mp grown.edges, distinct.mp grown.distinct⟩
  · rintro ⟨errors, differs⟩
    refine ⟨fun uid unit found => ?_, (last clean.hashable).mpr ?_, (last clean.edges).mpr errors,
      distinct.mpr differs⟩
    · exact (cleanUnit_append_iff unbound).mpr (clean.units uid unit found)
    · unfold Edge.PortsHashable
      rw [unbound.1, unbound.2]
      exact ⟨rfl, rfl⟩

/-! ### Edges without ports -/

/-- The governance of two units lets an edge of the type pass. -/
structure Governed (source target : ComputationalUnit) (edgeType : EdgeType) : Prop where
  tenants : ∀ tenant other, source.contract.security.tenantId = some tenant →
    target.contract.security.tenantId = some other → tenant = other
  classification : edgeType = .data ∨ edgeType = .state ∨ edgeType = .resource →
    source.contract.security.outputClassification.rank ≤
      target.contract.security.maximumInputClassification.rank
  residencies : conflicting source.contract.security.allowedResidencies
    target.contract.security.allowedResidencies = false
  trustZone : source.contract.security.trustZone = "" ∨
    target.contract.security.acceptedTrustZones = ∅ ∨
      source.contract.security.trustZone ∈ target.contract.security.acceptedTrustZones
  locality : target.contract.placement.requiresLocalInputs = true →
    conflicting source.contract.placement.allowedRegions
        target.contract.placement.allowedRegions = false ∧
      conflicting source.contract.placement.allowedDevices
        target.contract.placement.allowedDevices = false ∧
      conflicting source.contract.placement.allowedRuntimes
        target.contract.placement.allowedRuntimes = false

theorem tenants_agree_iff {first second : Option String} :
    (first.isSome && second.isSome && first != second) = false ↔
      ∀ tenant other, first = some tenant → second = some other → tenant = other := by
  cases first <;> cases second <;> simp

theorem classification_allows_iff {edgeType : EdgeType} {output input : Nat} :
    ((edgeType == .data || edgeType == .state || edgeType == .resource) &&
        decide (output > input)) = false ↔
      (edgeType = .data ∨ edgeType = .state ∨ edgeType = .resource → output ≤ input) := by
  rw [Bool.and_eq_false_imp, Bool.or_eq_true, Bool.or_eq_true, beq_iff_eq, beq_iff_eq, beq_iff_eq,
    or_assoc, decide_eq_false_iff_not, gt_iff_lt, not_lt]

theorem trustZone_accepted_iff {zone : String} {accepted : Finset String} :
    decide (zone ≠ "" ∧ accepted ≠ ∅ ∧ zone ∉ accepted) = false ↔
      zone = "" ∨ accepted = ∅ ∨ zone ∈ accepted := by
  rw [decide_eq_false_iff_not, not_and_or, not_and_or, not_not, not_not, not_not]

theorem locality_eq_nil_iff {needed regions devices runtimes : Bool}
    {regionError deviceError runtimeError : ValidationError} :
    (if needed then report regions regionError ++ report devices deviceError ++
        report runtimes runtimeError else []) = [] ↔
      (needed = true → regions = false ∧ devices = false ∧ runtimes = false) := by
  cases needed with
  | false => exact iff_of_true rfl nofun
  | true =>
    rw [if_pos rfl, List.append_eq_nil_iff, List.append_eq_nil_iff, report_eq_nil, report_eq_nil,
      report_eq_nil, and_assoc]
    exact ⟨fun all _ => all, fun all => all rfl⟩

/-- The governance of an edge, check by check. -/
theorem validateEdgeGovernance_eq_nil_iff {source target : ComputationalUnit} {edge : Edge} :
    validateEdgeGovernance source target edge = [] ↔ Governed source target edge.edgeType := by
  unfold validateEdgeGovernance localityError
  dsimp only
  rw [List.append_eq_nil_iff, List.append_eq_nil_iff, List.append_eq_nil_iff,
    List.append_eq_nil_iff, report_eq_nil, report_eq_nil, report_eq_nil, report_eq_nil,
    tenants_agree_iff, classification_allows_iff, trustZone_accepted_iff, locality_eq_nil_iff]
  constructor
  · rintro ⟨⟨⟨⟨tenants, classification⟩, residencies⟩, trustZone⟩, locality⟩
    exact ⟨tenants, classification, residencies, trustZone, locality⟩
  · rintro ⟨tenants, classification, residencies, trustZone, locality⟩
    exact ⟨⟨⟨⟨tenants, classification⟩, residencies⟩, trustZone⟩, locality⟩

/-- **When an edge without ports is clean.** -/
theorem edgeErrors_eq_nil_iff {units : Dict String ComputationalUnit} {edge : Edge}
    (unbound : edge.Unbound) {source target : ComputationalUnit}
    (sourceFound : units.get? edge.source.value = some source)
    (targetFound : units.get? edge.target.value = some target) :
    edgeErrors units edge = [] ↔
      (source.contract.ports = [] ∧ target.contract.ports = []) ∧
        Governed source target edge.edgeType := by
  have contract : validateEdgeContract source target edge = [] ↔
      source.contract.ports = [] ∧ target.contract.ports = [] := by
    unfold validateEdgeContract
    rw [unbound.1, unbound.2]
    simp
  have sourceStored : ¬ edge.source.value ∉ units := not_not.mpr (Dict.mem_of_get? sourceFound)
  have targetStored : ¬ edge.target.value ∉ units := not_not.mpr (Dict.mem_of_get? targetFound)
  unfold edgeErrors
  rw [sourceFound, targetFound, decide_eq_false sourceStored, decide_eq_false targetStored]
  dsimp only
  rw [List.append_eq_nil_iff, List.append_eq_nil_iff, report_eq_nil, List.append_eq_nil_iff,
    report_eq_nil, contract, validateEdgeGovernance_eq_nil_iff]
  exact and_iff_right ⟨rfl, rfl⟩

/-- An edge has the identity of one without ports where ends and type are the same, and it has none
either. -/
theorem identity_eq_iff {edge unported : Edge} (unbound : unported.Unbound) :
    edge.identity = unported.identity ↔ edge.source = unported.source ∧
      edge.target = unported.target ∧ edge.edgeType = unported.edgeType ∧ edge.Unbound := by
  have null : ∀ {value : Json}, value.pyNormal = Json.null.pyNormal ↔ value = .null := by
    intro value
    cases value with
    | float lit =>
      rw [pyNormal, pyNormal]
      split_ifs <;> simp
    | _ => simp [pyNormal]
  unfold Edge.identity Edge.Unbound
  rw [unbound.1, unbound.2]
  simp only [Prod.mk.injEq, null, UnitID.value_injective.eq_iff, PyEnum.injective.eq_iff]
  tauto

/-- Between units without ports a valid graph has only edges without ports. -/
theorem unbound_of_untyped {units : Dict String ComputationalUnit} {edge : Edge}
    (bound : PortsBound units edge) {source : ComputationalUnit}
    (found : units.get? edge.source.value = some source) (untyped : source.contract.ports = []) :
    edge.Unbound := by
  rcases bound with unbound | ⟨sourceUnit, _, sourcePort, _, sourceFound, -, declared, -⟩
  · exact unbound
  · obtain rfl := Option.some.inj (found.symm.trans sourceFound)
    rw [untyped] at declared
    cases declared

end Dnc
