/-
**Which proposals can be executed.**

`ComputationGenerator.generate_proposals` writes operations without asking the mutation engine or the
validator. Executed on the graph that they were proposed for, at its current version:

* an expansion commits where its new identifier is neither in use nor retired and the first unit
  declares no ports (`expansion_commits_iff`);
* a wiring commits where a DATA edge without ports from the last unit to the first is new and passes
  (`wiring_commits_iff`); the gate asks for this only where the graph has no edges at all;
* a specialization and a composition never commit: the engine has neither operation
  (`unsupported_refused`).

`proposalsExecutable_iff` puts this together for all the proposals of a call.
-/

import Dnc.Dcc.Generator
import Dnc.Ir.Growth
import Dnc.Transaction.Atomicity

namespace Dnc

open PyLib Logic

/-! ### Operations in a transaction -/

section Transactions

variable {env : TransactionEnv} {log : Option ProvenanceLog} {txId : TransactionID}
  {graph next : StructuralGraph} {operations : List IROperation}

/-- On the current version a transaction commits where the operations apply and make a valid
graph. -/
theorem committed_iff :
    (executeTransaction env log txId graph operations (some graph.version)).committed = true ↔
      ∃ final, applyAll graph operations = some final ∧ Valid final := by
  rcases executeTransaction_cases env log txId graph operations (some graph.version) with
    ⟨final, commits, committed, -⟩ | ⟨none, refused, -⟩
  · exact iff_of_true committed ⟨final, commits.2⟩
  · rw [refused]
    refine iff_of_false nofun ?_
    rintro ⟨final, applied, valid⟩
    exact none ⟨final, rfl, applied, valid⟩

theorem applyAll_cons (operation : IROperation) (rest : List IROperation) :
    applyAll graph (operation :: rest) =
      (applyChecked graph operation).bind fun middle => applyAll middle rest :=
  List.foldlM_cons

theorem applyAll_singleton (operation : IROperation) :
    applyAll graph [operation] = applyChecked graph operation := by
  rw [applyAll_cons]
  exact Option.bind_fun_some _

/-- A DATA edge without ports. -/
def dataEdge (source target : UnitID) : Edge := { source, target, edgeType := .data }

theorem applyChecked_connectData (source target : UnitID) :
    applyChecked graph (ComputationGenerator.connectData source target) =
      some { graph.addEdge (dataEdge source target) with version := graph.version.nextSequence } :=
  if_pos ⟨rfl, rfl⟩

/-- A unit can be added under a name that is neither in use nor retired. -/
structure Available (graph : StructuralGraph) (uid : String) : Prop where
  unused : uid ∉ graph.units
  unretired : ∃ retired, graph.retired = .ok retired ∧ retired.contains (.str uid) = false

theorem applyChecked_addGenerated {unit : ComputationalUnit} :
    applyChecked graph (ComputationGenerator.addGenerated unit) = some next ↔
      Available graph unit.unitId.value ∧
        next = { graph with
          units := graph.units.set unit.unitId.value unit
          version := graph.version.nextSequence } := by
  constructor
  · intro applied
    unfold applyChecked at applied
    split_ifs at applied with accepted
    obtain ⟨mutation, result, inverse, read, step, same⟩ := applyOperation_success accepted.2
    obtain rfl := Option.some.inj read
    rw [same] at applied
    cases step with
    | addUnit known permitted fresh =>
      exact ⟨⟨fresh, _, known, permitted⟩, (Option.some.inj applied).symm⟩
  · rintro ⟨⟨unused, retired, known, permitted⟩, rfl⟩
    have added : applyOperation graph (ComputationGenerator.addGenerated unit) =
        .applied { graph with units := graph.units.set unit.unitId.value unit }
          (.removeUnit unit.unitId) := by
      show applyAddUnit graph unit = _
      unfold applyAddUnit StructuralGraph.addUnit
      rw [known]
      dsimp only
      rw [if_neg (Bool.eq_false_iff.mp permitted), if_neg unused]
    unfold applyChecked
    rw [added]
    exact if_pos ⟨rfl, rfl⟩

/-- The engine has no operation of this type. -/
theorem unsupported_refused {operation : IROperation} {opType : OperationType}
    (unsupported : operation.mutation = some (.unsupported opType)) :
    (executeTransaction env log txId graph [operation] (some graph.version)).committed ≠ true := by
  have refused : (applyOperation graph operation).success = false := by
    unfold applyOperation
    rw [unsupported]
    rfl
  rw [ne_eq, committed_iff, applyAll_singleton]
  rintro ⟨final, applied, -⟩
  unfold applyChecked at applied
  rw [if_neg fun accepted => Bool.false_ne_true (refused.symm.trans accepted.2)] at applied
  cases applied

end Transactions

/-! ### A new DATA edge -/

/-- The validator lets a DATA edge without ports pass between two entries of the units. -/
structure DataEdgeFits (graph : StructuralGraph) (source target : String × ComputationalUnit) :
    Prop where
  untyped : source.2.contract.ports = [] ∧ target.2.contract.ports = []
  governed : Governed source.2 target.2 .data
  absent : ∀ edge ∈ graph.edges, edge.edgeType = .data → edge.source.value = source.1 →
    edge.target.value ≠ target.1

theorem valid_addEdge_iff {graph : StructuralGraph} (valid : Valid graph) {source target : UnitID}
    {sourceUnit targetUnit : ComputationalUnit}
    (sourceFound : graph.units.get? source.value = some sourceUnit)
    (targetFound : graph.units.get? target.value = some targetUnit) :
    Valid (graph.addEdge (dataEdge source target)) ↔
      DataEdgeFits graph (source.value, sourceUnit) (target.value, targetUnit) := by
  have unbound : (dataEdge source target).Unbound := ⟨rfl, rfl⟩
  have bound := (edgesSound_of_valid valid).bound
  rw [valid_iff_clean, clean_addEdge_iff (valid_iff_clean.mp valid) unbound,
    edgeErrors_eq_nil_iff unbound sourceFound targetFound]
  constructor
  · rintro ⟨⟨untyped, governed⟩, differs⟩
    refine ⟨untyped, governed, fun edge member isData fromSource toTarget => ?_⟩
    have found : graph.units.get? edge.source.value = some sourceUnit := by
      rw [fromSource]
      exact sourceFound
    refine differs edge member ((identity_eq_iff unbound).mpr ?_)
    exact ⟨UnitID.value_injective fromSource, UnitID.value_injective toTarget, isData,
      unbound_of_untyped (bound edge member) found untyped.1⟩
  · rintro ⟨untyped, governed, absent⟩
    refine ⟨⟨untyped, governed⟩, fun edge member same => ?_⟩
    obtain ⟨fromSource, toTarget, isData, -⟩ := (identity_eq_iff unbound).mp same
    exact absent edge member isData (congrArg UnitID.value fromSource)
      (congrArg UnitID.value toTarget)

namespace ComputationGenerator

variable {R : Type} [PyFloat R] {env : TransactionEnv} {log : Option ProvenanceLog}
  {txId : TransactionID} {graph : StructuralGraph} {context : GenerationContext R}

/-! ### Wirings -/

/-- The last unit can be connected to the first. -/
def WiringFits (graph : StructuralGraph) : Prop :=
  ∀ first last, graph.units.entries.head? = some first →
    graph.units.entries.getLast? = some last → DataEdgeFits graph last first

theorem wiring_commits_iff (valid : Valid graph) {first last : UnitID}
    (atHead : graph.units.keys.head? = some first.value)
    (atEnd : graph.units.keys.getLast? = some last.value) :
    (executeTransaction env log txId graph [connectData last first]
        (some graph.version)).committed = true ↔ WiringFits graph := by
  unfold Dict.keys at atHead atEnd
  rw [List.head?_map, Option.map_eq_some_iff] at atHead
  rw [List.getLast?_map, Option.map_eq_some_iff] at atEnd
  obtain ⟨⟨_, firstUnit⟩, isFirst, rfl⟩ := atHead
  obtain ⟨⟨_, lastUnit⟩, isLast, rfl⟩ := atEnd
  have firstFound : graph.units.get? first.value = some firstUnit :=
    Dict.mem_entries.mp (List.mem_of_head? isFirst)
  have lastFound : graph.units.get? last.value = some lastUnit :=
    Dict.mem_entries.mp (List.mem_of_getLast? isLast)
  rw [committed_iff, applyAll_singleton, applyChecked_connectData]
  have fits : WiringFits graph ↔
      DataEdgeFits graph (last.value, lastUnit) (first.value, firstUnit) := by
    constructor
    · exact fun all => all _ _ isFirst isLast
    · intro fits other another same again
      obtain rfl := Option.some.inj (isFirst.symm.trans same)
      obtain rfl := Option.some.inj (isLast.symm.trans again)
      exact fits
  rw [fits, ← valid_addEdge_iff valid lastFound firstFound]
  constructor
  · rintro ⟨final, applied, validFinal⟩
    obtain rfl := Option.some.inj applied
    exact validFinal.congr rfl rfl
  · exact fun connected => ⟨_, rfl, connected.congr rfl rfl⟩

/-! ### Expansions -/

/-- The name that the call with this counter gives to a new unit. -/
def generatedId (counter : Nat) (graph : StructuralGraph) : String :=
  s!"gen_unit_{counter}_{graph.units.length}"

/-- The new unit of an expansion can be added, and connected from the first unit. -/
structure ExpansionFits (counter : Nat) (graph : StructuralGraph) : Prop where
  available : Available graph (generatedId counter graph)
  untyped : ∀ first, graph.units.entries.head? = some first → first.2.contract.ports = []

/-- The unit that is added where there are no templates. -/
def bareUnit (unitId : UnitID) (name : String) : ComputationalUnit where
  unitId := unitId
  name := name
  «structure» := .primitive
  visibility := .inspectable
  lifecycle := .base

omit [PyFloat R] in
theorem expansionUnit_eq_ok {generator : ComputationGenerator} {unit : ComputationalUnit}
    (templates : context.availableUnitTemplates = [])
    (built : generator.expansionUnit graph context = .ok unit) :
    ∃ unitId name, unit = bareUnit unitId name ∧
      unitId.value = generatedId generator.proposalCounter graph := by
  unfold expansionUnit at built
  rw [templates] at built
  obtain ⟨unitId, named, built⟩ := bind_eq_ok.mp built
  exact ⟨unitId, _, (Except.ok.inj built).symm, UnitID.value_of_ofJson named⟩

theorem cleanUnit_bareUnit (edges : List Edge) (uid : String) (unitId : UnitID) (name : String) :
    CleanUnit edges uid (bareUnit unitId name) :=
  ⟨rfl, nofun, nofun⟩

/-- Every unit may send to a unit with the default contract. -/
theorem governed_bareUnit (source : ComputationalUnit) (unitId : UnitID) (name : String) :
    Governed source (bareUnit unitId name) .data where
  tenants := nofun
  classification _ := by
    have highest : ∀ classification : DataClassification,
        classification.rank ≤ DataClassification.restricted.rank := by
      intro classification
      cases classification <;> decide
    exact highest _
  residencies := by
    unfold conflicting
    exact decide_eq_false fun conflict => conflict.2.1 rfl
  trustZone := Or.inr (Or.inl rfl)
  locality := nofun

section Adding

variable {unitId : UnitID} {name : String} (valid : Valid graph)
include valid

theorem valid_added (unused : unitId.value ∉ graph.units) :
    Valid { graph with units := graph.units.set unitId.value (bareUnit unitId name) } := by
  have clean := valid_iff_clean.mp valid
  exact valid_iff_clean.mpr ((clean_addUnit_iff clean unused _).mpr (cleanUnit_bareUnit _ _ _ _))

/-- The edge to a unit that was just added asks nothing but that the other end has no ports. -/
theorem dataEdgeFits_added (unused : unitId.value ∉ graph.units)
    (source : String × ComputationalUnit) :
    DataEdgeFits { graph with units := graph.units.set unitId.value (bareUnit unitId name) } source
        (unitId.value, bareUnit unitId name) ↔ source.2.contract.ports = [] := by
  constructor
  · exact fun fits => fits.untyped.1
  · refine fun untyped => ⟨⟨untyped, rfl⟩, governed_bareUnit _ _ _, fun edge member _ _ same => ?_⟩
    have present := ((edgesSound_of_valid valid).present edge member).2
    rw [same] at present
    exact unused present

theorem addition_commits_iff :
    (executeTransaction env log txId graph [addGenerated (bareUnit unitId name)]
        (some graph.version)).committed = true ↔ Available graph unitId.value := by
  rw [committed_iff, applyAll_singleton]
  constructor
  · rintro ⟨final, applied, -⟩
    exact (applyChecked_addGenerated.mp applied).1
  · intro available
    exact ⟨_, applyChecked_addGenerated.mpr ⟨available, rfl⟩,
      (valid_added valid available.unused).congr rfl rfl⟩

theorem extension_commits_iff {source : UnitID} {sourceUnit : ComputationalUnit}
    (found : graph.units.get? source.value = some sourceUnit) :
    (executeTransaction env log txId graph
        [addGenerated (bareUnit unitId name), connectData source unitId]
        (some graph.version)).committed = true ↔
      Available graph unitId.value ∧ sourceUnit.contract.ports = [] := by
  have connects : ∀ unused : unitId.value ∉ graph.units,
      Valid (StructuralGraph.addEdge
          { graph with units := graph.units.set unitId.value (bareUnit unitId name) }
          (dataEdge source unitId)) ↔ sourceUnit.contract.ports = [] := by
    intro unused
    have other : source.value ≠ unitId.value :=
      fun same => unused (same ▸ Dict.mem_of_get? found)
    rw [valid_addEdge_iff (valid_added valid unused)
        ((Dict.get?_set_of_ne graph.units other _).trans found)
        (Dict.get?_set_self graph.units unitId.value _), dataEdgeFits_added valid unused]
  have applies : ∀ final, applyAll graph
      [addGenerated (bareUnit unitId name), connectData source unitId] = some final ↔
      ∃ middle, applyChecked graph (addGenerated (bareUnit unitId name)) = some middle ∧
        { middle.addEdge (dataEdge source unitId) with
          version := middle.version.nextSequence } = final := by
    intro final
    rw [applyAll_cons, Option.bind_eq_some_iff]
    refine exists_congr fun middle => and_congr_right fun _ => ?_
    rw [applyAll_singleton, applyChecked_connectData, Option.some.injEq]
  rw [committed_iff]
  constructor
  · rintro ⟨final, applied, validFinal⟩
    obtain ⟨middle, added, rfl⟩ := (applies final).mp applied
    obtain ⟨available, rfl⟩ := applyChecked_addGenerated.mp added
    exact ⟨available, (connects available.unused).mp (validFinal.congr rfl rfl)⟩
  · rintro ⟨available, untyped⟩
    have added := applyChecked_addGenerated.mpr
      (⟨available, rfl⟩ : Available graph (bareUnit unitId name).unitId.value ∧ _ = _)
    exact ⟨_, (applies _).mpr ⟨_, added, rfl⟩,
      ((connects available.unused).mpr untyped).congr rfl rfl⟩

end Adding

/-! ### All proposals of a call -/

/-- **What the graph has to be like** for the proposals that the context asks for. -/
structure ProposalsFit (generator : ComputationGenerator) (graph : StructuralGraph)
    (context : GenerationContext R) : Prop where
  expansion : needsExpansion context = true →
    graph.units.length = 0 ∨ context.currentEdgeCount < context.objective.maxEdges →
      ExpansionFits (generator.proposalCounter + 1) graph
  wiring : needsWiring graph context = true → WiringFits graph
  specialization : needsSpecialization graph context = false
  composition : needsComposition graph context = true →
    context.objective.maxEdges ≤ context.currentEdgeCount

variable {generator : ComputationGenerator} {proposals : List (MutationProposal R)}

/-- The operations of the proposal commit on the graph, at its current version. -/
def Executes (env : TransactionEnv) (log : Option ProvenanceLog) (txId : TransactionID)
    (graph : StructuralGraph) (proposal : MutationProposal R) : Prop :=
  (executeTransaction env log txId graph proposal.candidateOperations
    (some graph.version)).committed = true

omit [PyFloat R] in
theorem forall_some_iff {P : MutationProposal R → Prop} {candidate : MutationProposal R} :
    (∀ proposal, some candidate = some proposal → P proposal) ↔ P candidate := by
  simp only [Option.some.injEq, forall_eq']

theorem expansion_executes_iff (valid : Valid graph)
    (templates : context.availableUnitTemplates = []) {made : Option (MutationProposal R)}
    (created : generator.createExpansionProposal graph context = .ok made) :
    (∀ proposal, made = some proposal → Executes env log txId graph proposal) ↔
      (graph.units.length = 0 ∨ context.currentEdgeCount < context.objective.maxEdges →
        ExpansionFits generator.proposalCounter graph) := by
  obtain ⟨unit, built, cases⟩ := createExpansionProposal_eq_ok created
  obtain ⟨unitId, name, rfl, named⟩ := expansionUnit_eq_ok templates built
  have counted : graph.units.length = graph.units.keys.length := (List.length_map _).symm
  have heads : graph.units.keys.head? = graph.units.entries.head?.map Prod.fst := List.head?_map
  rcases cases with ⟨empty, proposal, rfl, operations⟩ | ⟨first, rest, keys, full | ready⟩
  · -- the graph is empty: only the unit is added
    rw [empty] at counted heads
    have fits : ExpansionFits generator.proposalCounter graph ↔ Available graph unitId.value := by
      rw [named]
      refine ⟨fun fits => fits.available, fun available => ⟨available, fun first isFirst => ?_⟩⟩
      rw [isFirst] at heads
      cases heads
    rw [forall_some_iff, Executes, operations, addition_commits_iff valid, ← fits]
    exact ⟨fun fits _ => fits, fun fits => fits (Or.inl counted)⟩
  · -- no room for an edge: nothing is proposed
    obtain ⟨full, rfl⟩ := full
    rw [keys] at counted
    refine iff_of_true nofun fun room => ?_
    rcases room with none | room
    · exact absurd (counted.symm.trans none) (Nat.succ_ne_zero _)
    · exact absurd room (not_lt.mpr full)
  · obtain ⟨room, proposal, source, rfl, rfl, operations⟩ := ready
    rw [keys] at heads
    obtain ⟨⟨_, firstUnit⟩, isFirst, rfl⟩ := Option.map_eq_some_iff.mp heads.symm
    have found : graph.units.get? source.value = some firstUnit :=
      Dict.mem_entries.mp (List.mem_of_head? isFirst)
    have fits : ExpansionFits generator.proposalCounter graph ↔
        Available graph unitId.value ∧ firstUnit.contract.ports = [] := by
      rw [named]
      constructor
      · exact fun fits => ⟨fits.available, fits.untyped _ isFirst⟩
      · rintro ⟨available, untyped⟩
        refine ⟨available, fun first same => ?_⟩
        obtain rfl := Option.some.inj (isFirst.symm.trans same)
        exact untyped
    rw [forall_some_iff, Executes, operations]
    rw [show (bareUnit unitId name).unitId = unitId from rfl, extension_commits_iff valid found,
      ← fits]
    exact ⟨fun fits _ => fits, fun fits => fits (Or.inr room)⟩

theorem wiring_executes_iff (valid : Valid graph) (gate : needsWiring graph context = true)
    {made : Option (MutationProposal R)}
    (created : generator.createWiringProposal graph context = .ok made) :
    (∀ proposal, made = some proposal → Executes env log txId graph proposal) ↔
      WiringFits graph := by
  rcases createWiringProposal_eq_ok created with
    ⟨few, -⟩ | ⟨proposal, first, last, rfl, atHead, atEnd, operations⟩
  · have many := of_decide_eq_true (Bool.and_eq_true_iff.mp (Bool.and_eq_true_iff.mp gate).1).2
    exact absurd many (not_le.mpr few)
  · rw [forall_some_iff, Executes, operations, wiring_commits_iff valid atHead atEnd]

theorem specialization_executes_iff (gate : needsSpecialization graph context = true)
    {made : Option (MutationProposal R)}
    (created : generator.createSpecializationProposal graph context = .ok made) :
    (∀ proposal, made = some proposal → Executes env log txId graph proposal) ↔ False := by
  rcases createSpecializationProposal_eq_ok created with
    ⟨none, -⟩ | ⟨proposal, parameters, rfl, operations⟩
  · have some := of_decide_eq_true (Bool.and_eq_true_iff.mp gate).2
    exact absurd none some.ne'
  · rw [forall_some_iff, Executes, operations]
    exact iff_false_intro (unsupported_refused rfl)

theorem composition_executes_iff (gate : needsComposition graph context = true)
    {made : Option (MutationProposal R)}
    (created : generator.createCompositionProposal graph context = .ok made) :
    (∀ proposal, made = some proposal → Executes env log txId graph proposal) ↔
      context.objective.maxEdges ≤ context.currentEdgeCount := by
  rcases createCompositionProposal_eq_ok created with
    ⟨few | full, rfl⟩ | ⟨room, proposal, parameters, rfl, operations⟩
  · simp only [needsComposition, Bool.and_eq_true, decide_eq_true_eq] at gate
    exact absurd gate.1.1.2 (not_le.mpr few)
  · exact iff_of_true nofun full
  · rw [forall_some_iff, Executes, operations]
    exact iff_of_false (unsupported_refused rfl) (not_le.mpr room)

/-- **Proposals are executable exactly where the graph fits them.** -/
theorem proposalsExecutable_iff (valid : Valid graph)
    (templates : context.availableUnitTemplates = [])
    (generated : (generator.generateProposals graph context).1 = .ok proposals) :
    (∀ proposal ∈ proposals, Executes env log txId graph proposal) ↔
      ProposalsFit generator graph context := by
  obtain ⟨expansion, wiring, specialization, composition, expands, wires, specializes, composes,
    rfl⟩ := generateProposals_eq_ok generated
  simp only [List.forall_mem_append]
  rw [propose_iff expands fun _ _ created => expansion_executes_iff valid templates created,
    propose_iff wires fun gate _ created => wiring_executes_iff valid gate created,
    propose_iff specializes fun gate _ created => specialization_executes_iff gate created,
    propose_iff composes fun gate _ created => composition_executes_iff gate created]
  constructor
  · rintro ⟨⟨⟨expansion, wiring⟩, specialization⟩, composition⟩
    exact ⟨expansion, wiring, Bool.eq_false_iff.mpr specialization, composition⟩
  · rintro ⟨expansion, wiring, specialization, composition⟩
    exact ⟨⟨⟨expansion, wiring⟩, Bool.eq_false_iff.mp specialization⟩, composition⟩

namespace Sample

/-- Two units, with an edge from the second to the first. -/
def backward : StructuralGraph :=
  { Dnc.Sample.graph with edges := [dataEdge Dnc.Sample.unitB Dnc.Sample.unitA] }

/-- A context that asks for a wiring and nothing else. -/
def poorUtility : GenerationContext Rat where
  objective := { costBudget := 100, maxUnits := 2, allowComposition := false }
  currentUnitCount := 2
  currentEdgeCount := 1
  lastObservedUtility := 0.5

def wirings (graph : StructuralGraph) : List (MutationProposal Rat) :=
  (generateProposals {} graph poorUtility).1.toOption.getD []

theorem backward_valid : Valid backward := ⟨⟨true, [], []⟩, by decide +kernel, rfl⟩

theorem graph_valid : Valid Dnc.Sample.graph := ⟨⟨true, [], []⟩, by decide +kernel, rfl⟩

end Sample

/-- **The defect**: the edge that is proposed is there already. -/
theorem existing_edge_proposed :
    ¬ ∀ (generator : ComputationGenerator) (graph : StructuralGraph)
        (context : GenerationContext Rat) (proposals : List (MutationProposal Rat)),
        Valid graph → context.availableUnitTemplates = [] →
        context.currentUnitCount = graph.units.length →
        context.currentEdgeCount = graph.edges.length →
        (generator.generateProposals graph context).1 = .ok proposals →
        ∀ proposal ∈ proposals, ∀ env log txId, Executes env log txId graph proposal := by
  intro executable
  have commits := executable {} Sample.backward Sample.poorUtility (Sample.wirings Sample.backward)
    Sample.backward_valid rfl rfl rfl (by decide +kernel)
  obtain ⟨wiring, proposed, operations⟩ : ∃ wiring ∈ Sample.wirings Sample.backward,
      wiring.candidateOperations = [connectData Dnc.Sample.unitB Dnc.Sample.unitA] := by
    decide +kernel
  have committed := commits wiring proposed Dnc.Sample.env none ⟨"tx", by decide⟩
  unfold Executes at committed
  rw [operations] at committed
  exact absurd committed (by decide +kernel)

/-- Where the edge goes the other way, the wiring is executed. -/
theorem new_edge_executes :
    Sample.wirings Dnc.Sample.graph ≠ [] ∧
      ∀ proposal ∈ Sample.wirings Dnc.Sample.graph,
        Executes Dnc.Sample.env none ⟨"tx", by decide⟩ Dnc.Sample.graph proposal := by
  have templates : Sample.poorUtility.availableUnitTemplates = [] := rfl
  have generated : (generateProposals {} Dnc.Sample.graph Sample.poorUtility).1 =
      .ok (Sample.wirings Dnc.Sample.graph) := by decide +kernel
  refine ⟨by decide +kernel, (proposalsExecutable_iff Sample.graph_valid templates generated).mpr ?_⟩
  refine ⟨fun gate => absurd gate (by decide +kernel), fun _ first last isFirst isLast => ?_,
    by decide +kernel, fun gate => absurd gate (by decide +kernel)⟩
  obtain rfl := Option.some.inj isFirst
  obtain rfl := Option.some.inj isLast
  refine ⟨⟨rfl, rfl⟩, governed_bareUnit _ _ _, ?_⟩
  intro edge member _ _
  obtain rfl := List.mem_singleton.mp member
  decide

end ComputationGenerator

end Dnc
