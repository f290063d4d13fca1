/-
**The computation generator.**

`dnc.dcc.computation_generator`: four strategies (expansion, wiring, specialization, composition),
each behind its necessity gate, and the proposals of those that fire in this order. The identifiers
of the proposals carry a counter that every call advances. Building a `UnitID` may raise, so the
strategies are fallible.

`propose_iff` and `generateProposals_eq_ok` read the proposals of a call strategy by strategy, and one
lemma for each strategy says what it proposes.
-/

import Dnc.Dcc.Contracts
import Dnc.Logic.Sequence

namespace Dnc

open PyLib Logic

inductive NecessitySignal where
  | objectiveViolation | constraintViolation | capacityInsufficiency | performanceDegradation
  | faultRecoveryRequirement | environmentShift | compositionRequirement
deriving DecidableEq, Repr

structure GenerationObjective (R : Type) where
  taskDescription : String := ""
  costBudget : R
  maxUnits : Int := 10
  maxEdges : Int := 20
  requireSpecialization : Bool := false
  allowComposition : Bool := true

structure GenerationContext (R : Type) where
  objective : GenerationObjective R
  availableUnitTemplates : List ComputationalUnit := []
  currentUnitCount : Int := 0
  currentEdgeCount : Int := 0
  lastObservedUtility : R
  recentMutationCount : Int := 0
  cyclesSinceMutation : Int := 999
  priorMutationHarmed : Bool := false
  necessitySignals : Finset NecessitySignal := ∅

structure ComputationGenerator where
  proposalCounter : Nat := 0
deriving DecidableEq, Repr

namespace ComputationGenerator

variable {R : Type} [PyFloat R]

/-! ### The strategies -/

/-- `IROperation(OperationType.CONNECT_UNITS, …)` with a DATA edge. -/
def connectData (source target : UnitID) : IROperation where
  opType := .connectUnits
  parameters := { source := source, target := target, edgeType := some .data }

/-- `_clone_unit_template`. -/
def cloneUnitTemplate (template : ComputationalUnit) (suffix : String) :
    Except PyError ComputationalUnit := do
  let newId ← UnitID.ofJson (.str s!"{template.unitId}_{suffix}")
  return { template with unitId := newId, name := s!"{template.name}_{suffix}" }

/-- The unit that an expansion adds. -/
def expansionUnit (generator : ComputationGenerator) (graph : StructuralGraph)
    (context : GenerationContext R) : Except PyError ComputationalUnit :=
  match context.availableUnitTemplates with
  | [] => do
    let unitId ← UnitID.ofJson
      (.str s!"gen_unit_{generator.proposalCounter}_{graph.units.length}")
    return {
      unitId
      name := s!"GeneratedUnit_{graph.units.length}"
      «structure» := .primitive
      visibility := .inspectable
      lifecycle := .base }
  | template :: _ => cloneUnitTemplate template s!"gen_{graph.units.length}"

/-- `_create_expansion_proposal`. -/
def createExpansionProposal (generator : ComputationGenerator) (graph : StructuralGraph)
    (context : GenerationContext R) : Except PyError (Option (MutationProposal R)) := do
  let newUnit ← generator.expansionUnit graph context
  let add : IROperation := { opType := .addUnit, parameters := { unit := newUnit } }
  let ops ← match graph.units.keys with
    | [] => pure [add]
    | existing :: _ =>
      if context.currentEdgeCount < context.objective.maxEdges then do
        let source ← UnitID.ofJson (.str existing)
        pure [add, connectData source newUnit.unitId]
      else pure [add]
  if context.objective.maxEdges ≤ context.currentEdgeCount ∧ 0 < graph.units.length then
    return none
  else
    return some {
      proposalId := s!"gen_prop_{generator.proposalCounter}_{graph.units.length}"
      targetGraphId := graph.graphId.value
      candidateOperations := ops
      rationale := s!"Expand computation for: {context.objective.taskDescription}"
      expectedUtility := 0.8
      estimatedCost := 1.0
      riskAssessment := "LOW" }

/-- `_create_wiring_proposal`: an edge from the last unit to the first. -/
def createWiringProposal (generator : ComputationGenerator) (graph : StructuralGraph)
    (context : GenerationContext R) : Except PyError (Option (MutationProposal R)) :=
  match graph.units.keys with
  | first :: second :: rest => do
    let source ← UnitID.ofJson (.str ((second :: rest).getLast (List.cons_ne_nil _ _)))
    let target ← UnitID.ofJson (.str first)
    return some {
      proposalId := s!"gen_wire_{generator.proposalCounter}_{graph.units.length}"
      targetGraphId := graph.graphId.value
      candidateOperations := [connectData source target]
      rationale := s!"Wire isolated computation for: {context.objective.taskDescription}"
      expectedUtility := 0.6
      estimatedCost := 0.3
      riskAssessment := "LOW" }
  | _ => .ok none

/-- `_create_specialization_proposal`. -/
def createSpecializationProposal (generator : ComputationGenerator) (graph : StructuralGraph)
    (context : GenerationContext R) : Except PyError (Option (MutationProposal R)) :=
  match graph.units.keys with
  | [] => .ok none
  | first :: _ => do
    let unitId ← UnitID.ofJson (.str first)
    return some {
      proposalId := s!"gen_spec_{generator.proposalCounter}_{graph.units.length}"
      targetGraphId := graph.graphId.value
      candidateOperations := [{
        opType := .specializeUnit
        parameters := {
          unitId := unitId
          specializationContext := some context.objective.taskDescription } }]
      rationale := s!"Specialize unit for: {context.objective.taskDescription}"
      expectedUtility := 0.5
      estimatedCost := 0.5
      riskAssessment := "MEDIUM" }

/-- `_create_composition_proposal`: the first two units. -/
def createCompositionProposal (generator : ComputationGenerator) (graph : StructuralGraph)
    (context : GenerationContext R) : Except PyError (Option (MutationProposal R)) :=
  match graph.units.keys with
  | first :: second :: _ =>
    if context.objective.maxEdges ≤ context.currentEdgeCount then .ok none
    else do
      let unitIds ← [first, second].mapM fun uid => UnitID.ofJson (.str uid)
      return some {
        proposalId := s!"gen_comp_{generator.proposalCounter}_{graph.units.length}"
        targetGraphId := graph.graphId.value
        candidateOperations := [{
          opType := .composeUnits
          parameters := {
            units := some unitIds
            compositeName := some s!"ComposedUnit_{graph.units.length}" } }]
        rationale := s!"Compose units for: {context.objective.taskDescription}"
        expectedUtility := 0.7
        estimatedCost := 1.5
        riskAssessment := "MEDIUM" }
  | _ => .ok none

/-! ### The necessity gates -/

/-- `signals & {…}` of the expansion gate. -/
def urgentRestructure (signals : Finset NecessitySignal) : Bool :=
  decide (.objectiveViolation ∈ signals ∨ .constraintViolation ∈ signals ∨
    .performanceDegradation ∈ signals ∨ .faultRecoveryRequirement ∈ signals ∨
    .environmentShift ∈ signals)

def needsExpansion (context : GenerationContext R) : Bool :=
  let signals := context.necessitySignals
  let capacityInsufficient := context.currentUnitCount < context.objective.maxUnits / 2
  let priorUtilityPoor := context.lastObservedUtility < 0.70
  decide (context.currentUnitCount < context.objective.maxUnits) &&
    (decide (context.currentUnitCount = 0) ||
      (decide (.capacityInsufficiency ∈ signals) ||
        decide (.compositionRequirement ∈ signals ∧ context.currentUnitCount < 2) ||
        urgentRestructure signals ||
        (decide capacityInsufficient && (decide priorUtilityPoor || context.priorMutationHarmed))))

def needsWiring (graph : StructuralGraph) (context : GenerationContext R) : Bool :=
  let signals := context.necessitySignals
  let priorUtilityDegraded := context.lastObservedUtility < 0.65 ∨
    .faultRecoveryRequirement ∈ signals ∨ .environmentShift ∈ signals
  decide (context.currentEdgeCount < context.objective.maxEdges) &&
    decide (2 ≤ graph.units.length) &&
    (decide (context.currentEdgeCount = 0) ||
      (decide priorUtilityDegraded && !context.priorMutationHarmed))

def needsSpecialization (graph : StructuralGraph) (context : GenerationContext R) : Bool :=
  (context.objective.requireSpecialization ||
    decide (.objectiveViolation ∈ context.necessitySignals)) && decide (0 < graph.units.length)

/-- The gate of the composition, `_detect_composable_patterns` included. -/
def needsComposition (graph : StructuralGraph) (context : GenerationContext R) : Bool :=
  let priorUtilityLow := context.lastObservedUtility < 0.62
  context.objective.allowComposition && decide (2 ≤ graph.units.length) &&
    (decide priorUtilityLow || context.priorMutationHarmed ||
      decide (.compositionRequirement ∈ context.necessitySignals)) &&
    decide (3 < context.cyclesSinceMutation)

/-- `if gate: proposal = …; if proposal: proposals.append(proposal)`. -/
def propose (gate : Bool) (create : Except PyError (Option (MutationProposal R))) :
    Except PyError (List (MutationProposal R)) :=
  if gate then create.map Option.toList else .ok []

/-- `ComputationGenerator.generate_proposals`. -/
def generateProposals (generator : ComputationGenerator) (graph : StructuralGraph)
    (context : GenerationContext R) :
    Except PyError (List (MutationProposal R)) × ComputationGenerator :=
  let generator : ComputationGenerator := ⟨generator.proposalCounter + 1⟩
  let proposals := do
    let expansion ← propose (needsExpansion context)
      (generator.createExpansionProposal graph context)
    let wiring ← propose (needsWiring graph context) (generator.createWiringProposal graph context)
    let specialization ← propose (needsSpecialization graph context)
      (generator.createSpecializationProposal graph context)
    let composition ← propose (needsComposition graph context)
      (generator.createCompositionProposal graph context)
    return expansion ++ wiring ++ specialization ++ composition
  (proposals, generator)

/-! ### What is proposed -/

/-- The operation with which an expansion adds its unit. -/
def addGenerated (unit : ComputationalUnit) : IROperation where
  opType := .addUnit
  parameters := { unit := unit }

section Proposed

variable {generator : ComputationGenerator} {graph : StructuralGraph}
  {context : GenerationContext R} {made : Option (MutationProposal R)}
  {proposal : MutationProposal R} {proposals : List (MutationProposal R)}

omit [PyFloat R] in
/-- A strategy proposes behind its gate. -/
theorem mem_propose {gate : Bool} {create : Except PyError (Option (MutationProposal R))}
    (proposed : propose gate create = .ok proposals) (member : proposal ∈ proposals) :
    gate = true ∧ create = .ok (some proposal) := by
  unfold propose at proposed
  split_ifs at proposed with opened
  · obtain ⟨made, same, rfl⟩ := map_eq_ok.mp proposed
    exact ⟨opened, by rw [same, Option.mem_toList.mp member]⟩
  · obtain rfl := Except.ok.inj proposed
    cases member

omit [PyFloat R] in
/-- What holds of all that a strategy proposes, behind its gate. -/
theorem propose_iff {P : MutationProposal R → Prop} {condition : Prop} {gate : Bool}
    {create : Except PyError (Option (MutationProposal R))}
    (proposed : propose gate create = .ok proposals)
    (each : gate = true → ∀ made, create = .ok made →
      ((∀ proposal, made = some proposal → P proposal) ↔ condition)) :
    (∀ proposal ∈ proposals, P proposal) ↔ (gate = true → condition) := by
  unfold propose at proposed
  split_ifs at proposed with opened
  · obtain ⟨made, created, rfl⟩ := map_eq_ok.mp proposed
    have forall_made : (∀ proposal ∈ made.toList, P proposal) ↔
        ∀ proposal, made = some proposal → P proposal :=
      forall_congr' fun proposal => imp_congr_left Option.mem_toList
    rw [forall_made, each opened made created]
    exact ⟨fun holds _ => holds, fun holds => holds opened⟩
  · obtain rfl := Except.ok.inj proposed
    exact iff_of_true nofun fun opens => absurd opens opened

/-- The proposals of a call are those of its four strategies. -/
theorem generateProposals_eq_ok
    (generated : (generator.generateProposals graph context).1 = .ok proposals) :
    ∃ expansion wiring specialization composition,
      propose (needsExpansion context) (createExpansionProposal ⟨generator.proposalCounter + 1⟩ graph
        context) = .ok expansion ∧
      propose (needsWiring graph context) (createWiringProposal ⟨generator.proposalCounter + 1⟩ graph
        context) = .ok wiring ∧
      propose (needsSpecialization graph context) (createSpecializationProposal
        ⟨generator.proposalCounter + 1⟩ graph context) = .ok specialization ∧
      propose (needsComposition graph context) (createCompositionProposal
        ⟨generator.proposalCounter + 1⟩ graph context) = .ok composition ∧
      proposals = expansion ++ wiring ++ specialization ++ composition := by
  obtain ⟨expansion, expands, generated⟩ := bind_eq_ok.mp generated
  obtain ⟨wiring, wires, generated⟩ := bind_eq_ok.mp generated
  obtain ⟨specialization, specializes, generated⟩ := bind_eq_ok.mp generated
  obtain ⟨composition, composes, generated⟩ := bind_eq_ok.mp generated
  exact ⟨expansion, wiring, specialization, composition, expands, wires, specializes, composes,
    (Except.ok.inj generated).symm⟩

/-- **An expansion** adds a unit and, to a graph that has units, an edge from its first one; it
proposes nothing where there is no room for this edge. -/
theorem createExpansionProposal_eq_ok
    (created : generator.createExpansionProposal graph context = .ok made) :
    ∃ unit, generator.expansionUnit graph context = .ok unit ∧
      ((graph.units.keys = [] ∧ ∃ proposal, made = some proposal ∧
          proposal.candidateOperations = [addGenerated unit]) ∨
        ∃ first rest, graph.units.keys = first :: rest ∧
          ((context.objective.maxEdges ≤ context.currentEdgeCount ∧ made = none) ∨
            (context.currentEdgeCount < context.objective.maxEdges ∧
              ∃ proposal source, made = some proposal ∧ source.value = first ∧
                proposal.candidateOperations =
                  [addGenerated unit, connectData source unit.unitId]))) := by
  unfold createExpansionProposal at created
  obtain ⟨unit, built, created⟩ := bind_eq_ok.mp created
  have counted : graph.units.length = graph.units.keys.length := (List.length_map _).symm
  refine ⟨unit, built, ?_⟩
  dsimp only at created
  split at created
  · rename_i empty
    obtain ⟨operations, same, created⟩ := bind_eq_ok.mp created
    obtain rfl := Except.ok.inj same
    rw [empty] at counted
    have room : ¬ (context.objective.maxEdges ≤ context.currentEdgeCount ∧
        0 < graph.units.length) := fun full => full.2.ne' counted
    rw [if_neg room] at created
    exact Or.inl ⟨empty, _, (Except.ok.inj created).symm, rfl⟩
  · rename_i first rest keys
    have units : 0 < graph.units.length := by
      rw [counted, keys]
      exact Nat.succ_pos _
    refine Or.inr ⟨first, rest, keys, ?_⟩
    by_cases room : context.currentEdgeCount < context.objective.maxEdges
    · have roomy : ¬ (context.objective.maxEdges ≤ context.currentEdgeCount ∧
          0 < graph.units.length) := fun full => not_le.mpr room full.1
      rw [if_pos room] at created
      obtain ⟨source, named, created⟩ := bind_eq_ok.mp created
      obtain ⟨operations, same, created⟩ := bind_eq_ok.mp created
      obtain rfl := Except.ok.inj same
      rw [if_neg roomy] at created
      exact Or.inr ⟨room, _, source, (Except.ok.inj created).symm, UnitID.value_of_ofJson named,
        rfl⟩
    · rw [if_neg room] at created
      obtain ⟨operations, -, created⟩ := bind_eq_ok.mp created
      rw [if_pos ⟨not_lt.mp room, units⟩] at created
      exact Or.inl ⟨not_lt.mp room, (Except.ok.inj created).symm⟩

/-- **A wiring** connects the last unit to the first. -/
theorem createWiringProposal_eq_ok
    (created : generator.createWiringProposal graph context = .ok made) :
    (graph.units.length < 2 ∧ made = none) ∨
      ∃ proposal first last, made = some proposal ∧
        graph.units.keys.head? = some first.value ∧ graph.units.keys.getLast? = some last.value ∧
        proposal.candidateOperations = [connectData last first] := by
  have counted : graph.units.length = graph.units.keys.length := (List.length_map _).symm
  unfold createWiringProposal at created
  split at created
  · rename_i first second rest keys
    obtain ⟨source, named, created⟩ := bind_eq_ok.mp created
    obtain ⟨target, other, created⟩ := bind_eq_ok.mp created
    refine Or.inr ⟨_, target, source, (Except.ok.inj created).symm, ?_, ?_, rfl⟩
    · rw [keys, UnitID.value_of_ofJson other]
      rfl
    · rw [keys, UnitID.value_of_ofJson named, List.getLast?_cons_cons,
        List.getLast?_eq_some_getLast (List.cons_ne_nil _ _)]
  · rename_i short
    refine Or.inl ⟨?_, (Except.ok.inj created).symm⟩
    rw [counted]
    match keys : graph.units.keys with
    | [] => exact Nat.two_pos
    | [_] => exact Nat.one_lt_two
    | first :: second :: rest => exact absurd keys (short first second rest)

/-- **A specialization** is of an operation type of its own. -/
theorem createSpecializationProposal_eq_ok
    (created : generator.createSpecializationProposal graph context = .ok made) :
    (graph.units.length = 0 ∧ made = none) ∨
      ∃ proposal parameters, made = some proposal ∧
        proposal.candidateOperations = [{ opType := .specializeUnit, parameters }] := by
  have counted : graph.units.length = graph.units.keys.length := (List.length_map _).symm
  unfold createSpecializationProposal at created
  split at created
  · rename_i empty
    refine Or.inl ⟨?_, (Except.ok.inj created).symm⟩
    rw [counted, empty]
    rfl
  · obtain ⟨unitId, -, created⟩ := bind_eq_ok.mp created
    exact Or.inr ⟨_, _, (Except.ok.inj created).symm, rfl⟩

/-- **A composition** is so too; it proposes nothing where the edges are used up. -/
theorem createCompositionProposal_eq_ok
    (created : generator.createCompositionProposal graph context = .ok made) :
    ((graph.units.length < 2 ∨ context.objective.maxEdges ≤ context.currentEdgeCount) ∧
        made = none) ∨
      (context.currentEdgeCount < context.objective.maxEdges ∧
        ∃ proposal parameters, made = some proposal ∧
          proposal.candidateOperations = [{ opType := .composeUnits, parameters }]) := by
  have counted : graph.units.length = graph.units.keys.length := (List.length_map _).symm
  unfold createCompositionProposal at created
  split at created
  · split_ifs at created with full
    · exact Or.inl ⟨Or.inr full, (Except.ok.inj created).symm⟩
    · obtain ⟨unitIds, -, created⟩ := bind_eq_ok.mp created
      exact Or.inr ⟨not_le.mp full, _, _, (Except.ok.inj created).symm, rfl⟩
  · rename_i short
    refine Or.inl ⟨Or.inl ?_, (Except.ok.inj created).symm⟩
    rw [counted]
    match keys : graph.units.keys with
    | [] => exact Nat.two_pos
    | [_] => exact Nat.one_lt_two
    | first :: second :: rest => exact absurd keys (short first second rest)

end Proposed

end ComputationGenerator

end Dnc
