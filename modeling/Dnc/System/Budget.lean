/-
**The structural budget.**

The bounds of an objective on units and edges are enforced by the generator alone, which compares
the counts that a cycle hands it. Everything it proposes is additive: it adds units, connects units,
or is refused by the mutation engine.

* `applyAll_additive`: what additive operations apply to, they extend;
* `room_of_generated`: a generated proposal adds a unit or an edge only where the objective leaves
  room for one;
* `runCycle_graph`: a cycle leaves the graph as it was, or commits a generated proposal and does not
  return `False`;
* `structuralBudget`: so every run of cycles stays within the budget of its objective and only ever
  adds.
-/

import Dnc.System.Selection
import Dnc.Transaction.Atomicity

namespace Dnc

open PyLib Logic

/-! ### Additive operations -/

/-- The operation adds to a graph, or the engine refuses it. -/
def IROperation.Additive (operation : IROperation) : Prop :=
  operation.opType ∈ [.addUnit, .connectUnits, .specializeUnit, .composeUnits]

/-- How many of the operations have the type. -/
def countType (opType : OperationType) (operations : List IROperation) : Nat :=
  operations.countP fun operation => operation.opType = opType

/-- **The graph has grown**, by so many units and edges. -/
structure Grown (units edges : Nat) (graph next : StructuralGraph) : Prop where
  units : ∃ added, next.units.entries = graph.units.entries ++ added ∧ added.length = units
  edges : ∃ added, next.edges = graph.edges ++ added ∧ added.length = edges

section Additive

variable {graph middle next : StructuralGraph} {operation : IROperation}
  {operations : List IROperation}

theorem Grown.refl (graph : StructuralGraph) : Grown 0 0 graph graph :=
  ⟨⟨[], (List.append_nil _).symm, rfl⟩, ⟨[], (List.append_nil _).symm, rfl⟩⟩

theorem Grown.trans {units edges moreUnits moreEdges : Nat} (first : Grown units edges graph middle)
    (second : Grown moreUnits moreEdges middle next) :
    Grown (units + moreUnits) (edges + moreEdges) graph next := by
  obtain ⟨⟨some, someUnits, rfl⟩, ⟨few, someEdges, rfl⟩⟩ := first
  obtain ⟨⟨more, moreUnits, rfl⟩, ⟨many, moreEdges, rfl⟩⟩ := second
  constructor
  · exact ⟨some ++ more, by rw [moreUnits, someUnits, List.append_assoc], List.length_append⟩
  · exact ⟨few ++ many, by rw [moreEdges, someEdges, List.append_assoc], List.length_append⟩

/-- **What one additive operation does.** -/
theorem applyChecked_additive (additive : operation.Additive)
    (applied : applyChecked graph operation = some next) :
    Grown (countType .addUnit [operation]) (countType .connectUnits [operation]) graph next := by
  unfold applyChecked at applied
  split_ifs at applied with accepted
  obtain rfl := Option.some.inj applied
  obtain ⟨mutation, result, inverse, read, step, same⟩ := applyOperation_success accepted.2
  rw [same]
  unfold IROperation.Additive at additive
  unfold IROperation.mutation at read
  cases kind : operation.opType <;> rw [kind] at additive read
  case addUnit =>
    obtain ⟨unit, -, rfl⟩ := Option.map_eq_some_iff.mp read
    cases step with
    | addUnit known permitted fresh =>
      rw [countType, countType, List.countP_singleton, List.countP_singleton, kind]
      refine ⟨⟨[(unit.unitId.value, unit)], setItem_of_fresh unit ?_, rfl⟩,
        ⟨[], (List.append_nil _).symm, rfl⟩⟩
      exact fun member => fresh member
  case connectUnits =>
    have isConnect : ∃ edge, mutation = .connectUnits edge := by
      simp only [Option.bind_eq_bind, Option.bind_eq_some_iff, Option.pure_def,
        Option.some.injEq] at read
      obtain ⟨source, -, target, -, edgeType, -, rfl⟩ := read
      exact ⟨_, rfl⟩
    obtain ⟨edge, rfl⟩ := isConnect
    cases step
    rw [countType, countType, List.countP_singleton, List.countP_singleton, kind]
    exact ⟨⟨[], (List.append_nil _).symm, rfl⟩, ⟨[edge], rfl, rfl⟩⟩
  case specializeUnit =>
    obtain rfl := Option.some.inj read
    cases step
  case composeUnits =>
    obtain rfl := Option.some.inj read
    cases step
  all_goals exact absurd additive (by decide)

/-- **What additive operations do**, one after another. -/
theorem applyAll_additive (additive : ∀ operation ∈ operations, operation.Additive)
    (applied : applyAll graph operations = some next) :
    Grown (countType .addUnit operations) (countType .connectUnits operations) graph next := by
  induction operations generalizing graph with
  | nil =>
    obtain rfl := Option.some.inj applied
    exact Grown.refl graph
  | cons operation rest ih =>
    rw [List.forall_mem_cons] at additive
    rw [applyAll, List.foldlM_cons, Option.bind_eq_bind, Option.bind_eq_some_iff] at applied
    obtain ⟨middle, first, later⟩ := applied
    have grown := (applyChecked_additive additive.1 first).trans (ih additive.2 later)
    rw [← List.singleton_append, countType, countType, List.countP_append, List.countP_append]
    exact grown

end Additive

/-! ### What the generator proposes -/

section Generator

variable {R : Type} [PyFloat R]

/-- The operations are additive, and add a unit or an edge only where there is room for one. -/
structure Room (objective : GenerationObjective R) (graph : StructuralGraph)
    (operations : List IROperation) : Prop where
  additive : ∀ operation ∈ operations, operation.Additive
  units : countType .addUnit operations = 0 ∨
    countType .addUnit operations = 1 ∧ (graph.units.length : Int) < objective.maxUnits
  edges : countType .connectUnits operations = 0 ∨
    countType .connectUnits operations = 1 ∧ (graph.edges.length : Int) < objective.maxEdges

variable {generator : ComputationGenerator} {graph : StructuralGraph}
  {context : GenerationContext R} {proposal : MutationProposal R}
  {proposals : List (MutationProposal R)}

namespace ComputationGenerator

/-- **What is generated keeps to the budget**, where the context counts the graph. -/
theorem room_of_generated (generated : (generator.generateProposals graph context).1 = .ok proposals)
    (unitCount : context.currentUnitCount = graph.units.length)
    (edgeCount : context.currentEdgeCount = graph.edges.length) (member : proposal ∈ proposals) :
    Room context.objective graph proposal.candidateOperations := by
  obtain ⟨expansion, wiring, specialization, composition, expands, wires, specializes, composes,
    rfl⟩ := generateProposals_eq_ok generated
  rw [List.mem_append, List.mem_append, List.mem_append] at member
  rcases member with ((inExpansion | inWiring) | inSpecialization) | inComposition
  · obtain ⟨needed, created⟩ := mem_propose expands inExpansion
    have below : (graph.units.length : Int) < context.objective.maxUnits := by
      rw [← unitCount]
      exact of_decide_eq_true (Bool.and_eq_true_iff.mp needed).1
    obtain ⟨unit, -, ⟨-, _, made, alone⟩ | ⟨_, _, -, full | ready⟩⟩ :=
      createExpansionProposal_eq_ok created
    · obtain rfl := Option.some.inj made
      rw [alone]
      refine ⟨?_, Or.inr ⟨rfl, below⟩, Or.inl rfl⟩
      simp [IROperation.Additive, addGenerated]
    · cases full.2
    · obtain ⟨room, _, source, made, -, connected⟩ := ready
      obtain rfl := Option.some.inj made
      rw [connected]
      refine ⟨?_, Or.inr ⟨rfl, below⟩, Or.inr ⟨rfl, edgeCount ▸ room⟩⟩
      simp [IROperation.Additive, addGenerated, connectData]
  · obtain ⟨needed, created⟩ := mem_propose wires inWiring
    have room : (graph.edges.length : Int) < context.objective.maxEdges := by
      rw [← edgeCount]
      exact of_decide_eq_true (Bool.and_eq_true_iff.mp (Bool.and_eq_true_iff.mp needed).1).1
    rcases createWiringProposal_eq_ok created with few | ⟨_, first, last, made, -, -, connects⟩
    · cases few.2
    · obtain rfl := Option.some.inj made
      rw [connects]
      refine ⟨?_, Or.inl rfl, Or.inr ⟨rfl, room⟩⟩
      simp [IROperation.Additive, connectData]
  · obtain ⟨-, created⟩ := mem_propose specializes inSpecialization
    rcases createSpecializationProposal_eq_ok created with none | ⟨_, parameters, made, refused⟩
    · cases none.2
    · obtain rfl := Option.some.inj made
      rw [refused]
      refine ⟨?_, Or.inl rfl, Or.inl rfl⟩
      simp [IROperation.Additive]
  · obtain ⟨-, created⟩ := mem_propose composes inComposition
    rcases createCompositionProposal_eq_ok created with few | ⟨-, _, parameters, made, refused⟩
    · cases few.2
    · obtain rfl := Option.some.inj made
      rw [refused]
      refine ⟨?_, Or.inl rfl, Or.inl rfl⟩
      simp [IROperation.Additive]

end ComputationGenerator

end Generator

/-! ### What a cycle does to the graph -/

section Cycle

variable {R : Type} [PyFloat R]

/-- The proposal of an evaluation is one of those that were evaluated. -/
theorem StructuralController.firstAuthorized_mem (controller : StructuralController)
    (context : EvaluationContext R) {proposals : List (MutationProposal R)}
    {fallback : MutationProposal R} (listed : fallback ∈ proposals) :
    firstAuthorized (controller.evaluateProposals proposals context).1 fallback ∈ proposals := by
  unfold firstAuthorized
  split
  · rename_i evaluation found
    obtain ⟨proposal, member, rfl⟩ := List.mem_map.mp (List.mem_of_find?_eq_some found)
    exact member
  · exact listed

/-- **What a call of `run_cycle` did to the graph**: nothing, or it committed what the operations of
a proposal made, and then it does not return `False`. -/
def LeavesOrCommits (graph : StructuralGraph) (proposals : List (MutationProposal R))
    (outcome : CycleOutcome R) : Prop :=
  outcome.system.graph = graph ∨
    ∃ proposal ∈ proposals, ∃ final, applyAll graph proposal.candidateOperations = some final ∧
      Valid final ∧ outcome.system.graph = graph.commit final ∧
        ∀ result, outcome.result = .ok result → result.success = true

namespace DNCSystem

variable (env : CycleEnv R) (system : DNCSystem R)

/-- The end of a cycle does not touch the graph, and does not return `False`. -/
theorem assessAndLearn_graph (proposal : MutationProposal R) (prediction : PredictionRecord R)
    (before : String) (baseline : R) (prior : Option (Assessment R)) (handoff : Handoff R) :
    (assessAndLearn env system proposal prediction before baseline prior handoff).system.graph =
        system.graph ∧
      ∀ result, (assessAndLearn env system proposal prediction before baseline prior
        handoff).result = .ok result → result.success = true := by
  unfold assessAndLearn
  cases env.assess system.graph proposal before (toString system.graph.version) baseline with
  | error error => exact ⟨rfl, fun _ returned => nomatch returned⟩
  | ok assessment =>
    simp only
    cases (if system.config.enableLearning = true ∧ prior.isSome = true then
        env.learn prediction assessment else .ok ()) with
    | error error => exact ⟨rfl, fun _ returned => nomatch returned⟩
    | ok learned =>
      refine ⟨rfl, fun result returned => ?_⟩
      obtain rfl := Except.ok.inj returned
      rfl

theorem transact_graph (decision : AuthorizationDecision) {proposal : MutationProposal R}
    {proposals : List (MutationProposal R)} (listed : proposal ∈ proposals) (before : String)
    (baseline : R) (prior : Option (Assessment R)) :
    LeavesOrCommits system.graph proposals
      (system.transact env decision proposal before baseline prior) := by
  unfold transact
  simp only
  split_ifs with mutates
  · rcases executeTransaction_cases env.transaction system.provenanceLog env.txId system.graph
      proposal.candidateOperations none with
      ⟨final, commits, committed, same⟩ | ⟨-, committed, same⟩
    · cases returned : (executeTransaction env.transaction system.provenanceLog env.txId
          system.graph proposal.candidateOperations none).result with
      | error error =>
        rw [Outcome.committed, returned] at committed
        cases committed
      | ok answer =>
        obtain ⟨success, ctx⟩ := answer
        rw [Outcome.committed, returned] at committed
        obtain rfl : success = true := committed
        simp only [Bool.true_eq_false, if_false]
        obtain ⟨graph, success⟩ := assessAndLearn_graph env
          { system with
            tracker := (system.tracker.recordPrediction proposal decision).2
            proposalsAuthorized := system.proposalsAuthorized + 1
            graph := (executeTransaction env.transaction system.provenanceLog env.txId system.graph
              proposal.candidateOperations none).graph
            provenanceLog := (executeTransaction env.transaction system.provenanceLog env.txId
              system.graph proposal.candidateOperations none).log
            transactionCommits := system.transactionCommits + 1
            cyclesSinceMutation := 0
            recentMutationCount := system.recentMutationCount + 1 }
          proposal (system.tracker.recordPrediction proposal decision).1 before baseline prior
          ⟨decision, proposal, some proposal.candidateOperations⟩
        exact Or.inr ⟨proposal, listed, final, commits.2.1, commits.2.2, graph.trans same, success⟩
    · cases returned : (executeTransaction env.transaction system.provenanceLog env.txId
          system.graph proposal.candidateOperations none).result with
      | error error => exact Or.inl same
      | ok answer =>
        obtain ⟨success, ctx⟩ := answer
        rw [Outcome.committed, returned] at committed
        obtain rfl : success = false := committed
        exact Or.inl same
  · exact Or.inl (assessAndLearn_graph env _ proposal _ before baseline prior _).1

theorem authorizeAndTransact_graph (objective : GenerationObjective R)
    (prior : Option (Assessment R)) (before : String) (proposals : List (MutationProposal R)) :
    LeavesOrCommits system.graph proposals
      (system.authorizeAndTransact env objective prior before proposals) := by
  cases proposals with
  | nil => exact Or.inl rfl
  | cons fallback rest =>
    unfold authorizeAndTransact
    simp only
    split
    · exact Or.inl rfl
    · rename_i decision controller _
      split_ifs
      · exact Or.inl rfl
      · exact transact_graph env { system with controller } decision
          (system.controller.firstAuthorized_mem (system.evaluationContext objective)
            List.mem_cons_self) before (system.lastUtility prior) prior

/-- **A cycle leaves the graph, or commits a generated proposal.** -/
theorem runCycle_graph (objective : GenerationObjective R) (prior : Option (Assessment R))
    (signals : Finset NecessitySignal) :
    ∃ proposals : List (MutationProposal R),
      LeavesOrCommits system.graph proposals
        (system.runCycle ComputationGenerator.generateProposals env objective prior signals) ∧
      ∀ proposal ∈ proposals, Room objective system.graph proposal.candidateOperations := by
  unfold runCycle
  split_ifs
  · exact ⟨[], Or.inl rfl, fun _ none => nomatch none⟩
  · simp only
    split
    · exact ⟨[], Or.inl rfl, fun _ none => nomatch none⟩
    · rename_i proposals generator generated
      refine ⟨proposals, authorizeAndTransact_graph env _ objective prior _ proposals, ?_⟩
      intro proposal listed
      exact ComputationGenerator.room_of_generated (congrArg Prod.fst generated) rfl rfl listed

end DNCSystem

/-! ### Runs of cycles -/

/-- A call of `run_cycle` with the run's objective: the enable flags the system has then, the prior
assessment and the necessity signals. -/
structure CycleCall (R : Type) where
  env : CycleEnv R
  config : SystemConfig
  prior : Option (Assessment R)
  signals : Finset NecessitySignal

namespace DNCSystem

variable (objective : GenerationObjective R)

/-- What the call returns or raises, and the system after it. -/
def callCycle (system : DNCSystem R) (call : CycleCall R) : CycleOutcome R :=
  runCycle ComputationGenerator.generateProposals call.env { system with config := call.config }
    objective call.prior call.signals

def cycleStep (system : DNCSystem R) (call : CycleCall R) : DNCSystem R :=
  (callCycle objective system call).system

end DNCSystem

/-- **The graph is valid and within the objective's bounds.** -/
structure WithinBudget (objective : GenerationObjective R) (graph : StructuralGraph) : Prop where
  valid : Valid graph
  units : (graph.units.length : Int) ≤ objective.maxUnits
  edges : (graph.edges.length : Int) ≤ objective.maxEdges

/-- **At most one unit and at most one edge is new, and nothing is gone.** -/
def GrownByOne (graph next : StructuralGraph) : Prop :=
  ∃ units ≤ 1, ∃ edges ≤ 1, Grown units edges graph next

namespace DNCSystem

variable {objective : GenerationObjective R} {graph final : StructuralGraph}
  {operations : List IROperation}

omit [PyFloat R] in
/-- A proposal that keeps to the budget commits a graph within it. -/
theorem WithinBudget.commit (within : WithinBudget objective graph)
    (room : Room objective graph operations) (applied : applyAll graph operations = some final)
    (valid : Valid final) :
    WithinBudget objective (graph.commit final) ∧ GrownByOne graph (graph.commit final) := by
  obtain ⟨⟨units, moreUnits, unitCount⟩, ⟨edges, moreEdges, edgeCount⟩⟩ :=
    applyAll_additive room.additive applied
  have unitLength : final.units.length = graph.units.length + units.length := by
    rw [Dict.length, moreUnits, List.length_append]
    rfl
  have edgeLength : final.edges.length = graph.edges.length + edges.length := by
    rw [moreEdges, List.length_append]
  refine ⟨⟨valid.congr rfl rfl, ?_, ?_⟩, units.length, ?_, edges.length, ?_,
    ⟨units, moreUnits, rfl⟩, ⟨edges, moreEdges, rfl⟩⟩
  · show (final.units.length : Int) ≤ objective.maxUnits
    have bound := within.units
    rcases room.units with none | ⟨one, below⟩ <;> omega
  · show (final.edges.length : Int) ≤ objective.maxEdges
    have bound := within.edges
    rcases room.edges with none | ⟨one, below⟩ <;> omega
  · rcases room.units with none | ⟨one, -⟩ <;> omega
  · rcases room.edges with none | ⟨one, -⟩ <;> omega

/-- **What one cycle does within the budget.** -/
theorem cycle_within (system : DNCSystem R) (call : CycleCall R)
    (within : WithinBudget objective system.graph) :
    WithinBudget objective (cycleStep objective system call).graph ∧
      GrownByOne system.graph (cycleStep objective system call).graph ∧
      ∀ result, (callCycle objective system call).result = .ok result →
        result.success = false → (cycleStep objective system call).graph = system.graph := by
  obtain ⟨proposals, left | ⟨proposal, listed, final, applied, valid, graph, success⟩, rooms⟩ :=
    runCycle_graph call.env { system with config := call.config } objective call.prior call.signals
  · have same : (cycleStep objective system call).graph = system.graph := left
    rw [same]
    exact ⟨within, ⟨0, Nat.zero_le 1, 0, Nat.zero_le 1, Grown.refl _⟩, fun _ _ _ => rfl⟩
  · have committed : (cycleStep objective system call).graph = system.graph.commit final := graph
    obtain ⟨bounded, grown⟩ := WithinBudget.commit within (rooms proposal listed) applied valid
    rw [committed]
    refine ⟨bounded, grown, fun result returned refused => ?_⟩
    rw [success result returned] at refused
    cases refused

end DNCSystem

open DNCSystem in
/-- **Runs of cycles stay within the budget of their objective.** From a valid graph within it, every
state reached has a valid graph within it; every cycle adds at most one unit and one edge and
removes nothing, and one that returns `False` leaves the graph as it was. -/
theorem structuralBudget (objective : GenerationObjective R) (start : DNCSystem R)
    (within : WithinBudget objective start.graph) (calls : List (CycleCall R)) :
    WithinBudget objective (run (cycleStep objective) start calls).graph ∧
    ∀ entry ∈ trace (cycleStep objective) start calls,
      GrownByOne entry.1.graph (cycleStep objective entry.1 entry.2).graph ∧
      ∀ result, (callCycle objective entry.1 entry.2).result = .ok result →
        result.success = false →
          (cycleStep objective entry.1 entry.2).graph = entry.1.graph := by
  have kept : ∀ (system : DNCSystem R) (call : CycleCall R),
      WithinBudget objective system.graph →
        WithinBudget objective (cycleStep objective system call).graph :=
    fun system call bounded => (cycle_within system call bounded).1
  refine ⟨run_invariant kept within calls, fun entry member => ?_⟩
  obtain ⟨before, after, -, reached⟩ := mem_trace _ member
  have bounded : WithinBudget objective entry.1.graph := reached ▸ run_invariant kept within before
  exact (cycle_within entry.1 entry.2 bounded).2

end Cycle

/-- A fresh system is within its budget after a cycle that grows its first unit. -/
theorem structuralBudget_fresh :
    WithinBudget Sample.objective (run (DNCSystem.cycleStep Sample.objective) Sample.fresh
      [⟨Sample.cycleEnv, {}, none, ∅⟩]).graph := by
  have within : WithinBudget Sample.objective Sample.fresh.graph :=
    ⟨⟨_, rfl, rfl⟩, by decide, by decide⟩
  exact (structuralBudget Sample.objective Sample.fresh within _).1

end Dnc
