/-
**Structural replay.**

`dnc.replay.structural_replay`: a list of operation batches is executed transaction by transaction,
each on the current version of the graph, and the result carries the hash of the final graph's JSON
text. The first batch that does not commit ends the replay.

What a transaction does to a graph depends on the graph, the operations and the base version only
(`executeTransaction_cases`), not on identifiers, times or the log. So replaying the batches that
committed in a run, and no others, goes through the same graphs: `replay_committed`.

As equal texts mean equal contents on valid graphs (`toJson_eq_iff`), the hash and `verifyReplay`
decide equality of contents: `canonical_form`.
-/

import Dnc.Ir.Canonical
import Dnc.Kernel.Contracts
import Dnc.Transaction.History

namespace Dnc

open PyLib Logic

structure StructuralReplayResult where
  success : Bool
  graph : StructuralGraph
  reproducibilityGrade : ReproducibilityGrade
  canonicalHash : String
  failedTransactionIndex : Option Nat := none
  failureReason : Option String := none

section Replay

variable (env : TransactionEnv) (txIds : Nat → TransactionID)

/-- `_canonical_hash`. -/
def canonicalHash (graph : StructuralGraph) : Except PyError String :=
  (toJson graph).map env.sha256

/-- The loop of `replay_with_evidence`, at a batch. -/
def replayFrom (index : Nat) (state : Managed) :
    List (List IROperation) → Except PyError StructuralReplayResult
  | [] => do
    return {
      success := true
      graph := state.graph
      reproducibilityGrade := .r2DeterministicCore
      canonicalHash := ← canonicalHash env state.graph }
  | operations :: rest => do
    let outcome := state.execute env ⟨txIds index, operations, some state.graph.version⟩
    match ← outcome.result with
    | (true, _) => replayFrom (index + 1) ⟨outcome.graph, outcome.log⟩ rest
    | (false, ctx) =>
      return {
        success := false
        graph := outcome.graph
        reproducibilityGrade := .r2DeterministicCore
        canonicalHash := ← canonicalHash env outcome.graph
        failedTransactionIndex := some index
        failureReason := ctx.errorMessage }

/-- `StructuralReplayEngine.replay_with_evidence`. -/
def replayWithEvidence (log : Option ProvenanceLog) (initialGraph : StructuralGraph)
    (transactionOperations : List (List IROperation)) : Except PyError StructuralReplayResult :=
  replayFrom env txIds 0 ⟨initialGraph, log⟩ transactionOperations

/-- `StructuralReplayEngine.verify_replay`. -/
def verifyReplay (log : Option ProvenanceLog) (initialGraph : StructuralGraph)
    (transactionOperations : List (List IROperation)) (expectedFinalGraph : StructuralGraph) :
    Except PyError Bool := do
  let result ← replayWithEvidence env txIds log initialGraph transactionOperations
  if result.success = false then return false
  return (← toJson result.graph) == (← toJson expectedFinalGraph)

/-! ### Replaying what committed -/

/-- A successful replay that ends in a graph. -/
def replayed (graph : StructuralGraph) (hash : String) : StructuralReplayResult where
  success := true
  graph := graph
  reproducibilityGrade := .r2DeterministicCore
  canonicalHash := hash

/-- What a call that committed did, another call with the same operations on the same graph does,
whatever its environment, log and identifier are. -/
theorem execute_again {other : TransactionEnv} {state : Managed} {call : TransactionCall}
    (committed : CommittedCall other (state, call)) (log : Option ProvenanceLog)
    (txId : TransactionID) :
    let again := (⟨state.graph, log⟩ : Managed).execute env
      ⟨txId, call.operations, some state.graph.version⟩
    (∃ ctx, again.result = .ok (true, ctx)) ∧
      again.graph = (transactionStep other state call).graph := by
  intro again
  rcases transactionStep_cases other state call with ⟨-, final, commits, same⟩ | ⟨refused, -⟩
  · obtain ⟨-, applied, valid⟩ := commits
    have repeats : Commits state.graph call.operations (some state.graph.version) final :=
      ⟨rfl, applied, valid⟩
    rcases executeTransaction_cases env log txId state.graph call.operations
      (some state.graph.version) with ⟨last, ⟨-, appliedAgain, -⟩, success, graph⟩ | ⟨none, -, -⟩
    · obtain rfl : final = last := Option.some.inj (applied.symm.trans appliedAgain)
      refine ⟨?_, graph.trans same.symm⟩
      have success : again.committed = true := success
      unfold Outcome.committed at success
      split at success
      · rename_i flag ctx returned
        exact ⟨ctx, by rw [returned, success]⟩
      · exact absurd success Bool.false_ne_true
    · exact absurd ⟨final, repeats⟩ none
  · exact absurd committed refused

theorem replayFrom_committed (other : TransactionEnv) (calls : List TransactionCall)
    (start : Managed) (index : Nat) (log : Option ProvenanceLog) :
    replayFrom env txIds index ⟨start.graph, log⟩
        ((committedCalls other start calls).map fun entry => entry.2.operations) =
      (canonicalHash env (run (transactionStep other) start calls).graph).map
        (replayed (run (transactionStep other) start calls).graph) := by
  induction calls generalizing start index log with
  | nil =>
    show replayFrom env txIds index ⟨start.graph, log⟩ [] = _
    rw [replayFrom, run_nil]
    cases canonicalHash env start.graph <;> rfl
  | cons call rest ih =>
    have unfolds : committedCalls other start (call :: rest) =
        if CommittedCall other (start, call) then
          (start, call) :: committedCalls other (transactionStep other start call) rest
        else committedCalls other (transactionStep other start call) rest := by
      unfold committedCalls
      rw [trace_cons, List.filter_cons]
      simp only [decide_eq_true_eq]
    rw [run_cons, unfolds]
    by_cases committed : CommittedCall other (start, call)
    · rw [if_pos committed, List.map_cons, replayFrom]
      obtain ⟨⟨ctx, returned⟩, graph⟩ := execute_again env committed log (txIds index)
      simp only [returned, bind, Except.bind]
      rw [graph]
      exact ih _ _ _
    · -- a call that failed left the graph as it was
      rw [if_neg committed]
      have unchanged : (transactionStep other start call).graph = start.graph := by
        rcases transactionStep_cases other start call with ⟨success, -⟩ | ⟨-, same⟩
        · exact absurd success committed
        · exact same
      rw [← unchanged]
      exact ih _ _ _

end Replay

/-- **Replaying the committed batches reproduces the run.** After any history of transactions, the
batches that committed, in their order, replay from the initial graph without a failure to exactly
the final graph of the history; the result carries that graph's hash. The final graph has a hash
when its mutations can be sorted and its ports are strings or absent. -/
theorem replay_committed (env replayEnv : TransactionEnv) (txIds : Nat → TransactionID)
    (log : Option ProvenanceLog) (start : Managed) (calls : List TransactionCall) :
    let final := (run (transactionStep env) start calls).graph
    let batches := (committedCalls env start calls).map fun entry => entry.2.operations
    replayWithEvidence replayEnv txIds log start.graph batches =
        (canonicalHash replayEnv final).map (replayed final) ∧
      (final.Sortable → (∀ edge ∈ final.edges, edge.PortsNamed) →
        ∃ result, replayWithEvidence replayEnv txIds log start.graph batches = .ok result ∧
          result.success = true ∧ result.graph = final ∧ result.failedTransactionIndex = none ∧
          canonicalHash replayEnv final = .ok result.canonicalHash) := by
  intro final batches
  have replays : replayWithEvidence replayEnv txIds log start.graph batches =
      (canonicalHash replayEnv final).map (replayed final) :=
    replayFrom_committed replayEnv txIds env calls start 0 log
  refine ⟨replays, fun sortable named => ?_⟩
  obtain ⟨document, written⟩ := toDict_total sortable named
  have hashed : canonicalHash replayEnv final = .ok (replayEnv.sha256 document.dumps) := by
    rw [canonicalHash, toJson, written]
    rfl
  rw [hashed] at replays
  exact ⟨_, replays, rfl, rfl, rfl, hashed⟩

/-! ### Deciding equality -/

/-- The free-form values of a graph are JSON values, and its allowed mutations strings. -/
structure StructuralGraph.Declared (graph : StructuralGraph) : Prop where
  mutations : graph.MutationsNamed
  freeForm : graph.FreeForm

/-- **Canonical form.** Two valid graphs have the same JSON text exactly when they have the same
content: identifier, version, metadata, units as a map and edges as a multiset. With an injective
hash, the canonical hashes decide the same, and so does `verify_replay` for a replay that ended in
the one graph and is compared with the other. -/
theorem canonical_form (env : TransactionEnv) (injective : Function.Injective env.sha256)
    (first second : StructuralGraph) (validFirst : Valid first) (validSecond : Valid second)
    (declaredFirst : first.Declared) (declaredSecond : second.Declared) :
    (∃ text other, toJson first = .ok text ∧ toJson second = .ok other ∧
      (text = other ↔ first.content = second.content)) ∧
    (∃ hash other, canonicalHash env first = .ok hash ∧ canonicalHash env second = .ok other ∧
      (hash = other ↔ first.content = second.content)) ∧
    ∀ txIds log initial batches result,
      replayWithEvidence env txIds log initial batches = .ok result → result.success = true →
      result.graph = first →
      ∃ verdict, verifyReplay env txIds log initial batches second = .ok verdict ∧
        (verdict = true ↔ first.content = second.content) := by
  obtain ⟨text, other, written, writtenOther, decides⟩ :=
    toJson_eq_iff (edgesSound_of_valid validFirst) (edgesSound_of_valid validSecond)
      declaredFirst.mutations declaredSecond.mutations declaredFirst.freeForm
      declaredSecond.freeForm
  refine ⟨⟨text, other, written, writtenOther, decides⟩,
    ⟨env.sha256 text, env.sha256 other, ?_, ?_, injective.eq_iff.trans decides⟩, ?_⟩
  · rw [canonicalHash, written]
    rfl
  · rw [canonicalHash, writtenOther]
    rfl
  · rintro txIds log initial batches result replays success rfl
    refine ⟨text == other, ?_, beq_iff_eq.trans decides⟩
    rw [verifyReplay, replays]
    show (if result.success = false then _ else _) = _
    rw [success, if_neg (by simp), written, writtenOther]
    rfl

namespace Sample

/-- The sample graph with its units inserted in the other order. -/
def reordered : StructuralGraph where
  graphId := graph.graphId
  units := Dict.set (Dict.set ∅ "unit_b" (unitNamed unitB)) "unit_a" (unitNamed unitA)
  edges := [edge]

theorem content_reordered : reordered.content = graph.content := by
  have units : ∀ uid, reordered.units.get? uid = graph.units.get? uid := by
    intro uid
    simp only [reordered, graph, Dict.get?_set]
    split_ifs with first second
    · exact absurd (first.symm.trans second) (by decide)
    all_goals rfl
  unfold StructuralGraph.content
  simp only [units]
  rfl

theorem declared_of_units {other : StructuralGraph} (metadata : other.metadata = [])
    (edges : other.edges = [edge])
    (units : ∀ uid unit, other.units.get? uid = some unit → ∃ unitId, unit = unitNamed unitId) :
    other.Declared where
  mutations uid unit stored := by
    obtain ⟨unitId, rfl⟩ := units uid unit stored
    intro elem member
    simp only [unitNamed, defaultMutations, List.mem_cons, List.not_mem_nil, or_false] at member
    rcases member with rfl | rfl | rfl | rfl | rfl
    all_goals exact ⟨_, rfl⟩
  freeForm := by
    refine ⟨by rw [metadata]; rfl, fun uid unit stored => ?_, fun edge member => ?_⟩
    · obtain ⟨unitId, rfl⟩ := units uid unit stored
      exact ⟨rfl, rfl, rfl, rfl, rfl, List.forall_mem_nil _, rfl, rfl, List.forall_mem_nil _, rfl⟩
    · rw [edges] at member
      rw [List.mem_singleton.mp member]
      exact ⟨rfl, rfl, rfl⟩

theorem declared_graph : graph.Declared :=
  declared_of_units rfl rfl fun _ _ stored => (stored_in_graph stored).imp fun _ both => both.2

theorem declared_reordered : reordered.Declared := by
  refine declared_of_units rfl rfl fun uid unit stored => ?_
  have listed : (uid, unit) ∈ [("unit_b", unitNamed unitB), ("unit_a", unitNamed unitA)] :=
    Dict.mem_entries.mpr stored
  rcases List.mem_pair.mp listed with same | same
  · exact ⟨unitB, congrArg Prod.snd same⟩
  · exact ⟨unitA, congrArg Prod.snd same⟩

end Sample

/-- The order in which units were inserted does not show. -/
theorem canonical_form_reordered :
    ∃ text, toJson Sample.reordered = .ok text ∧ toJson Sample.graph = .ok text := by
  have valid : Valid Sample.reordered := ⟨⟨true, [], []⟩, rfl, rfl⟩
  obtain ⟨⟨text, other, written, writtenOther, decides⟩, -⟩ := canonical_form Sample.env
    Function.injective_id Sample.reordered Sample.graph valid Sample.graph_sound.valid
    Sample.declared_reordered Sample.declared_graph
  have same : text = other := decides.mpr Sample.content_reordered
  exact ⟨text, written, same ▸ writtenOther⟩

end Dnc
