/-
**Transactions are atomic.**

`executeTransaction` stages operations one by one, keeps an undo log and a provenance log on the
way and leaves through six exits. What it does to the graph is much simpler, and is stated against
`applyAll`: every operation in turn validates and is applied to the result of those before.

* `stageOperations_eq`: staging succeeds exactly where `applyAll` does, with the same graph.
* `executeTransaction_cases`: the call commits the staged graph, or leaves the graph as it was; it
  commits exactly when the base version is current, `applyAll` succeeds and its result is valid.
* `executeTransaction_atomic` puts this together.
-/

import Dnc.Logic.Run
import Dnc.Transaction.Manager

namespace Dnc

open PyLib

/-- One operation in turn: it validates and is applied. -/
def applyChecked (graph : StructuralGraph) (operation : IROperation) : Option StructuralGraph :=
  if operation.validate = true ∧ (applyOperation graph operation).success = true then
    some (applyOperation graph operation).graph
  else none

/-- Every operation in turn, each applied to the result of those before. -/
def applyAll (graph : StructuralGraph) (operations : List IROperation) : Option StructuralGraph :=
  operations.foldlM applyChecked graph

variable (env : TransactionEnv) (log : Option ProvenanceLog) (txId : TransactionID)

theorem stageOperation_ok {staging next : Staging} {operation : IROperation}
    (staged : stageOperation env txId staging operation = .ok next) :
    applyChecked staging.graph operation = some next.graph := by
  simp only [stageOperation] at staged
  split_ifs at staged with invalid failed
  · cases staged
    rw [applyChecked, if_pos ⟨Bool.eq_true_of_not_eq_false invalid,
      Bool.eq_true_of_not_eq_false failed⟩]

theorem stageOperation_error {staging : Staging} {operation : IROperation}
    {error : String × Staging} (staged : stageOperation env txId staging operation = .error error) :
    applyChecked staging.graph operation = none := by
  simp only [stageOperation] at staged
  split_ifs at staged with invalid failed
  · exact if_neg fun both => absurd (both.1.symm.trans invalid) (by simp)
  · exact if_neg fun both => absurd (both.2.symm.trans failed) (by simp)

/-- Staging succeeds exactly where the operations apply one after another, with the same graph. -/
theorem stageOperations_eq (staging : Staging) (operations : List IROperation) :
    (∃ last, stageOperations env txId staging operations = .ok last ∧
        applyAll staging.graph operations = some last.graph) ∨
      (∃ error, stageOperations env txId staging operations = .error error) ∧
        applyAll staging.graph operations = none := by
  have forward : ∀ (state : Staging) (graph : StructuralGraph) (operation : IROperation)
      (next : Staging), state.graph = graph → stageOperation env txId state operation = .ok next →
        ∃ after, applyChecked graph operation = some after ∧ next.graph = after :=
    fun state graph operation next same staged =>
      ⟨next.graph, same ▸ stageOperation_ok env txId staged, rfl⟩
  have fails : ∀ (state : Staging) (graph : StructuralGraph) (operation : IROperation)
      (error : String × Staging), state.graph = graph →
        stageOperation env txId state operation = .error error →
          applyChecked graph operation = none :=
    fun state graph operation error same staged => same ▸ stageOperation_error env txId staged
  have related := Logic.foldlM_related (R := fun (state : Staging) graph => state.graph = graph)
    forward fails operations (rfl : staging.graph = staging.graph)
  rcases related with ⟨last, after, staged, applied, same⟩ | ⟨error, applied⟩
  · exact Or.inl ⟨last, staged, by rw [same]; exact applied⟩
  · exact Or.inr ⟨error, applied⟩

variable (graph : StructuralGraph) (operations : List IROperation) (base : Option GraphVersion)

/-- The condition of a commit: the base version is current, and the operations apply one after
another and make `final`, which is valid. -/
def Commits (final : StructuralGraph) : Prop :=
  graph.version = base.getD graph.version ∧ applyAll graph operations = some final ∧ Valid final

/-- **What a transaction does to the graph.** -/
theorem executeTransaction_cases :
    (∃ final, Commits graph operations base final ∧
      (executeTransaction env log txId graph operations base).committed = true ∧
      (executeTransaction env log txId graph operations base).graph = graph.commit final) ∨
    ((¬ ∃ final, Commits graph operations base final) ∧
      (executeTransaction env log txId graph operations base).committed = false ∧
      (executeTransaction env log txId graph operations base).graph = graph) := by
  simp only [executeTransaction]
  generalize record env.toProvenanceEnv log EventType.structuralTransactionBegin none _ = begun
  by_cases stale : graph.version ≠ base.getD graph.version
  · rw [if_pos stale]
    exact Or.inr ⟨fun ⟨_, current, _⟩ => stale current, rfl, rfl⟩
  rw [if_neg stale]
  have current : graph.version = base.getD graph.version := not_not.mp stale
  rcases stageOperations_eq env txId ⟨graph, {}, begun.2, begun.1.map ProvenanceEvent.eventId⟩
    operations with ⟨last, staged, applied⟩ | ⟨⟨error, staged⟩, applied⟩
  · -- every operation was staged: the validator decides
    have applied : applyAll graph operations = some last.graph := applied
    simp only [staged]
    cases checked : validateGraph last.graph with
    | error error =>
      refine Or.inr ⟨?_, rfl, rfl⟩
      rintro ⟨final, _, same, result, valid, _⟩
      obtain rfl : last.graph = final := Option.some.inj (applied.symm.trans same)
      exact absurd (checked.symm.trans valid) (by simp)
    | ok result =>
      simp only
      by_cases valid : result.isValid = true
      · rw [if_pos valid]
        exact Or.inl ⟨last.graph, ⟨current, applied, result, checked, valid⟩, rfl, rfl⟩
      · rw [if_neg valid]
        refine Or.inr ⟨?_, rfl, rfl⟩
        rintro ⟨final, _, same, other, again, isValid⟩
        obtain rfl : last.graph = final := Option.some.inj (applied.symm.trans same)
        obtain rfl : result = other := Except.ok.inj (checked.symm.trans again)
        exact valid isValid
  · -- an operation was refused
    have applied : applyAll graph operations = none := applied
    simp only [staged]
    refine Or.inr ⟨?_, rfl, rfl⟩
    rintro ⟨final, _, same, _⟩
    exact absurd (applied.symm.trans same) (by simp)

/-- **A transaction is atomic.** It commits exactly when the base version is current, every
operation in turn is applied and the result is valid; then units, edges and metadata are the
result's and the version is the next one. Otherwise the graph is what it was. -/
theorem executeTransaction_atomic (env : TransactionEnv) (log : Option ProvenanceLog)
    (txId : TransactionID) (graph : StructuralGraph) (operations : List IROperation)
    (base : Option GraphVersion) :
    ((executeTransaction env log txId graph operations base).committed = true ↔
      graph.version = base.getD graph.version ∧
        ∃ final, applyAll graph operations = some final ∧ Valid final) ∧
    ((executeTransaction env log txId graph operations base).committed = true →
      ∃ final, applyAll graph operations = some final ∧
        (executeTransaction env log txId graph operations base).graph =
          { graph with
            units := final.units
            edges := final.edges
            metadata := final.metadata
            version := graph.version.nextSequence }) ∧
    ((executeTransaction env log txId graph operations base).committed = false →
      (executeTransaction env log txId graph operations base).graph = graph) := by
  rcases executeTransaction_cases env log txId graph operations base with
    ⟨final, commits, committed, same⟩ | ⟨refused, committed, same⟩
  · refine ⟨⟨fun _ => ⟨commits.1, final, commits.2⟩, fun _ => committed⟩, fun _ => ?_, fun failed => ?_⟩
    · exact ⟨final, commits.2.1, same⟩
    · exact absurd (committed.symm.trans failed) (by simp)
  · refine ⟨⟨fun success => ?_, ?_⟩, fun success => ?_, fun _ => same⟩
    · exact absurd (success.symm.trans committed) (by simp)
    · rintro ⟨current, final, applied, valid⟩
      exact absurd ⟨final, current, applied, valid⟩ refused
    · exact absurd (success.symm.trans committed) (by simp)

end Dnc
