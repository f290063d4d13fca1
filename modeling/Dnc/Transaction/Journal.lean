/-
**The journal of a transaction.**

What one call of `execute_transaction` leaves in the provenance log: a BEGIN event, a
MUTATION_APPLIED event for every operation applied, a terminal event, and after a commit the new
version. Every event names the one before it as its cause.

Five of the exits append the terminal event. The sixth is a validator that raises, as it does on an
edge with a port that cannot be hashed: the call would then leave its BEGIN and MUTATION_APPLIED
events without one. Ports are declared to be strings or `None`, which every operation keeps
(`MutationStep.portsNamed`), so the validator returns in all calls on values of the declared types,
and the journals of a run are complete (`journaled`).
-/

import Dnc.Ir.Acceptance
import Dnc.Mutation.Rollback
import Dnc.Observability.Causality
import Dnc.Transaction.History

namespace Dnc

open PyLib Logic

structure Journal where
  begun : ProvenanceEvent
  mutations : List ProvenanceEvent
  terminal : ProvenanceEvent
  created : Option ProvenanceEvent

namespace Journal

/-- The events in the order of the log. -/
def events (journal : Journal) : List ProvenanceEvent :=
  journal.begun :: (journal.mutations ++ journal.terminal :: journal.created.toList)

/-- The events that led to the terminal one. -/
def chain (journal : Journal) : List ProvenanceEvent :=
  journal.begun :: journal.mutations ++ [journal.terminal]

end Journal

/-- The type and the payload of the event of an operation applied. -/
def mutationRecord (env : TransactionEnv) (txId : TransactionID) (operation : IROperation) :
    String × List (String × Json) :=
  (EventType.structuralMutationApplied, [
    ("tx_id", .str txId.value), ("op_type", .str (PyEnum.value operation.opType)),
    ("parameters", .str (env.describe operation.parameters))])

/-- The journal is that of the call: its events name the transaction; its mutations are the first
operations of the call, all of them if it commits; its terminal event says whether it did. -/
structure Journal.Records (env : TransactionEnv) (entry : Managed × TransactionCall)
    (journal : Journal) : Prop where
  begun : journal.begun.eventType = EventType.structuralTransactionBegin
  begunBy : journal.begun.payload.lookup "tx_id" = some (.str entry.2.txId.value)
  mutations : (journal.mutations.map fun event => (event.eventType, event.payload)) =
    (entry.2.operations.take journal.mutations.length).map (mutationRecord env entry.2.txId)
  complete : CommittedCall env entry → journal.mutations.length = entry.2.operations.length
  terminal : journal.terminal.eventType =
    if CommittedCall env entry then EventType.structuralTransactionCommitted
    else EventType.structuralTransactionRolledBack
  terminatedBy : journal.terminal.payload.lookup "tx_id" = some (.str entry.2.txId.value)
  created : journal.created.map ProvenanceEvent.eventType =
    if CommittedCall env entry then some EventType.structuralGraphVersionCreated else none

/-- The staged graph of a call, if it gets as far as the validator, has no edge that the validator
raises on. -/
def ValidatorReturns (entry : Managed × TransactionCall) : Prop :=
  entry.1.graph.version = entry.2.base.getD entry.1.graph.version →
    ∀ staged, applyAll entry.1.graph entry.2.operations = some staged →
      ∀ edge ∈ staged.edges, edge.PortsHashable

/-- **The journals of a run**: the log is made of one complete journal for every call, in order; the
causal chain of every terminal event is that of its journal; as many events are COMMITTED as the
version advanced; and every causal reference names an earlier event. -/
def Journaled (env : TransactionEnv) (executionId : String) (graph : StructuralGraph)
    (calls : List TransactionCall) : Prop :=
  ∃ log journals,
    (run (transactionStep env) ⟨graph, some { executionId }⟩ calls).log = some log ∧
    List.Forall₂ (Journal.Records env)
      (trace (transactionStep env) ⟨graph, some { executionId }⟩ calls) journals ∧
    log.events = journals.flatMap Journal.events ∧
    (∀ journal ∈ journals, log.CausalChainIs journal.terminal.eventId journal.chain) ∧
    (run (transactionStep env) ⟨graph, some { executionId }⟩ calls).graph.version.sequence =
      graph.version.sequence + log.events.countP
        (fun event => event.eventType = EventType.structuralTransactionCommitted) ∧
    ReferencesResolve log.events

/-! ### Staging -/

section Staging

variable {env : TransactionEnv} {txId : TransactionID}

/-- What staging appends to a log after a cause. -/
structure StagedLog (env : TransactionEnv) (txId : TransactionID) (operations : List IROperation)
    (cause : Option String) (log last : ProvenanceLog) (mutations : List ProvenanceEvent) :
    Prop where
  events : last.events = log.events ++ mutations
  traceable : Traceable env.toProvenanceEnv last
  linked : CausalChain cause mutations
  records : (mutations.map fun event => (event.eventType, event.payload)) =
    (operations.take mutations.length).map (mutationRecord env txId)

/-- The cause, if there is one, is an event of the log. -/
def Known (log : ProvenanceLog) (cause : Option String) : Prop :=
  ∀ ref, cause = some ref → ∃ event ∈ log.events, event.eventId = ref

theorem known_of_linked {log last : ProvenanceLog} {cause : Option String}
    {mutations : List ProvenanceEvent} (known : Known log cause)
    (events : last.events = log.events ++ mutations) : Known last (lastRef cause mutations) := by
  intro ref names
  rw [events]
  rcases List.eq_nil_or_concat mutations with rfl | ⟨earlier, event, rfl⟩
  · obtain ⟨found, member, same⟩ := known ref names
    exact ⟨found, List.mem_append_left _ member, same⟩
  · rw [List.concat_eq_append, lastRef, tip_append_singleton] at names
    refine ⟨event, ?_, Option.some.inj names⟩
    rw [List.concat_eq_append]
    simp

/-- The state at which staging ended. -/
def stagedState : Except (String × Staging) Staging → Staging
  | .ok staging => staging
  | .error (_, staging) => staging

theorem stageOperation_cases (env : TransactionEnv) (txId : TransactionID) (staging : Staging)
    (operation : IROperation) :
    (∃ reason graph, stageOperation env txId staging operation =
      .error (reason, { staging with graph })) ∨
    ∃ graph undoLog, stageOperation env txId staging operation = .ok {
      graph, undoLog
      log := (record env.toProvenanceEnv staging.log (mutationRecord env txId operation).1
        staging.lastRef (mutationRecord env txId operation).2).2
      lastRef := ((record env.toProvenanceEnv staging.log (mutationRecord env txId operation).1
        staging.lastRef (mutationRecord env txId operation).2).1.map
          ProvenanceEvent.eventId).or staging.lastRef } := by
  simp only [stageOperation]
  split_ifs
  · exact Or.inl ⟨_, staging.graph, rfl⟩
  · exact Or.inl ⟨_, _, rfl⟩
  · exact Or.inr ⟨_, _, rfl⟩

/-- **Staging appends one event for every operation applied**, each caused by the one before. -/
theorem stageOperations_log (fresh : Function.Injective env.eventId)
    (operations : List IROperation) {staging : Staging} {log : ProvenanceLog}
    (has : staging.log = some log) (traceable : Traceable env.toProvenanceEnv log)
    (known : Known log staging.lastRef) :
    ∃ last mutations,
      (stagedState (stageOperations env txId staging operations)).log = some last ∧
      (stagedState (stageOperations env txId staging operations)).lastRef =
        lastRef staging.lastRef mutations ∧
      StagedLog env txId operations staging.lastRef log last mutations ∧
      ((stageOperations env txId staging operations).isOk →
        mutations.length = operations.length) := by
  induction operations generalizing staging log with
  | nil => exact ⟨log, [], has, rfl, ⟨(List.append_nil _).symm, traceable, trivial, rfl⟩, fun _ => rfl⟩
  | cons operation rest ih =>
    have unfolded : stageOperations env txId staging (operation :: rest) =
        stageOperation env txId staging operation >>= fun next =>
          stageOperations env txId next rest := List.foldlM_cons ..
    rw [unfolded]
    rcases stageOperation_cases env txId staging operation with
      ⟨reason, graph, failed⟩ | ⟨graph, undoLog, staged⟩
    · rw [failed]
      exact ⟨log, [], has, rfl, ⟨(List.append_nil _).symm, traceable, trivial, rfl⟩, nofun⟩
    · rw [staged, has]
      have appended := append_traceable fresh traceable (mutationRecord env txId operation).1 none
        (mutationRecord env txId operation).2 known
      obtain ⟨last, mutations, hasLast, reference, stagedRest, all⟩ := @ih {
          graph, undoLog
          log := some _
          lastRef := some _ } _ rfl appended fun ref names =>
        ⟨_, List.mem_append_right _ (List.mem_singleton_self _), Option.some.inj names⟩
      refine ⟨last, (log.append env.toProvenanceEnv (mutationRecord env txId operation).1 none
        staging.lastRef (mutationRecord env txId operation).2).1 :: mutations, hasLast, ?_, ?_, ?_⟩
      · rw [lastRef, tip_cons]
        exact reference
      · refine ⟨?_, stagedRest.traceable, ⟨rfl, stagedRest.linked⟩, ?_⟩
        · rw [stagedRest.events]
          exact List.append_assoc _ _ _
        · rw [List.map_cons, List.length_cons, List.take_succ_cons, List.map_cons,
            stagedRest.records]
          rfl
      · intro succeeded
        rw [List.length_cons, List.length_cons, all succeeded]

end Staging

/-! ### One call -/

section Call

variable {env : TransactionEnv}

/-- `tx_id` and `state` apart, a rollback of the staging leaves the context. -/
theorem txId_rollbackStaging (staging : StructuralGraph) (ctx : TransactionContext) :
    (rollbackStaging staging ctx).txId = ctx.txId := by
  unfold rollbackStaging
  split <;> rfl

/-- The BEGIN event of a call, and the log that ends with it. -/
def beginCall (env : TransactionEnv) (log : ProvenanceLog) (graph : StructuralGraph)
    (call : TransactionCall) : ProvenanceEvent × ProvenanceLog :=
  log.append env.toProvenanceEnv EventType.structuralTransactionBegin none none
    [("tx_id", .str call.txId.value),
      ("base_version", .str (toString (call.base.getD graph.version))),
      ("graph_id", .str graph.graphId.value)]

/-- A log that a transaction has ended: begun, mutated, terminated. -/
structure Ended (env : TransactionEnv) (log last : ProvenanceLog) (begun : ProvenanceEvent)
    (mutations : List ProvenanceEvent) (terminal : ProvenanceEvent) : Prop where
  events : last.events = log.events ++ begun :: (mutations ++ [terminal])
  traceable : Traceable env.toProvenanceEnv last
  linked : CausalChain none (begun :: mutations ++ [terminal])

/-- The staged log of a call, from its BEGIN event on. -/
def StagedCall (env : TransactionEnv) (state : Managed) (call : TransactionCall)
    (log last : ProvenanceLog) (mutations : List ProvenanceEvent) : Prop :=
  StagedLog env call.txId call.operations
    (some (beginCall env log state.graph call).1.eventId) (beginCall env log state.graph call).2
    last mutations

theorem known_begin (log : ProvenanceLog) (graph : StructuralGraph) (call : TransactionCall) :
    Known (beginCall env log graph call).2 (some (beginCall env log graph call).1.eventId) :=
  fun _ names => ⟨_, List.mem_append_right _ (List.mem_singleton_self _), Option.some.inj names⟩

variable {state : Managed} {call : TransactionCall} {log last : ProvenanceLog}
  {mutations : List ProvenanceEvent}

/-- The terminal event ends the chain of the call. -/
theorem StagedCall.ended (fresh : Function.Injective env.eventId)
    (staged : StagedCall env state call log last mutations) (eventType : String)
    (payload : List (String × Json)) :
    let ended := last.append env.toProvenanceEnv eventType none
      (lastRef (some (beginCall env log state.graph call).1.eventId) mutations) payload
    Ended env log ended.2 (beginCall env log state.graph call).1 mutations ended.1 := by
  intro ended
  refine ⟨?_, append_traceable fresh staged.traceable _ _ _ ?_, ⟨rfl, ?_⟩⟩
  · show last.events ++ [ended.1] = _
    rw [staged.events]
    show (log.events ++ [(beginCall env log state.graph call).1]) ++ mutations ++ [ended.1] = _
    simp
  · exact known_of_linked (known_begin log state.graph call) staged.events
  · exact linked_append_singleton.mpr ⟨staged.linked, rfl⟩

/-- What the exits with a terminal event establish. -/
def LeavesJournal (env : TransactionEnv) (state : Managed) (call : TransactionCall)
    (log : ProvenanceLog) : Prop :=
  ∃ (last : ProvenanceLog) (journal : Journal),
    (transactionStep env state call).log = some last ∧
    last.events = log.events ++ journal.events ∧ Traceable env.toProvenanceEnv last ∧
    CausalChain none journal.chain ∧ journal.Records env (state, call)

/-- The exits that return `False`. -/
theorem leavesJournal_abort (fresh : Function.Injective env.eventId)
    (staged : StagedCall env state call log last mutations) {ctx : TransactionContext}
    (sameTx : ctx.txId = call.txId) {reference : Option String}
    (refers : reference =
      lastRef (some (beginCall env log state.graph call).1.eventId) mutations)
    (executed : state.execute env call = abort env state.graph (some last) reference ctx) :
    LeavesJournal env state call log := by
  subst refers
  have refused : ¬ CommittedCall env (state, call) := by
    show ¬ (state.execute env call).committed = true
    rw [executed]
    exact Bool.false_ne_true
  have ended := staged.ended fresh EventType.structuralTransactionRolledBack
    [("tx_id", .str ctx.txId.value), ("reason", optionalText ctx.errorMessage)]
  refine ⟨_, ⟨(beginCall env log state.graph call).1, mutations, _, none⟩, ?_, ended.events,
    ended.traceable, ended.linked, ?_⟩
  · show (state.execute env call).log = _
    rw [executed]
    rfl
  · constructor
    · rfl
    · rfl
    · exact staged.records
    · exact fun committed => absurd committed refused
    · rw [if_neg refused]
      rfl
    · rw [← sameTx]
      rfl
    · rw [if_neg refused]
      rfl

/-- The exit that returns `True`. -/
theorem leavesJournal_conclude (fresh : Function.Injective env.eventId)
    (staged : StagedCall env state call log last mutations)
    (all : mutations.length = call.operations.length) (graph : StructuralGraph)
    {ctx : TransactionContext} (sameTx : ctx.txId = call.txId) {reference : Option String}
    (refers : reference =
      lastRef (some (beginCall env log state.graph call).1.eventId) mutations)
    (executed : state.execute env call = conclude env graph (some last) reference ctx) :
    LeavesJournal env state call log := by
  subst refers
  have committed : CommittedCall env (state, call) := by
    show (state.execute env call).committed = true
    rw [executed]
    rfl
  have ended := staged.ended fresh EventType.structuralTransactionCommitted
    [("tx_id", .str ctx.txId.value), ("new_version", .str (toString graph.version))]
  obtain ⟨terminal, middle, terminated⟩ : ∃ terminal middle, last.append env.toProvenanceEnv
      EventType.structuralTransactionCommitted none
      (lastRef (some (beginCall env log state.graph call).1.eventId) mutations)
      [("tx_id", .str ctx.txId.value), ("new_version", .str (toString graph.version))] =
        (terminal, middle) := ⟨_, _, rfl⟩
  rw [terminated] at ended
  have ended : Ended env log middle (beginCall env log state.graph call).1 mutations terminal :=
    ended
  have traceable := append_traceable fresh ended.traceable EventType.structuralGraphVersionCreated
    none
    [("graph_id", .str graph.graphId.value), ("version", .str (toString graph.version))]
    fun ref names => ⟨terminal, by rw [ended.events]; simp, Option.some.inj names⟩
  obtain ⟨version, final, created⟩ : ∃ version final, middle.append env.toProvenanceEnv
      EventType.structuralGraphVersionCreated none (some terminal.eventId)
      [("graph_id", .str graph.graphId.value), ("version", .str (toString graph.version))] =
        (version, final) := ⟨_, _, rfl⟩
  rw [created] at traceable
  refine ⟨final, ⟨(beginCall env log state.graph call).1, mutations, terminal, some version⟩, ?_, ?_,
    traceable, ended.linked, ?_⟩
  · show (state.execute env call).log = _
    rw [executed]
    simp only [conclude, record, terminated, Option.map_some, created]
  · rw [(append_eq created).2.2.2, ended.events]
    simp [Journal.events]
  · obtain ⟨terminalType, -, terminalPayload, -⟩ := append_eq terminated
    constructor
    · rfl
    · rfl
    · exact staged.records
    · exact fun _ => all
    · rw [if_pos committed]
      exact terminalType
    · rw [← sameTx, terminalPayload]
      rfl
    · rw [if_pos committed, Option.map_some, (append_eq created).1]

/-- The staging of a call after its BEGIN event. -/
def startStaging (env : TransactionEnv) (state : Managed) (call : TransactionCall)
    (log : ProvenanceLog) : Staging :=
  ⟨state.graph, {}, some (beginCall env log state.graph call).2,
    some (beginCall env log state.graph call).1.eventId⟩

/-- The exits of a call. -/
inductive Exit (env : TransactionEnv) (state : Managed) (call : TransactionCall)
    (log : ProvenanceLog) : Outcome → Prop
  | stale {ctx : TransactionContext} (conflict : state.graph.version ≠ call.base.getD state.graph.version)
      (sameTx : ctx.txId = call.txId) :
    Exit env state call log (abort env state.graph (startStaging env state call log).log
      (startStaging env state call log).lastRef ctx)
  | refused {reason : String} {ended : Staging} {ctx : TransactionContext}
      (failed : stageOperations env call.txId (startStaging env state call log) call.operations =
        .error (reason, ended)) (sameTx : ctx.txId = call.txId) :
    Exit env state call log (abort env state.graph ended.log ended.lastRef ctx)
  | raised {ended : Staging} {error : PyError}
      (current : state.graph.version = call.base.getD state.graph.version)
      (staged : stageOperations env call.txId (startStaging env state call log) call.operations =
        .ok ended) (checked : validateGraph ended.graph = .error error) :
    Exit env state call log ⟨.error error, state.graph, ended.log⟩
  | invalid {ended : Staging} {result : ValidationResult} {ctx : TransactionContext}
      (staged : stageOperations env call.txId (startStaging env state call log) call.operations =
        .ok ended) (checked : validateGraph ended.graph = .ok result)
      (sameTx : ctx.txId = call.txId) :
    Exit env state call log (abort env state.graph ended.log ended.lastRef ctx)
  | committed {ended : Staging} {result : ValidationResult} {graph : StructuralGraph}
      {ctx : TransactionContext}
      (staged : stageOperations env call.txId (startStaging env state call log) call.operations =
        .ok ended) (checked : validateGraph ended.graph = .ok result)
      (sameTx : ctx.txId = call.txId) :
    Exit env state call log (conclude env graph ended.log ended.lastRef ctx)

theorem execute_exit (has : state.log = some log) :
    Exit env state call log (state.execute env call) := by
  simp only [Managed.execute, executeTransaction, has, record, Option.map_some]
  by_cases stale : state.graph.version ≠ call.base.getD state.graph.version
  · rw [if_pos stale]
    exact .stale stale rfl
  rw [if_neg stale]
  cases staged : stageOperations env call.txId (startStaging env state call log) call.operations with
  | error failure =>
    obtain ⟨reason, ended⟩ := failure
    have failed := staged
    unfold startStaging beginCall at staged
    simp only [staged]
    exact .refused failed (txId_rollbackStaging _ _)
  | ok ended =>
    have succeeded := staged
    unfold startStaging beginCall at staged
    simp only [staged]
    cases checked : validateGraph ended.graph with
    | error error => exact .raised (not_not.mp stale) succeeded checked
    | ok result =>
      simp only
      split_ifs
      · exact .committed succeeded checked rfl
      · exact .invalid succeeded checked (txId_rollbackStaging _ _)

/-- Where every operation was staged, the validator decides. -/
theorem validatorReturns_of_staged {ended : Staging}
    (staged : stageOperations env call.txId (startStaging env state call log) call.operations =
      .ok ended) (current : state.graph.version = call.base.getD state.graph.version) :
    ValidatorReturns (state, call) ↔ ∃ result, validateGraph ended.graph = .ok result := by
  rcases stageOperations_eq env call.txId (startStaging env state call log) call.operations with
    ⟨_, again, applied⟩ | ⟨⟨_, failed⟩, _⟩
  · cases again.symm.trans staged
    rw [validateGraph_returns]
    constructor
    · exact fun returned => returned current ended.graph applied
    · intro hashable _ final same
      obtain rfl : ended.graph = final := Option.some.inj (applied.symm.trans same)
      exact hashable
  · cases failed.symm.trans staged

/-- **A call leaves a complete journal where the validator returns.** -/
theorem transaction_journal (fresh : Function.Injective env.eventId) (has : state.log = some log)
    (traceable : Traceable env.toProvenanceEnv log) (returns : ValidatorReturns (state, call)) :
    LeavesJournal env state call log := by
  have begun : Traceable env.toProvenanceEnv (beginCall env log state.graph call).2 :=
    append_traceable fresh traceable _ none _ nofun
  have started : (startStaging env state call log).log = some (beginCall env log state.graph call).2 :=
    rfl
  obtain ⟨last, mutations, hasLast, refers, staging, all⟩ :=
    @stageOperations_log env call.txId fresh call.operations _ _ started begun
      (known_begin log state.graph call)
  have exit : Exit env state call log (state.execute env call) := execute_exit has
  generalize executed : state.execute env call = outcome at exit
  cases exit with
  | stale conflict sameTx =>
    have nothing : StagedCall env state call log (beginCall env log state.graph call).2 [] :=
      ⟨(List.append_nil _).symm, begun, trivial, rfl⟩
    exact leavesJournal_abort fresh nothing sameTx rfl executed
  | @refused reason ended ctx failed sameTx =>
    rw [failed] at hasLast refers
    have hasLast : ended.log = some last := hasLast
    refine leavesJournal_abort fresh staging sameTx refers ?_
    rw [← hasLast]
    exact executed
  | @raised ended error current staged checked =>
    obtain ⟨result, again⟩ := (validatorReturns_of_staged staged current).mp returns
    cases checked.symm.trans again
  | @invalid ended result ctx staged checked sameTx =>
    rw [staged] at hasLast refers
    have hasLast : ended.log = some last := hasLast
    refine leavesJournal_abort fresh staging sameTx refers ?_
    rw [← hasLast]
    exact executed
  | @committed ended result graph ctx staged checked sameTx =>
    rw [staged] at hasLast refers all
    have hasLast : ended.log = some last := hasLast
    refine leavesJournal_conclude fresh staging (all rfl) graph sameTx refers ?_
    rw [← hasLast]
    exact executed

end Call

/-! ### Counting events -/

/-- The types of the events of a journal. -/
def journalTypes (mutations : Nat) (committed : Prop) [Decidable committed] : List String :=
  EventType.structuralTransactionBegin ::
    (List.replicate mutations EventType.structuralMutationApplied ++
      if committed then
        [EventType.structuralTransactionCommitted, EventType.structuralGraphVersionCreated]
      else [EventType.structuralTransactionRolledBack])

/-- Only the end of a journal can differ. -/
theorem countP_journalTypes (mutations : Nat) (committed : Prop) [Decidable committed]
    {p : String → Bool} (notBegin : p EventType.structuralTransactionBegin = false)
    (notApplied : p EventType.structuralMutationApplied = false) :
    (journalTypes mutations committed).countP p =
      (if committed then
        [EventType.structuralTransactionCommitted, EventType.structuralGraphVersionCreated]
      else [EventType.structuralTransactionRolledBack]).countP p := by
  rw [journalTypes, List.countP_cons_of_neg (by simp [notBegin]), List.countP_append,
    List.countP_replicate, if_neg (by simp [notApplied]), Nat.zero_add]

section Counting

variable {env : TransactionEnv} {entry : Managed × TransactionCall} {journal : Journal}

theorem Journal.Records.types (records : journal.Records env entry) :
    journal.events.map ProvenanceEvent.eventType =
      journalTypes journal.mutations.length (CommittedCall env entry) := by
  have applied : journal.mutations.map ProvenanceEvent.eventType =
      List.replicate journal.mutations.length EventType.structuralMutationApplied := by
    refine List.eq_replicate_iff.mpr ⟨List.length_map _, fun type member => ?_⟩
    obtain ⟨event, inMutations, rfl⟩ := List.mem_map.mp member
    have typed := List.mem_map_of_mem (f := fun event => (event.eventType, event.payload)) inMutations
    rw [records.mutations] at typed
    obtain ⟨operation, -, same⟩ := List.mem_map.mp typed
    exact (congrArg Prod.fst same).symm
  have ended : journal.created.toList.map ProvenanceEvent.eventType =
      (journal.created.map ProvenanceEvent.eventType).toList := by
    cases journal.created <;> rfl
  rw [Journal.events, List.map_cons, List.map_append, List.map_cons, applied, ended, records.begun,
    records.terminal, records.created, journalTypes]
  by_cases committed : CommittedCall env entry
  · simp only [if_pos committed, Option.toList_some]
  · simp only [if_neg committed, Option.toList_none]

theorem Journal.Records.countP_committed (records : journal.Records env entry) :
    journal.events.countP (fun event =>
      event.eventType = EventType.structuralTransactionCommitted) =
      if CommittedCall env entry then 1 else 0 := by
  have counted : journal.events.countP (fun event =>
        event.eventType = EventType.structuralTransactionCommitted) =
      (journal.events.map ProvenanceEvent.eventType).countP fun type =>
        type = EventType.structuralTransactionCommitted := by
    rw [List.countP_map]
    rfl
  rw [counted, records.types, countP_journalTypes _ _ (by decide) (by decide)]
  by_cases committed : CommittedCall env entry
  · rw [if_pos committed, if_pos committed]
    decide
  · rw [if_neg committed, if_neg committed]
    decide

/-- Complete journals have one COMMITTED event for every call that committed. -/
theorem countP_committed_journals {entries : List (Managed × TransactionCall)}
    {journals : List Journal} (records : List.Forall₂ (Journal.Records env) entries journals) :
    (journals.flatMap Journal.events).countP (fun event =>
      event.eventType = EventType.structuralTransactionCommitted) =
      (entries.filter fun entry => CommittedCall env entry).length := by
  induction records with
  | nil => rfl
  | @cons entry journal _ _ here _ ih =>
    rw [List.flatMap_cons, List.countP_append, here.countP_committed, ih]
    by_cases committed : CommittedCall env entry
    · rw [if_pos committed, List.filter_cons_of_pos (by simpa using committed), List.length_cons,
        Nat.add_comm]
    · rw [if_neg committed, List.filter_cons_of_neg (by simpa using committed), Nat.zero_add]

end Counting

/-! ### Runs -/

section Runs

variable {env : TransactionEnv}

/-- Where the validator always returns, a run leaves one complete journal for every call. -/
theorem run_journals (fresh : Function.Injective env.eventId) (calls : List TransactionCall)
    {state : Managed} {log : ProvenanceLog} (has : state.log = some log)
    (traceable : Traceable env.toProvenanceEnv log)
    (returns : ∀ entry ∈ trace (transactionStep env) state calls, ValidatorReturns entry) :
    ∃ last journals, (run (transactionStep env) state calls).log = some last ∧
      last.events = log.events ++ journals.flatMap Journal.events ∧
      Traceable env.toProvenanceEnv last ∧
      (∀ journal ∈ journals, CausalChain none journal.chain) ∧
      List.Forall₂ (Journal.Records env) (trace (transactionStep env) state calls) journals := by
  induction calls generalizing state log with
  | nil =>
    refine ⟨log, [], has, (List.append_nil _).symm, traceable, ?_, .nil⟩
    exact fun _ member => absurd member List.not_mem_nil
  | cons call rest ih =>
    obtain ⟨middle, journal, hasMiddle, events, traceableNext, linked, records⟩ :=
      transaction_journal fresh has traceable (returns _ List.mem_cons_self)
    obtain ⟨last, journals, hasLast, later, traceableLast, allLinked, allRecord⟩ := ih hasMiddle
      traceableNext fun entry member => returns entry (List.mem_cons_of_mem _ member)
    refine ⟨last, journal :: journals, hasLast, ?_, traceableLast, ?_, .cons records allRecord⟩
    · rw [later, events, List.flatMap_cons, List.append_assoc]
    · exact List.forall_mem_cons.mpr ⟨linked, allLinked⟩

/-- **The journals of a run are complete where the validator always returns.** -/
theorem journaled_of_returns (fresh : Function.Injective env.eventId) {executionId : String}
    {graph : StructuralGraph} {calls : List TransactionCall}
    (returns : ∀ entry ∈ trace (transactionStep env) ⟨graph, some { executionId }⟩ calls,
      ValidatorReturns entry) : Journaled env executionId graph calls := by
  obtain ⟨last, journals, has, events, traceable, linked, records⟩ := @run_journals env fresh calls
    ⟨graph, some { executionId }⟩ _ rfl (traceable_empty _ executionId) returns
  have events : last.events = journals.flatMap Journal.events := events
  refine ⟨last, journals, has, records, events, fun journal member => ?_, ?_, traceable.resolve⟩
  · refine @Traceable.causalChainIs _ _ traceable (journal.begun :: journal.mutations) _
      (linked journal member) fun event inChain => ?_
    rw [events]
    refine List.mem_flatMap.mpr ⟨journal, member, ?_⟩
    simp only [List.cons_append, List.mem_cons, List.mem_append, List.not_mem_nil, or_false]
      at inChain
    simp only [Journal.events, List.mem_cons, List.mem_append]
    tauto
  · rw [history_version, events, countP_committed_journals records]
    rfl

end Runs

/-! ### Declared types -/

/-- The ports of the graph's edges are strings or absent, as `Edge` declares them. -/
def StructuralGraph.PortsNamed (graph : StructuralGraph) : Prop :=
  ∀ edge ∈ graph.edges, edge.PortsNamed

/-- The ports that an operation names are strings or absent. -/
def IROperation.PortsNamed (operation : IROperation) : Prop :=
  (∃ text?, operation.parameters.sourcePort.getD .null = optionalText text?) ∧
    ∃ text?, operation.parameters.targetPort.getD .null = optionalText text?

theorem Edge.PortsNamed.hashable {edge : Edge} (named : edge.PortsNamed) : edge.PortsHashable := by
  have text : ∀ text?, (optionalText text?).hashable = true := by
    intro text?
    cases text? <;> rfl
  obtain ⟨⟨source?, isSource⟩, target?, isTarget⟩ := named
  exact ⟨isSource ▸ text source?, isTarget ▸ text target?⟩

/-- The edge that an operation adds names the operation's ports. -/
theorem IROperation.PortsNamed.edge {operation : IROperation} (named : operation.PortsNamed)
    {edge : Edge} (read : operation.mutation = some (.connectUnits edge)) : edge.PortsNamed := by
  unfold IROperation.mutation at read
  cases kind : operation.opType <;> simp only [kind] at read
  case connectUnits =>
    simp only [Option.bind_eq_bind, Option.bind_eq_some_iff, Option.pure_def, Option.some.injEq,
      Mutation.connectUnits.injEq] at read
    obtain ⟨source, -, target, -, edgeType, -, rfl⟩ := read
    exact named
  all_goals simp [Option.bind_eq_some_iff] at read

/-- **A mutation names no other ports.** -/
theorem MutationStep.portsNamed {graph next : StructuralGraph} {mutation : Mutation}
    {inverse : InverseOperation} (step : MutationStep graph mutation next inverse)
    (named : graph.PortsNamed)
    (added : ∀ edge, mutation = .connectUnits edge → edge.PortsNamed) : next.PortsNamed := by
  cases step with
  | addUnit known permitted fresh => exact named
  | removeUnit found extended => exact fun edge member => named edge (List.mem_of_mem_filter member)
  | connectUnits edge =>
    intro other member
    rcases List.mem_append.mp member with old | new
    · exact named other old
    · rw [List.mem_singleton.mp new]
      exact added edge rfl
  | disconnectUnits source target edgeType sourcePort targetPort =>
    exact fun edge member => named edge (List.mem_of_mem_filter member)
  | rewireEdge found =>
    obtain ⟨before, edge, after, split, -, -, rfl⟩ := rewireFirst_eq_some found
    have all : ∀ other ∈ before ++ edge :: after, other.PortsNamed := split ▸ named
    intro other member
    rcases List.mem_append.mp member with early | late
    · exact all other (List.mem_append_left _ early)
    rcases List.mem_cons.mp late with rfl | late
    · exact all edge (List.mem_append_right _ List.mem_cons_self)
    · exact all other (List.mem_append_right _ (List.mem_cons_of_mem _ late))

theorem applyAll_portsNamed {graph final : StructuralGraph} {operations : List IROperation}
    (named : graph.PortsNamed) (declared : ∀ operation ∈ operations, operation.PortsNamed)
    (applied : applyAll graph operations = some final) : final.PortsNamed := by
  induction operations generalizing graph with
  | nil =>
    obtain rfl : graph = final := Option.some.inj applied
    exact named
  | cons operation rest ih =>
    unfold applyAll at applied
    rw [List.foldlM_cons, Option.bind_eq_bind, Option.bind_eq_some_iff] at applied
    obtain ⟨last, checked, applied⟩ := applied
    obtain ⟨mutation, next, inverse, read, step, rfl⟩ := applyChecked_eq_some checked
    have own := declared operation List.mem_cons_self
    have after : StructuralGraph.PortsNamed
        { next with version := next.version.nextSequence } :=
      step.portsNamed named fun edge isEdge => own.edge (isEdge ▸ read)
    exact ih after
      (fun other member => declared other (List.mem_cons_of_mem _ member)) applied

/-- Every graph that a run passes through names its ports. -/
theorem portsNamed_of_trace (env : TransactionEnv) {start : Managed} {calls : List TransactionCall}
    (named : start.graph.PortsNamed)
    (declared : ∀ call ∈ calls, ∀ operation ∈ call.operations, operation.PortsNamed) :
    ∀ entry ∈ trace (transactionStep env) start calls, entry.1.graph.PortsNamed := by
  induction calls generalizing start with
  | nil => exact fun entry member => absurd member List.not_mem_nil
  | cons call rest ih =>
    refine List.forall_mem_cons.mpr ⟨named, ih ?_ fun other member =>
      declared other (List.mem_cons_of_mem _ member)⟩
    rcases transactionStep_cases env start call with ⟨-, final, ⟨-, applied, -⟩, same⟩ | ⟨-, same⟩
    · have after : final.PortsNamed :=
        applyAll_portsNamed named (declared call List.mem_cons_self) applied
      rw [same]
      exact after
    · rw [same]
      exact named

namespace Sample

/-- An environment whose event identifiers are all different. -/
def freshEnv : TransactionEnv :=
  { env with eventId := fun index => String.ofList (List.replicate index 'e') }

theorem freshEnv_fresh : Function.Injective freshEnv.eventId := by
  intro first second same
  have lists : List.replicate first 'e' = List.replicate second 'e' := String.ofList_injective same
  simpa using congrArg List.length lists

/-- A transaction that connects two units, and one that removes a unit that is not there. -/
def transactions : List TransactionCall := [
  { txId := ⟨"tx_1", tx_normalized⟩, operations := [connect unitB unitA] },
  { txId := ⟨"tx_unknown", by decide⟩
    operations := [connect unitA unitA, remove ⟨"unit_unknown", by decide⟩] }]

end Sample

end Dnc
