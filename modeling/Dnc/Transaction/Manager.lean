/-
**The transaction manager.**

`dnc.transaction`: `executeTransaction` checks the base version, stages the operations on a copy of
the graph, validates the result and commits it. Every exit is modelled: version conflict, an invalid
operation, a failing operation, an invalid result, a validator that raises, a staging rollback that
itself raises (which only changes the context), and the commit. Values are copied by value here, so
the copies of the graph and of each operation need no counterpart.

The transaction identifier and the text of an operation's parameters are parameters, as are the
event identifiers and times of the provenance log, which is optional.
-/

import Dnc.Ir.Validator
import Dnc.Mutation.Engine
import Dnc.Observability.Provenance

namespace Dnc

open PyLib

inductive TransactionState where
  | begin | validating | applying | committing | committed | rollingBack | rolledBack | failed
deriving DecidableEq, Repr

structure TransactionContext where
  txId : TransactionID
  baseVersion : GraphVersion
  operations : List IROperation
  state : TransactionState := .begin
  undoLog : UndoLog := {}
  validationResult : Option ValidationResult := none
  errorMessage : Option String := none
deriving DecidableEq

/-- What a manager takes from outside: its log's environment, and `str(op.parameters)`. -/
structure TransactionEnv extends ProvenanceEnv where
  describe : Parameters → String

/-- `if self.provenance_log is not None: self.provenance_log.append(…)`. -/
def record (env : ProvenanceEnv) (log : Option ProvenanceLog) (eventType : String)
    (causalRef : Option String) (payload : List (String × Json)) :
    Option ProvenanceEvent × Option ProvenanceLog :=
  match log with
  | none => (none, none)
  | some log =>
    let (event, log) := log.append env eventType none causalRef payload
    (some event, some log)

/-! ### Staging -/

/-- The state of the loop over the operations. -/
structure Staging where
  graph : StructuralGraph
  undoLog : UndoLog
  log : Option ProvenanceLog
  lastRef : Option String

/-- The body of the loop; an error carries `ctx.error_message` and the state at the failure. -/
def stageOperation (env : TransactionEnv) (txId : TransactionID) (staging : Staging)
    (operation : IROperation) : Except (String × Staging) Staging :=
  if operation.validate = false then
    .error (s!"Operation validation failed for {PyEnum.display operation.opType}", staging)
  else
    let result := applyOperation staging.graph operation
    if result.success = false then
      .error (s!"Mutation application failed: {(Json.arr (result.warnings.map .str)).pyRepr}",
        { staging with graph := result.graph })
    else
      let (event, log) := record env.toProvenanceEnv staging.log
        EventType.structuralMutationApplied staging.lastRef
        [("tx_id", .str txId.value), ("op_type", .str (PyEnum.value operation.opType)),
          ("parameters", .str (env.describe operation.parameters))]
      .ok {
        graph := result.graph
        undoLog := staging.undoLog.transfer result.undoLog
        log
        lastRef := (event.map ProvenanceEvent.eventId).or staging.lastRef }

def stageOperations (env : TransactionEnv) (txId : TransactionID) (staging : Staging)
    (operations : List IROperation) : Except (String × Staging) Staging :=
  operations.foldlM (stageOperation env txId) staging

/-- `_rollback_staging`. -/
def rollbackStaging (staging : StructuralGraph) (ctx : TransactionContext) : TransactionContext :=
  match (rollback staging ctx.undoLog).2 with
  | none => { ctx with undoLog := ctx.undoLog.popAll.2, state := .rolledBack }
  | some error =>
    let original := match ctx.errorMessage with
      | none => "transaction failed"
      | some message => if message = "" then "transaction failed" else message
    { ctx with
      undoLog := ctx.undoLog.popAll.2
      errorMessage := some s!"{original}; staging rollback failed: {error.message}"
      state := .failed }

/-! ### The transaction -/

/-- What a call of `execute_transaction` returns or raises, the graph and the log after it. -/
structure Outcome where
  result : Except PyError (Bool × TransactionContext)
  graph : StructuralGraph
  log : Option ProvenanceLog

/-- The call returned `True`. -/
def Outcome.committed (outcome : Outcome) : Bool :=
  match outcome.result with
  | .ok (success, _) => success
  | .error _ => false

/-- `return False, ctx` after the ROLLED_BACK event. -/
def abort (env : TransactionEnv) (graph : StructuralGraph) (log : Option ProvenanceLog)
    (lastRef : Option String) (ctx : TransactionContext) : Outcome :=
  let (_, log) := record env.toProvenanceEnv log EventType.structuralTransactionRolledBack lastRef
    [("tx_id", .str ctx.txId.value), ("reason", optionalText ctx.errorMessage)]
  ⟨.ok (false, ctx), graph, log⟩

/-- The commit: units, edges and metadata of the staged graph, and the next version. -/
def StructuralGraph.commit (graph staged : StructuralGraph) : StructuralGraph :=
  { graph with
    units := staged.units
    edges := staged.edges
    metadata := staged.metadata
    version := graph.version.nextSequence }

/-- `return True, ctx` after the COMMITTED and VERSION_CREATED events. -/
def conclude (env : TransactionEnv) (graph : StructuralGraph) (log : Option ProvenanceLog)
    (lastRef : Option String) (ctx : TransactionContext) : Outcome :=
  let (committed, log) := record env.toProvenanceEnv log EventType.structuralTransactionCommitted
    lastRef [("tx_id", .str ctx.txId.value), ("new_version", .str (toString graph.version))]
  let (_, log) := record env.toProvenanceEnv log EventType.structuralGraphVersionCreated
    (committed.map ProvenanceEvent.eventId)
    [("graph_id", .str graph.graphId.value), ("version", .str (toString graph.version))]
  ⟨.ok (true, ctx), graph, log⟩

/-- `TransactionManager.execute_transaction`. -/
def executeTransaction (env : TransactionEnv) (log : Option ProvenanceLog) (txId : TransactionID)
    (graph : StructuralGraph) (operations : List IROperation) (base : Option GraphVersion) :
    Outcome :=
  let expected := base.getD graph.version
  let ctx : TransactionContext := { txId, baseVersion := expected, operations }
  let (begun, log) := record env.toProvenanceEnv log EventType.structuralTransactionBegin none
    [("tx_id", .str txId.value), ("base_version", .str (toString expected)),
      ("graph_id", .str graph.graphId.value)]
  let lastRef := begun.map ProvenanceEvent.eventId
  if graph.version ≠ expected then
    abort env graph log lastRef { ctx with
      state := .failed
      errorMessage := some (s!"OCC Conflict: Base version {expected} does not match current " ++
        s!"graph version {graph.version}.") }
  else
    match stageOperations env txId ⟨graph, {}, log, lastRef⟩ operations with
    | .error (reason, staging) =>
      abort env graph staging.log staging.lastRef <| rollbackStaging staging.graph
        { ctx with state := .rollingBack, undoLog := staging.undoLog, errorMessage := some reason }
    | .ok staging =>
      match validateGraph staging.graph with
      | .error error => ⟨.error error, graph, staging.log⟩
      | .ok result =>
        let ctx := { ctx with undoLog := staging.undoLog, validationResult := some result }
        if result.isValid then
          conclude env (graph.commit staging.graph) staging.log staging.lastRef
            { ctx with state := .committed }
        else
          let errors := ", ".intercalate (result.errors.map ValidationError.repr)
          abort env graph staging.log staging.lastRef <| rollbackStaging staging.graph
            { ctx with
              state := .rollingBack
              errorMessage := some s!"Structural invariant violation after mutation: [{errors}]" }

/-- A log environment with numbered events, for examples. -/
def Sample.env : TransactionEnv where
  eventId index := s!"event_{index}"
  time _ := ⟨false, 0, [0], none, FloatLit.isFloat_zero⟩
  sha256 text := text
  describe _ := ""

theorem Sample.tx_normalized : isNormalized "tx_1" = true := by decide

end Dnc
