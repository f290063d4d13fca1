/-
**The provenance log.**

`dnc.observability.provenance`: an append-only list of events. Every event carries the hash of its
fields and of the hash before it, and names the event that caused it. Event identifiers, the clock
and SHA-256 come from outside and are parameters (`ProvenanceEnv`); the n-th event appended to a log
draws the n-th identifier and the n-th time.
-/

import Dnc.PyLib.Value

namespace Dnc

open PyLib

/-- What `ProvenanceLog.append` takes from outside: `uuid.uuid4()`, `time.time()` and
`hashlib.sha256(…).hexdigest()`. -/
structure ProvenanceEnv where
  eventId : Nat → String
  time : Nat → FloatLit
  sha256 : String → String

namespace EventType

def structuralTransactionBegin : String := "STRUCTURAL_TRANSACTION_BEGIN"
def structuralTransactionRolledBack : String := "STRUCTURAL_TRANSACTION_ROLLED_BACK"
def structuralMutationApplied : String := "STRUCTURAL_MUTATION_APPLIED"
def structuralTransactionCommitted : String := "STRUCTURAL_TRANSACTION_COMMITTED"
def structuralGraphVersionCreated : String := "STRUCTURAL_GRAPH_VERSION_CREATED"

end EventType

structure ProvenanceEvent where
  eventId : String
  eventType : String
  timestamp : FloatLit
  executionId : String
  stepIndex : Option Int
  causalRef : Option String
  payload : List (String × Json)
  integrityHash : String
deriving DecidableEq

structure ProvenanceLog where
  executionId : String
  events : List ProvenanceEvent := []
  prevHash : String := String.ofList (List.replicate 64 '0')
  eventIndex : Dict String ProvenanceEvent := ∅
  causalIndex : Dict String (List ProvenanceEvent) := ∅
deriving DecidableEq

/-- `str(value)` of an optional field. -/
def optionText : Option String → String
  | none => "None"
  | some text => text

/-- The text `_compute_hash` hashes: `key=value` for the fields in the order of their names. -/
def integrityText (event : ProvenanceEvent) (prevHash : String) : String :=
  "|".intercalate [
    s!"causal_ref={optionText event.causalRef}",
    s!"event_id={event.eventId}",
    s!"event_type={event.eventType}",
    s!"execution_id={event.executionId}",
    s!"payload={(Json.obj event.payload).pyStr}",
    s!"prev_integrity_hash={prevHash}",
    s!"step_index={optionText (event.stepIndex.map toString)}",
    s!"timestamp={Json.floatText event.timestamp}"]

/-- `ProvenanceLog.append`: the new event and the log that ends with it. -/
def ProvenanceLog.append (env : ProvenanceEnv) (log : ProvenanceLog) (eventType : String)
    (stepIndex : Option Int) (causalRef : Option String) (payload : List (String × Json)) :
    ProvenanceEvent × ProvenanceLog :=
  let index := log.events.length
  let unsigned : ProvenanceEvent := {
    eventId := env.eventId index
    timestamp := env.time index
    executionId := log.executionId
    integrityHash := ""
    eventType, stepIndex, causalRef, payload }
  let event := { unsigned with integrityHash := env.sha256 (integrityText unsigned log.prevHash) }
  let causalIndex := match causalRef with
    | none => log.causalIndex
    | some ref =>
      if ref = "" then log.causalIndex
      else log.causalIndex.set ref ((log.causalIndex.get? ref).getD [] ++ [event])
  (event, { log with
    events := log.events ++ [event]
    prevHash := event.integrityHash
    eventIndex := log.eventIndex.set event.eventId event
    causalIndex })

end Dnc
