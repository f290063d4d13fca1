/-
**Provider adapters.**

`dnc.capabilities.adapters`: the circuit breaker, the rate limiter and `ProviderAdapter.execute` with
its attempts. What a call meets outside the adapter is part of the call: the cancellation token at
each check, how long things take, and what the provider answers. The clock is `time.monotonic_ns`, so
it advances by what is waited and never goes back.

`AdapterState.invocations` lists what the provider was asked to execute; the program keeps no such
list. An exception of the provider is an `Exception`: another `BaseException` leaves the call at once.
-/

import Dnc.Capabilities.Registry
import Dnc.PyLib.JsonText
import Dnc.Runtime.Types

namespace Dnc.Capabilities

open PyLib

export Runtime (ExecutionCapability)

/-! ### Contracts -/

/-- The fields of a request that an adapter reads. -/
structure ProviderRequestData where
  requestId : String
  actionType : CognitiveActionType
  input : Json
  model : Option String := none
  stream : Bool := false
  responseSchema : Option JsonObject := none
  tools : List JsonObject := []
  timeoutMs : Option Int := none
  maxRetries : Int := 0
  metadata : JsonObject := []

/-- `ProviderRequest.__post_init__`. -/
def ProviderRequestData.violation (data : ProviderRequestData) : Option PyError :=
  if data.requestId = "" then some (.valueError "request_id MUST be non-empty")
  else if ∃ timeout ∈ data.timeoutMs, timeout < 0 then
    some (.valueError "timeout_ms MUST be non-negative")
  else if data.maxRetries < 0 then some (.valueError "max_retries MUST be non-negative")
  else none

structure ProviderRequest extends ProviderRequestData where
  valid : toProviderRequestData.violation = none

/-- What a provider says it has used. -/
structure Usage where
  inputTokens : Int := 0
  outputTokens : Int := 0
  costUsd : Option FloatLit := none

/-- The answer of an adapter, which names the error it translates. -/
structure ProviderResponse where
  requestId : String
  providerId : String
  modelId : String
  output : Json
  success : Bool
  complete : Bool := true
  usage : Usage := {}
  errorCode : Option String := none
  error : Option String := none
  attempts : Nat := 1
  metadata : JsonObject := []

/-- The fields of `execution_provider.ProviderResult` that an adapter reads. -/
structure ProviderResult where
  output : Json
  latencyMs : FloatLit
  tokensUsed : Option Int := none
  costUsd : Option FloatLit := none
  error : Option String := none
  metadata : JsonObject := []

/-! ### Resilience -/

/-- Opens after failures in a row, and lets a call through again once it has recovered. -/
structure CircuitBreaker where
  failureThreshold : Int := 3
  recoveryTimeoutMs : Int := 30000
  consecutiveFailures : Nat := 0
  openedAtNs : Option Int := none

namespace CircuitBreaker

variable (breaker : CircuitBreaker)

/-- `CircuitBreaker.allow` at a reading of the clock. -/
def allow (nowNs : Int) : Bool × CircuitBreaker :=
  match breaker.openedAtNs with
  | none => (true, breaker)
  | some opened =>
    if breaker.recoveryTimeoutMs * 1000000 ≤ nowNs - opened then
      (true, { breaker with consecutiveFailures := 0, openedAtNs := none })
    else (false, breaker)

/-- `CircuitBreaker.record_success`. -/
def recordSuccess : CircuitBreaker := { breaker with consecutiveFailures := 0, openedAtNs := none }

/-- `CircuitBreaker.record_failure` at a reading of the clock. -/
def recordFailure (nowNs : Int) : CircuitBreaker :=
  let consecutiveFailures := breaker.consecutiveFailures + 1
  if breaker.failureThreshold ≤ consecutiveFailures then
    { breaker with consecutiveFailures, openedAtNs := some nowNs }
  else { breaker with consecutiveFailures }

end CircuitBreaker

/-- The requests of a window of one minute, of which there may be so many. -/
structure RateLimiter where
  requestsPerMinute : Int
  windowStartedNs : Int
  requests : Int := 0

/-- `RateLimiter.acquire` at a reading of the clock. -/
def RateLimiter.acquire (limiter : RateLimiter) (nowNs : Int) : Bool × RateLimiter :=
  if limiter.requestsPerMinute ≤ 0 then (false, limiter)
  else
    let limiter := if 60000000000 ≤ nowNs - limiter.windowStartedNs then
      { limiter with windowStartedNs := nowNs, requests := 0 } else limiter
    if limiter.requestsPerMinute ≤ limiter.requests then (false, limiter)
    else (true, { limiter with requests := limiter.requests + 1 })

/-- `rate_limiter is None or rate_limiter.acquire()`. -/
def acquire (limiter : Option RateLimiter) (nowNs : Int) : Bool × Option RateLimiter :=
  match limiter with
  | none => (true, none)
  | some limiter => ((limiter.acquire nowNs).1, some (limiter.acquire nowNs).2)

/-! ### What a call meets -/

/-- An attempt: the reason of the cancellation token where it is cancelled before or after it, the
time that passes before the provider is invoked, its answer, whether this comes within a deadline,
and the time that passes until then. -/
structure Attempt where
  cancelledBefore : Option String := none
  waitNs : Nat := 0
  answer : Except String ProviderResult
  inTime : Bool := true
  tookNs : Nat := 0
  cancelledAfter : Option String := none

/-- A call of `execute`: its request, the reason of the token where it is cancelled at first, the
time that has passed when the breaker and the rate limiter are asked, and its attempts. -/
structure ExecuteCall where
  request : ProviderRequest
  cancelled : Option String := none
  idleNs : Nat := 0
  acquireNs : Nat := 0
  attempt : Nat → Attempt

/-- What the provider was asked to execute, when, and what became of it: `failed` says whether the
provider failed, and `counted` whether the breaker was told so. -/
structure Invocation where
  capability : ExecutionCapability
  input : Json
  config : JsonObject
  startedNs : Int
  endedNs : Int
  failed : Bool
  counted : Bool

/-! ### The adapter -/

/-- `_execution_capability`. -/
def executionCapability : CognitiveActionType → Option ExecutionCapability
  | .reason | .continue_ | .branch | .repair => some .reasoning
  | .retrieve => some .retrieval
  | .verify => some .verification
  | .observeOrTest => some .simulation
  | .restructure => some .planning
  | _ => none

/-- The fields that a schema requires and a dictionary lacks, as `_validate_structured_output`
reports them. -/
def missingFields (schema fields : JsonObject) : Except PyError (Option String) := do
  let required ← PySet.ofValue ((schema.lookup "required").getD (.arr []))
  let missing := required.elems.filter fun field =>
    decide (field ∉ fields.map fun entry => Json.str entry.1)
  if missing = [] then return none
  let listed ← (← PySet.ofList missing).sorted
  return some s!"required fields are missing: {(Json.arr listed).pyRepr}"

/-- `_validate_structured_output` of a value that is no JSON text. -/
def validateStructure (schema : JsonObject) (output : Json) : Except PyError (Option String) :=
  let expected := schema.lookup "type"
  match output with
  | .obj fields =>
    if expected = some (.str "array") then .ok (some "output is not an array")
    else missingFields schema fields
  | .arr _ => .ok (if expected = some (.str "object") then some "output is not an object" else none)
  | _ => .ok (if expected = some (.str "object") then some "output is not an object"
      else if expected = some (.str "array") then some "output is not an array" else none)

/-- `_validate_structured_output`. -/
def validateStructuredOutput (output : Json) (schema : Option JsonObject) :
    Except PyError (Option String) :=
  match schema with
  | none => .ok none
  | some schema =>
    match output with
    | .str text =>
      match Json.loads text with
      | none => .ok (some "output is not valid JSON")
      | some value => validateStructure schema value
    | value => validateStructure schema value

/-- `max(1, len(str(value)) // 4) if value is not None else 0`. -/
def estimatedTokens (value : Json) : Int :=
  if value = .null then 0 else max 1 (value.pyStr.length / 4)

/-- `_usage`. -/
def usageOf (input output : Json) (totalTokens : Option Int) (cost : Option FloatLit) : Usage where
  inputTokens := estimatedTokens input
  outputTokens := match totalTokens with
    | none => estimatedTokens output
    | some total => max 0 (total - estimatedTokens input)
  costUsd := cost

section Adapter

variable (R : Type) [PyFloat R]

/-- The card of an adapter. -/
abbrev AdapterCard := CapabilityCard R

/-- A provider behind a breaker and a limiter. -/
structure ProviderAdapter where
  supports : ExecutionCapability → Bool
  card : AdapterCard R
  breaker : CircuitBreaker := {}
  rateLimiter : Option RateLimiter := none

/-- An adapter, the clock, and the invocations so far. -/
structure AdapterState where
  adapter : ProviderAdapter R
  nowNs : Int
  invocations : List Invocation := []

end Adapter

section Execute

variable {R : Type} [PyFloat R]

namespace ProviderAdapter

variable (adapter : ProviderAdapter R) (request : ProviderRequest)

/-- The features a request asks for, with their labels. -/
def requirements : List (CapabilityFeature × String) :=
  (if request.stream then [(.streaming, "streaming")] else []) ++
    (if request.responseSchema.isSome then [(.structuredOutput, "structured output")] else []) ++
    (if request.tools ≠ [] then [(.toolCalling, "tool calling")] else [])

/-- `ProviderAdapter._feature_error`. -/
def featureError : Option String :=
  ((requirements request).find? fun requirement => requirement.1 ∉ adapter.card.features).map
    fun requirement => s!"{requirement.2} is unsupported by {adapter.card.capabilityId}"

/-- `request.model or card.model_id`. -/
def modelId : String :=
  match request.model with
  | none => adapter.card.modelId
  | some model => if model = "" then adapter.card.modelId else model

/-- `ProviderAdapter._error`. -/
def errorResponse (code message : String) (attempts : Nat) : ProviderResponse where
  requestId := request.requestId
  providerId := adapter.card.providerId
  modelId := adapter.modelId request
  output := .null
  success := false
  errorCode := some code
  error := some message
  attempts

/-- The response to a cancelled request, with the token's reason. -/
def cancelledResponse (reason : String) (attempts : Nat) : ProviderResponse :=
  adapter.errorResponse request "CANCELLED" (if reason = "" then "cancelled" else reason) attempts

/-- The response to a result that is accepted. -/
def successResponse (result : ProviderResult) (attempts : Nat) : ProviderResponse where
  requestId := request.requestId
  providerId := adapter.card.providerId
  modelId := adapter.modelId request
  output := result.output
  success := true
  usage := usageOf request.input result.output result.tokensUsed result.costUsd
  attempts
  metadata := setItem result.metadata "latency_ms" (.float result.latencyMs)

/-- The response once the attempts are used up, or the last one ran out of time. -/
def exhaustedResponse (lastError : String) (attempts : Nat) : ProviderResponse :=
  adapter.errorResponse request
    (if "deadline".toList <:+: lastError.toList then "TIMEOUT" else "PROVIDER_ERROR") lastError attempts

/-- The configuration that the provider receives. -/
def config : JsonObject :=
  let config := request.metadata
  let config := match request.model with
    | none => config
    | some model => if model = "" then config else setItem config "model" (.str model)
  let config := match request.responseSchema with
    | none => config
    | some schema => setItem config "response_format" (.obj schema)
  if request.tools = [] then config else setItem config "tools" (.arr (request.tools.map .obj))

end ProviderAdapter

namespace AdapterState

variable (state : AdapterState R)

/-- Time passes. -/
def wait (ns : Nat) : AdapterState R := { state with nowNs := state.nowNs + ns }

/-- The breaker is replaced. -/
def withBreaker (breaker : CircuitBreaker) : AdapterState R :=
  { state with adapter := { state.adapter with breaker } }

/-- The provider was invoked. -/
def invoked (invocation : Invocation) : AdapterState R :=
  { state with invocations := state.invocations ++ [invocation] }

/-- `breaker.record_failure()` now. -/
def recordFailure : AdapterState R :=
  state.withBreaker (state.adapter.breaker.recordFailure state.nowNs)

/-- The checks of `execute` ahead of the attempts: a response, or the capability to invoke. -/
def prepare (call : ExecuteCall) : Except ProviderResponse ExecutionCapability × AdapterState R :=
  let request := call.request
  match state.adapter.featureError request with
  | some message =>
    (.error (state.adapter.errorResponse request "UNSUPPORTED_FEATURE" message 0), state)
  | none =>
    match call.cancelled with
    | some reason => (.error (state.adapter.cancelledResponse request reason 0), state)
    | none =>
      let state := state.wait call.idleNs
      let (allowed, breaker) := state.adapter.breaker.allow state.nowNs
      let state := state.withBreaker breaker
      if allowed then
        let state := state.wait call.acquireNs
        let (acquired, rateLimiter) := acquire state.adapter.rateLimiter state.nowNs
        let state := { state with adapter := { state.adapter with rateLimiter } }
        if acquired then
          match executionCapability request.actionType with
          | none => (.error (state.adapter.errorResponse request "UNSUPPORTED_ACTION"
              "provider does not support action" 0), state)
          | some capability =>
            if state.adapter.supports capability then (.ok capability, state)
            else (.error (state.adapter.errorResponse request "UNSUPPORTED_ACTION"
              "provider does not support action" 0), state)
        else (.error (state.adapter.errorResponse request "RATE_LIMITED"
          "adapter rate limit exceeded" 0), state)
      else (.error (state.adapter.errorResponse request "CIRCUIT_OPEN"
        "provider circuit is open" 0), state)

end AdapterState

/-- `ProviderAdapter._execute_with_timeout`: the result, or that the deadline has passed. -/
def executeWithTimeout (timeoutMs : Option Int) (attempt : Attempt) :
    Except String (Option ProviderResult) :=
  if timeoutMs.isSome && !attempt.inTime then .ok none else attempt.answer.map some

/-- How the provider failed, if it did: the exception, the deadline, the error of its result, or the
error of its structured output. -/
def failureOf (request : ProviderRequest) (attempt : Attempt) : Option String :=
  match executeWithTimeout request.timeoutMs attempt with
  | .error message => some message
  | .ok none => some "provider deadline exceeded"
  | .ok (some result) =>
    match result.error with
    | some error => some error
    | none =>
      match validateStructuredOutput result.output request.responseSchema with
      | .ok error => error
      | .error _ => none

namespace AdapterState

/-- The attempts of `execute`, from the one with this number on. -/
def attemptFrom (call : ExecuteCall) (capability : ExecutionCapability) :
    Nat → Nat → String → AdapterState R → Except PyError ProviderResponse × AdapterState R
  | 0, attempts, lastError, state =>
    (.ok (state.adapter.exhaustedResponse call.request lastError attempts), state)
  | remaining + 1, attempts, lastError, state =>
    let request := call.request
    let attempt := call.attempt attempts
    let attempts := attempts + 1
    match attempt.cancelledBefore with
    | some reason => (.ok (state.adapter.cancelledResponse request reason attempts), state)
    | none =>
      let started := state.wait attempt.waitNs
      let ended := started.wait attempt.tookNs
      let invocation (counted : Bool) : Invocation := {
        capability
        input := request.input
        config := ProviderAdapter.config request
        startedNs := started.nowNs
        endedNs := ended.nowNs
        failed := (failureOf request attempt).isSome
        counted }
      match executeWithTimeout request.timeoutMs attempt with
      | .error message =>
        attemptFrom call capability remaining attempts message
          (ended.invoked (invocation true)).recordFailure
      | .ok none =>
        (.ok (state.adapter.exhaustedResponse request "provider deadline exceeded" attempts),
          (ended.invoked (invocation true)).recordFailure)
      | .ok (some result) =>
        match attempt.cancelledAfter with
        | some reason => (.ok (state.adapter.cancelledResponse request reason attempts),
            ended.invoked (invocation false))
        | none =>
          match result.error with
          | some error =>
            attemptFrom call capability remaining attempts (if error = "" then lastError else error)
              (ended.invoked (invocation true)).recordFailure
          | none =>
            match validateStructuredOutput result.output request.responseSchema with
            | .error raised => (.error raised, ended.invoked (invocation false))
            | .ok (some schemaError) =>
              (.ok (state.adapter.errorResponse request "INVALID_STRUCTURED_OUTPUT" schemaError
                attempts), (ended.invoked (invocation true)).recordFailure)
            | .ok none =>
              let state := ended.invoked (invocation false)
              (.ok (state.adapter.successResponse request result attempts),
                state.withBreaker state.adapter.breaker.recordSuccess)

/-- `ProviderAdapter.execute`. -/
def execute (state : AdapterState R) (call : ExecuteCall) :
    Except PyError ProviderResponse × AdapterState R :=
  match state.prepare call with
  | (.error response, state) => (.ok response, state)
  | (.ok capability, state) =>
    attemptFrom call capability (call.request.maxRetries.toNat + 1) 0 "provider execution failed" state

end AdapterState

end Execute

end Dnc.Capabilities
