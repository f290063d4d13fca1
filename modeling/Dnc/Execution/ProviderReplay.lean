/-
**Recorded providers.**

`RecordingExecutionProvider` wraps a provider: in RECORD mode it keeps each successful output in a
`ProviderReplayStore` under the hash of the request, and in REPLAY mode it answers from the store.
The hash is of the canonical form, in which different requests may be the same one. A recording
replaces one that is there already, but only where it equals it, so what the store holds under a hash
stays equal to everything that was ever recorded there (`remembers`).

The state outside is any type: an answer may depend on it and a call may change it. `sha256` is
`hashlib.sha256(…).hexdigest()`; nothing is asked of it.
-/

import Dnc.Execution.Evidence
import Dnc.Logic.Run
import Dnc.Runtime.Types

namespace Dnc.Execution

open PyLib Logic Cognition

export Runtime (ExecutionCapability)

inductive ReplayMode where
  | live | record | replay | denyLive
deriving DecidableEq

/-- `ExecutionCapability.name`. -/
def capabilityName : ExecutionCapability → String
  | .reasoning => "CAP_REASONING"
  | .retrieval => "CAP_RETRIEVAL"
  | .planning => "CAP_PLANNING"
  | .verification => "CAP_VERIFICATION"
  | .simulation => "CAP_SIMULATION"
  | .optimization => "CAP_OPTIMIZATION"
  | .execution => "CAP_EXECUTION"
  | .embedding => "CAP_EMBEDDING"
  | .transcription => "CAP_TRANSCRIPTION"
  | .translation => "CAP_TRANSLATION"

/-- `ProviderResult`, as far as the wrapper makes or reads it. -/
structure ProviderResult where
  capability : ExecutionCapability
  output : PyData
  providerId : String
  latencyMs : PyNumber
  error : Option String := none
  metadata : PyDict := ∅

/-- `ProviderResult.is_success`. -/
def ProviderResult.isSuccess (result : ProviderResult) : Bool := result.error.isNone

/-! ### The store -/

/-- `first == second` for recordings: field by field. -/
def recordingEq (first second : ProviderRecording) : Bool :=
  first.recordingId == second.recordingId && first.providerId == second.providerId &&
    first.requestHash == second.requestHash && PyData.pyEq first.response second.response &&
    PyData.pyEq first.metadata.data second.metadata.data

structure ProviderReplayStore where
  recordings : Dict String ProviderRecording := ∅

namespace ProviderReplayStore

/-- `ProviderReplayStore.add`. -/
def add (store : ProviderReplayStore) (recording : ProviderRecording) :
    Except PyError ProviderReplayStore :=
  let stored : ProviderReplayStore :=
    { recordings := store.recordings.set recording.requestHash recording }
  match store.recordings.get? recording.requestHash with
  | none => .ok stored
  | some existing =>
    if recordingEq existing recording then .ok stored
    else .error (.dncExecutionError "conflicting provider recording for request hash")

/-- `ProviderReplayStore.get`. -/
def get (store : ProviderReplayStore) (requestHash : String) : Option ProviderRecording :=
  store.recordings.get? requestHash

end ProviderReplayStore

/-! ### The wrapper -/

section Provider

variable {ω : Type} (sha256 : String → String)

/-- `_hash_json`. -/
def hashJson (value : PyData) : String := sha256 (canonicalJson value)

/-- `request_hash`. -/
def requestHash (providerId capability : String) (payload : PyData) : String :=
  hashJson sha256 (.dict [("provider_id", .str providerId), ("capability", .str capability),
    ("payload", payload)])

/-- A provider, in a world of which its answers may depend and which its calls may change. -/
structure ExecutionProvider (ω : Type) where
  providerId : String
  execute : ω → ExecutionCapability → PyData → Option PyDict → Except PyError ProviderResult × ω

/-- The arguments of a call. -/
structure ProviderArguments where
  capability : ExecutionCapability
  input : PyData
  config : Option PyDict := none

/-- The hash of the request that a call on a provider makes. -/
def callHash (providerId : String) (arguments : ProviderArguments) : String :=
  requestHash sha256 providerId (capabilityName arguments.capability)
    (.dict [("input", arguments.input), ("config", (arguments.config.getD ∅).data)])

/-- The recording of a result. -/
def recordResult (providerId requestHash : String) (capability : ExecutionCapability)
    (result : ProviderResult) : Except PyError ProviderRecording :=
  construct ProviderRecordingData.violation (fun data valid => { data with valid }) {
    recordingId := s!"rec:{requestHash}"
    providerId
    requestHash
    response := result.output
    metadata := ⟨[("capability", .str (capabilityName capability))], rfl⟩ }

/-- The result of a replay. -/
def replayedResult (providerId requestHash : String) (capability : ExecutionCapability)
    (recording : ProviderRecording) : ProviderResult where
  capability
  output := recording.response
  providerId
  latencyMs := .float ⟨false, 0, [0], none, FloatLit.isFloat_zero⟩
  metadata := ⟨[("request_hash", .str requestHash), ("replay", .bool true)], rfl⟩

/-- `RecordingExecutionProvider.execute` of a wrapper over a provider, in a mode: the result, the
store and the world. -/
def executeRecording (mode : ReplayMode) (provider : ExecutionProvider ω)
    (arguments : ProviderArguments) (store : ProviderReplayStore) (world : ω) :
    Except PyError ProviderResult × ProviderReplayStore × ω :=
  let requestHash := callHash sha256 provider.providerId arguments
  let refused (error : String) (metadata : PyDict) : ProviderResult := {
    capability := arguments.capability
    output := .null
    providerId := provider.providerId
    latencyMs := .float ⟨false, 0, [0], none, FloatLit.isFloat_zero⟩
    error := some error
    metadata }
  match mode with
  | .replay =>
    match store.get requestHash with
    | none => (.ok (refused s!"no provider recording for request {requestHash}"
        ⟨[("request_hash", .str requestHash), ("replay", .bool true)], rfl⟩), store, world)
    | some recording =>
      (.ok (replayedResult provider.providerId requestHash arguments.capability recording), store,
        world)
  | .denyLive => (.ok (refused "live provider call denied by replay policy"
      ⟨[("request_hash", .str requestHash)], rfl⟩), store, world)
  | .live =>
    let (result, world) :=
      provider.execute world arguments.capability arguments.input arguments.config
    (result, store, world)
  | .record =>
    match provider.execute world arguments.capability arguments.input arguments.config with
    | (.error error, world) => (.error error, store, world)
    | (.ok result, world) =>
      if result.isSuccess then
        match recordResult provider.providerId requestHash arguments.capability result with
        | .error error => (.error error, store, world)
        | .ok recording =>
          match store.add recording with
          | .error error => (.error error, store, world)
          | .ok store => (.ok result, store, world)
      else (.ok result, store, world)

/-! ### Calls -/

/-- A call on a wrapper: the provider under it and the arguments. -/
structure ProviderCall (ω : Type) where
  provider : ExecutionProvider ω
  arguments : ProviderArguments

/-- What a call in a mode returns, and what it leaves. -/
def callOutcome (mode : ReplayMode) (state : ProviderReplayStore × ω) (call : ProviderCall ω) :
    Except PyError ProviderResult × ProviderReplayStore × ω :=
  executeRecording sha256 mode call.provider call.arguments state.1 state.2

def callStep (mode : ReplayMode) (state : ProviderReplayStore × ω) (call : ProviderCall ω) :
    ProviderReplayStore × ω := (callOutcome sha256 mode state call).2

/-- The same call: on a provider with the same identifier, with the same arguments. -/
structure Reissued (first second : ProviderCall ω) : Prop where
  providerId : first.provider.providerId = second.provider.providerId
  arguments : first.arguments = second.arguments

/-- A call returned a successful result. -/
def succeeded : Except PyError ProviderResult → Bool
  | .ok result => result.isSuccess
  | .error _ => false

/-- Every call of a recording returns a successful result. -/
def AllSucceed (start : ProviderReplayStore × ω) (calls : List (ProviderCall ω)) : Prop :=
  ∀ entry ∈ trace (callStep sha256 .record) start calls,
    succeeded (callOutcome sha256 .record entry.1 entry.2).1 = true

/-- **A replay answers a recorded call**: without an error, and with an output that equals the one
recorded. -/
def Answers (entry replay : (ProviderReplayStore × ω) × ProviderCall ω) : Prop :=
  ∃ recorded replayed, (callOutcome sha256 .record entry.1 entry.2).1 = .ok recorded ∧
    (callOutcome sha256 .replay replay.1 replay.2).1 = .ok replayed ∧ replayed.error = none ∧
      PyData.pyEq replayed.output recorded.output = true

theorem result_of_succeeded {outcome : Except PyError ProviderResult}
    (success : succeeded outcome = true) :
    ∃ result, outcome = .ok result ∧ result.isSuccess = true := by
  cases outcome with
  | error error => cases success
  | ok result => exact ⟨result, rfl, success⟩

/-! ### What the store remembers -/

/-- The store has a recording under a hash whose response equals an output. -/
def Holds (requestHash : String) (output : PyData) (store : ProviderReplayStore) : Prop :=
  ∃ recording, store.get requestHash = some recording ∧
    PyData.pyEq recording.response output = true

variable {sha256} {state : ProviderReplayStore × ω} {store next : ProviderReplayStore}
  {recording : ProviderRecording} {output : PyData} {hash : String}

/-- What an addition that returns leaves: the recording under its hash, which equals the one it
replaces. -/
theorem add_eq_ok (added : store.add recording = .ok next) :
    next.recordings = store.recordings.set recording.requestHash recording ∧
      ∀ existing, store.get recording.requestHash = some existing →
        PyData.pyEq existing.response recording.response = true := by
  unfold ProviderReplayStore.add at added
  unfold ProviderReplayStore.get
  cases found : store.recordings.get? recording.requestHash with
  | none =>
    rw [found] at added
    cases added
    exact ⟨rfl, nofun⟩
  | some existing =>
    rw [found] at added
    dsimp only at added
    split at added
    · rename_i same
      cases added
      refine ⟨rfl, fun other listed => ?_⟩
      cases listed
      unfold recordingEq at same
      simp only [Bool.and_eq_true] at same
      exact same.1.2
    · cases added

/-- **An addition forgets nothing**: what was recorded before is still there, up to equality. -/
theorem Holds.add (holds : Holds hash output store) (added : store.add recording = .ok next) :
    Holds hash output next := by
  obtain ⟨existing, found, same⟩ := holds
  obtain ⟨left, equal⟩ := add_eq_ok added
  unfold Holds ProviderReplayStore.get
  rw [left, Dict.get?_set]
  by_cases here : hash = recording.requestHash
  · rw [if_pos here]
    rw [here] at found
    exact ⟨recording, rfl, PyData.pyEq_trans (PyData.pyEq_symm (equal existing found)) same⟩
  · rw [if_neg here]
    exact ⟨existing, found, same⟩

theorem holds_of_add (added : store.add recording = .ok next) :
    Holds recording.requestHash recording.response next := by
  obtain ⟨left, -⟩ := add_eq_ok added
  unfold Holds ProviderReplayStore.get
  rw [left, Dict.get?_set, if_pos rfl]
  exact ⟨recording, rfl, PyData.pyEq_self _⟩

/-- **What a recording call leaves in the store**: what was there, or, where it succeeds, that with
its own recording added. -/
theorem record_cases (state : ProviderReplayStore × ω) (call : ProviderCall ω) :
    (callStep sha256 .record state call).1 = state.1 ∧
        (∀ result, (callOutcome sha256 .record state call).1 = .ok result →
          result.isSuccess = false) ∨
      ∃ recording, state.1.add recording = .ok (callStep sha256 .record state call).1 ∧
        recording.requestHash = callHash sha256 call.provider.providerId call.arguments ∧
        ∃ result, (callOutcome sha256 .record state call).1 = .ok result ∧
          result.isSuccess = true ∧ recording.response = result.output := by
  unfold callStep callOutcome executeRecording
  dsimp only
  cases call.provider.execute state.2 call.arguments.capability call.arguments.input
      call.arguments.config with
  | mk outcome world =>
    cases outcome with
    | error error => exact Or.inl ⟨rfl, fun _ returned => nomatch returned⟩
    | ok result =>
      dsimp only
      cases success : result.isSuccess with
      | false =>
        refine Or.inl ⟨rfl, fun other returned => ?_⟩
        cases returned
        exact success
      | true =>
        rw [if_pos rfl]
        cases made : recordResult call.provider.providerId
            (callHash sha256 call.provider.providerId call.arguments) call.arguments.capability
            result with
        | error error => exact Or.inl ⟨rfl, fun _ returned => nomatch returned⟩
        | ok recording =>
          obtain ⟨valid, rfl⟩ := construct_eq_ok made
          dsimp only
          split
          · exact Or.inl ⟨rfl, fun _ returned => nomatch returned⟩
          · rename_i added
            exact Or.inr ⟨_, added, rfl, result, rfl, success, rfl⟩

/-- A recording call forgets nothing. -/
theorem Holds.record (holds : Holds hash output state.1) (call : ProviderCall ω) :
    Holds hash output (callStep sha256 .record state call).1 := by
  rcases record_cases state call with ⟨same, -⟩ | ⟨recording, added, -, -⟩
  · rw [same]
    exact holds
  · exact holds.add added

/-- A recording call that succeeds is remembered under the hash of its request. -/
theorem holds_of_success {call : ProviderCall ω} {result : ProviderResult}
    (returned : (callOutcome sha256 .record state call).1 = .ok result)
    (success : result.isSuccess = true) :
    Holds (callHash sha256 call.provider.providerId call.arguments) result.output
      (callStep sha256 .record state call).1 := by
  rcases record_cases state call with ⟨-, failed⟩ | ⟨recording, added, keyed, made, same, -, response⟩
  · rw [failed result returned] at success
    cases success
  · obtain rfl := Except.ok.inj (returned.symm.trans same)
    rw [← keyed, ← response]
    exact holds_of_add added

/-- **The store remembers** every successful call of a recording. -/
theorem remembers {start : ProviderReplayStore × ω} {calls : List (ProviderCall ω)}
    {entry : (ProviderReplayStore × ω) × ProviderCall ω} {result : ProviderResult}
    (member : entry ∈ trace (callStep sha256 .record) start calls)
    (returned : (callOutcome sha256 .record entry.1 entry.2).1 = .ok result)
    (success : result.isSuccess = true) :
    Holds (callHash sha256 entry.2.provider.providerId entry.2.arguments) result.output
      (run (callStep sha256 .record) start calls).1 :=
  run_remembers (P := fun _ => True)
    (Q := fun state => Holds (callHash sha256 entry.2.provider.providerId entry.2.arguments)
      result.output state.1)
    member trivial (fun _ _ _ => trivial) (fun _ => holds_of_success returned success)
    fun _ call _ holds => holds.record call

/-! ### Replays -/

/-- A replay changes nothing. -/
theorem replay_keeps (state : ProviderReplayStore × ω) (call : ProviderCall ω) :
    callStep sha256 .replay state call = state := by
  unfold callStep callOutcome executeRecording
  dsimp only
  split <;> rfl

/-- A replay of a request that the store holds answers from it. -/
theorem replay_of_holds {call : ProviderCall ω} (holds :
      Holds (callHash sha256 call.provider.providerId call.arguments) output state.1) :
    ∃ replayed, (callOutcome sha256 .replay state call).1 = .ok replayed ∧ replayed.error = none ∧
      PyData.pyEq replayed.output output = true := by
  obtain ⟨recording, found, same⟩ := holds
  unfold callOutcome executeRecording
  dsimp only
  rw [found]
  exact ⟨_, rfl, rfl, same⟩

variable (sha256) in
/-- **Recorded calls replay faithfully.** Where every call of a recording succeeds, from any store
and in any world: however the calls are issued again in REPLAY mode, each is answered without an
error by an output that equals the recorded one, and neither the store nor the world changes. -/
theorem replays_faithfully {start : ProviderReplayStore × ω} {calls : List (ProviderCall ω)}
    (succeed : AllSucceed sha256 start calls) (replays : List (ProviderCall ω)) (world : ω) :
    let store := (run (callStep sha256 .record) start calls).1
    ∀ replay ∈ trace (callStep sha256 .replay) (store, world) replays,
      callStep sha256 .replay replay.1 replay.2 = (store, world) ∧
        ∀ entry ∈ trace (callStep sha256 .record) start calls, Reissued entry.2 replay.2 →
          Answers sha256 entry replay := by
  intro store replay member
  obtain ⟨before, after, -, reached⟩ := mem_trace _ member
  have unchanged : replay.1 = (store, world) := by
    rw [reached]
    exact run_invariant (P := fun state => state = (store, world))
      (fun state call same => (replay_keeps state call).trans same) rfl before
  refine ⟨(replay_keeps replay.1 replay.2).trans unchanged, fun entry listed same => ?_⟩
  obtain ⟨result, returned, success⟩ := result_of_succeeded (succeed entry listed)
  have holds := remembers listed returned success
  rw [same.providerId, same.arguments] at holds
  have held : Holds (callHash sha256 replay.2.provider.providerId replay.2.arguments) result.output
      replay.1.1 := by
    rw [unchanged]
    exact holds
  obtain ⟨replayed, answered, clean, equal⟩ := replay_of_holds held
  exact ⟨result, replayed, returned, answered, clean, equal⟩

end Provider

/-! ### Two requests with one hash -/

namespace Sample

/-- The digest of the one text that is hashed. -/
def digest (text : String) : String :=
  if text = "\x7b\"capability\":\"CAP_REASONING\",\"payload\":\x7b\"config\":\x7b\x7d,\"input\":\x7b\x7d\x7d,\"provider_id\":\"reference\"\x7d"
  then "c4a158f9128d7b06a2ffbad4178d5d3dceebd57308642792973762b254a1da04" else ""

/-- A provider that answers every request alike, in a world that counts its calls. -/
def reference : ExecutionProvider Nat where
  providerId := "reference"
  execute world capability _ _ :=
    (.ok { capability, output := .str "done", providerId := "reference", latencyMs := .int 1 },
      world + 1)

/-- A request whose input is an empty dictionary, and one whose input has an entry `None`. -/
def calls : List (ProviderCall Nat) :=
  [⟨reference, ⟨.reasoning, .dict [], none⟩⟩, ⟨reference, ⟨.reasoning, .dict [("hint", .null)], none⟩⟩]

/-- The hash of both requests. -/
def hash : String := "c4a158f9128d7b06a2ffbad4178d5d3dceebd57308642792973762b254a1da04"

theorem callHash_calls {call : ProviderCall Nat} (member : call ∈ calls) :
    callHash digest call.provider.providerId call.arguments = hash := by
  have sorted : (canonicalData (.dict [("provider_id", .str call.provider.providerId),
      ("capability", .str (capabilityName call.arguments.capability)),
      ("payload", .dict [("input", call.arguments.input),
        ("config", (call.arguments.config.getD ∅).data)])])).sortKeys =
      .obj [("capability", .str "CAP_REASONING"),
        ("payload", .obj [("config", .obj []), ("input", .obj [])]),
        ("provider_id", .str "reference")] := by
    revert call
    decide +kernel
  unfold callHash requestHash hashJson canonicalJson Json.dumpsWith
  rw [sorted]
  exact if_pos rfl

/-- What is recorded under a hash. -/
def recording (requestHash : String) (named : requestHash ≠ "") : ProviderRecording where
  recordingId := s!"rec:{requestHash}"
  providerId := "reference"
  requestHash
  response := .str "done"
  metadata := ⟨[("capability", .str (capabilityName .reasoning))], rfl⟩
  valid := by
    have prefixed : s!"rec:{requestHash}" ≠ "" := by simp [toString]
    simp [ProviderRecordingData.violation, named, prefixed]

theorem recordingEq_recording {requestHash : String} (named : requestHash ≠ "") :
    recordingEq (recording requestHash named) (recording requestHash named) = true := by
  simp only [recordingEq, beq_self_eq_true, PyData.pyEq_self, Bool.and_self]

/-- Recording it a second time changes nothing. -/
theorem add_recording {requestHash : String} (named : requestHash ≠ "")
    {store : ProviderReplayStore}
    (known : store = ⟨∅⟩ ∨ store = ⟨Dict.set ∅ requestHash (recording requestHash named)⟩) :
    store.add (recording requestHash named) =
      .ok ⟨Dict.set ∅ requestHash (recording requestHash named)⟩ := by
  rcases known with rfl | rfl
  · rfl
  · have stored := Dict.get?_set_self ∅ requestHash (recording requestHash named)
    unfold ProviderReplayStore.add
    simp only [show (recording requestHash named).requestHash = requestHash from rfl, stored,
      recordingEq_recording named, if_true, Dict.set_of_get? stored]

/-- A call is recorded where the store holds at most what it records. -/
theorem records_call {call : ProviderCall Nat} (member : call ∈ calls) {requestHash : String}
    (named : requestHash ≠ "")
    (hashed : callHash digest call.provider.providerId call.arguments = requestHash)
    {store : ProviderReplayStore} (world : Nat)
    (known : store = ⟨∅⟩ ∨ store = ⟨Dict.set ∅ requestHash (recording requestHash named)⟩) :
    succeeded (callOutcome digest .record (store, world) call).1 = true ∧
      callStep digest .record (store, world) call =
        (⟨Dict.set ∅ requestHash (recording requestHash named)⟩, world + 1) := by
  have same : call.provider = reference ∧ call.arguments.capability = .reasoning := by
    simp only [calls, List.mem_cons, List.not_mem_nil, or_false] at member
    rcases member with rfl | rfl <;> exact ⟨rfl, rfl⟩
  have made : recordResult "reference" requestHash .reasoning
      { capability := .reasoning, output := .str "done", providerId := "reference",
        latencyMs := .int 1 } = .ok (recording requestHash named) :=
    construct_of_valid (recording requestHash named).valid
  unfold callStep callOutcome executeRecording
  dsimp only
  rw [hashed, same.1, same.2]
  simp only [reference, made, add_recording named known]
  exact ⟨rfl, rfl⟩

theorem records_calls (named : hash ≠ "") {issued : List (ProviderCall Nat)}
    (member : ∀ call ∈ issued, call ∈ calls) {store : ProviderReplayStore} (world : Nat)
    (known : store = ⟨∅⟩ ∨ store = ⟨Dict.set ∅ hash (recording hash named)⟩) :
    AllSucceed digest (store, world) issued := by
  induction issued generalizing store world with
  | nil => exact fun _ listed => nomatch listed
  | cons call rest ih =>
    obtain ⟨isCall, others⟩ := List.forall_mem_cons.mp member
    obtain ⟨success, left⟩ := records_call isCall named (callHash_calls isCall) world known
    unfold AllSucceed
    rw [trace_cons, left]
    exact List.forall_mem_cons.mpr ⟨success, ih others (world + 1) (Or.inr rfl)⟩

end Sample

/-- Both are recorded under one hash and replayed, in the other order. -/
theorem replays_faithfully_collapsed :
    AllSucceed Sample.digest (⟨∅⟩, 0) Sample.calls ∧
      ∀ replay ∈ trace (callStep Sample.digest .replay)
          ((run (callStep Sample.digest .record) (⟨∅⟩, 0) Sample.calls).1, 2) Sample.calls.reverse,
        callStep Sample.digest .replay replay.1 replay.2 =
            ((run (callStep Sample.digest .record) (⟨∅⟩, 0) Sample.calls).1, 2) ∧
          ∀ entry ∈ trace (callStep Sample.digest .record) (⟨∅⟩, 0) Sample.calls,
            Reissued entry.2 replay.2 → Answers Sample.digest entry replay := by
  have succeed : AllSucceed Sample.digest (⟨∅⟩, 0) Sample.calls :=
    Sample.records_calls (by decide) (fun _ listed => listed) 0 (Or.inl rfl)
  exact ⟨succeed, replays_faithfully Sample.digest succeed Sample.calls.reverse 2⟩

end Dnc.Execution
