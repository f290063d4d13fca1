/-
**Which requests share a hash.**

`request_hash`, `snapshot_evidence_hash` and `canonical_hash` hash the canonical text, which leaves
out the null entries of objects (`Cognition.Nulls`). With a hash function that is injective:

* `callHash_iff`: two calls share the hash of their requests exactly when provider, capability and
  the canonical data of input and configuration are the same.
* `recorded`: whatever a store holds after a run was recorded by a call of the run, under the hash
  of its request.
* `tellsApart`: so JSON values, requests and replays are told apart up to null entries.
-/

import Dnc.Cognition.Canonical
import Dnc.Execution.ProviderReplay

namespace Dnc.Execution

open PyLib Logic Cognition

variable {ω : Type} {sha256 : String → String}

/-! ### Hashes of requests -/

theorem capabilityName_injective : Function.Injective capabilityName := by
  intro first second same
  cases first <;> cases second <;> simp [capabilityName] at same ⊢

section Hashes

variable (injective : Function.Injective sha256)
include injective

theorem hashJson_iff {first second : PyData} (wellFormedFirst : first.wellFormed = true)
    (wellFormedSecond : second.wellFormed = true) :
    hashJson sha256 first = hashJson sha256 second ↔ canonicalData first = canonicalData second := by
  rw [hashJson, hashJson, injective.eq_iff, canonicalJson_eq_iff wellFormedFirst wellFormedSecond]

theorem requestHash_iff {providerId other capability another : String} {first second : PyData}
    (wellFormedFirst : first.wellFormed = true) (wellFormedSecond : second.wellFormed = true) :
    requestHash sha256 providerId capability first = requestHash sha256 other another second ↔
      providerId = other ∧ capability = another ∧ canonicalData first = canonicalData second := by
  have wellFormed : ∀ (provider name : String) (payload : PyData), payload.wellFormed = true →
      (PyData.dict [("provider_id", .str provider), ("capability", .str name),
        ("payload", payload)]).wellFormed = true := by
    intro provider name payload wellFormed
    rw [PyData.wellFormed_dict]
    refine ⟨by simp, ?_⟩
    rw [List.forall_mem_cons, List.forall_mem_cons, List.forall_mem_singleton]
    exact ⟨rfl, rfl, wellFormed⟩
  unfold requestHash
  rw [hashJson_iff injective (wellFormed _ _ _ wellFormedFirst) (wellFormed _ _ _ wellFormedSecond)]
  refine (canonicalData_dict_iff (by simp) (by rfl)).trans ?_
  simp [PyData.mapEntry, canonicalData]

/-- **Two calls share the hash of their requests** exactly when provider, capability and the canonical
data of input and configuration are the same. -/
theorem callHash_iff {providerId other : String} {first second : ProviderArguments}
    (wellFormedFirst : first.input.wellFormed = true)
    (wellFormedSecond : second.input.wellFormed = true) :
    callHash sha256 providerId first = callHash sha256 other second ↔
      providerId = other ∧ first.capability = second.capability ∧
        canonicalData first.input = canonicalData second.input ∧
        canonicalData (first.config.getD ∅).data = canonicalData (second.config.getD ∅).data := by
  have wellFormed : ∀ arguments : ProviderArguments, arguments.input.wellFormed = true →
      (PyData.dict [("input", arguments.input),
        ("config", (arguments.config.getD ∅).data)]).wellFormed = true := by
    intro arguments wellFormed
    rw [PyData.wellFormed_dict]
    refine ⟨by simp, ?_⟩
    rw [List.forall_mem_cons, List.forall_mem_singleton]
    exact ⟨wellFormed, (arguments.config.getD ∅).wellFormed⟩
  unfold callHash
  rw [requestHash_iff injective (wellFormed first wellFormedFirst)
    (wellFormed second wellFormedSecond), capabilityName_injective.eq_iff]
  refine and_congr_right' (and_congr_right' ((canonicalData_dict_iff (by simp) (by rfl)).trans ?_))
  simp [PyData.mapEntry]

end Hashes

/-! ### What a store holds -/

/-- An empty store, in a world. -/
def emptyStore (world : ω) : ProviderReplayStore × ω := ({}, world)

/-- A step of a run of wrapped calls: a call in a mode. -/
def modeStep (sha256 : String → String) (state : ProviderReplayStore × ω)
    (step : ReplayMode × ProviderCall ω) : ProviderReplayStore × ω :=
  callStep sha256 step.1 state step.2

/-- The step recorded the response of a call, under the hash of its request. -/
structure Recorded (sha256 : String → String)
    (entry : (ProviderReplayStore × ω) × (ReplayMode × ProviderCall ω)) (hash : String)
    (response : PyData) : Prop where
  mode : entry.2.1 = .record
  hash : callHash sha256 entry.2.2.provider.providerId entry.2.2.arguments = hash
  response : ∃ result, (callOutcome sha256 .record entry.1 entry.2.2).1 = .ok result ∧
    result.isSuccess = true ∧ response = result.output

/-- In other modes than RECORD, a call leaves the store as it is. -/
theorem store_of_ne_record {mode : ReplayMode} (different : mode ≠ .record)
    (state : ProviderReplayStore × ω) (call : ProviderCall ω) :
    (callStep sha256 mode state call).1 = state.1 := by
  cases mode with
  | record => exact absurd rfl different
  | replay => rw [replay_keeps]
  | live => rfl
  | denyLive => rfl

/-- **What a store holds after a run was recorded in it**, if it was empty before. -/
theorem recorded (steps : List (ReplayMode × ProviderCall ω)) (world : ω) :
    ∀ hash recording,
      (run (modeStep sha256) (emptyStore world) steps).1.get hash = some recording →
        ∃ entry ∈ trace (modeStep sha256) (emptyStore world) steps,
          Recorded sha256 entry hash recording.response := by
  refine run_along
    (P := fun steps (state : ProviderReplayStore × ω) => ∀ hash recording,
      state.1.get hash = some recording →
      ∃ entry ∈ trace (modeStep sha256) (emptyStore world) steps,
        Recorded sha256 entry hash recording.response) ?_ ?_ steps
  · intro hash recording found
    cases found
  · intro before step ih hash recording found
    rw [trace_append]
    have earlier : (run (modeStep sha256) (emptyStore world) before).1.get hash =
        some recording → ∃ entry ∈ trace (modeStep sha256) (emptyStore world) before ++
          trace (modeStep sha256) (run (modeStep sha256) (emptyStore world) before) [step],
            Recorded sha256 entry hash recording.response := by
      intro there
      obtain ⟨entry, member, was⟩ := ih hash recording there
      exact ⟨entry, List.mem_append_left _ member, was⟩
    by_cases records : step.1 = .record
    · unfold modeStep at found
      rw [records] at found
      rcases @record_cases ω sha256 _ step.2 with
        ⟨same, -⟩ | ⟨added, stored, keyed, result, returned, success, response⟩
      · rw [same] at found
        exact earlier found
      · obtain ⟨entries, -⟩ := add_eq_ok stored
        unfold ProviderReplayStore.get at found
        rw [entries, Dict.get?_set] at found
        split at found
        · rename_i here
          obtain rfl := Option.some.inj found
          refine ⟨_, List.mem_append_right _ List.mem_cons_self, records, ?_, ?_⟩
          · rw [here, keyed]
          · exact ⟨result, returned, success, response⟩
        · exact earlier found
    · rw [modeStep, store_of_ne_record records] at found
      exact earlier found

/-! ### Requests with JSON arguments -/

/-- A request, as JSON. -/
structure JsonRequest where
  providerId : String
  capability : ExecutionCapability
  input : Json
  config : Json

/-- The call makes the request. -/
structure Asks (call : ProviderCall ω) (request : JsonRequest) : Prop where
  providerId : call.provider.providerId = request.providerId
  capability : call.arguments.capability = request.capability
  wellFormed : request.input.wellFormed = true
  input : call.arguments.input = .ofJson request.input
  config : (call.arguments.config.getD ∅).data = .ofJson request.config

/-- The requests are the same, but for null entries of objects. -/
structure SameRequest (first second : JsonRequest) : Prop where
  providerId : first.providerId = second.providerId
  capability : first.capability = second.capability
  input : Json.SameUpToNulls first.input second.input
  config : Json.SameUpToNulls first.config second.config

theorem callHash_json_iff (injective : Function.Injective sha256) {call other : ProviderCall ω}
    {first second : JsonRequest} (asksFirst : Asks call first) (asksSecond : Asks other second) :
    callHash sha256 call.provider.providerId call.arguments =
        callHash sha256 other.provider.providerId other.arguments ↔ SameRequest first second := by
  have wellFormedFirst : call.arguments.input.wellFormed = true := by
    rw [asksFirst.input]
    exact PyData.wellFormed_ofJson asksFirst.wellFormed
  have wellFormedSecond : other.arguments.input.wellFormed = true := by
    rw [asksSecond.input]
    exact PyData.wellFormed_ofJson asksSecond.wellFormed
  rw [callHash_iff injective wellFormedFirst wellFormedSecond, asksFirst.input, asksSecond.input,
    asksFirst.config, asksSecond.config, asksFirst.providerId, asksSecond.providerId,
    asksFirst.capability, asksSecond.capability, canonicalData_ofJson, canonicalData_ofJson,
    canonicalData_ofJson, canonicalData_ofJson]
  exact ⟨fun ⟨provider, capability, input, config⟩ => ⟨provider, capability, input, config⟩,
    fun same => ⟨same.providerId, same.capability, same.input, same.config⟩⟩

/-- Canonical texts, hashes and replays tell JSON values apart, but for null entries of objects. -/
structure TellsApart (sha256 : String → String) : Prop where
  canonicalJson : ∀ first second : Json, first.wellFormed = true → second.wellFormed = true →
    (canonicalJson (.ofJson first) = canonicalJson (.ofJson second) ↔
      Json.SameUpToNulls first second)
  canonicalHash : ∀ hashSpace, ∀ first second : Json, first.wellFormed = true →
    second.wellFormed = true →
      (canonicalHash sha256 (.ofJson first) hashSpace =
        canonicalHash sha256 (.ofJson second) hashSpace ↔ Json.SameUpToNulls first second)
  evidenceHash : ∀ first second : Json, first.wellFormed = true → second.wellFormed = true →
    (hashJson sha256 (.ofJson first) = hashJson sha256 (.ofJson second) ↔
      Json.SameUpToNulls first second)
  requestHash : ∀ providerId other capability another, ∀ first second : Json,
    first.wellFormed = true → second.wellFormed = true →
      (requestHash sha256 providerId capability (.ofJson first) =
          requestHash sha256 other another (.ofJson second) ↔
        providerId = other ∧ capability = another ∧ Json.SameUpToNulls first second)
  replays : ∀ (ω : Type) (steps : List (ReplayMode × ProviderCall ω)) (world : ω)
    (call : ProviderCall ω) (request : JsonRequest) (result : ProviderResult),
    Asks call request → result.isSuccess = true →
      (callOutcome sha256 .replay
        (run (modeStep sha256) (emptyStore world) steps) call).1 = .ok result →
      ∃ entry ∈ trace (modeStep sha256) (emptyStore world) steps,
        Recorded sha256 entry (callHash sha256 call.provider.providerId call.arguments)
          result.output ∧
        ∀ other, Asks entry.2.2 other → SameRequest other request

/-- **JSON values, requests and replays are told apart up to null entries.** -/
theorem tellsApart {sha256 : String → String} (injective : Function.Injective sha256) :
    TellsApart sha256 where
  canonicalJson _ _ wellFormedFirst wellFormedSecond :=
    canonicalJson_same_iff wellFormedFirst wellFormedSecond
  canonicalHash hashSpace first second wellFormedFirst wellFormedSecond := by
    rw [← canonicalJson_same_iff wellFormedFirst wellFormedSecond, Cognition.canonicalHash,
      Cognition.canonicalHash, injective.eq_iff]
    exact String.append_right_inj _
  evidenceHash first second wellFormedFirst wellFormedSecond := by
    rw [hashJson_iff injective (PyData.wellFormed_ofJson wellFormedFirst)
      (PyData.wellFormed_ofJson wellFormedSecond), canonicalData_ofJson, canonicalData_ofJson]
    rfl
  requestHash _ _ _ _ first second wellFormedFirst wellFormedSecond := by
    rw [requestHash_iff injective (PyData.wellFormed_ofJson wellFormedFirst)
      (PyData.wellFormed_ofJson wellFormedSecond), canonicalData_ofJson, canonicalData_ofJson]
    rfl
  replays ω steps world call request result asks success returned := by
    unfold callOutcome executeRecording at returned
    dsimp only at returned
    split at returned
    · obtain rfl := Except.ok.inj returned
      cases success
    · rename_i recording found
      obtain rfl := Except.ok.inj returned
      obtain ⟨entry, member, was⟩ := recorded steps world _ recording found
      refine ⟨entry, member, was, fun other asksOther => ?_⟩
      exact (callHash_json_iff injective asksOther asks).mp was.hash

/-- An entry that is null is lost, an element that is null is not. -/
theorem tellsApart_null :
    hashJson id (.ofJson (.obj [("hint", .null)])) = hashJson id (.ofJson (.obj [])) ∧
      hashJson id (.ofJson (.arr [.null])) ≠ hashJson id (.ofJson (.arr [])) := by
  have entry := (tellsApart Function.injective_id).evidenceHash (.obj [("hint", .null)]) (.obj [])
    (by decide) (by decide)
  have element := (tellsApart Function.injective_id).evidenceHash (.arr [.null]) (.arr [])
    (by decide) (by decide)
  refine ⟨entry.mpr rfl, fun same => ?_⟩
  cases Json.arr.inj (element.mp same)

/-- **An object with a null entry has the canonical text of the object without it.** -/
theorem null_entry_collapses : ¬ ∀ first second : Json, first.wellFormed = true →
    second.wellFormed = true →
      canonicalJson (.ofJson first) = canonicalJson (.ofJson second) → Json.Same first second := by
  intro injective
  have same := injective (.obj [("hint", .null)]) (.obj []) (by decide) (by decide) (by decide +kernel)
  have fields := Json.obj.inj same
  cases fields

end Dnc.Execution
