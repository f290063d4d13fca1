/-
**The distributed handoff protocol.**

`dnc.distributed.protocol`: a coordinator starts handoffs and processes the messages that reach it,
each through a receiver that remembers which messages it has processed, as far as its window goes.
Identifiers and times come from outside: `uuid n` and `time n` are the n-th values of `uuid.uuid4()`
and `time.time()`, and the system counts how many it has taken.

The `except` branch of `receive_message` has no counterpart: nothing in its `try` block raises on a
message of the declared types.
-/

import Dnc.PyLib.Json
import Mathlib.Algebra.Order.Ring.Rat
import Mathlib.Data.Finset.Insert

namespace Dnc

open PyLib

inductive HandoffMessageType where
  | prepare | commit | abort | stateTransfer | ack | nack | heartbeat
deriving DecidableEq, Repr

inductive HandoffStatus where
  | pending | preparing | committed | aborted | failed
deriving DecidableEq, Repr

structure DistributedHandoffMessage where
  messageId : String
  handoffId : String
  senderNodeId : String
  receiverNodeId : String
  messageType : HandoffMessageType
  stepIndex : Int
  statePayload : JsonObject
  timestamp : ℚ
  provenanceRef : String
  retryCount : Int := 0

/-! ### The receiver -/

/-- An entry of `_message_history`. -/
structure ProcessedMessage where
  result : JsonObject
  timestamp : ℚ

structure IdempotentReceiver where
  windowSize : Int := 1000
  seenIds : Finset String := ∅
  messageHistory : Dict String ProcessedMessage := ∅

namespace IdempotentReceiver

/-- `IdempotentReceiver.is_duplicate`. -/
def isDuplicate (receiver : IdempotentReceiver) (messageId : String) : Bool :=
  decide (messageId ∈ receiver.seenIds)

/-- `IdempotentReceiver.record`, at the time `now`. -/
def record (receiver : IdempotentReceiver) (message : DistributedHandoffMessage)
    (result : JsonObject) (now : ℚ) : IdempotentReceiver :=
  if message.messageId ∈ receiver.seenIds then receiver
  else
    let seenIds := insert message.messageId receiver.seenIds
    let messageHistory := receiver.messageHistory.set message.messageId ⟨result, now⟩
    if receiver.windowSize < seenIds.card then
      match sortBy (fun entry => entry.2.timestamp) messageHistory.entries with
      | (oldest, _) :: _ =>
        { receiver with
          seenIds := seenIds.erase oldest
          messageHistory := messageHistory.erase oldest }
      -- the history holds the message just recorded
      | [] => { receiver with seenIds, messageHistory }
    else { receiver with seenIds, messageHistory }

end IdempotentReceiver

/-! ### The coordinator -/

structure DistributedHandoffRecord where
  handoffId : String
  senderNodeId : String
  receiverNodeId : String
  status : HandoffStatus
  completedAt : Option ℚ := none

structure DistributedCoordinator where
  handoffRecords : Dict String DistributedHandoffRecord := ∅
  participantStates : Dict String JsonObject := ∅

/-- `uuid.uuid4()` and `time.time()`, call by call. -/
structure ProtocolEnv where
  uuid : Nat → String
  time : Nat → ℚ

/-- A coordinator, the receivers that messages come through, and the calls made so far. -/
structure HandoffSystem where
  coordinator : DistributedCoordinator := {}
  receivers : String → IdempotentReceiver := fun _ => {}
  uuids : Nat := 0
  ticks : Nat := 0

namespace HandoffSystem

variable (env : ProtocolEnv)

/-- `self._participant_states[handoff_id] = state_payload`. -/
def putState (system : HandoffSystem) (handoffId : String) (statePayload : JsonObject) :
    HandoffSystem :=
  { system with coordinator := { system.coordinator with
      participantStates := system.coordinator.participantStates.set handoffId statePayload } }

/-- `self._participant_states.pop(handoff_id, None)`. -/
def popState (system : HandoffSystem) (handoffId : String) : HandoffSystem :=
  { system with coordinator := { system.coordinator with
      participantStates := system.coordinator.participantStates.erase handoffId } }

/-- `receiver.record(message, result)`. -/
def recordMessage (system : HandoffSystem) (receiver : String)
    (message : DistributedHandoffMessage) (result : JsonObject) : HandoffSystem :=
  { system with
    receivers := Function.update system.receivers receiver
      ((system.receivers receiver).record message result (env.time system.ticks))
    ticks := system.ticks + 1 }

/-- `_update_record`, without an error. -/
def updateRecord (system : HandoffSystem) (handoffId : String) (status : HandoffStatus) :
    HandoffSystem :=
  match system.coordinator.handoffRecords.get? handoffId with
  | none => system
  | some record =>
    let completes := status = .committed
    let record := { record with
      status
      completedAt := if completes then some (env.time system.ticks) else record.completedAt }
    { system with
      coordinator := { system.coordinator with
        handoffRecords := system.coordinator.handoffRecords.set handoffId record }
      ticks := if completes then system.ticks + 1 else system.ticks }

/-- `_make_ack`. -/
def makeAck (system : HandoffSystem) (message : DistributedHandoffMessage)
    (alreadyProcessed : Bool) : DistributedHandoffMessage where
  messageId := env.uuid system.uuids
  handoffId := message.handoffId
  senderNodeId := message.receiverNodeId
  receiverNodeId := message.senderNodeId
  messageType := .ack
  stepIndex := message.stepIndex
  statePayload := [("already_processed", .bool alreadyProcessed)]
  timestamp := env.time system.ticks
  provenanceRef := message.provenanceRef

/-- The acknowledgement that is returned, and the system after it. -/
def acknowledge (system : HandoffSystem) (message : DistributedHandoffMessage)
    (alreadyProcessed : Bool) : Option DistributedHandoffMessage × HandoffSystem :=
  (some (system.makeAck env message alreadyProcessed),
    { system with uuids := system.uuids + 1, ticks := system.ticks + 1 })

/-- `DistributedCoordinator.initiate_handoff`. -/
def initiateHandoff (system : HandoffSystem) (senderNodeId receiverNodeId : String)
    (statePayload : JsonObject) (provenanceRef : String) (stepIndex : Int) :
    DistributedHandoffMessage × HandoffSystem :=
  let handoffId := env.uuid system.uuids
  let message : DistributedHandoffMessage := {
    messageId := env.uuid (system.uuids + 1)
    handoffId, senderNodeId, receiverNodeId, stepIndex, statePayload, provenanceRef
    messageType := .stateTransfer
    timestamp := env.time system.ticks }
  let record : DistributedHandoffRecord :=
    { handoffId, senderNodeId, receiverNodeId, status := .pending }
  let coordinator : DistributedCoordinator := {
    handoffRecords := system.coordinator.handoffRecords.set handoffId record
    participantStates := system.coordinator.participantStates.set handoffId statePayload }
  (message, { system with coordinator, uuids := system.uuids + 2, ticks := system.ticks + 1 })

/-- `DistributedCoordinator.receive_message`. -/
def receiveMessage (system : HandoffSystem) (message : DistributedHandoffMessage)
    (receiver : String) : Option DistributedHandoffMessage × HandoffSystem :=
  if (system.receivers receiver).isDuplicate message.messageId then
    system.acknowledge env message true
  else
    match message.messageType with
    | .stateTransfer =>
      let system := system.putState message.handoffId message.statePayload
      let system := system.recordMessage env receiver message [("status", .str "accepted")]
      let system := system.updateRecord env message.handoffId .committed
      system.acknowledge env message false
    | .commit =>
      let system := system.recordMessage env receiver message [("status", .str "committed")]
      let system := system.updateRecord env message.handoffId .committed
      system.acknowledge env message false
    | .abort =>
      let system := system.recordMessage env receiver message [("status", .str "aborted")]
      let system := system.popState message.handoffId
      let system := system.updateRecord env message.handoffId .aborted
      system.acknowledge env message false
    | _ => (none, system)

/-! ### What the operations do to a handoff -/

/-- The status on the record of a handoff. -/
def status (system : HandoffSystem) (handoffId : String) : Option HandoffStatus :=
  (system.coordinator.handoffRecords.get? handoffId).map DistributedHandoffRecord.status

/-- The participant state of a handoff is present. -/
def Holds (system : HandoffSystem) (handoffId : String) : Prop :=
  handoffId ∈ system.coordinator.participantStates

theorem status_updateRecord (system : HandoffSystem) (handoffId other : String)
    (status : HandoffStatus) :
    (system.updateRecord env handoffId status).status other =
      if other = handoffId then (system.status other).map fun _ => status
      else system.status other := by
  unfold updateRecord HandoffSystem.status
  cases found : system.coordinator.handoffRecords.get? handoffId with
  | none =>
    split_ifs with same
    · rw [same, found]
      rfl
    · rfl
  | some record =>
    show ((system.coordinator.handoffRecords.set handoffId _).get? other).map _ = _
    rw [Dict.get?_set]
    by_cases same : other = handoffId
    · rw [if_pos same, if_pos same, same, found]
      rfl
    · rw [if_neg same, if_neg same]

theorem holds_updateRecord (system : HandoffSystem) (handoffId other : String)
    (status : HandoffStatus) :
    (system.updateRecord env handoffId status).Holds other ↔ system.Holds other := by
  unfold updateRecord
  cases system.coordinator.handoffRecords.get? handoffId <;> exact Iff.rfl

theorem uuids_updateRecord (system : HandoffSystem) (handoffId : String) (status : HandoffStatus) :
    (system.updateRecord env handoffId status).uuids = system.uuids := by
  unfold updateRecord
  cases system.coordinator.handoffRecords.get? handoffId <;> rfl

/-- What a delivery makes of the status of its handoff. -/
def statusAfter (duplicate : Bool) (messageType : HandoffMessageType) (old : HandoffStatus) :
    HandoffStatus :=
  if duplicate then old
  else match messageType with
    | .stateTransfer => .committed
    | .commit => .committed
    | .abort => .aborted
    | _ => old

/-- The participant state of its handoff is present after a delivery. -/
def HeldAfter (duplicate : Bool) (messageType : HandoffMessageType) (held : Prop) : Prop :=
  if duplicate then held
  else match messageType with
    | .stateTransfer => True
    | .abort => False
    | _ => held

variable (system : HandoffSystem) (message : DistributedHandoffMessage) (receiver : String)

/-- **What a delivery does to the statuses.** -/
theorem status_receive (other : String) :
    (system.receiveMessage env message receiver).2.status other =
      if other = message.handoffId then
        (system.status other).map
          (statusAfter ((system.receivers receiver).isDuplicate message.messageId)
            message.messageType)
      else system.status other := by
  unfold receiveMessage statusAfter
  cases (system.receivers receiver).isDuplicate message.messageId with
  | true =>
    show system.status other = if other = message.handoffId then (system.status other).map id else _
    rw [Option.map_id]
    exact (ite_self _).symm
  | false =>
    cases message.messageType with
    | stateTransfer => exact status_updateRecord env _ _ _ _
    | commit => exact status_updateRecord env _ _ _ _
    | abort => exact status_updateRecord env _ _ _ _
    | _ =>
      show system.status other =
        if other = message.handoffId then (system.status other).map id else _
      rw [Option.map_id]
      exact (ite_self _).symm

/-- **What a delivery does to the participant states.** -/
theorem holds_receive (other : String) :
    (system.receiveMessage env message receiver).2.Holds other ↔
      if other = message.handoffId then
        HeldAfter ((system.receivers receiver).isDuplicate message.messageId) message.messageType
          (system.Holds other)
      else system.Holds other := by
  unfold receiveMessage HeldAfter
  cases (system.receivers receiver).isDuplicate message.messageId with
  | true => by_cases same : other = message.handoffId <;> simp [same, acknowledge, Holds]
  | false =>
    cases message.messageType with
    | stateTransfer =>
      refine ((holds_updateRecord env _ _ _ _).trans Dict.mem_set).trans ?_
      by_cases same : other = message.handoffId <;> simp [same, Holds]
    | commit =>
      refine (holds_updateRecord env _ _ _ _).trans ?_
      by_cases same : other = message.handoffId <;> simp [same, recordMessage, Holds]
    | abort =>
      refine ((holds_updateRecord env _ _ _ _).trans Dict.mem_erase).trans ?_
      by_cases same : other = message.handoffId <;> simp [same, recordMessage, Holds]
    | _ => by_cases same : other = message.handoffId <;> simp [same]

/-- Identifiers are only ever taken. -/
theorem uuids_receive : system.uuids ≤ (system.receiveMessage env message receiver).2.uuids := by
  unfold receiveMessage
  split_ifs
  · exact Nat.le_succ _
  · cases message.messageType with
    | stateTransfer =>
      show system.uuids ≤ (updateRecord env _ _ _).uuids + 1
      rw [uuids_updateRecord]
      exact Nat.le_succ _
    | commit =>
      show system.uuids ≤ (updateRecord env _ _ _).uuids + 1
      rw [uuids_updateRecord]
      exact Nat.le_succ _
    | abort =>
      show system.uuids ≤ (updateRecord env _ _ _).uuids + 1
      rw [uuids_updateRecord]
      exact Nat.le_succ _
    | _ => exact Nat.le_refl _

end HandoffSystem

end Dnc
