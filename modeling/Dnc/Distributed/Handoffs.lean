/-
**Handoffs are atomic only where verdicts agree.**

Any handoffs are initiated and any messages delivered, in any order, as often as one likes and
through any receivers. The law of a handoff (`LawfulHandoffs`): its record never goes from COMMITTED
to ABORTED or back, and after every delivery of a state transfer, a commit or an abort its
participant state is present exactly when the record is COMMITTED.

`receive_message` does not look at the record: it writes the verdict of the message. So the law is
broken by an ABORT that is processed for a committed handoff and by a transfer or a COMMIT that is
processed for an aborted one. A duplicate changes nothing, and breaks the law only where the handoff
is still pending, with its state present from the start. `lawfulHandoffs_iff`: these are all.

A pending or committed handoff holds its state and an aborted one does not (`Settled`); every
delivery that agrees with the record keeps this.
-/

import Dnc.Distributed.Protocol
import Dnc.Logic.Run

namespace Dnc

open PyLib Logic

inductive HandoffEvent where
  | initiate (senderNodeId receiverNodeId : String) (statePayload : JsonObject)
      (provenanceRef : String) (stepIndex : Int)
  | deliver (message : DistributedHandoffMessage) (receiver : String)

/-- The messages that carry a verdict. -/
def DistributedHandoffMessage.Decides (message : DistributedHandoffMessage) : Prop :=
  message.messageType = .stateTransfer ∨ message.messageType = .commit ∨
    message.messageType = .abort

section Runs

variable (env : ProtocolEnv)

def handoffStep (system : HandoffSystem) : HandoffEvent → HandoffSystem
  | .initiate senderNodeId receiverNodeId statePayload provenanceRef stepIndex =>
    (system.initiateHandoff env senderNodeId receiverNodeId statePayload provenanceRef stepIndex).2
  | .deliver message receiver => (system.receiveMessage env message receiver).2

/-- A system in which no handoff was initiated yet. -/
structure HandoffSystem.Initial (system : HandoffSystem) : Prop where
  records : system.coordinator.handoffRecords = ∅
  states : system.coordinator.participantStates = ∅

/-! ### The law and the condition -/

/-- **The law of atomic handoffs.** -/
structure LawfulHandoffs (start : HandoffSystem) (events : List HandoffEvent) : Prop where
  committed : ∀ before after rest, events = before ++ after ++ rest → ∀ handoffId,
    (run (handoffStep env) start before).status handoffId = some .committed →
      (run (handoffStep env) start (before ++ after)).status handoffId ≠ some .aborted
  aborted : ∀ before after rest, events = before ++ after ++ rest → ∀ handoffId,
    (run (handoffStep env) start before).status handoffId = some .aborted →
      (run (handoffStep env) start (before ++ after)).status handoffId ≠ some .committed
  present : ∀ before message receiver rest, events = before ++ .deliver message receiver :: rest →
    message.Decides →
    let after := run (handoffStep env) start (before ++ [.deliver message receiver])
    ∀ status, after.status message.handoffId = some status →
      (after.Holds message.handoffId ↔ status = .committed)

/-- The verdict of a message agrees with the status it finds: a message that is processed does not
turn a settled handoff over, and one that is dropped as a duplicate finds it settled. -/
def AgreesWith (duplicate : Bool) (messageType : HandoffMessageType) (status : HandoffStatus) :
    Prop :=
  if duplicate then status ≠ .pending
  else match messageType with
    | .stateTransfer => status ≠ .aborted
    | .commit => status ≠ .aborted
    | .abort => status ≠ .committed
    | _ => True

instance (duplicate : Bool) (messageType : HandoffMessageType) (status : HandoffStatus) :
    Decidable (AgreesWith duplicate messageType status) :=
  match duplicate, messageType with
  | true, _ => inferInstanceAs (Decidable (status ≠ .pending))
  | false, .stateTransfer => inferInstanceAs (Decidable (status ≠ .aborted))
  | false, .commit => inferInstanceAs (Decidable (status ≠ .aborted))
  | false, .abort => inferInstanceAs (Decidable (status ≠ .committed))
  | false, .prepare => isTrue trivial
  | false, .ack => isTrue trivial
  | false, .nack => isTrue trivial
  | false, .heartbeat => isTrue trivial

/-- A delivery agrees with the record it finds. -/
def DeliveryAgrees (entry : HandoffSystem × HandoffEvent) : Prop :=
  match entry.2 with
  | .initiate .. => True
  | .deliver message receiver => message.Decides → ∀ status,
      entry.1.status message.handoffId = some status →
      AgreesWith ((entry.1.receivers receiver).isDuplicate message.messageId) message.messageType
        status

/-- The law of one step. -/
structure StepLaw (entry : HandoffSystem × HandoffEvent) : Prop where
  committed : ∀ handoffId, entry.1.status handoffId = some .committed →
    (handoffStep env entry.1 entry.2).status handoffId ≠ some .aborted
  aborted : ∀ handoffId, entry.1.status handoffId = some .aborted →
    (handoffStep env entry.1 entry.2).status handoffId ≠ some .committed
  present : ∀ message receiver, entry.2 = .deliver message receiver → message.Decides →
    ∀ status, (handoffStep env entry.1 entry.2).status message.handoffId = some status →
      ((handoffStep env entry.1 entry.2).Holds message.handoffId ↔ status = .committed)

/-! ### One step -/

/-- A pending or committed handoff holds its state, an aborted one does not. -/
def SettledAt (status : HandoffStatus) (held : Prop) : Prop :=
  (status = .pending ∧ held) ∨ (status = .committed ∧ held) ∨ (status = .aborted ∧ ¬ held)

/-- Every recorded handoff is settled, under an identifier that was taken. -/
structure Settled (system : HandoffSystem) : Prop where
  states : ∀ handoffId status, system.status handoffId = some status →
    SettledAt status (system.Holds handoffId)
  taken : ∀ handoffId status, system.status handoffId = some status →
    ∃ index < system.uuids, handoffId = env.uuid index

variable {env}

theorem HandoffSystem.Initial.settled {system : HandoffSystem} (initial : system.Initial) :
    Settled env system := by
  have none : ∀ handoffId, system.status handoffId = none := fun handoffId => by
    unfold HandoffSystem.status
    rw [initial.records]
    rfl
  constructor
  all_goals
    intro handoffId status found
    rw [none] at found
    cases found

/-- A handoff that was not recorded keeps being so, and the recorded ones keep their status, when
another is initiated. -/
theorem status_initiate (injective : Function.Injective env.uuid) {system : HandoffSystem}
    (settled : Settled env system) {handoffId : String} {status : HandoffStatus}
    (found : system.status handoffId = some status)
    (sender receiver : String) (payload : JsonObject) (provenanceRef : String) (stepIndex : Int) :
    handoffId ≠ env.uuid system.uuids ∧
      (handoffStep env system
        (.initiate sender receiver payload provenanceRef stepIndex)).status handoffId =
          some status := by
  obtain ⟨index, below, same⟩ := settled.taken handoffId status found
  have different : handoffId ≠ env.uuid system.uuids := by
    intro equal
    have indices : index = system.uuids := injective (same.symm.trans equal)
    omega
  refine ⟨different, ?_⟩
  show ((system.coordinator.handoffRecords.set (env.uuid system.uuids) _).get? handoffId).map _ = _
  rw [Dict.get?_set_of_ne _ different]
  exact found

/-- A delivery that agrees keeps its handoff settled, and keeps a verdict. -/
theorem settledAt_after {duplicate : Bool} {messageType : HandoffMessageType}
    {status : HandoffStatus} {held : Prop} (settled : SettledAt status held)
    (agrees : messageType = .stateTransfer ∨ messageType = .commit ∨ messageType = .abort →
      AgreesWith duplicate messageType status) :
    SettledAt (HandoffSystem.statusAfter duplicate messageType status)
        (HandoffSystem.HeldAfter duplicate messageType held) ∧
      (status ≠ .pending → HandoffSystem.statusAfter duplicate messageType status = status) := by
  unfold HandoffSystem.statusAfter HandoffSystem.HeldAfter
  unfold AgreesWith at agrees
  cases duplicate with
  | true => exact ⟨settled, fun _ => rfl⟩
  | false =>
    cases messageType with
    | stateTransfer =>
      have open' : status ≠ .aborted := agrees (Or.inl rfl)
      rcases settled with ⟨rfl, -⟩ | ⟨rfl, -⟩ | ⟨rfl, -⟩
      · exact ⟨Or.inr (Or.inl ⟨rfl, trivial⟩), fun settled => absurd rfl settled⟩
      · exact ⟨Or.inr (Or.inl ⟨rfl, trivial⟩), fun _ => rfl⟩
      · exact absurd rfl open'
    | commit =>
      have open' : status ≠ .aborted := agrees (Or.inr (Or.inl rfl))
      rcases settled with ⟨rfl, present⟩ | ⟨rfl, present⟩ | ⟨rfl, -⟩
      · exact ⟨Or.inr (Or.inl ⟨rfl, present⟩), fun settled => absurd rfl settled⟩
      · exact ⟨Or.inr (Or.inl ⟨rfl, present⟩), fun _ => rfl⟩
      · exact absurd rfl open'
    | abort =>
      have open' : status ≠ .committed := agrees (Or.inr (Or.inr rfl))
      rcases settled with ⟨rfl, -⟩ | ⟨rfl, -⟩ | ⟨rfl, -⟩
      · exact ⟨Or.inr (Or.inr ⟨rfl, not_false⟩), fun settled => absurd rfl settled⟩
      · exact absurd rfl open'
      · exact ⟨Or.inr (Or.inr ⟨rfl, not_false⟩), fun _ => rfl⟩
    | _ => exact ⟨settled, fun _ => rfl⟩

/-- A delivery that decides obeys the law exactly when it agrees. -/
theorem law_after_iff {duplicate : Bool} {messageType : HandoffMessageType}
    {status : HandoffStatus} {held : Prop} (settled : SettledAt status held)
    (decides : messageType = .stateTransfer ∨ messageType = .commit ∨ messageType = .abort) :
    ((status = .committed → HandoffSystem.statusAfter duplicate messageType status ≠ .aborted) ∧
      (status = .aborted → HandoffSystem.statusAfter duplicate messageType status ≠ .committed) ∧
      (HandoffSystem.HeldAfter duplicate messageType held ↔
        HandoffSystem.statusAfter duplicate messageType status = .committed)) ↔
    AgreesWith duplicate messageType status := by
  unfold HandoffSystem.statusAfter HandoffSystem.HeldAfter AgreesWith
  rcases settled with ⟨rfl, present⟩ | ⟨rfl, present⟩ | ⟨rfl, absent⟩
  all_goals
    cases duplicate
    all_goals rcases decides with rfl | rfl | rfl
    all_goals simp_all

/-- A new handoff is pending, and the others stay settled. -/
theorem Settled.initiate {system : HandoffSystem} (settled : Settled env system)
    (sender receiver : String) (payload : JsonObject) (provenanceRef : String) (stepIndex : Int) :
    Settled env
      (handoffStep env system (.initiate sender receiver payload provenanceRef stepIndex)) := by
  refine ⟨fun handoffId status found => ?_, fun handoffId status found => ?_⟩
  all_goals
    have lookup : ((system.coordinator.handoffRecords.set (env.uuid system.uuids) _).get?
      handoffId).map DistributedHandoffRecord.status = some status := found
    rw [Dict.get?_set] at lookup
  · by_cases same : handoffId = env.uuid system.uuids
    · rw [if_pos same] at lookup
      cases lookup
      exact Or.inl ⟨rfl, Dict.mem_set.mpr (Or.inl same)⟩
    · rw [if_neg same] at lookup
      have holds : (handoffStep env system (.initiate sender receiver payload provenanceRef
          stepIndex)).Holds handoffId ↔ system.Holds handoffId :=
        Dict.mem_set.trans (or_iff_right same)
      rw [holds]
      exact settled.states handoffId status lookup
  · by_cases same : handoffId = env.uuid system.uuids
    · exact ⟨system.uuids, Nat.lt_add_of_pos_right (by omega), same⟩
    · rw [if_neg same] at lookup
      obtain ⟨index, below, taken⟩ := settled.taken handoffId status lookup
      exact ⟨index, lt_of_lt_of_le below (Nat.le_add_right _ 2), taken⟩

/-- A delivery that agrees keeps every handoff settled. -/
theorem Settled.deliver {system : HandoffSystem} (settled : Settled env system)
    {message : DistributedHandoffMessage} {receiver : String}
    (agrees : DeliveryAgrees (system, .deliver message receiver)) :
    Settled env (system.receiveMessage env message receiver).2 := by
  have status := system.status_receive env message receiver
  have holds := system.holds_receive env message receiver
  refine ⟨fun handoffId new found => ?_, fun handoffId new found => ?_⟩
  · rw [status] at found
    rw [holds]
    by_cases about : handoffId = message.handoffId
    · subst about
      rw [if_pos rfl] at found ⊢
      obtain ⟨old, before, rfl⟩ := Option.map_eq_some_iff.mp found
      exact (settledAt_after (settled.states _ old before)
        fun decides => agrees decides old before).1
    · rw [if_neg about] at found ⊢
      exact settled.states handoffId new found
  · have recorded : ∃ old, system.status handoffId = some old := by
      rw [status] at found
      by_cases about : handoffId = message.handoffId
      · rw [if_pos about] at found
        obtain ⟨old, before, -⟩ := Option.map_eq_some_iff.mp found
        exact ⟨old, before⟩
      · rw [if_neg about] at found
        exact ⟨new, found⟩
    obtain ⟨old, before⟩ := recorded
    obtain ⟨index, below, same⟩ := settled.taken handoffId old before
    exact ⟨index, lt_of_lt_of_le below (system.uuids_receive env message receiver), same⟩

/-- **A step that agrees** keeps every handoff settled and every verdict as it is. -/
theorem handoffStep_agrees (injective : Function.Injective env.uuid) {system : HandoffSystem}
    (settled : Settled env system) (event : HandoffEvent) (agrees : DeliveryAgrees (system, event)) :
    Settled env (handoffStep env system event) ∧
      ∀ handoffId status, status ≠ .pending → system.status handoffId = some status →
        (handoffStep env system event).status handoffId = some status := by
  cases event with
  | initiate sender receiver payload provenanceRef stepIndex =>
    exact ⟨settled.initiate sender receiver payload provenanceRef stepIndex,
      fun handoffId status _ found =>
        (status_initiate injective settled found sender receiver payload provenanceRef stepIndex).2⟩
  | deliver message receiver =>
    refine ⟨settled.deliver agrees, fun handoffId verdict decided found => ?_⟩
    show (system.receiveMessage env message receiver).2.status handoffId = some verdict
    rw [system.status_receive env message receiver]
    by_cases about : handoffId = message.handoffId
    · subst about
      rw [if_pos rfl, found, Option.map_some, (settledAt_after (settled.states _ verdict found)
        fun decides => agrees decides verdict found).2 decided]
    · rw [if_neg about]
      exact found

/-- **The law of a step is its condition.** -/
theorem stepLaw_iff (injective : Function.Injective env.uuid) {system : HandoffSystem}
    (settled : Settled env system) (event : HandoffEvent) :
    StepLaw env (system, event) ↔ DeliveryAgrees (system, event) := by
  constructor
  · intro law
    cases event with
    | initiate => trivial
    | deliver message receiver =>
      intro decides old before
      have after : (handoffStep env system (.deliver message receiver)).status message.handoffId =
          some (HandoffSystem.statusAfter ((system.receivers receiver).isDuplicate message.messageId)
            message.messageType old) := by
        show (system.receiveMessage env message receiver).2.status message.handoffId = _
        rw [HandoffSystem.status_receive, if_pos rfl, before]
        rfl
      have held := system.holds_receive env message receiver message.handoffId
      rw [if_pos rfl] at held
      refine (law_after_iff (settled.states _ old before) decides).mp ⟨?_, ?_, ?_⟩
      · rintro rfl becomes
        exact law.committed _ before (after.trans (congrArg some becomes))
      · rintro rfl becomes
        exact law.aborted _ before (after.trans (congrArg some becomes))
      · rw [← held]
        exact law.present message receiver rfl decides _ after
  · intro agrees
    obtain ⟨-, kept⟩ := handoffStep_agrees injective settled event agrees
    refine ⟨fun handoffId found becomes => ?_, fun handoffId found becomes => ?_, ?_⟩
    · have stays := kept handoffId .committed (by decide) found
      rw [stays] at becomes
      cases becomes
    · have stays := kept handoffId .aborted (by decide) found
      rw [stays] at becomes
      cases becomes
    · rintro message receiver rfl decides status found
      have found : (system.receiveMessage env message receiver).2.status message.handoffId =
          some status := found
      show (system.receiveMessage env message receiver).2.Holds message.handoffId ↔ _
      rw [HandoffSystem.status_receive, if_pos rfl] at found
      obtain ⟨old, before, rfl⟩ := Option.map_eq_some_iff.mp found
      rw [HandoffSystem.holds_receive, if_pos rfl]
      exact ((law_after_iff (settled.states _ old before) decides).mpr
        (agrees decides old before)).2.2

/-! ### Runs -/

/-- The law of the run is the law of its steps. -/
theorem lawful_of_steps (injective : Function.Injective env.uuid) {start : HandoffSystem}
    (settled : Settled env start) {events : List HandoffEvent}
    (agrees : ∀ entry ∈ trace (handoffStep env) start events, DeliveryAgrees entry) :
    LawfulHandoffs env start events := by
  -- a verdict stays along every stretch of the run
  have stays : ∀ before after rest, events = before ++ after ++ rest → ∀ handoffId status,
      status ≠ .pending →
      (run (handoffStep env) start before).status handoffId = some status →
      Settled env (run (handoffStep env) start (before ++ after)) ∧
        (run (handoffStep env) start (before ++ after)).status handoffId = some status := by
    intro before after rest split handoffId status decided found
    have begins : Settled env (run (handoffStep env) start before) :=
      run_invariant_of_trace settled fun entry member kept =>
        (handoffStep_agrees injective kept entry.2 (agrees entry (by
          rw [split, List.append_assoc, trace_append]
          exact List.mem_append_left _ member))).1
    rw [run_append]
    refine run_invariant_of_trace (P := fun system => Settled env system ∧
      system.status handoffId = some status) ⟨begins, found⟩ fun entry member both => ?_
    have here := handoffStep_agrees injective both.1 entry.2
      (agrees entry (split ▸ mem_trace_middle member))
    exact ⟨here.1, here.2 handoffId status decided both.2⟩
  refine ⟨fun before after rest split handoffId found becomes => ?_,
    fun before after rest split handoffId found becomes => ?_, ?_⟩
  · have same := (stays before after rest split handoffId .committed (by decide) found).2
    rw [same] at becomes
    cases becomes
  · have same := (stays before after rest split handoffId .aborted (by decide) found).2
    rw [same] at becomes
    cases becomes
  · intro before message receiver rest split decides after status found
    have begins : Settled env (run (handoffStep env) start before) :=
      run_invariant_of_trace settled fun entry member kept =>
        (handoffStep_agrees injective kept entry.2 (agrees entry (by
          rw [split, trace_append]
          exact List.mem_append_left _ member))).1
    have last : after = handoffStep env (run (handoffStep env) start before)
        (.deliver message receiver) := run_append _ _ _ _
    have listed : (run (handoffStep env) start before, HandoffEvent.deliver message receiver) ∈
        trace (handoffStep env) start events := by
      rw [split, trace_append]
      exact List.mem_append_right _ List.mem_cons_self
    have law := (stepLaw_iff injective begins _).mpr (agrees _ listed)
    rw [last] at found ⊢
    exact law.present message receiver rfl decides status found

theorem steps_of_lawful {start : HandoffSystem} {events : List HandoffEvent}
    (lawful : LawfulHandoffs env start events) :
    ∀ entry ∈ trace (handoffStep env) start events, StepLaw env entry := by
  intro entry member
  obtain ⟨before, rest, split, state⟩ := mem_trace (handoffStep env) member
  have cut : events = before ++ [entry.2] ++ rest := by
    rw [split]
    simp
  have next : handoffStep env entry.1 entry.2 =
      run (handoffStep env) start (before ++ [entry.2]) := by
    rw [run_append, ← state]
    rfl
  refine ⟨fun handoffId found => ?_, fun handoffId found => ?_, ?_⟩
  · rw [next]
    exact lawful.committed before [entry.2] rest cut handoffId (state ▸ found)
  · rw [next]
    exact lawful.aborted before [entry.2] rest cut handoffId (state ▸ found)
  · intro message receiver isDeliver decides status found
    rw [isDeliver] at split next found ⊢
    rw [next] at found ⊢
    exact lawful.present before message receiver rest split decides status found

end Runs

/-- **Handoffs are atomic exactly in the runs whose deliveries agree with the records.** -/
theorem lawfulHandoffs_iff (env : ProtocolEnv) (injective : Function.Injective env.uuid)
    (start : HandoffSystem) (initial : start.Initial) (events : List HandoffEvent) :
    LawfulHandoffs env start events ↔
      ∀ entry ∈ trace (handoffStep env) start events, DeliveryAgrees entry := by
  have steps : (∀ entry ∈ trace (handoffStep env) start events, StepLaw env entry) ↔
      ∀ entry ∈ trace (handoffStep env) start events, DeliveryAgrees entry :=
    trace_law_iff initial.settled
      (fun system event settled agrees => (handoffStep_agrees injective settled event agrees).1)
      fun system event settled => stepLaw_iff injective settled event
  exact ⟨fun lawful => steps.mp (steps_of_lawful lawful), lawful_of_steps injective initial.settled⟩

/-! ### A transfer and an abort -/

namespace Sample

/-- Numbered identifiers and times. -/
def protocolEnv : ProtocolEnv where
  uuid index := String.ofList (List.replicate index 'x')
  time index := index

theorem uuid_injective : Function.Injective protocolEnv.uuid := by
  intro first second same
  have lengths := congrArg (fun text : String => text.toList.length) same
  simpa [protocolEnv] using lengths

/-- A message of the first handoff. -/
def handoffMessage (messageId : String) (messageType : HandoffMessageType) :
    DistributedHandoffMessage where
  messageId := messageId
  handoffId := protocolEnv.uuid 0
  senderNodeId := "node_A"
  receiverNodeId := "node_B"
  messageType := messageType
  stepIndex := 0
  statePayload := [("key", .str "value")]
  timestamp := 0
  provenanceRef := "prov_001"

/-- A handoff is initiated and its state transferred. -/
def transferred : List HandoffEvent := [
  .initiate "node_A" "node_B" [("key", .str "value")] "prov_001" 0,
  .deliver (handoffMessage "msg_1" .stateTransfer) "node_B"]

end Sample

/-- A transfer that is delivered twice keeps the law. -/
theorem lawfulHandoffs_transfer : LawfulHandoffs Sample.protocolEnv {}
    (Sample.transferred ++ [.deliver (Sample.handoffMessage "msg_1" .stateTransfer) "node_B"]) := by
  refine (lawfulHandoffs_iff Sample.protocolEnv Sample.uuid_injective {} ⟨rfl, rfl⟩ _).mpr ?_
  simp only [Sample.transferred, List.cons_append, List.nil_append, trace_cons, trace_nil,
    List.forall_mem_cons]
  refine ⟨trivial, fun _ status found => ?_, fun _ status found => ?_, nofun⟩
  · have pending : status = .pending :=
      Option.some.inj (found.symm.trans (by decide +kernel))
    rw [pending]
    decide +kernel
  · have committed : status = .committed :=
      Option.some.inj (found.symm.trans (by decide +kernel))
    rw [committed]
    decide +kernel

/-- **A committed handoff can be aborted**: a transfer and then an ABORT turn the record from
COMMITTED to ABORTED. -/
theorem abort_after_transfer : ¬ LawfulHandoffs Sample.protocolEnv {}
    (Sample.transferred ++ [.deliver (Sample.handoffMessage "msg_2" .abort) "node_B"]) := by
  intro lawful
  refine lawful.committed Sample.transferred
    [.deliver (Sample.handoffMessage "msg_2" .abort) "node_B"] [] (List.append_nil _).symm
    (Sample.protocolEnv.uuid 0) ?_ ?_
  · decide +kernel
  · decide +kernel

end Dnc
