/-
**The event repository.**

`dnc.persistence.repository.EventRepository`: the event streams of every tenant, the outbox of
messages that were appended with events, and the inbox of idempotency keys. An `append` that raises
has stored nothing, but it has made an empty stream for its aggregate
(`sameSnapshot_append_raised_iff`).
-/

import Dnc.PyLib.Value
import Mathlib.Data.Prod.Lex

namespace Dnc

open PyLib

structure DurableEvent where
  eventId : String
  tenantId : String
  aggregateId : String
  aggregateVersion : Int
  eventType : String
  payload : JsonObject
  timestampNs : Int

structure OutboxMessage where
  messageId : String
  tenantId : String
  topic : String
  payload : JsonObject
  idempotencyKey : String
  published : Bool := false

/-- `(event.tenant_id, event.aggregate_id)`. -/
def DurableEvent.key (event : DurableEvent) : String × String :=
  (event.tenantId, event.aggregateId)

/-- `(message.tenant_id, message.message_id)`. -/
def OutboxMessage.key (message : OutboxMessage) : String × String :=
  (message.tenantId, message.messageId)

structure EventRepository where
  events : Dict (String × String) (List DurableEvent) := ∅
  outbox : Dict (String × String) OutboxMessage := ∅
  inbox : Dict (String × String) String := ∅

namespace EventRepository

/-- `self._events.get(key, ())`. -/
def stream (repository : EventRepository) (key : String × String) : List DurableEvent :=
  (repository.events.get? key).getD []

/-- `self._events.setdefault(key, [])`. -/
def openStream (repository : EventRepository) (key : String × String) : EventRepository :=
  if key ∈ repository.events then repository
  else { repository with events := repository.events.set key [] }

/-- `events[-1].aggregate_version if events else 0`. -/
def currentVersion (events : List DurableEvent) : Int :=
  match events.getLast? with
  | some last => last.aggregateVersion
  | none => 0

/-- `any(item.event_id == event.event_id and ... for values in self._events.values() ...)`. -/
def holdsEvent (repository : EventRepository) (event : DurableEvent) : Bool :=
  repository.events.values.any fun values =>
    values.any fun item => item.eventId == event.eventId && item.tenantId == event.tenantId

/-- `self._outbox[(message.tenant_id, message.message_id)] = message` for each message. -/
def storeMessages (repository : EventRepository) (outbox : List OutboxMessage) : EventRepository :=
  outbox.foldl (fun repository message =>
    { repository with outbox := repository.outbox.set message.key message }) repository

/-- `events.append(event)` and the loop over the messages. -/
def store (repository : EventRepository) (event : DurableEvent) (outbox : List OutboxMessage) :
    EventRepository :=
  storeMessages { repository with
    events := repository.events.set event.key (repository.stream event.key ++ [event]) } outbox

/-- `EventRepository.append`. -/
def append (repository : EventRepository) (event : DurableEvent) (expectedVersion : Int)
    (outbox : List OutboxMessage) : EventRepository × Except PyError Unit :=
  let repository := repository.openStream event.key
  let current := currentVersion (repository.stream event.key)
  let messageIds := outbox.map OutboxMessage.messageId
  if current ≠ expectedVersion ∨ event.aggregateVersion ≠ current + 1 then
    (repository, .error (.valueError "optimistic concurrency conflict"))
  else if repository.holdsEvent event then
    (repository, .error (.valueError "duplicate durable event"))
  else if ¬ messageIds.Nodup ∨
      ∃ messageId ∈ messageIds, (event.tenantId, messageId) ∈ repository.outbox then
    (repository, .error (.valueError "duplicate outbox message"))
  else if ∃ message ∈ outbox, message.tenantId ≠ event.tenantId then
    (repository, .error (.valueError "outbox tenant MUST match event tenant"))
  else (repository.store event outbox, .ok ())

/-- `EventRepository.load`. -/
def load (repository : EventRepository) (aggregateId tenantId : String) : List DurableEvent :=
  repository.stream (tenantId, aggregateId)

/-- `EventRepository.pending_outbox`. -/
def pendingOutbox (repository : EventRepository) (tenantId : String) : List OutboxMessage :=
  (sortBy toLex repository.outbox.keys).filterMap fun key =>
    (repository.outbox.get? key).filter fun message =>
      message.tenantId == tenantId && !message.published

/-- `EventRepository.mark_published`. -/
def markPublished (repository : EventRepository) (messageId tenantId : String) :
    EventRepository × Except PyError Unit :=
  match repository.outbox.get? (tenantId, messageId) with
  | none => (repository, .error (.keyError "unknown tenant-scoped outbox message"))
  | some message =>
    ({ repository with
        outbox := repository.outbox.set (tenantId, messageId) { message with published := true } },
      .ok ())

/-- `EventRepository.receive_once`. -/
def receiveOnce (repository : EventRepository) (message : OutboxMessage)
    (resultFingerprint : String) : EventRepository × Except PyError Bool :=
  let key := (message.tenantId, message.idempotencyKey)
  match repository.inbox.get? key with
  | none => ({ repository with inbox := repository.inbox.set key resultFingerprint }, .ok true)
  | some previous =>
    if previous ≠ resultFingerprint then
      (repository, .error (.valueError "idempotency key reused with conflicting result"))
    else (repository, .ok false)

/-- `EventRepository.snapshot`: copies of the streams, the outbox and the inbox. -/
def snapshot (repository : EventRepository) : EventRepository := repository

/-- `EventRepository.restore`. -/
def restore (state : EventRepository) : EventRepository := state

/-! ### What each operation does to the streams and the outbox -/

@[simp] theorem stream_openStream (repository : EventRepository) (key other : String × String) :
    (repository.openStream key).stream other = repository.stream other := by
  unfold openStream
  by_cases known : key ∈ repository.events
  · rw [if_pos known]
  · rw [if_neg known]
    unfold stream
    rw [Dict.get?_set]
    by_cases same : other = key
    · rw [if_pos same, same, Dict.get?_eq_none.mpr known]
      rfl
    · rw [if_neg same]

@[simp] theorem outbox_openStream (repository : EventRepository) (key : String × String) :
    (repository.openStream key).outbox = repository.outbox := by
  unfold openStream
  split_ifs <;> rfl

@[simp] theorem stream_storeMessages (repository : EventRepository) (outbox : List OutboxMessage)
    (key : String × String) : (repository.storeMessages outbox).stream key = repository.stream key := by
  induction outbox generalizing repository with
  | nil => rfl
  | cons message rest ih => exact ih _

theorem stream_store (repository : EventRepository) (event : DurableEvent)
    (outbox : List OutboxMessage) (key : String × String) :
    (repository.store event outbox).stream key =
      repository.stream key ++ if event.key = key then [event] else [] := by
  unfold store
  rw [stream_storeMessages]
  unfold stream
  rw [Dict.get?_set]
  by_cases same : key = event.key
  · rw [if_pos same, if_pos same.symm, same]
    rfl
  · rw [if_neg same, if_neg (Ne.symm same), List.append_nil]

/-- Messages with new keys go to the end of the outbox, in their order. -/
theorem outbox_storeMessages {repository : EventRepository} {outbox : List OutboxMessage}
    (fresh : ∀ message ∈ outbox, message.key ∉ repository.outbox)
    (distinct : (outbox.map OutboxMessage.key).Nodup) :
    (repository.storeMessages outbox).outbox.entries =
      repository.outbox.entries ++ outbox.map fun message => (message.key, message) := by
  induction outbox generalizing repository with
  | nil => exact (List.append_nil _).symm
  | cons message rest ih =>
    rw [List.map_cons, List.nodup_cons] at distinct
    have added : (repository.outbox.set message.key message).entries =
        repository.outbox.entries ++ [(message.key, message)] :=
      setItem_of_fresh message (fresh message List.mem_cons_self)
    have later : ∀ other ∈ rest, other.key ∉ repository.outbox.set message.key message := by
      intro other member known
      rcases Dict.mem_set.mp known with same | old
      · exact distinct.1 (List.mem_map.mpr ⟨other, member, same⟩)
      · exact fresh other (List.mem_cons_of_mem _ member) old
    have stored := @ih { repository with outbox := repository.outbox.set message.key message } later
      distinct.2
    refine stored.trans ?_
    rw [added, List.append_assoc]
    rfl

/-- An event of some stream is found by the search for duplicates. -/
theorem holdsEvent_of_mem {repository : EventRepository} {key : String × String}
    {item event : DurableEvent} (member : item ∈ repository.stream key)
    (sameId : item.eventId = event.eventId) (sameTenant : item.tenantId = event.tenantId) :
    repository.holdsEvent event = true := by
  unfold holdsEvent
  unfold stream at member
  cases found : repository.events.get? key with
  | none =>
    rw [found] at member
    cases member
  | some values =>
    rw [found, Option.getD_some] at member
    rw [List.any_eq_true]
    refine ⟨values, Dict.mem_values.mpr ⟨key, found⟩, List.any_eq_true.mpr ⟨item, member, ?_⟩⟩
    rw [sameId, sameTenant, beq_self_eq_true, beq_self_eq_true]
    rfl

/-- What `append` checks before it stores anything. -/
structure Appends (repository : EventRepository) (event : DurableEvent) (expectedVersion : Int)
    (outbox : List OutboxMessage) : Prop where
  current : currentVersion (repository.stream event.key) = expectedVersion
  next : event.aggregateVersion = expectedVersion + 1
  isNew : ∀ key, ∀ item ∈ repository.stream key, item.tenantId = event.tenantId →
    item.eventId ≠ event.eventId
  distinct : (outbox.map OutboxMessage.key).Nodup
  fresh : ∀ message ∈ outbox, message.key ∉ repository.outbox
  tenant : ∀ message ∈ outbox, message.tenantId = event.tenantId

/-- **An append stores the event and its messages, or raises and stores nothing.** -/
theorem append_cases (repository : EventRepository) (event : DurableEvent) (expectedVersion : Int)
    (outbox : List OutboxMessage) :
    (repository.append event expectedVersion outbox =
        ((repository.openStream event.key).store event outbox, .ok ()) ∧
      Appends repository event expectedVersion outbox) ∨
    ∃ error, repository.append event expectedVersion outbox =
      (repository.openStream event.key, .error error) := by
  unfold append
  simp only [stream_openStream, outbox_openStream]
  by_cases conflict : currentVersion (repository.stream event.key) ≠ expectedVersion ∨
      event.aggregateVersion ≠ currentVersion (repository.stream event.key) + 1
  · rw [if_pos conflict]
    exact Or.inr ⟨_, rfl⟩
  rw [if_neg conflict]
  by_cases duplicate : (repository.openStream event.key).holdsEvent event = true
  · rw [if_pos duplicate]
    exact Or.inr ⟨_, rfl⟩
  rw [if_neg duplicate]
  by_cases reused : ¬ (outbox.map OutboxMessage.messageId).Nodup ∨
      ∃ messageId ∈ outbox.map OutboxMessage.messageId,
        (event.tenantId, messageId) ∈ repository.outbox
  · rw [if_pos reused]
    exact Or.inr ⟨_, rfl⟩
  rw [if_neg reused]
  by_cases foreign : ∃ message ∈ outbox, message.tenantId ≠ event.tenantId
  · rw [if_pos foreign]
    exact Or.inr ⟨_, rfl⟩
  rw [if_neg foreign]
  refine Or.inl ⟨rfl, ?_⟩
  simp only [not_or, not_not] at conflict reused
  have tenant : ∀ message ∈ outbox, message.tenantId = event.tenantId := fun message member => by
    by_contra different
    exact foreign ⟨message, member, different⟩
  have keys : outbox.map OutboxMessage.key =
      (outbox.map OutboxMessage.messageId).map fun messageId => (event.tenantId, messageId) := by
    rw [List.map_map]
    exact List.map_congr_left fun message member => congrArg (·, message.messageId)
      (tenant message member)
  refine ⟨conflict.1, conflict.1 ▸ conflict.2, fun key item member sameTenant sameId => ?_, ?_,
    fun message member known => reused.2 ⟨message.messageId, List.mem_map_of_mem member, ?_⟩,
    tenant⟩
  · have listed : item ∈ (repository.openStream event.key).stream key := by
      rwa [stream_openStream]
    exact duplicate (holdsEvent_of_mem listed sameId sameTenant)
  · rw [keys]
    exact reused.1.map fun first second same => (Prod.mk.inj same).2
  · rw [← tenant message member]
    exact known

/-! ### What an append that raises leaves -/

/-- The snapshots of two repositories are equal: dictionaries compare by their lookups. -/
structure SameSnapshot (first second : EventRepository) : Prop where
  events : ∀ key, first.snapshot.events.get? key = second.snapshot.events.get? key
  outbox : ∀ key, first.snapshot.outbox.get? key = second.snapshot.outbox.get? key
  inbox : ∀ key, first.snapshot.inbox.get? key = second.snapshot.inbox.get? key

/-- An append that raises has opened the stream of its aggregate, and nothing else. -/
theorem append_raised {repository : EventRepository} {event : DurableEvent} {expectedVersion : Int}
    {outbox : List OutboxMessage} {error : PyError}
    (raised : (repository.append event expectedVersion outbox).2 = .error error) :
    (repository.append event expectedVersion outbox).1 = repository.openStream event.key := by
  rcases append_cases repository event expectedVersion outbox with ⟨stored, -⟩ | ⟨other, refused⟩
  · rw [stored] at raised
    cases raised
  · rw [refused]

/-- Opening a stream shows in the snapshot unless the stream is there. -/
theorem sameSnapshot_openStream_iff {repository : EventRepository} {key : String × String} :
    SameSnapshot (repository.openStream key) repository ↔ key ∈ repository.events := by
  constructor
  · intro same
    by_contra unknown
    have shown := same.events key
    unfold snapshot openStream at shown
    rw [if_neg unknown, Dict.get?_set_self, Dict.get?_eq_none.mpr unknown] at shown
    cases shown
  · intro known
    unfold openStream
    rw [if_pos known]
    exact ⟨fun _ => rfl, fun _ => rfl, fun _ => rfl⟩

/-- **An append that raises leaves the snapshot as it was exactly when its aggregate had a stream.**
Otherwise the snapshot holds an empty stream from then on. -/
theorem sameSnapshot_append_raised_iff {repository : EventRepository} {event : DurableEvent}
    {expectedVersion : Int} {outbox : List OutboxMessage} {error : PyError}
    (raised : (repository.append event expectedVersion outbox).2 = .error error) :
    SameSnapshot (repository.append event expectedVersion outbox).1 repository ↔
      event.key ∈ repository.events := by
  rw [append_raised raised]
  exact sameSnapshot_openStream_iff

/-- The second version of an aggregate. -/
def laterEvent : DurableEvent where
  eventId := "event-2"
  tenantId := "tenant"
  aggregateId := "task"
  aggregateVersion := 2
  eventType := "TASK_UPDATED"
  payload := []
  timestampNs := 2

theorem sameSnapshot_append_raised_new :
    SameSnapshot (({} : EventRepository).append laterEvent 1 []).1 {} ↔
      laterEvent.key ∈ ({} : EventRepository).events :=
  sameSnapshot_append_raised_iff (show (({} : EventRepository).append laterEvent 1 []).2 =
    .error (.valueError "optimistic concurrency conflict") from rfl)

theorem raised_append_opens_stream : ¬ ∀ (repository : EventRepository) (event : DurableEvent)
    (expectedVersion : Int) (outbox : List OutboxMessage) (error : PyError),
    (repository.append event expectedVersion outbox).2 = .error error →
      SameSnapshot (repository.append event expectedVersion outbox).1 repository := by
  intro kept
  have same := kept {} laterEvent 1 [] (.valueError "optimistic concurrency conflict") rfl
  exact nomatch same.events laterEvent.key

end EventRepository

end Dnc
