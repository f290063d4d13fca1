/-
**Streams, outbox and optimistic concurrency over whole runs.**

A run is any sequence of `append`, `mark_published` and `receive_once` calls on a new repository,
the raising ones included. What a run has *recorded* is the list of its successful appends and
successful publications, in order; `Recorded` says that the repository is a function of that list:

* the stream of an aggregate is the list of its appended events, and holds the versions 1, 2, …;
* the outbox is the list of the appended messages, each marked as published when it was.

`eventRepository_laws` reads the laws of the repository off this invariant. Appends of one aggregate
with one expected version are excluded by the versions: an append stores the version that follows
the expected one, and a stream holds no version twice.
-/

import Dnc.Persistence.Repository
import Dnc.Logic.Run

namespace Dnc

open PyLib Logic

inductive RepositoryCall where
  | append (event : DurableEvent) (expectedVersion : Int) (outbox : List OutboxMessage)
  | markPublished (messageId tenantId : String)
  | receiveOnce (message : OutboxMessage) (resultFingerprint : String)

/-- The repository after a call. -/
def repositoryStep (repository : EventRepository) : RepositoryCall → EventRepository
  | .append event expectedVersion outbox => (repository.append event expectedVersion outbox).1
  | .markPublished messageId tenantId => (repository.markPublished messageId tenantId).1
  | .receiveOnce message resultFingerprint => (repository.receiveOnce message resultFingerprint).1

/-- The arguments of a successful append. -/
structure AcceptedAppend where
  event : DurableEvent
  expectedVersion : Int
  outbox : List OutboxMessage

/-- What a successful call leaves on record. -/
inductive RepositoryEffect where
  | appended (append : AcceptedAppend)
  | published (key : String × String)

/-- A call's effect: a call that raises has none, and `receive_once` only touches the inbox. -/
def repositoryEffect (entry : EventRepository × RepositoryCall) : Option RepositoryEffect :=
  match entry.2 with
  | .append event expectedVersion outbox =>
    match (entry.1.append event expectedVersion outbox).2 with
    | .ok _ => some (.appended ⟨event, expectedVersion, outbox⟩)
    | .error _ => none
  | .markPublished messageId tenantId =>
    match (entry.1.markPublished messageId tenantId).2 with
    | .ok _ => some (.published (tenantId, messageId))
    | .error _ => none
  | .receiveOnce _ _ => none

/-- The successful appends among the effects. -/
def acceptedAppends (effects : List RepositoryEffect) : List AcceptedAppend :=
  effects.filterMap fun
    | .appended append => some append
    | .published _ => none

/-- The keys of the successful publications among the effects. -/
def publishedKeys (effects : List RepositoryEffect) : List (String × String) :=
  effects.filterMap fun
    | .appended _ => none
    | .published key => some key

/-- The messages of the successful appends. -/
def appendedMessages (effects : List RepositoryEffect) : List OutboxMessage :=
  (acceptedAppends effects).flatMap AcceptedAppend.outbox

/-- A message carries the mark: it came with it, or a `mark_published` call has set it. -/
def markedPublished (effects : List RepositoryEffect) (message : OutboxMessage) : Bool :=
  message.published || decide (message.key ∈ publishedKeys effects)

/-- The effects of a run on a new repository. -/
def recordedEffects (calls : List RepositoryCall) : List RepositoryEffect :=
  (trace repositoryStep {} calls).filterMap repositoryEffect

/-- The laws of a repository with a record of effects. -/
structure RepositoryLaws (repository : EventRepository) (effects : List RepositoryEffect) : Prop where
  /-- A stream holds the versions 1, 2, …, n, of events of its tenant and aggregate. -/
  versions : ∀ aggregateId tenantId,
    (repository.load aggregateId tenantId).map DurableEvent.aggregateVersion =
        (List.range (repository.load aggregateId tenantId).length).map
          (fun index : Nat => (index : Int) + 1) ∧
      ∀ event ∈ repository.load aggregateId tenantId,
        event.tenantId = tenantId ∧ event.aggregateId = aggregateId
  /-- Over all streams, no two events of a tenant have one identifier. -/
  uniqueIds : repository.events.values.flatten.Pairwise fun first second =>
    first.tenantId = second.tenantId → first.eventId ≠ second.eventId
  /-- A stored message was given to an append of its tenant. -/
  outboxTenant : ∀ message ∈ repository.outbox.values, ∃ append ∈ acceptedAppends effects,
    (∃ given ∈ append.outbox, message = { given with published := message.published }) ∧
      message.tenantId = append.event.tenantId
  /-- The pending messages are the appended ones without the mark, once each. -/
  pending : ∀ tenantId,
    (repository.pendingOutbox tenantId).Perm ((appendedMessages effects).filter fun message =>
        message.tenantId = tenantId ∧ markedPublished effects message = false) ∧
      ((repository.pendingOutbox tenantId).map OutboxMessage.messageId).Nodup
  /-- No two successful appends of an aggregate expected one version. -/
  expected : (acceptedAppends effects).Pairwise fun first second =>
    first.event.key = second.event.key → first.expectedVersion ≠ second.expectedVersion

/-! ### The invariant -/

/-- An appended message as the outbox holds it. -/
def storedMessage (effects : List RepositoryEffect) (message : OutboxMessage) : OutboxMessage :=
  { message with published := markedPublished effects message }

structure Recorded (repository : EventRepository) (effects : List RepositoryEffect) : Prop where
  streams : ∀ key, repository.stream key =
    ((acceptedAppends effects).filter fun append => append.event.key = key).map AcceptedAppend.event
  versions : ∀ key, (repository.stream key).map DurableEvent.aggregateVersion =
    (List.range (repository.stream key).length).map fun index : Nat => (index : Int) + 1
  next : ∀ append ∈ acceptedAppends effects,
    append.event.aggregateVersion = append.expectedVersion + 1
  uniqueIds : (acceptedAppends effects).Pairwise fun first second =>
    first.event.tenantId = second.event.tenantId → first.event.eventId ≠ second.event.eventId
  tenants : ∀ append ∈ acceptedAppends effects, ∀ message ∈ append.outbox,
    message.tenantId = append.event.tenantId
  outbox : repository.outbox.entries =
    (appendedMessages effects).map fun message => (message.key, storedMessage effects message)
  published : ∀ key ∈ publishedKeys effects, key ∈ repository.outbox

section Effects

variable (effects : List RepositoryEffect)

theorem acceptedAppends_append (append : AcceptedAppend) :
    acceptedAppends (effects ++ [.appended append]) = acceptedAppends effects ++ [append] :=
  List.filterMap_append

theorem acceptedAppends_publish (key : String × String) :
    acceptedAppends (effects ++ [.published key]) = acceptedAppends effects :=
  List.filterMap_append.trans (List.append_nil _)

theorem publishedKeys_append (append : AcceptedAppend) :
    publishedKeys (effects ++ [.appended append]) = publishedKeys effects :=
  List.filterMap_append.trans (List.append_nil _)

theorem publishedKeys_publish (key : String × String) :
    publishedKeys (effects ++ [.published key]) = publishedKeys effects ++ [key] :=
  List.filterMap_append

theorem appendedMessages_append (append : AcceptedAppend) :
    appendedMessages (effects ++ [.appended append]) = appendedMessages effects ++ append.outbox := by
  unfold appendedMessages
  rw [acceptedAppends_append, List.flatMap_append, List.flatMap_singleton]

theorem appendedMessages_publish (key : String × String) :
    appendedMessages (effects ++ [.published key]) = appendedMessages effects := by
  unfold appendedMessages
  rw [acceptedAppends_publish]

theorem storedMessage_append (append : AcceptedAppend) (message : OutboxMessage) :
    storedMessage (effects ++ [.appended append]) message = storedMessage effects message := by
  unfold storedMessage markedPublished
  rw [publishedKeys_append]

theorem storedMessage_publish_self {key : String × String} {message : OutboxMessage}
    (same : message.key = key) : storedMessage (effects ++ [.published key]) message =
      { storedMessage effects message with published := true } := by
  have listed : message.key ∈ publishedKeys (effects ++ [.published key]) := by
    rw [publishedKeys_publish, same]
    exact List.mem_append_right _ (List.mem_singleton_self key)
  unfold storedMessage markedPublished
  rw [decide_eq_true listed, Bool.or_true]

theorem storedMessage_publish_of_ne {key : String × String} {message : OutboxMessage}
    (different : message.key ≠ key) :
    storedMessage (effects ++ [.published key]) message = storedMessage effects message := by
  unfold storedMessage markedPublished
  rw [publishedKeys_publish]
  simp only [List.mem_append, List.mem_singleton, different, or_false]

end Effects

/-- The last of the versions 1, 2, …, n is n. -/
theorem currentVersion_of_versions {events : List DurableEvent}
    (versions : events.map DurableEvent.aggregateVersion =
      (List.range events.length).map fun index : Nat => (index : Int) + 1) :
    EventRepository.currentVersion events = events.length := by
  have last := congrArg List.getLast? versions
  rw [List.getLast?_map, List.getLast?_map, List.getLast?_range] at last
  unfold EventRepository.currentVersion
  cases found : events.getLast? with
  | none =>
    rw [List.getLast?_eq_none_iff.mp found]
    rfl
  | some event =>
    have nonempty : events.length ≠ 0 := fun empty => by
      rw [List.length_eq_zero_iff.mp empty] at found
      cases found
    rw [found, if_neg nonempty] at last
    have version : event.aggregateVersion = ((events.length - 1 : Nat) : Int) + 1 :=
      Option.some.inj last
    show event.aggregateVersion = _
    rw [version]
    omega

namespace Recorded

variable {repository : EventRepository} {effects : List RepositoryEffect}

/-- A failed append opens a stream, which changes neither the streams nor the outbox. -/
theorem openStream (recorded : Recorded repository effects) (key : String × String) :
    Recorded (repository.openStream key) effects := by
  refine ⟨fun other => ?_, fun other => ?_, recorded.next, recorded.uniqueIds, recorded.tenants,
    ?_, fun other member => ?_⟩
  · rw [EventRepository.stream_openStream]
    exact recorded.streams other
  · rw [EventRepository.stream_openStream]
    exact recorded.versions other
  · rw [EventRepository.outbox_openStream]
    exact recorded.outbox
  · rw [EventRepository.outbox_openStream]
    exact recorded.published other member

/-- A successful append. -/
theorem store (recorded : Recorded repository effects) {event : DurableEvent}
    {expectedVersion : Int} {outbox : List OutboxMessage}
    (appends : repository.Appends event expectedVersion outbox) :
    Recorded (repository.store event outbox)
      (effects ++ [.appended ⟨event, expectedVersion, outbox⟩]) := by
  have entries : (repository.store event outbox).outbox.entries =
      repository.outbox.entries ++ outbox.map fun message => (message.key, message) :=
    EventRepository.outbox_storeMessages appends.fresh appends.distinct
  refine ⟨fun key => ?_, fun key => ?_, ?_, ?_, ?_, ?_, ?_⟩
  · rw [EventRepository.stream_store, acceptedAppends_append, List.filter_append, List.map_append,
      recorded.streams key]
    congr 1
    by_cases same : event.key = key
    · rw [if_pos same, List.filter_cons_of_pos (by simpa using same)]
      rfl
    · rw [if_neg same, List.filter_cons_of_neg (by simpa using same)]
      rfl
  · rw [EventRepository.stream_store]
    by_cases same : event.key = key
    · have version : event.aggregateVersion = ((repository.stream key).length : Int) + 1 := by
        rw [appends.next, ← appends.current, same,
          currentVersion_of_versions (recorded.versions key)]
      rw [if_pos same, List.map_append, recorded.versions key, List.length_append,
        List.length_singleton, List.range_succ, List.map_append]
      congr 1
      exact congrArg (fun number => [number]) version
    · rw [if_neg same, List.append_nil]
      exact recorded.versions key
  · rw [acceptedAppends_append, List.forall_mem_append, List.forall_mem_singleton]
    exact ⟨recorded.next, appends.next⟩
  · rw [acceptedAppends_append, List.pairwise_append]
    refine ⟨recorded.uniqueIds, List.pairwise_singleton _ _, fun earlier member last isLast => ?_⟩
    rw [List.mem_singleton.mp isLast]
    refine appends.isNew earlier.event.key earlier.event ?_
    rw [recorded.streams]
    exact List.mem_map_of_mem (List.mem_filter.mpr ⟨member, decide_eq_true rfl⟩)
  · rw [acceptedAppends_append, List.forall_mem_append, List.forall_mem_singleton]
    exact ⟨recorded.tenants, appends.tenant⟩
  · rw [entries, recorded.outbox, appendedMessages_append, List.map_append]
    congr 1
    · exact List.map_congr_left fun message _ => by rw [storedMessage_append]
    · refine List.map_congr_left fun message member => ?_
      -- a new message has not been published before
      have unmarked : message.key ∉ publishedKeys effects := fun listed =>
        appends.fresh message member (recorded.published _ listed)
      rw [storedMessage_append]
      unfold storedMessage markedPublished
      rw [decide_eq_false unmarked, Bool.or_false]
  · intro key listed
    rw [publishedKeys_append] at listed
    show key ∈ (repository.store event outbox).outbox.entries.map Prod.fst
    rw [entries, List.map_append]
    exact List.mem_append_left _ (recorded.published key listed)

/-- A successful publication. -/
theorem publish (recorded : Recorded repository effects) {key : String × String}
    {message : OutboxMessage} (found : repository.outbox.get? key = some message) :
    Recorded { repository with
        outbox := repository.outbox.set key { message with published := true } }
      (effects ++ [.published key]) := by
  have known : key ∈ repository.outbox := Dict.mem_of_get? found
  refine ⟨?_, recorded.versions, ?_, ?_, ?_, ?_, ?_⟩
  · rw [acceptedAppends_publish]
    exact recorded.streams
  · rw [acceptedAppends_publish]
    exact recorded.next
  · rw [acceptedAppends_publish]
    exact recorded.uniqueIds
  · rw [acceptedAppends_publish]
    exact recorded.tenants
  · refine (setItem_of_mem repository.outbox.nodup _ known).trans ?_
    rw [recorded.outbox, List.map_map, appendedMessages_publish]
    refine List.map_congr_left fun given member => ?_
    show (if given.key = key then _ else _) = (given.key, storedMessage _ given)
    by_cases same : given.key = key
    · have entry : (given.key, storedMessage effects given) ∈ repository.outbox.entries := by
        rw [recorded.outbox]
        exact List.mem_map.mpr ⟨given, member, rfl⟩
      have stored : storedMessage effects given = message := by
        have lookup := Dict.mem_entries.mp entry
        rw [same, found] at lookup
        exact (Option.some.inj lookup).symm
      rw [if_pos same, storedMessage_publish_self effects same, stored, same]
    · rw [if_neg same, storedMessage_publish_of_ne effects same]
  · intro other listed
    rw [publishedKeys_publish, List.mem_append, List.mem_singleton] at listed
    rcases listed with earlier | now
    · exact Dict.mem_set.mpr (Or.inr (recorded.published other earlier))
    · exact Dict.mem_set.mpr (Or.inl now)

/-- **Every call keeps the record.** -/
theorem step (recorded : Recorded repository effects) (call : RepositoryCall) :
    Recorded (repositoryStep repository call)
      (effects ++ (repositoryEffect (repository, call)).toList) := by
  cases call with
  | append event expectedVersion outbox =>
    rcases repository.append_cases event expectedVersion outbox with
      ⟨stored, appends⟩ | ⟨error, raised⟩
    · have opened : (repository.openStream event.key).Appends event expectedVersion outbox := by
        refine ⟨?_, appends.next, fun key => ?_, appends.distinct, ?_, appends.tenant⟩
        · rw [EventRepository.stream_openStream]
          exact appends.current
        · rw [EventRepository.stream_openStream]
          exact appends.isNew key
        · rw [EventRepository.outbox_openStream]
          exact appends.fresh
      simp only [repositoryStep, repositoryEffect, stored]
      exact (recorded.openStream event.key).store opened
    · simp only [repositoryStep, repositoryEffect, raised, Option.toList_none, List.append_nil]
      exact recorded.openStream event.key
  | markPublished messageId tenantId =>
    cases found : repository.outbox.get? (tenantId, messageId) with
    | none =>
      simp only [repositoryStep, repositoryEffect, EventRepository.markPublished, found,
        Option.toList_none, List.append_nil]
      exact recorded
    | some message =>
      simp only [repositoryStep, repositoryEffect, EventRepository.markPublished, found]
      exact recorded.publish found
  | receiveOnce message resultFingerprint =>
    have same : (repositoryStep repository (.receiveOnce message resultFingerprint)).events =
          repository.events ∧
        (repositoryStep repository (.receiveOnce message resultFingerprint)).outbox =
          repository.outbox := by
      simp only [repositoryStep, EventRepository.receiveOnce]
      cases repository.inbox.get? (message.tenantId, message.idempotencyKey) with
      | none => exact ⟨rfl, rfl⟩
      | some previous =>
        by_cases conflict : previous ≠ resultFingerprint
        · simp only [if_pos conflict, and_self]
        · simp only [if_neg conflict, and_self]
    have streams : ∀ key, (repositoryStep repository
        (.receiveOnce message resultFingerprint)).stream key = repository.stream key := fun key => by
      unfold EventRepository.stream
      rw [same.1]
    simp only [repositoryEffect, Option.toList_none, List.append_nil]
    refine ⟨fun key => ?_, fun key => ?_, recorded.next, recorded.uniqueIds, recorded.tenants,
      ?_, ?_⟩
    · rw [streams]
      exact recorded.streams key
    · rw [streams]
      exact recorded.versions key
    · rw [same.2]
      exact recorded.outbox
    · rw [same.2]
      exact recorded.published

/-! ### Reading off the laws -/

theorem load_mem (recorded : Recorded repository effects) {key : String × String}
    {event : DurableEvent} (member : event ∈ repository.stream key) :
    event.key = key ∧ ∃ append ∈ acceptedAppends effects, append.event = event := by
  rw [recorded.streams] at member
  obtain ⟨append, listed, rfl⟩ := List.mem_map.mp member
  obtain ⟨accepted, same⟩ := List.mem_filter.mp listed
  exact ⟨of_decide_eq_true same, append, accepted, rfl⟩

theorem uniqueIds_values (recorded : Recorded repository effects) :
    repository.events.values.flatten.Pairwise fun first second =>
      first.tenantId = second.tenantId → first.eventId ≠ second.eventId := by
  have stream_of_entry : ∀ entry ∈ repository.events.entries,
      entry.2 = repository.stream entry.1 := fun entry member => by
    unfold EventRepository.stream
    rw [Dict.mem_entries.mp member]
    rfl
  have keys : repository.events.entries.Pairwise fun first second => first.1 ≠ second.1 :=
    List.pairwise_map.mp repository.events.nodup
  rw [List.pairwise_flatten]
  refine ⟨fun values member => ?_, ?_⟩
  · obtain ⟨entry, listed, rfl⟩ := List.mem_map.mp member
    rw [stream_of_entry entry listed, recorded.streams, List.pairwise_map]
    exact recorded.uniqueIds.filter _
  · refine List.pairwise_map.mpr (keys.imp_of_mem fun {first second} isFirst isSecond different => ?_)
    rw [stream_of_entry first isFirst, stream_of_entry second isSecond]
    intro event inFirst other inSecond sameTenant
    -- two streams hold events of different appends
    obtain ⟨firstKey, append, accepted, rfl⟩ := recorded.load_mem inFirst
    obtain ⟨secondKey, append', accepted', rfl⟩ := recorded.load_mem inSecond
    have : Std.Symm fun first second : AcceptedAppend =>
        first.event.tenantId = second.event.tenantId →
          first.event.eventId ≠ second.event.eventId :=
      ⟨fun _ _ apart same => (apart same.symm).symm⟩
    refine recorded.uniqueIds.forall accepted accepted' (fun same => ?_) sameTenant
    exact different (firstKey.symm.trans ((congrArg (fun append => append.event.key) same).trans
      secondKey))

theorem outboxTenant (recorded : Recorded repository effects) {message : OutboxMessage}
    (member : message ∈ repository.outbox.values) : ∃ append ∈ acceptedAppends effects,
      (∃ given ∈ append.outbox, message = { given with published := message.published }) ∧
        message.tenantId = append.event.tenantId := by
  unfold Dict.values at member
  rw [recorded.outbox, List.map_map] at member
  obtain ⟨given, appended, rfl⟩ := List.mem_map.mp member
  obtain ⟨append, accepted, listed⟩ := List.mem_flatMap.mp appended
  exact ⟨append, accepted, ⟨given, listed, rfl⟩, recorded.tenants append accepted given listed⟩

/-- The pending messages, in the order of their keys, are the unpublished ones of the outbox. -/
theorem pendingOutbox_perm (recorded : Recorded repository effects) (tenantId : String) :
    (repository.pendingOutbox tenantId).Perm ((appendedMessages effects).filter fun message =>
      message.tenantId = tenantId ∧ markedPublished effects message = false) := by
  let pending := fun message : OutboxMessage => message.tenantId == tenantId && !message.published
  have values : (repository.pendingOutbox tenantId).Perm (repository.outbox.values.filter pending) := by
    refine ((sortBy_perm toLex repository.outbox.keys).filterMap _).trans (List.Perm.of_eq ?_)
    unfold Dict.keys Dict.values
    rw [List.filterMap_map, List.filter_map, ← List.filterMap_eq_map, ← List.filterMap_eq_filter,
      List.filterMap_filterMap]
    refine List.filterMap_congr fun entry member => ?_
    show (repository.outbox.get? entry.1).filter pending = _
    rw [Dict.mem_entries.mp member]
    by_cases isPending : pending entry.2 = true
    · simp [Option.guard, isPending]
    · simp [Option.guard, isPending]
  refine values.trans (List.Perm.of_eq ?_)
  unfold Dict.values
  rw [recorded.outbox, List.map_map, List.filter_map]
  have chosen : (fun message => pending (storedMessage effects message)) =
      fun message => decide (message.tenantId = tenantId ∧ markedPublished effects message = false) := by
    funext message
    show (message.tenantId == tenantId && !markedPublished effects message) = _
    by_cases same : message.tenantId = tenantId <;>
      cases markedPublished effects message <;> simp [same]
  show ((appendedMessages effects).filter fun message => pending (storedMessage effects message)).map
    (storedMessage effects) = _
  rw [chosen]
  refine (List.map_congr_left fun message member => ?_).trans (List.map_id _)
  -- a message without the mark is stored as it was given
  have unmarked := (of_decide_eq_true (List.mem_filter.mp member).2).2
  have unpublished : message.published = false := (Bool.or_eq_false_iff.mp unmarked).1
  show { message with published := markedPublished effects message } = message
  rw [unmarked, ← unpublished]

theorem nodup_messageIds (recorded : Recorded repository effects) (tenantId : String) :
    ((repository.pendingOutbox tenantId).map OutboxMessage.messageId).Nodup := by
  have keys : ((appendedMessages effects).map OutboxMessage.key).Nodup := by
    have nodup := repository.outbox.nodup
    rw [recorded.outbox, List.map_map] at nodup
    exact nodup
  refine (((recorded.pendingOutbox_perm tenantId).map _).nodup_iff).mpr ?_
  refine List.pairwise_map.mpr (((List.pairwise_map.mp keys).filter _).imp_of_mem ?_)
  intro first second isFirst isSecond different sameId
  have firstTenant := (of_decide_eq_true (List.mem_filter.mp isFirst).2).1
  have secondTenant := (of_decide_eq_true (List.mem_filter.mp isSecond).2).1
  exact different (Prod.ext (firstTenant.trans secondTenant.symm) sameId)

theorem expected (recorded : Recorded repository effects) :
    (acceptedAppends effects).Pairwise fun first second =>
      first.event.key = second.event.key → first.expectedVersion ≠ second.expectedVersion := by
  refine List.pairwise_iff_forall_sublist.mpr fun {first second} pair sameKey sameVersion => ?_
  -- both events are in the stream of their aggregate, with one version
  have streamed : [first.event, second.event].Sublist (repository.stream second.event.key) := by
    rw [recorded.streams]
    have kept : [first, second].filter (fun append => append.event.key = second.event.key) =
        [first, second] := by
      simp [sameKey]
    have filtered := pair.filter fun append => append.event.key = second.event.key
    rw [kept] at filtered
    exact filtered.map AcceptedAppend.event
  have versions : ((repository.stream second.event.key).map DurableEvent.aggregateVersion).Nodup := by
    rw [recorded.versions]
    refine List.nodup_range.map fun first second same => ?_
    simpa using same
  have apart := versions.sublist (streamed.map DurableEvent.aggregateVersion)
  have firstNext := recorded.next first (pair.subset List.mem_cons_self)
  have secondNext := recorded.next second
    (pair.subset (List.mem_cons_of_mem _ (List.mem_singleton_self second)))
  simp [firstNext, secondNext, sameVersion] at apart

theorem laws (recorded : Recorded repository effects) : RepositoryLaws repository effects where
  versions aggregateId tenantId :=
    ⟨recorded.versions (tenantId, aggregateId), fun event member => by
      have same := (recorded.load_mem member).1
      exact ⟨congrArg Prod.fst same, congrArg Prod.snd same⟩⟩
  uniqueIds := recorded.uniqueIds_values
  outboxTenant _ member := recorded.outboxTenant member
  pending tenantId := ⟨recorded.pendingOutbox_perm tenantId, recorded.nodup_messageIds tenantId⟩
  expected := recorded.expected

end Recorded

/-- **Every run of the repository keeps its laws.** -/
theorem eventRepository_laws (calls : List RepositoryCall) :
    RepositoryLaws (run repositoryStep {} calls) (recordedEffects calls) := by
  have initial : Recorded {} [] :=
    ⟨fun _ => rfl, fun _ => rfl, fun _ member => absurd member List.not_mem_nil,
      List.Pairwise.nil, fun _ member => absurd member List.not_mem_nil, rfl,
      fun _ member => absurd member List.not_mem_nil⟩
  exact (run_observes (P := Recorded) initial fun entry _ effects recorded =>
    recorded.step entry.2).laws

end Dnc
