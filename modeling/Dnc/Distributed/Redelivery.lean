/-
**What a receiver remembers.**

A receiver records the messages that are processed through it, each with the time of recording, and
forgets the oldest one where it holds more than its window. Along a run whose recording times
increase, the history is the window over the log of all recordings, in their order
(`Remembers.record`): the oldest entry is the first one.

So a receiver remembers the most recent distinct identifiers, as many as its window is wide, and a
message that comes again before that many others were recorded is dropped: the coordinator keeps its
participant states and its records (`deliversOnce`).
-/

import Dnc.Distributed.Handoffs
import Dnc.Logic.Window
import Dnc.PyLib.Sorted

namespace Dnc

open PyLib Logic

instance (message : DistributedHandoffMessage) : Decidable message.Decides :=
  inferInstanceAs (Decidable (_ ∨ _ ∨ _))

/-! ### The receiver and its log -/

/-- The set of identifiers and the history hold the same entries: those of the list, in order. -/
structure ShowsEntries (seenIds : Finset String) (history : Dict String ProcessedMessage)
    (listed : List (String × ℚ)) : Prop where
  entries : history.entries.map (fun entry => (entry.1, entry.2.timestamp)) = listed
  seen : seenIds = history.keys.toFinset

namespace ShowsEntries

variable {seenIds : Finset String} {history : Dict String ProcessedMessage}
  {listed : List (String × ℚ)}

theorem keys (shown : ShowsEntries seenIds history listed) :
    history.keys = listed.map Prod.fst := by
  rw [← shown.entries, List.map_map]
  rfl

theorem card (shown : ShowsEntries seenIds history listed) : seenIds.card = listed.length := by
  rw [shown.seen, Dict.card_keys_toFinset, ← shown.entries, List.length_map]

theorem mem (shown : ShowsEntries seenIds history listed) {messageId : String} :
    messageId ∈ seenIds ↔ messageId ∈ history := by
  rw [shown.seen, List.mem_toFinset]
  rfl

theorem insert (shown : ShowsEntries seenIds history listed) {messageId : String}
    (fresh : messageId ∉ seenIds) (result : JsonObject) (now : ℚ) :
    ShowsEntries (Insert.insert messageId seenIds) (history.set messageId ⟨result, now⟩)
      (listed ++ [(messageId, now)]) := by
  have stored := Dict.entries_set_of_fresh (shown.mem.not.mp fresh) (ProcessedMessage.mk result now)
  constructor
  · rw [stored, List.map_append, shown.entries]
    rfl
  · ext other
    rw [Finset.mem_insert, shown.mem, List.mem_toFinset]
    exact Dict.mem_set.symm

theorem eraseFirst {first : String × ℚ} (shown : ShowsEntries seenIds history (first :: listed)) :
    ShowsEntries (seenIds.erase first.1) (history.erase first.1) listed := by
  obtain ⟨oldest, later, split, here, behind⟩ := List.map_eq_cons_iff.mp shown.entries
  have named : oldest.1 = first.1 := congrArg Prod.fst here
  constructor
  · rw [← named, Dict.entries_erase_first split, behind]
  · ext other
    rw [Finset.mem_erase, shown.mem, List.mem_toFinset]
    exact Dict.mem_erase.symm

/-- Entries in order of their times are sorted by them. -/
theorem sortBy_timestamp (shown : ShowsEntries seenIds history listed)
    (increasing : (listed.map Prod.snd).Pairwise (· < ·)) :
    sortBy (fun entry => entry.2.timestamp) history.entries = history.entries := by
  refine sortBy_of_pairwise ?_
  have later := increasing.imp le_of_lt
  rwa [← shown.entries, List.map_map, List.pairwise_map] at later

end ShowsEntries

namespace IdempotentReceiver

/-- The receiver holds the window over a log of identifiers and times. -/
structure Remembers (receiver : IdempotentReceiver) (w : Nat) (log : List (String × ℚ)) : Prop where
  size : receiver.windowSize = w
  shown : ShowsEntries receiver.seenIds receiver.messageHistory (log.rtake w)

theorem remembers_new (w : Nat) : Remembers { windowSize := w } w [] where
  size := rfl
  shown := by
    rw [List.rtake_nil]
    exact ⟨rfl, rfl⟩

variable {receiver : IdempotentReceiver} {w : Nat} {log : List (String × ℚ)}

/-- **Recording a new message moves the window on.** -/
theorem Remembers.record (remembers : receiver.Remembers w log)
    {message : DistributedHandoffMessage} (result : JsonObject) {now : ℚ}
    (isNew : message.messageId ∉ receiver.seenIds)
    (increasing : ((log ++ [(message.messageId, now)]).map Prod.snd).Pairwise (· < ·)) :
    (receiver.record message result now).Remembers w (log ++ [(message.messageId, now)]) := by
  have added := remembers.shown.insert isNew result now
  have inOrder : ((log.rtake w ++ [(message.messageId, now)]).map Prod.snd).Pairwise (· < ·) := by
    refine increasing.sublist (List.Sublist.map _ ?_)
    exact (rtake_suffix w log).sublist.append (List.Sublist.refl _)
  have sorted := added.sortBy_timestamp inOrder
  have width := added.card
  rw [List.length_append, List.length_singleton] at width
  unfold IdempotentReceiver.record
  simp only [if_neg isNew, sorted, width, remembers.size, Int.ofNat_lt]
  by_cases full : w < (log.rtake w).length + 1
  · rw [if_pos full]
    -- the first entry is the oldest, and it goes
    obtain ⟨first, rest, split⟩ := List.exists_cons_of_ne_nil
      (List.concat_ne_nil (message.messageId, now) (log.rtake w))
    rw [split] at added
    obtain ⟨oldest, later, entries, here, -⟩ := List.map_eq_cons_iff.mp added.entries
    have named : oldest.1 = first.1 := congrArg Prod.fst here
    rw [entries]
    refine ⟨rfl, ?_⟩
    rw [rtake_concat, if_pos full, split, List.tail_cons]
    show ShowsEntries (Finset.erase _ oldest.1) (Dict.erase _ oldest.1) rest
    rw [named]
    exact added.eraseFirst
  · rw [if_neg full]
    refine ⟨rfl, ?_⟩
    rw [rtake_concat, if_neg full]
    exact added

end IdempotentReceiver

/-! ### Runs -/

section Runs

variable (env : ProtocolEnv) (receiver : String)

/-- The entry that an event adds to the log of the receiver: a message that decides and was not
remembered is recorded, at the next value of the clock. -/
def recording (entry : HandoffSystem × HandoffEvent) : Option (String × ℚ) :=
  match entry.2 with
  | .initiate .. => none
  | .deliver message through =>
    if through = receiver ∧ message.Decides ∧
        message.messageId ∉ (entry.1.receivers receiver).seenIds then
      some (message.messageId, env.time entry.1.ticks)
    else none

/-- The recordings of a run, the oldest first. -/
def recordings (start : HandoffSystem) (events : List HandoffEvent) : List (String × ℚ) :=
  (trace (handoffStep env) start events).filterMap (recording env receiver)

/-- The identifiers of the recordings. -/
def recordedIds (start : HandoffSystem) (events : List HandoffEvent) : List String :=
  (recordings env receiver start events).map Prod.fst

/-- **Idempotent delivery** through a receiver with a window. -/
structure DeliversOnce (start : HandoffSystem) (w : Nat) (events : List HandoffEvent) : Prop where
  /-- The receiver remembers the most recently recorded distinct identifiers, and no others. -/
  remembers : ((run (handoffStep env) start events).receivers receiver).seenIds =
    ((recordedIds env receiver start events).dedup.rtake w).toFinset
  /-- The history holds what is remembered. -/
  history : ∀ messageId,
    messageId ∈ ((run (handoffStep env) start events).receivers receiver).messageHistory ↔
      messageId ∈ ((run (handoffStep env) start events).receivers receiver).seenIds
  /-- A recorded message that comes again before as many others were recorded changes neither
  participant states nor records. -/
  redelivered : ∀ (message : DistributedHandoffMessage) early late,
    recordedIds env receiver start events = early ++ message.messageId :: late →
    (late.toFinset.erase message.messageId).card < w →
    ((run (handoffStep env) start events).receiveMessage env message receiver).2.coordinator =
      (run (handoffStep env) start events).coordinator
  /-- A message of a type that is not recorded never changes them. -/
  undecided : ∀ message : DistributedHandoffMessage, ¬ message.Decides →
    ((run (handoffStep env) start events).receiveMessage env message receiver).2.coordinator =
      (run (handoffStep env) start events).coordinator

variable {env receiver}

theorem receivers_updateRecord (system : HandoffSystem) (handoffId : String)
    (status : HandoffStatus) :
    (system.updateRecord env handoffId status).receivers = system.receivers := by
  unfold HandoffSystem.updateRecord
  cases system.coordinator.handoffRecords.get? handoffId <;> rfl

variable (env) in
/-- A message that decides and is new is recorded; any other delivery leaves the receivers alone. -/
theorem receivers_receive (system : HandoffSystem) (message : DistributedHandoffMessage)
    (through : String) :
    (message.Decides ∧ message.messageId ∉ (system.receivers through).seenIds ∧
      ∃ result, (system.receiveMessage env message through).2.receivers =
        Function.update system.receivers through
          ((system.receivers through).record message result (env.time system.ticks))) ∨
    (¬ (message.Decides ∧ message.messageId ∉ (system.receivers through).seenIds) ∧
      (system.receiveMessage env message through).2.receivers = system.receivers ∧
      (system.receiveMessage env message through).2.coordinator = system.coordinator) := by
  unfold HandoffSystem.receiveMessage IdempotentReceiver.isDuplicate
  by_cases known : message.messageId ∈ (system.receivers through).seenIds
  · rw [if_pos (decide_eq_true known)]
    exact Or.inr ⟨fun both => both.2 known, rfl, rfl⟩
  · rw [if_neg (by simpa using known)]
    unfold DistributedHandoffMessage.Decides
    cases kind : message.messageType with
    | stateTransfer =>
      refine Or.inl ⟨Or.inl rfl, known, [("status", .str "accepted")], ?_⟩
      exact receivers_updateRecord _ _ _
    | commit =>
      refine Or.inl ⟨Or.inr (Or.inl rfl), known, [("status", .str "committed")], ?_⟩
      exact receivers_updateRecord _ _ _
    | abort =>
      refine Or.inl ⟨Or.inr (Or.inr rfl), known, [("status", .str "aborted")], ?_⟩
      exact receivers_updateRecord _ _ _
    | _ => exact Or.inr ⟨fun both => by simp at both, rfl, rfl⟩

/-- **One event keeps the receiver at the window over its log.** -/
theorem remembers_handoffStep {w : Nat} {log : List (String × ℚ)} {system : HandoffSystem}
    (event : HandoffEvent) (remembers : (system.receivers receiver).Remembers w log)
    (increasing : ((log ++ (recording env receiver (system, event)).toList).map
      Prod.snd).Pairwise (· < ·)) :
    ((handoffStep env system event).receivers receiver).Remembers w
      (log ++ (recording env receiver (system, event)).toList) := by
  cases event with
  | initiate senderNodeId receiverNodeId statePayload provenanceRef stepIndex =>
    show (system.receivers receiver).Remembers w (log ++ [])
    rwa [List.append_nil]
  | deliver message through =>
    have recorded : recording env receiver (system, .deliver message through) =
        if through = receiver ∧ message.Decides ∧
            message.messageId ∉ (system.receivers receiver).seenIds then
          some (message.messageId, env.time system.ticks)
        else none := rfl
    show ((system.receiveMessage env message through).2.receivers receiver).Remembers w _
    rw [recorded] at increasing ⊢
    rcases receivers_receive env system message through with
      ⟨decides, isNew, result, after⟩ | ⟨quiet, after, -⟩
    · rw [after]
      by_cases here : through = receiver
      · subst here
        rw [if_pos ⟨rfl, decides, isNew⟩] at increasing ⊢
        rw [Function.update_self]
        exact remembers.record result isNew increasing
      · rw [if_neg fun all => here all.1, Function.update_of_ne (Ne.symm here), Option.toList_none,
          List.append_nil]
        exact remembers
    · rw [after, if_neg, Option.toList_none, List.append_nil]
      · exact remembers
      · rintro ⟨rfl, both⟩
        exact quiet both

/-- **The receiver holds the window over the recordings of a run.** -/
theorem remembers_run {start : HandoffSystem} {w : Nat} {events : List HandoffEvent}
    (fresh : start.receivers receiver = { windowSize := w })
    (increasing : ((recordings env receiver start events).map Prod.snd).Pairwise (· < ·)) :
    ((run (handoffStep env) start events).receivers receiver).Remembers w
      (recordings env receiver start events) := by
  -- a log whose times increase has prefixes whose times increase
  let P : HandoffSystem → List (String × ℚ) → Prop := fun system log =>
    (log.map Prod.snd).Pairwise (· < ·) → (system.receivers receiver).Remembers w log
  have along : P (run (handoffStep env) start events) ([] ++ recordings env receiver start events) := by
    refine run_observes (P := P) (fun _ => ?_) fun entry _ log held increasing => ?_
    · rw [fresh]
      exact IdempotentReceiver.remembers_new w
    · refine remembers_handoffStep entry.2 (held ?_) increasing
      rw [List.map_append] at increasing
      exact (List.pairwise_append.mp increasing).1
  exact along increasing

end Runs

/-- **Idempotent delivery along every run whose recording times increase.** -/
theorem deliversOnce (env : ProtocolEnv) (receiver : String) (start : HandoffSystem) (w : Nat)
    (fresh : start.receivers receiver = { windowSize := w }) (events : List HandoffEvent)
    (increasing : ((recordings env receiver start events).map Prod.snd).Pairwise (· < ·)) :
    DeliversOnce env receiver start w events := by
  have remembers := remembers_run fresh increasing
  have shown := remembers.shown
  have keys : ((run (handoffStep env) start events).receivers receiver).messageHistory.keys =
      (recordedIds env receiver start events).rtake w := by
    rw [shown.keys, recordedIds, List.rtake, List.rtake, List.map_drop, List.length_map]
  have distinct : ((recordedIds env receiver start events).rtake w).Nodup := keys ▸ Dict.nodup _
  refine ⟨?_, fun messageId => shown.mem.symm, fun message early late split few => ?_,
    fun message quiet => ?_⟩
  · rw [shown.seen, keys, rtake_dedup distinct]
  · have known : message.messageId ∈
        ((run (handoffStep env) start events).receivers receiver).seenIds := by
      rw [shown.seen, keys, List.mem_toFinset]
      exact mem_rtake_of_few distinct split few
    rcases receivers_receive env (run (handoffStep env) start events) message receiver with
      ⟨-, isNew, -⟩ | ⟨-, -, same⟩
    · exact absurd known isNew
    · exact same
  · rcases receivers_receive env (run (handoffStep env) start events) message receiver with
      ⟨decides, -⟩ | ⟨-, -, same⟩
    · exact absurd decides quiet
    · exact same

namespace Sample

/-- Two messages through a receiver that remembers one, the second of them twice. -/
def narrowWindow : HandoffSystem where
  receivers := fun _ => { windowSize := 1 }

def redelivery : List HandoffEvent := [
  .deliver (handoffMessage "msg_1" .stateTransfer) "node_B",
  .deliver (handoffMessage "msg_2" .commit) "node_B",
  .deliver (handoffMessage "msg_2" .commit) "node_B"]

end Sample

theorem deliversOnce_narrow :
    recordedIds Sample.protocolEnv "node_B" Sample.narrowWindow Sample.redelivery =
        ["msg_1", "msg_2"] ∧
      DeliversOnce Sample.protocolEnv "node_B" Sample.narrowWindow 1 Sample.redelivery :=
  ⟨by decide +kernel, deliversOnce Sample.protocolEnv "node_B" Sample.narrowWindow 1 rfl
    Sample.redelivery (by decide +kernel)⟩

end Dnc
