/-
**Tamper evidence of the provenance log.**

`ProvenanceLog.verify_chain` recomputes the hash of every event from its fields and the hash that
the event before it carries. It compares nothing with the log that was appended: neither the number
of events nor the last hash, though the log keeps it.

* `integrityText_inj`: the text that is hashed, though nothing in it is escaped, determines the hash
  before it, since what stands behind that is free of the separator.
* `tamperEvident_iff`: a replacement of the events passes exactly if it keeps the recorded hashes,
  on events that render alike, up to some place, and computes every hash again from there on. So
  where no hash is computed, edited, dropped, exchanged, repeated and inserted events are detected,
  and cutting the log off behind an event is not.
-/

import Dnc.Logic.Chain
import Dnc.Logic.Run
import Dnc.Observability.Provenance
import Dnc.PyLib.JsonText

namespace Dnc

open PyLib Logic

/-- `"0" * 64`. -/
def genesisHash : String := String.ofList (List.replicate 64 '0')

/-- `_compute_hash` of the fields of an event after a hash. -/
def eventHash (sha256 : String → String) (prevHash : String) (event : ProvenanceEvent) : String :=
  sha256 (integrityText event prevHash)

/-- Events of which each carries the hash of its fields and of the hash before it. -/
def HashChain (sha256 : String → String) : String → List ProvenanceEvent → Prop :=
  Linked (Stamped (eventHash sha256) ProvenanceEvent.integrityHash) ProvenanceEvent.integrityHash

/-- The loop of `verify_chain`. -/
def verifyFrom (sha256 : String → String) :
    String → List ProvenanceEvent → Except PyError Bool
  | _, [] => .ok true
  | prevExpected, event :: rest =>
    let expectedHash := eventHash sha256 prevExpected event
    if expectedHash ≠ event.integrityHash then
      .error (.provenanceTamperingViolation
        s!"Integrity hash mismatch at event {event.eventId}. Expected {expectedHash}, got {event.integrityHash}. Chain broken at step_index={optionText (event.stepIndex.map toString)}.")
    else verifyFrom sha256 event.integrityHash rest

/-- `ProvenanceLog.verify_chain`. -/
def ProvenanceLog.verifyChain (sha256 : String → String) (log : ProvenanceLog) :
    Except PyError Bool :=
  if log.events = [] then .ok true else verifyFrom sha256 genesisHash log.events

/-- The arguments of an `append`. -/
structure AppendCall where
  eventType : String
  stepIndex : Option Int
  causalRef : Option String
  payload : List (String × Json)

/-- One `append` as a step. -/
def appendStep (env : ProvenanceEnv) (log : ProvenanceLog) (call : AppendCall) : ProvenanceLog :=
  (log.append env call.eventType call.stepIndex call.causalRef call.payload).2

/-- The log that the calls build. -/
def appendedLog (env : ProvenanceEnv) (executionId : String) (calls : List AppendCall) :
    ProvenanceLog :=
  run (appendStep env) { executionId } calls

/-- An event under another hash. -/
def ProvenanceEvent.withHash (event : ProvenanceEvent) (integrityHash : String) :
    ProvenanceEvent := { event with integrityHash }

/-- The hash that the last of the events carries. -/
def lastHash (events : List ProvenanceEvent) : String :=
  tip ProvenanceEvent.integrityHash genesisHash events

/-- Events with the hashes that `append` computes for them after a hash. -/
def rehashed (sha256 : String → String) (prevHash : String) (events : List ProvenanceEvent) :
    List ProvenanceEvent :=
  sealed (eventHash sha256) ProvenanceEvent.withHash prevHash events

/-- A text without the separator. -/
def Plain (text : String) : Prop := '|' ∉ text.toList

/-- What is taken of SHA-256: no two texts have one digest, and a digest (of hexadecimal digits)
holds no separator. -/
structure CollisionFree (sha256 : String → String) : Prop where
  injective : Function.Injective sha256
  plain : ∀ text, Plain (sha256 text)

/-- Events that carry the same hash and render to the same text. -/
def Alike (event other : ProvenanceEvent) : Prop :=
  event.integrityHash = other.integrityHash ∧ integrityText event "" = integrityText other ""

/-- How a replacement of the recorded events passes: up to some place it keeps the recorded hashes,
on events that render alike, and every event from there on was given the hash that `append` computes
for it, the first of them another one than is recorded there. -/
def Forged (sha256 : String → String) (recorded replaced : List ProvenanceEvent) : Prop :=
  ∃ kept computed, replaced = kept ++ computed ∧
    List.Forall₂ Alike kept (recorded.take kept.length) ∧
    (∀ first ∈ computed.head?, ∀ original ∈ recorded[kept.length]?,
      first.integrityHash ≠ original.integrityHash) ∧
    rehashed sha256 (lastHash kept) computed = computed

/-- **Tamper evidence** for one replacement of the events: whatever differs from them is refused,
and the events themselves are accepted. -/
def TamperEvident (sha256 : String → String) (log : ProvenanceLog)
    (replaced : List ProvenanceEvent) : Prop :=
  (replaced ≠ log.events →
    ∃ error, ({ log with events := replaced }).verifyChain sha256 = .error error) ∧
  (replaced = log.events → ({ log with events := replaced }).verifyChain sha256 = .ok true)

section Text

/-- The parts behind the last separator of two equal texts are equal. -/
theorem split_last {separator : Char} {before before' last last' : List Char}
    (plain : separator ∉ last) (plain' : separator ∉ last')
    (same : before ++ separator :: last = before' ++ separator :: last') :
    before = before' ∧ last = last' := by
  rcases List.append_eq_append_iff.mp same with ⟨more, rfl, rest⟩ | ⟨more, rfl, rest⟩
  · cases more with
    | nil => exact ⟨(List.append_nil _).symm, (List.cons.inj rest).2⟩
    | cons c others =>
      have behind : last = others ++ separator :: last' := (List.cons.inj rest).2
      exact absurd (behind ▸ List.mem_append_right _ List.mem_cons_self) plain
  · cases more with
    | nil => exact ⟨List.append_nil _, (List.cons.inj rest).2.symm⟩
    | cons c others =>
      have behind : last' = others ++ separator :: last := (List.cons.inj rest).2
      exact absurd (behind ▸ List.mem_append_right _ List.mem_cons_self) plain'

/-- The fields before `prev_integrity_hash`. -/
def firstFields (event : ProvenanceEvent) : String :=
  "|".intercalate [
    s!"causal_ref={optionText event.causalRef}",
    s!"event_id={event.eventId}",
    s!"event_type={event.eventType}",
    s!"execution_id={event.executionId}",
    s!"payload={(Json.obj event.payload).pyStr}"]

def stepField (event : ProvenanceEvent) : String :=
  s!"step_index={optionText (event.stepIndex.map toString)}"

def timeField (event : ProvenanceEvent) : String := s!"timestamp={Json.floatText event.timestamp}"

theorem toList_integrityText (event : ProvenanceEvent) (prevHash : String) :
    (integrityText event prevHash).toList =
      (((firstFields event).toList ++ '|' :: ("prev_integrity_hash=".toList ++ prevHash.toList)) ++
        '|' :: (stepField event).toList) ++ '|' :: (timeField event).toList := by
  have joined : integrityText event prevHash = firstFields event ++ "|" ++
      ("prev_integrity_hash=" ++ prevHash) ++ "|" ++ stepField event ++ "|" ++ timeField event :=
    rfl
  have separator : "|".toList = ['|'] := rfl
  rw [joined]
  simp only [String.toList_append, separator, List.append_assoc, List.cons_append, List.nil_append]

/-- The digits of a number hold no separator. -/
theorem plain_toDigits (number : Nat) : '|' ∉ Nat.toDigits 10 number := fun inside =>
  absurd (Nat.isDigit_of_mem_toDigits (by decide) (by decide) inside) (by decide)

theorem plain_timeField (event : ProvenanceEvent) : '|' ∉ (timeField event).toList := by
  have named : (timeField event).toList =
      "timestamp=".toList ++ (Json.floatText event.timestamp).toList :=
    String.toList_append
  have digits : ∀ digit : Fin 10, '|' ≠ Nat.digitChar digit.val := by decide
  rw [named, Json.toList_floatText]
  simp only [List.mem_append, not_or]
  refine ⟨by decide, by split_ifs <;> decide, plain_toDigits _, ?_, ?_⟩
  · unfold Json.fractionChars
    split_ifs
    · exact List.not_mem_nil
    · simp [digits, eq_comm]
  · cases event.timestamp.exponent with
    | none => exact List.not_mem_nil
    | some power =>
      have sign : '|' ≠ if power < 0 then '-' else '+' := by split_ifs <;> decide
      simp [Json.exponentChars, sign, plain_toDigits]

theorem plain_stepField (event : ProvenanceEvent) : '|' ∉ (stepField event).toList := by
  have named : (stepField event).toList =
      "step_index=".toList ++ (optionText (event.stepIndex.map toString)).toList :=
    String.toList_append
  rw [named, List.mem_append, not_or]
  refine ⟨by decide, ?_⟩
  cases event.stepIndex with
  | none => decide
  | some index =>
    show '|' ∉ (toString index).toList
    rw [Json.toList_toString_int, List.mem_append, not_or]
    exact ⟨by split_ifs <;> decide, plain_toDigits _⟩

/-- Equal texts have equal fields behind the hash before the event, and in front of them are equal
as well. -/
theorem split_integrityText {event other : ProvenanceEvent} {prevHash prevHash' : String}
    (same : integrityText event prevHash = integrityText other prevHash') :
    stepField event = stepField other ∧ timeField event = timeField other ∧
      (firstFields event).toList ++ '|' :: ("prev_integrity_hash=".toList ++ prevHash.toList) =
        (firstFields other).toList ++
          '|' :: ("prev_integrity_hash=".toList ++ prevHash'.toList) := by
  have texts := congrArg String.toList same
  rw [toList_integrityText, toList_integrityText] at texts
  obtain ⟨texts, times⟩ := split_last (plain_timeField _) (plain_timeField _) texts
  obtain ⟨texts, steps⟩ := split_last (plain_stepField _) (plain_stepField _) texts
  exact ⟨String.toList_injective steps, String.toList_injective times, texts⟩

/-- Events that render alike after one hash render alike after every hash. -/
theorem integrityText_congr {event other : ProvenanceEvent} {prevHash : String}
    (same : integrityText event prevHash = integrityText other prevHash) (hash : String) :
    integrityText event hash = integrityText other hash := by
  obtain ⟨steps, times, texts⟩ := split_integrityText same
  have fields : (firstFields event).toList = (firstFields other).toList :=
    List.append_cancel_right texts
  apply String.toList_injective
  rw [toList_integrityText, toList_integrityText, steps, times, fields]

/-- **The text determines the hash before the event.** -/
theorem integrityText_inj {event other : ProvenanceEvent} {prevHash prevHash' : String}
    (plain : Plain prevHash) (plain' : Plain prevHash')
    (same : integrityText event prevHash = integrityText other prevHash') :
    prevHash = prevHash' := by
  have named : ∀ {hash : String}, Plain hash →
      '|' ∉ "prev_integrity_hash=".toList ++ hash.toList := by
    intro hash plain inside
    rcases List.mem_append.mp inside with inside | inside
    · exact absurd inside (by decide)
    · exact plain inside
  obtain ⟨-, -, texts⟩ := split_integrityText same
  have hashes := (split_last (named plain) (named plain') texts).2
  exact String.toList_injective (List.append_cancel_left hashes)

end Text

section Chain

variable {sha256 : String → String}

/-- The loop accepts the chains and refuses everything else. -/
theorem verifyFrom_cases (prevHash : String) (events : List ProvenanceEvent) :
    (HashChain sha256 prevHash events ∧
        verifyFrom sha256 prevHash events = .ok true) ∨
      (¬ HashChain sha256 prevHash events ∧
        ∃ error, verifyFrom sha256 prevHash events = .error error) := by
  induction events generalizing prevHash with
  | nil => exact Or.inl ⟨trivial, rfl⟩
  | cons event rest ih =>
    by_cases same : eventHash sha256 prevHash event = event.integrityHash
    · have unfolded : verifyFrom sha256 prevHash (event :: rest) =
          verifyFrom sha256 event.integrityHash rest := by
        simp [verifyFrom, same]
      rw [unfolded]
      rcases ih event.integrityHash with ⟨linked, accepted⟩ | ⟨broken, refused⟩
      · exact Or.inl ⟨⟨same, linked⟩, accepted⟩
      · exact Or.inr ⟨fun linked => broken linked.2, refused⟩
    · refine Or.inr ⟨fun linked => same linked.1, ?_⟩
      simp [verifyFrom, same]

theorem verifyChain_cases (sha256 : String → String) (log : ProvenanceLog) :
    (HashChain sha256 genesisHash log.events ∧
        log.verifyChain sha256 = .ok true) ∨
      (¬ HashChain sha256 genesisHash log.events ∧
        ∃ error, log.verifyChain sha256 = .error error) := by
  unfold ProvenanceLog.verifyChain
  by_cases none : log.events = []
  · rw [if_pos none, none]
    exact Or.inl ⟨trivial, rfl⟩
  · rw [if_neg none]
    exact verifyFrom_cases genesisHash log.events

/-- `append` continues the chain. -/
theorem appendedLog_linked (env : ProvenanceEnv) (executionId : String) (calls : List AppendCall) :
    HashChain env.sha256 genesisHash
      (appendedLog env executionId calls).events := by
  have start : HashChain env.sha256 genesisHash
      ({ executionId } : ProvenanceLog).events := trivial
  have kept : ∀ (log : ProvenanceLog) (call : AppendCall), (log.prevHash = lastHash log.events ∧
      HashChain env.sha256 genesisHash log.events) →
      (appendStep env log call).prevHash = lastHash (appendStep env log call).events ∧
        HashChain env.sha256 genesisHash (appendStep env log call).events := by
    rintro log call ⟨ends, linked⟩
    refine ⟨?_, linked_append.mpr ⟨linked, ?_, trivial⟩⟩
    · simp [lastHash, tip, appendStep, ProvenanceLog.append]
    · show env.sha256 (integrityText _ (lastHash log.events)) = env.sha256 _
      rw [← ends]
      rfl
  exact (run_invariant kept ⟨rfl, start⟩ calls).2


theorem alike_of_link (digest : CollisionFree sha256) {prevHash : String}
    {event other : ProvenanceEvent}
    (same : eventHash sha256 prevHash event = eventHash sha256 prevHash other)
    (carried : event.integrityHash = other.integrityHash) : Alike event other :=
  ⟨carried, integrityText_congr (digest.injective same) ""⟩

theorem Alike.link {event other : ProvenanceEvent} (alike : Alike event other)
    (prevHash : String) : eventHash sha256 prevHash event = eventHash sha256 prevHash other :=
  congrArg sha256 (integrityText_congr alike.2 prevHash)

theorem plain_genesisHash : Plain genesisHash := by
  intro inside
  have zeros : genesisHash.toList = List.replicate 64 '0' := String.toList_ofList
  rw [zeros] at inside
  have zero : '|' = '0' := List.eq_of_mem_replicate inside
  exact absurd zero (by decide)

/-- A digest determines the hash before the event. -/
theorem eventHash_determines (digest : CollisionFree sha256) {prevHash prevHash' : String}
    {event other : ProvenanceEvent} (plain : Plain prevHash) (plain' : Plain prevHash')
    (same : eventHash sha256 prevHash event = eventHash sha256 prevHash' other) :
    prevHash = prevHash' :=
  integrityText_inj plain plain' (digest.injective same)

/-- The chains, against the log. -/
theorem hashChain_iff_forged (digest : CollisionFree sha256) {recorded : List ProvenanceEvent}
    (linked : HashChain sha256 genesisHash recorded) (replaced : List ProvenanceEvent) :
    HashChain sha256 genesisHash replaced ↔ Forged sha256 recorded replaced := by
  have stamped : ∀ (event : ProvenanceEvent) hash, (event.withHash hash).integrityHash = hash :=
    fun _ _ => rfl
  have content : ∀ prevHash (event : ProvenanceEvent) hash,
      eventHash sha256 prevHash (event.withHash hash) = eventHash sha256 prevHash event :=
    fun _ _ _ => rfl
  have restamped : ∀ event : ProvenanceEvent, event.withHash event.integrityHash = event :=
    fun _ => rfl
  exact linked_iff_kept_sealed stamped content restamped (alike_of_link digest) And.left
    (fun alike => alike.link) linked

section Known

variable (digest : CollisionFree sha256) {recorded replaced : List ProvenanceEvent}
  (linked : HashChain sha256 genesisHash recorded)
  (fresh : genesisHash ∉ recorded.map ProvenanceEvent.integrityHash)

include digest linked fresh

/-- Where no hash is computed, only events that render alike with a beginning of the log pass. -/
theorem alike_of_hashes (known : ∀ event ∈ replaced,
      event.integrityHash ∈ recorded.map ProvenanceEvent.integrityHash) :
    HashChain sha256 genesisHash replaced ↔
      List.Forall₂ Alike replaced (recorded.take replaced.length) := by
  have plain : ∀ prevHash event, Plain (eventHash sha256 prevHash event) :=
    fun _ _ => digest.plain _
  constructor
  · intro isChain
    exact kept_of_carried plain (eventHash_determines digest) (alike_of_link digest)
      plain_genesisHash linked isChain fresh known
  · intro alike
    refine (hashChain_iff_forged digest linked replaced).mpr
      ⟨replaced, [], (List.append_nil _).symm, alike, ?_, rfl⟩
    intro first none
    cases none

/-- Of the lists of recorded events, only the beginnings of the log pass. -/
theorem prefix_of_events (known : ∀ event ∈ replaced, event ∈ recorded) :
    HashChain sha256 genesisHash replaced ↔ replaced <+: recorded := by
  have plain : ∀ prevHash event, Plain (eventHash sha256 prevHash event) :=
    fun _ _ => digest.plain _
  constructor
  · intro isChain
    have distinct : (recorded.map ProvenanceEvent.integrityHash).Nodup :=
      nodup_carried plain (eventHash_determines digest) plain_genesisHash linked fresh
    have alike := (alike_of_hashes digest linked fresh fun event isEvent =>
      List.mem_map_of_mem (known event isEvent)).mp isChain
    have same : replaced = recorded.take replaced.length := by
      refine List.ext_get alike.length_eq fun index before after => ?_
      have isEvent := known _ (List.get_mem replaced ⟨index, before⟩)
      have isOriginal := List.mem_of_mem_take
        (List.get_mem (recorded.take replaced.length) ⟨index, after⟩)
      exact List.inj_on_of_nodup_map distinct isEvent isOriginal (alike.get before after).1
    rw [same]
    exact List.take_prefix _ _
  · rintro ⟨rest, rfl⟩
    exact (linked_append.mp linked).1

end Known

/-- What passes, of the replacements of the log's events. -/
theorem tamperEvident_iff_of_chain {log : ProvenanceLog}
    (linked : HashChain sha256 genesisHash log.events) {replaced : List ProvenanceEvent}
    {Passes : Prop} (chains : HashChain sha256 genesisHash replaced ↔ Passes) :
    TamperEvident sha256 log replaced ↔ (replaced ≠ log.events → ¬ Passes) := by
  rw [← chains]
  rcases verifyChain_cases sha256 { log with events := replaced } with
    ⟨isChain, accepted⟩ | ⟨broken, refused⟩
  · constructor
    · intro evident different
      obtain ⟨error, refused⟩ := evident.1 different
      rw [accepted] at refused
      cases refused
    · intro condition
      refine ⟨fun different => absurd isChain (condition different), fun _ => accepted⟩
  · refine iff_of_true ⟨fun _ => refused, fun same => ?_⟩ fun _ => broken
    exact absurd (same.symm ▸ linked) broken

/-- **Tamper evidence.** A replacement that differs from the log is refused exactly unless it is
forged. Where no hash is computed (and the log does not come back to `"0" * 64`), that is: unless
its events render alike with a beginning of the log; and where the events themselves are recorded
ones, exchanged, dropped or repeated: unless it is a beginning of the log. -/
theorem tamperEvident_iff (env : ProvenanceEnv) (digest : CollisionFree env.sha256)
    (executionId : String) (calls : List AppendCall) (replaced : List ProvenanceEvent) :
    let log := appendedLog env executionId calls
    (TamperEvident env.sha256 log replaced ↔
      (replaced ≠ log.events → ¬ Forged env.sha256 log.events replaced)) ∧
    (genesisHash ∉ log.events.map ProvenanceEvent.integrityHash →
      ((∀ event ∈ replaced,
          event.integrityHash ∈ log.events.map ProvenanceEvent.integrityHash) →
        (TamperEvident env.sha256 log replaced ↔ (replaced ≠ log.events →
          ¬ List.Forall₂ Alike replaced (log.events.take replaced.length)))) ∧
      ((∀ event ∈ replaced, event ∈ log.events) →
        (TamperEvident env.sha256 log replaced ↔
          (replaced ≠ log.events → ¬ replaced <+: log.events)))) := by
  intro log
  have linked := appendedLog_linked env executionId calls
  refine ⟨tamperEvident_iff_of_chain linked (hashChain_iff_forged digest linked replaced), ?_⟩
  intro fresh
  constructor
  · intro known
    exact tamperEvident_iff_of_chain linked (alike_of_hashes digest linked fresh known)
  · intro known
    exact tamperEvident_iff_of_chain linked (prefix_of_events digest linked fresh known)

end Chain

namespace Sample

/-- A digest that tells all texts apart: every character as a row of ones. -/
def unaryDigest (text : String) : String :=
  String.ofList (text.toList.flatMap fun c => List.replicate c.toNat '1' ++ ['0'])

theorem unaryDigest_collisionFree : CollisionFree unaryDigest := by
  have rows : ∀ {first second : Nat} {rest rest' : List Char},
      List.replicate first '1' ++ '0' :: rest = List.replicate second '1' ++ '0' :: rest' →
        first = second ∧ rest = rest' := by
    intro first
    induction first with
    | zero =>
      intro second rest rest' same
      cases second with
      | zero => exact ⟨rfl, (List.cons.inj same).2⟩
      | succ second => exact absurd (List.cons.inj same).1 (by decide)
    | succ first ih =>
      intro second rest rest' same
      cases second with
      | zero => exact absurd (List.cons.inj same).1 (by decide)
      | succ second =>
        obtain ⟨lengths, rests⟩ := ih (List.cons.inj same).2
        exact ⟨congrArg _ lengths, rests⟩
  have lists : ∀ first second : List Char,
      (first.flatMap fun c => List.replicate c.toNat '1' ++ ['0']) =
        (second.flatMap fun c => List.replicate c.toNat '1' ++ ['0']) → first = second := by
    intro first
    induction first with
    | nil =>
      intro second same
      cases second with
      | nil => rfl
      | cons c rest => simp at same
    | cons c rest ih =>
      intro second same
      cases second with
      | nil => simp at same
      | cons c' rest' =>
        simp only [List.flatMap_cons, List.append_assoc, List.singleton_append] at same
        obtain ⟨number, others⟩ := rows same
        rw [Char.toNat_inj.mp number, ih rest' others]
  constructor
  · intro first second same
    exact String.toList_injective (lists _ _ (String.ofList_injective same))
  · intro text inside
    rw [unaryDigest, String.toList_ofList, List.mem_flatMap] at inside
    obtain ⟨c, -, inside⟩ := inside
    rcases List.mem_append.mp inside with one | zero
    · exact absurd (List.eq_of_mem_replicate one) (by decide)
    · exact absurd (List.mem_singleton.mp zero) (by decide)

/-- A digest of a text with a separator has ones in it. -/
theorem unaryDigest_ne_genesisHash {text : String} (separated : '|' ∈ text.toList) :
    unaryDigest text ≠ genesisHash := by
  intro same
  have one : '1' ∈ (unaryDigest text).toList := by
    rw [unaryDigest, String.toList_ofList, List.mem_flatMap]
    exact ⟨'|', separated, List.mem_append_left _ (List.mem_replicate.mpr ⟨by decide, rfl⟩)⟩
  have zeros : genesisHash.toList = List.replicate 64 '0' := String.toList_ofList
  rw [same, zeros] at one
  exact absurd (List.eq_of_mem_replicate one) (by decide)

def provenanceEnv : ProvenanceEnv where
  eventId index := toString index
  time _ := ⟨false, 0, [0], none, FloatLit.isFloat_zero⟩
  sha256 := unaryDigest

def begun : AppendCall := ⟨"EXECUTION_BEGIN", none, none, []⟩

def dispatched : AppendCall := ⟨"STEP_DISPATCHED", some 0, some "0", [("module", Json.str "a")]⟩

def twoEvents : ProvenanceLog := appendedLog provenanceEnv "execution" [begun, dispatched]

theorem twoEvents_fresh :
    genesisHash ∉ twoEvents.events.map ProvenanceEvent.integrityHash := by
  have digested : ∀ hash ∈ twoEvents.events.map ProvenanceEvent.integrityHash,
      ∃ event prevHash, hash = unaryDigest (integrityText event prevHash) := by
    intro hash isHash
    rcases List.mem_cons.mp isHash with rfl | isHash
    · exact ⟨_, _, rfl⟩
    · rw [List.mem_singleton.mp isHash]
      exact ⟨_, _, rfl⟩
  intro again
  obtain ⟨event, prevHash, same⟩ := digested _ again
  refine unaryDigest_ne_genesisHash ?_ same.symm
  rw [toList_integrityText]
  exact List.mem_append_right _ List.mem_cons_self

end Sample

/-- Two events in the other order are detected. -/
theorem exchange_detected :
    TamperEvident Sample.provenanceEnv.sha256 Sample.twoEvents Sample.twoEvents.events.reverse := by
  refine ((tamperEvident_iff Sample.provenanceEnv Sample.unaryDigest_collisionFree "execution"
    [Sample.begun, Sample.dispatched] Sample.twoEvents.events.reverse).2
      Sample.twoEvents_fresh).2 (fun event isEvent => List.mem_reverse.mp isEvent) |>.mpr ?_
  intro _ begins
  have same := begins.eq_of_length List.length_reverse
  have identifiers := congrArg (List.map ProvenanceEvent.eventId) same
  exact absurd identifiers (by decide)

/-- The first of two events passes for the log of both. -/
theorem truncation_undetected : CollisionFree Sample.provenanceEnv.sha256 ∧
    ¬ TamperEvident Sample.provenanceEnv.sha256 Sample.twoEvents
      (Sample.twoEvents.events.take 1) := by
  refine ⟨Sample.unaryDigest_collisionFree, fun evident => ?_⟩
  have linked := linked_take (appendedLog_linked Sample.provenanceEnv "execution"
    [Sample.begun, Sample.dispatched]) 1
  obtain ⟨error, refused⟩ := evident.1 fun same =>
    absurd (congrArg (List.map ProvenanceEvent.eventId) same) (by decide)
  rcases verifyChain_cases Sample.provenanceEnv.sha256
    { Sample.twoEvents with events := Sample.twoEvents.events.take 1 } with
    ⟨-, accepted⟩ | ⟨broken, -⟩
  · rw [accepted] at refused
    cases refused
  · exact broken linked

end Dnc
