/-
**Causal chains of the provenance log.**

`ProvenanceLog.query_causal_chain` follows the causal references of an event through the index of
the log. Its loop has no bound of its own, so it runs on fuel here.

In a *traceable* log the index finds every event by its identifier, and every reference names an
earlier event. `append` keeps a log traceable where identifiers are fresh and the cause is in the
log (`append_traceable`); in such a log the query of a chain of events returns that chain
(`causalChain_of_linked`).
-/

import Dnc.Logic.Chain
import Dnc.Observability.Provenance

namespace Dnc

open PyLib Logic

/-- The loop of `query_causal_chain`; `none` is that the fuel ran out. -/
def causalChainLoop (log : ProvenanceLog) :
    Nat → List ProvenanceEvent → Option String → Option (Except PyError (List ProvenanceEvent))
  | _, chain, none => some (.ok chain.reverse)
  | 0, _, some _ => none
  | fuel + 1, chain, some currentId =>
    match log.eventIndex.get? currentId with
    | none =>
      some (.error (.causalChainBroken
        s!"Causal chain broken: event {currentId} not found in provenance log"))
    | some event => causalChainLoop log fuel (chain ++ [event]) event.causalRef

/-- `ProvenanceLog.query_causal_chain`. -/
def ProvenanceLog.queryCausalChain (fuel : Nat) (log : ProvenanceLog) (eventId : String) :
    Option (Except PyError (List ProvenanceEvent)) :=
  causalChainLoop log fuel [] (some eventId)

/-- The query of an event ends, and returns the chain. -/
def ProvenanceLog.CausalChainIs (log : ProvenanceLog) (eventId : String)
    (chain : List ProvenanceEvent) : Prop :=
  ∃ enough, ∀ fuel, enough ≤ fuel → log.queryCausalChain fuel eventId = some (.ok chain)

/-- Every causal reference names an event that comes before. -/
def ReferencesResolve (events : List ProvenanceEvent) : Prop :=
  ∀ before event after, events = before ++ event :: after →
    ∀ ref, event.causalRef = some ref → ∃ cause ∈ before, cause.eventId = ref

/-- A log whose index finds every event and whose references resolve. -/
structure Traceable (env : ProvenanceEnv) (log : ProvenanceLog) : Prop where
  numbered : ∀ index event, log.events[index]? = some event → event.eventId = env.eventId index
  indexed : ∀ event ∈ log.events, log.eventIndex.get? event.eventId = some event
  resolve : ReferencesResolve log.events

/-- Events of which each names the one before it as its cause. -/
def CausalChain : Option String → List ProvenanceEvent → Prop :=
  Linked (fun cause event => event.causalRef = cause) fun event => some event.eventId

/-- The reference to the last of the events. -/
def lastRef (cause : Option String) (events : List ProvenanceEvent) : Option String :=
  tip (fun event : ProvenanceEvent => some event.eventId) cause events

theorem traceable_empty (env : ProvenanceEnv) (executionId : String) :
    Traceable env { executionId } where
  numbered _ _ found := nomatch found
  indexed _ member := absurd member List.not_mem_nil
  resolve before event after split := by simp at split

section Append

variable {env : ProvenanceEnv} {log : ProvenanceLog}

theorem ReferencesResolve.append_event {events : List ProvenanceEvent} {event : ProvenanceEvent}
    (resolve : ReferencesResolve events)
    (known : ∀ ref, event.causalRef = some ref → ∃ cause ∈ events, cause.eventId = ref) :
    ReferencesResolve (events ++ [event]) := by
  intro before other after split ref names
  rcases List.eq_nil_or_concat after with rfl | ⟨later, last, rfl⟩
  · obtain ⟨rfl, same⟩ := List.append_inj' split rfl
    obtain rfl : event = other := List.head_eq_of_cons_eq same
    exact known ref names
  · rw [List.concat_eq_append] at split
    have inside : events ++ [event] = (before ++ other :: later) ++ [last] := by
      rw [split]
      simp
    obtain ⟨rfl, -⟩ := List.append_inj' inside rfl
    exact resolve before other later rfl ref names

theorem append_eq {next : ProvenanceLog} {event : ProvenanceEvent} {eventType : String}
    {stepIndex : Option Int} {causalRef : Option String} {payload : List (String × Json)}
    (appended : log.append env eventType stepIndex causalRef payload = (event, next)) :
    event.eventType = eventType ∧ event.causalRef = causalRef ∧ event.payload = payload ∧
      next.events = log.events ++ [event] := by
  obtain ⟨rfl, rfl⟩ : (log.append env eventType stepIndex causalRef payload).1 = event ∧
      (log.append env eventType stepIndex causalRef payload).2 = next :=
    ⟨congrArg Prod.fst appended, congrArg Prod.snd appended⟩
  exact ⟨rfl, rfl, rfl, rfl⟩

/-- **`append` keeps a log traceable.** -/
theorem append_traceable (fresh : Function.Injective env.eventId) (traceable : Traceable env log)
    (eventType : String) (stepIndex : Option Int) {causalRef : Option String}
    (payload : List (String × Json))
    (known : ∀ ref, causalRef = some ref → ∃ cause ∈ log.events, cause.eventId = ref) :
    Traceable env (log.append env eventType stepIndex causalRef payload).2 := by
  have old : ∀ event ∈ log.events, event.eventId ≠ env.eventId log.events.length := by
    intro event member same
    obtain ⟨index, within, rfl⟩ := List.mem_iff_getElem.mp member
    rw [traceable.numbered index _ (List.getElem?_eq_getElem within)] at same
    exact absurd (fresh same) (Nat.ne_of_lt within)
  refine ⟨fun index event found => ?_, fun event member => ?_, ?_⟩
  · have found : (log.events ++ [(log.append env eventType stepIndex causalRef payload).1])[index]? =
        some event := found
    rcases Nat.lt_trichotomy index log.events.length with within | rfl | beyond
    · rw [List.getElem?_append_left within] at found
      exact traceable.numbered index event found
    · rw [List.getElem?_concat_length] at found
      cases found
      rfl
    · rw [List.getElem?_eq_none (by simp; omega)] at found
      cases found
  · show (log.eventIndex.set (env.eventId log.events.length) _).get? event.eventId = some event
    rcases List.mem_append.mp member with earlier | last
    · rw [Dict.get?_set_of_ne _ (old event earlier)]
      exact traceable.indexed event earlier
    · rw [List.mem_singleton.mp last]
      exact Dict.get?_set_self _ _ _
  · exact traceable.resolve.append_event known

/-- **The query of the end of a chain returns the chain.** -/
theorem causalChain_of_linked (indexed : ∀ event ∈ log.events,
      log.eventIndex.get? event.eventId = some event)
    {chain : List ProvenanceEvent} (linked : CausalChain none chain)
    (listed : ∀ event ∈ chain, event ∈ log.events) (rest : List ProvenanceEvent) {fuel : Nat}
    (enough : chain.length ≤ fuel) :
    causalChainLoop log fuel rest (lastRef none chain) = some (.ok (chain ++ rest.reverse)) := by
  induction chain using List.reverseRecOn generalizing rest fuel with
  | nil =>
    show causalChainLoop log fuel rest none = _
    rw [causalChainLoop, List.nil_append]
  | append_singleton earlier event ih =>
    obtain ⟨first, cause⟩ := linked_append_singleton.mp linked
    obtain ⟨fuel, rfl⟩ : ∃ less, fuel = less + 1 := by
      rw [List.length_append, List.length_singleton] at enough
      exact ⟨fuel - 1, by omega⟩
    have member : event ∈ log.events :=
      listed event (List.mem_append_right _ (List.mem_singleton_self _))
    have remaining : earlier.length ≤ fuel := by
      simpa using enough
    rw [lastRef, tip_append_singleton, causalChainLoop, indexed event member]
    show causalChainLoop log fuel (rest ++ [event]) event.causalRef = _
    have cause : event.causalRef = lastRef none earlier := cause
    rw [cause, ih first (fun other within => listed other (List.mem_append_left _ within))
      (rest ++ [event]) remaining, List.reverse_append, List.append_assoc]
    rfl

/-- The query of the last event of a chain of the log. -/
theorem Traceable.causalChainIs (traceable : Traceable env log) {earlier : List ProvenanceEvent}
    {event : ProvenanceEvent} (linked : CausalChain none (earlier ++ [event]))
    (listed : ∀ other ∈ earlier ++ [event], other ∈ log.events) :
    log.CausalChainIs event.eventId (earlier ++ [event]) := by
  refine ⟨(earlier ++ [event]).length, fun fuel enough => ?_⟩
  have returned := causalChain_of_linked traceable.indexed linked listed [] enough
  rw [lastRef, tip_append_singleton] at returned
  rw [ProvenanceLog.queryCausalChain, returned, List.reverse_nil, List.append_nil]

end Append

end Dnc
