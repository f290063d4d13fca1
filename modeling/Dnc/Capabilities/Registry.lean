/-
**Capabilities.**

`dnc.capabilities`: the card of a capability and the registry of cards, as far as the broker, the
adapters and the admission of semantic candidates read them. A card is available when it is
registered, not disabled, ACTIVE, not known to be unhealthy and not expired. The registry holds
every card under its own identifier, which the structure carries.
-/

import Dnc.Cognition.Contracts
import Dnc.PyLib.Number

namespace Dnc.Capabilities

open PyLib Cognition

inductive CognitiveActionType where
  | reason | continue_ | branch | verify | retrieve | observeOrTest | ask | repair | reuseSkill
  | restructure | escalate | resume | stop | abstain
deriving DecidableEq, Repr

instance : PyEnum CognitiveActionType where
  name := "CognitiveActionType"
  members := [.reason, .continue_, .branch, .verify, .retrieve, .observeOrTest, .ask, .repair,
    .reuseSkill, .restructure, .escalate, .resume, .stop, .abstain]
  value
    | .reason => "REASON"
    | .continue_ => "CONTINUE"
    | .branch => "BRANCH"
    | .verify => "VERIFY"
    | .retrieve => "RETRIEVE"
    | .observeOrTest => "OBSERVE_OR_TEST"
    | .ask => "ASK"
    | .repair => "REPAIR"
    | .reuseSkill => "REUSE_SKILL"
    | .restructure => "RESTRUCTURE"
    | .escalate => "ESCALATE"
    | .resume => "RESUME"
    | .stop => "STOP"
    | .abstain => "ABSTAIN"

inductive CapabilityLifecycle where
  | draft | active | degraded | suspended | retired
deriving DecidableEq, Repr

inductive HealthStatus where
  | unknown | healthy | degraded | unhealthy
deriving DecidableEq, Repr

inductive CapabilityFeature where
  | streaming | structuredOutput | toolCalling | cancellation | usage | deterministic
  | humanApproval | «local»
deriving DecidableEq, Repr

instance : PyEnum CapabilityFeature where
  name := "CapabilityFeature"
  members := [.streaming, .structuredOutput, .toolCalling, .cancellation, .usage, .deterministic,
    .humanApproval, .local]
  value
    | .streaming => "STREAMING"
    | .structuredOutput => "STRUCTURED_OUTPUT"
    | .toolCalling => "TOOL_CALLING"
    | .cancellation => "CANCELLATION"
    | .usage => "USAGE"
    | .deterministic => "DETERMINISTIC"
    | .humanApproval => "HUMAN_APPROVAL"
    | .local => "LOCAL"

section Registry

variable {R : Type} [FloatOps R]

/-- The fields of a card that its check, its registry, the broker and the admission read. -/
structure CapabilityCardData (R : Type) [FloatOps R] where
  capabilityId : String
  name : String
  providerId : String
  providerVersion : String
  modelId : String
  supportedActions : Finset CognitiveActionType
  riskLimit : RiskClass
  features : Finset CapabilityFeature := ∅
  permissions : Finset String := ∅
  calibrationDomains : Finset String := ∅
  locality : String := "remote"
  competence : R := 0.0
  costPerCall : R := 0.0
  latencyMs : Int := 0
  maxTokens : Option Int := none
  maxParallelism : Int := 1
  lifecycle : CapabilityLifecycle := .active
  health : HealthStatus := .unknown
  expiresAtNs : Option Int := none
  fingerprint : String := ""
deriving DecidableEq

/-- `CapabilityCard.__post_init__`. -/
def CapabilityCardData.violation (data : CapabilityCardData R) : Option PyError :=
  if data.capabilityId = "" then some (.valueError "capability_id MUST be non-empty")
  else if data.name = "" then some (.valueError "name MUST be non-empty")
  else if data.providerId = "" then some (.valueError "provider_id MUST be non-empty")
  else if data.providerVersion = "" then some (.valueError "provider_version MUST be non-empty")
  else if data.modelId = "" then some (.valueError "model_id MUST be non-empty")
  else if data.supportedActions = ∅ then
    some (.valueError "supported_actions MUST be non-empty")
  else if ¬ (((0 : Int) : R) ≤ data.competence ∧ data.competence ≤ ((1 : Int) : R)) then
    some (.valueError "competence MUST be between 0 and 1")
  else if data.costPerCall < ((0 : Int) : R) ∨ data.latencyMs < 0 then
    some (.valueError "cost and latency MUST be non-negative")
  else if ∃ tokens ∈ data.maxTokens, tokens ≤ 0 then
    some (.valueError "max_tokens MUST be positive")
  else if data.maxParallelism ≤ 0 then some (.valueError "max_parallelism MUST be positive")
  else none

variable (R) in
structure CapabilityCard extends CapabilityCardData R where
  valid : toCapabilityCardData.violation = none
deriving DecidableEq

instance decidableEqCard {S : Type} [PyFloat S] : DecidableEq (CapabilityCard S) := inferInstance

instance lawfulCard {S : Type} [PyFloat S] : LawfulBEq (CapabilityCard S) := inferInstance

theorem CapabilityCard.named (card : CapabilityCard R) : card.capabilityId ≠ "" := by
  intro unnamed
  have valid := card.valid
  rw [CapabilityCardData.violation, if_pos unnamed] at valid
  cases valid

theorem CapabilityCard.isNumber_competence (card : CapabilityCard R) :
    IsNumber card.competence := by
  have valid := card.valid
  unfold CapabilityCardData.violation at valid
  simp only [Logic.check_eq_none] at valid
  obtain ⟨-, -, -, -, -, -, bounded, -⟩ := valid
  exact (FloatOps.numbers (not_not.mp bounded).1).2

/-- `CapabilityCard.is_expired`. -/
def CapabilityCard.isExpired (card : CapabilityCard R) (nowNs : Int) : Prop :=
  ∃ expiry ∈ card.expiresAtNs, expiry ≤ nowNs

instance (card : CapabilityCard R) (nowNs : Int) : Decidable (card.isExpired nowNs) :=
  inferInstanceAs (Decidable (∃ expiry ∈ card.expiresAtNs, expiry ≤ nowNs))

/-- `ModelChangeEvent`. -/
structure ModelChangeEvent where
  capabilityId : String
  previousFingerprint : String
  currentFingerprint : String

theorem keyed_empty (capabilityId : String) (card : CapabilityCard R)
    (found : (∅ : Dict String (CapabilityCard R)).get? capabilityId = some card) :
    card.capabilityId = capabilityId :=
  nomatch found

variable (R) in
structure CapabilityRegistry where
  cards : Dict String (CapabilityCard R) := ∅
  keyed : ∀ capabilityId card, cards.get? capabilityId = some card →
    card.capabilityId = capabilityId := by exact Capabilities.keyed_empty
  disabled : Finset String := ∅

namespace CapabilityRegistry

variable (registry : CapabilityRegistry R)

/-- `CapabilityRegistry.get`. -/
def get (capabilityId : String) : Option (CapabilityCard R) := registry.cards.get? capabilityId

/-- `CapabilityRegistry.get` for a value from outside, which may have no hash. -/
def getValue (value : Json) : Except PyError (Option (CapabilityCard R)) :=
  match value with
  | .str capabilityId => .ok (registry.get capabilityId)
  | other =>
    if other.hashable then .ok none
    else .error (.typeError s!"unhashable type: '{other.typeName}'")

/-- `CapabilityRegistry.all`. -/
def all : List (CapabilityCard R) := (sortBy id registry.cards.keys).filterMap registry.cards.get?

/-- The conditions of `available` on a card. -/
def serves (nowNs : Int) (card : CapabilityCard R) : Prop :=
  card.capabilityId ∉ registry.disabled ∧ card.lifecycle = .active ∧
    card.health ∈ [HealthStatus.healthy, .unknown] ∧ ¬ card.isExpired nowNs

instance (nowNs : Int) : DecidablePred (registry.serves nowNs) :=
  fun _ => inferInstanceAs (Decidable (_ ∧ _))

/-- `CapabilityRegistry.available` at a reading of the clock. -/
def available (nowNs : Int) : List (CapabilityCard R) :=
  registry.all.filter fun card => registry.serves nowNs card

/-- `CapabilityRegistry.register`, with the event that the change listeners receive. -/
def register (card : CapabilityCard R) : CapabilityRegistry R × Option ModelChangeEvent :=
  let updated : CapabilityRegistry R :=
    { registry with
      cards := registry.cards.set card.capabilityId card
      keyed := by
        intro capabilityId other found
        rw [Dict.get?_set] at found
        split_ifs at found with same
        · cases found
          exact same.symm
        · exact registry.keyed capabilityId other found }
  match registry.get card.capabilityId with
  | none => (updated, none)
  | some previous =>
    if previous.fingerprint ≠ card.fingerprint then
      (updated, some ⟨card.capabilityId, previous.fingerprint, card.fingerprint⟩)
    else (updated, none)

end CapabilityRegistry

end Registry

end Dnc.Capabilities
