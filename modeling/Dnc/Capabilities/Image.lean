/-
**The image of a capability registry.**

`CapabilityRegistry.snapshot_state` writes the cards and the disabled identifiers as JSON, and
`restore_state` reads them back. What it reads is not typed: the constructor of a card looks at the
truth value of the names and at the ranges of the numbers, so that an identifier, a permission or a
calibration domain may be any value with a hash. Writing sorts the identifiers and the two sets of
each card, which raises where their elements do not compare.

`snapshotState_iff`: a registry is written exactly when they compare (`Sortable`).
`restoreState_snapshotState`: what was written is restored as the same cards, up to the canonical
form of their metadata, and the same disabled identifiers.
-/

import Dnc.Capabilities.Registry
import Dnc.Cognition.Reimport
import Dnc.Ir.Upgrade

namespace Dnc.Capabilities

open PyLib Logic
open Cognition (RiskClass canonicalData canonicalData_canonical)

instance : PyEnum CapabilityLifecycle where
  name := "CapabilityLifecycle"
  members := [.draft, .active, .degraded, .suspended, .retired]
  value
    | .draft => "DRAFT"
    | .active => "ACTIVE"
    | .degraded => "DEGRADED"
    | .suspended => "SUSPENDED"
    | .retired => "RETIRED"

instance : PyEnum HealthStatus where
  name := "HealthStatus"
  members := [.unknown, .healthy, .degraded, .unhealthy]
  value
    | .unknown => "UNKNOWN"
    | .healthy => "HEALTHY"
    | .degraded => "DEGRADED"
    | .unhealthy => "UNHEALTHY"

/-! ### Cards -/

/-- `0.0`. -/
def floatZero : Json := .float ⟨false, 0, [0], none, FloatLit.isFloat_zero⟩

/-- The fields of a `CapabilityCard` that is built from an image. -/
structure StoredCardData where
  capabilityId : Json
  name : Json
  providerId : Json
  providerVersion : Json
  modelId : Json
  supportedActions : Finset CognitiveActionType
  riskLimit : RiskClass
  features : Finset CapabilityFeature := ∅
  permissions : PySet := ∅
  calibrationDomains : PySet := ∅
  locality : Json := .str "remote"
  competence : Json := floatZero
  costPerCall : Json := floatZero
  latencyMs : Json := .int 0
  maxTokens : Json := .null
  maxParallelism : Json := .int 1
  lifecycle : CapabilityLifecycle := .active
  health : HealthStatus := .unknown
  expiresAtNs : Json := .null
  fingerprint : Json := .str ""
  failureModes : List Json := []
  metadata : PyData := .dict []

def requireNamed (name : String) (value : Json) : Except PyError Unit :=
  if value.truthy then .ok () else .error (.valueError s!"{name} MUST be non-empty")

/-- The number in a comparison, `shown` being the exception for a value of another type. -/
def comparand (value : Json) (shown : String → String) : Except PyError ℚ :=
  match value.number? with
  | some number => .ok number
  | none => .error (.typeError (shown value.typeName))

/-- `CapabilityCard.__post_init__`. -/
def StoredCardData.check (data : StoredCardData) : Except PyError Unit := do
  requireNamed "capability_id" data.capabilityId
  requireNamed "name" data.name
  requireNamed "provider_id" data.providerId
  requireNamed "provider_version" data.providerVersion
  requireNamed "model_id" data.modelId
  if data.supportedActions = ∅ then throw (.valueError "supported_actions MUST be non-empty")
  let competence ← comparand data.competence fun given =>
    s!"'<=' not supported between instances of 'float' and '{given}'"
  if ¬ (0 ≤ competence ∧ competence ≤ 1) then
    throw (.valueError "competence MUST be between 0 and 1")
  let below (given : String) := s!"'<' not supported between instances of '{given}' and 'int'"
  if (← comparand data.costPerCall below) < 0 then
    throw (.valueError "cost and latency MUST be non-negative")
  if (← comparand data.latencyMs below) < 0 then
    throw (.valueError "cost and latency MUST be non-negative")
  let atMost (given : String) := s!"'<=' not supported between instances of '{given}' and 'int'"
  if data.maxTokens ≠ .null then
    if (← comparand data.maxTokens atMost) ≤ 0 then
      throw (.valueError "max_tokens MUST be positive")
  if (← comparand data.maxParallelism atMost) ≤ 0 then
    throw (.valueError "max_parallelism MUST be positive")

structure StoredCard extends StoredCardData where
  checked : toStoredCardData.check = .ok ()

/-- The constructor call. -/
def StoredCard.ofData (data : StoredCardData) : Except PyError StoredCard :=
  match checked : data.check with
  | .ok () => .ok ⟨data, checked⟩
  | .error error => .error error

theorem StoredCard.ofData_eq_ok {data : StoredCardData} {card : StoredCard} :
    StoredCard.ofData data = .ok card ↔ card.toStoredCardData = data := by
  unfold StoredCard.ofData
  constructor
  · intro made
    split at made
    · cases made
      rfl
    · cases made
  · rintro rfl
    split
    · rfl
    · rename_i error failed
      rw [card.checked] at failed
      cases failed

/-- The entry that `snapshot_state` writes for a card. -/
def encodeCard (card : StoredCard) : Except PyError Json := do
  let permissions ← card.permissions.sorted
  let calibrationDomains ← card.calibrationDomains.sorted
  return .obj [
    ("capability_id", card.capabilityId), ("name", card.name), ("provider_id", card.providerId),
    ("provider_version", card.providerVersion), ("model_id", card.modelId),
    ("supported_actions", sortedTexts (card.supportedActions.image PyEnum.value)),
    ("risk_limit", enumText card.riskLimit),
    ("features", sortedTexts (card.features.image PyEnum.value)),
    ("permissions", .arr permissions), ("calibration_domains", .arr calibrationDomains),
    ("locality", card.locality), ("competence", card.competence),
    ("cost_per_call", card.costPerCall), ("latency_ms", card.latencyMs),
    ("max_tokens", card.maxTokens), ("max_parallelism", card.maxParallelism),
    ("lifecycle", enumText card.lifecycle), ("health", enumText card.health),
    ("expires_at_ns", card.expiresAtNs), ("fingerprint", card.fingerprint),
    ("failure_modes", .arr card.failureModes), ("metadata", canonicalData card.metadata)]

/-- The card that `restore_state` builds of an entry. -/
def decodeCard (raw : Json) : Except PyError StoredCard :=
  match raw with
  | .obj _ => do
    let capabilityId ← raw.getItem "capability_id"
    let name ← raw.getItem "name"
    let providerId ← raw.getItem "provider_id"
    let providerVersion ← raw.getItem "provider_version"
    let modelId ← raw.getItem "model_id"
    let supportedActions ← (← (← raw.getItem "supported_actions").iterate).mapM PyEnum.parse
    let riskLimit ← decodeEnum raw "risk_limit"
    let features ← (← decodeItems raw "features").mapM PyEnum.parse
    let permissions ← PySet.ofList (← decodeItems raw "permissions")
    let calibrationDomains ← PySet.ofList (← decodeItems raw "calibration_domains")
    StoredCard.ofData {
      capabilityId, name, providerId, providerVersion, modelId, riskLimit, permissions,
      calibrationDomains
      supportedActions := supportedActions.toFinset
      features := features.toFinset
      locality := ← raw.getD "locality" (.str "remote")
      competence := ← raw.getD "competence" floatZero
      costPerCall := ← raw.getD "cost_per_call" floatZero
      latencyMs := ← raw.getD "latency_ms" (.int 0)
      maxTokens := ← raw.getD "max_tokens" .null
      maxParallelism := ← raw.getD "max_parallelism" (.int 1)
      lifecycle := ← decodeEnumD raw "lifecycle" .active
      health := ← decodeEnumD raw "health" .unknown
      expiresAtNs := ← raw.getD "expires_at_ns" .null
      fingerprint := ← raw.getD "fingerprint" (.str "")
      failureModes := ← decodeItems raw "failure_modes"
      metadata := .ofJson (← raw.getD "metadata" (.obj [])) }
  | _ => .error (.valueError "capability registry card MUST be an object")

/-! ### A card comes back -/

/-- The same card, up to the order of the sets and the canonical form of the metadata. -/
structure StoredCard.Same (first second : StoredCard) : Prop where
  fields : { first.toStoredCardData with permissions := ∅, calibrationDomains := ∅, metadata := .null } =
    { second.toStoredCardData with permissions := ∅, calibrationDomains := ∅, metadata := .null }
  permissions : PySet.Same first.permissions second.permissions
  calibrationDomains : PySet.Same first.calibrationDomains second.calibrationDomains
  metadata : canonicalData first.metadata = canonicalData second.metadata

theorem StoredCard.Same.trans {first second third : StoredCard} (here : first.Same second)
    (later : second.Same third) : first.Same third where
  fields := here.fields.trans later.fields
  permissions := here.permissions.trans later.permissions
  calibrationDomains := here.calibrationDomains.trans later.calibrationDomains
  metadata := here.metadata.trans later.metadata

theorem StoredCard.Same.capabilityId {first second : StoredCard} (same : first.Same second) :
    first.capabilityId = second.capabilityId := by
  have fields := congrArg StoredCardData.capabilityId same.fields
  exact fields

theorem encodeCard_eq_ok {card : StoredCard} {document : Json} (encoded : encodeCard card = .ok document) :
    ∃ permissions calibrationDomains, card.permissions.sorted = .ok permissions ∧
      card.calibrationDomains.sorted = .ok calibrationDomains := by
  obtain ⟨permissions, sortsPermissions, encoded⟩ := bind_eq_ok.mp encoded
  obtain ⟨calibrationDomains, sortsDomains, -⟩ := bind_eq_ok.mp encoded
  exact ⟨permissions, calibrationDomains, sortsPermissions, sortsDomains⟩

/-- **A written card is read back.** -/
theorem decodeCard_encodeCard {card : StoredCard} {document : Json}
    (encoded : encodeCard card = .ok document) :
    ∃ decoded, decodeCard document = .ok decoded ∧ decoded.Same card := by
  obtain ⟨permissions, sortsPermissions, encoded⟩ := bind_eq_ok.mp encoded
  obtain ⟨calibrationDomains, sortsDomains, encoded⟩ := bind_eq_ok.mp encoded
  obtain rfl := Except.ok.inj encoded
  obtain ⟨allowed, rebuildsPermissions, samePermissions⟩ :=
    PySet.ofList_perm (PySet.sorted_perm sortsPermissions)
  obtain ⟨domains, rebuildsDomains, sameDomains⟩ :=
    PySet.ofList_perm (PySet.sorted_perm sortsDomains)
  obtain ⟨actions, parsesActions, sameActions⟩ := mapM_parse_sorted card.supportedActions
  obtain ⟨features, parsesFeatures, sameFeatures⟩ := mapM_parse_sorted card.features
  -- the constructor does not look at what may differ
  have checked : StoredCardData.check { card.toStoredCardData with
      permissions := allowed
      calibrationDomains := domains
      metadata := .ofJson (canonicalData card.metadata) } = .ok () := card.checked
  refine ⟨⟨_, checked⟩, ?_, ⟨rfl, samePermissions, sameDomains, canonicalData_canonical _⟩⟩
  have iterate_arr : ∀ items, (Json.arr items).iterate = .ok items := fun _ => rfl
  simp only [decodeCard, decodeItems, decodeEnum, decodeEnumD, Json.getItem, Json.getD,
    List.lookup_cons, String.reduceBEq, bind, Except.bind, Option.getD_some, parse_enumText,
    iterate_sortedTexts, iterate_arr, parsesActions, parsesFeatures, rebuildsPermissions,
    rebuildsDomains, sameActions, sameFeatures]
  exact StoredCard.ofData_eq_ok.mpr rfl

/-! ### The registry -/

theorem hashed_nil : ∀ card ∈ ([] : List StoredCard), card.capabilityId.hashable = true := by simp

theorem distinct_nil :
    (([] : List StoredCard).map fun card => card.capabilityId.pyNormal).Nodup := by simp

/-- A dictionary of cards by their identifiers, in the order of its entries. -/
structure CardTable where
  cards : List StoredCard := []
  hashed : ∀ card ∈ cards, card.capabilityId.hashable = true := by exact Capabilities.hashed_nil
  distinct : (cards.map fun card => card.capabilityId.pyNormal).Nodup := by
    exact Capabilities.distinct_nil

/-- The keys of the dictionary. -/
def CardTable.ids (table : CardTable) : PySet where
  elems := table.cards.map fun card => card.capabilityId
  hashable := by
    intro elem member
    obtain ⟨card, listed, rfl⟩ := List.mem_map.mp member
    exact table.hashed card listed
  distinct := by
    rw [List.map_map]
    exact table.distinct

/-- The body of the loop of `restore_state`, after the card was built. -/
def CardTable.add (table : CardTable) (card : StoredCard) : Except PyError CardTable :=
  if hashed : card.capabilityId.hashable = true then
    if fresh : table.ids.contains card.capabilityId = false then
      .ok {
        cards := table.cards ++ [card]
        hashed := by
          intro other member
          rcases List.mem_append.mp member with old | new
          · exact table.hashed other old
          · rw [List.mem_singleton.mp new]
            exact hashed
        distinct := by
          rw [List.map_append, List.map_singleton]
          refine List.nodup_append.mpr ⟨table.distinct, List.nodup_singleton _, ?_⟩
          intro first old second new same
          have known : table.ids.contains card.capabilityId = true := by
            rw [PySet.contains_iff, CardTable.ids, List.map_map]
            exact List.mem_singleton.mp new ▸ same ▸ old
          rw [fresh] at known
          cases known }
    else .error (.valueError
      s!"duplicate capability in registry snapshot: {card.capabilityId.pyStr}")
  else .error (.typeError s!"unhashable type: '{card.capabilityId.typeName}'")

/-- `CapabilityRegistry`: the cards, and the identifiers of those that are disabled. -/
structure StoredRegistry extends CardTable where
  disabled : Finset String := ∅
  known : ∀ capabilityId ∈ disabled, ∃ card ∈ cards, card.capabilityId = .str capabilityId := by
    simp

/-- The last check of `restore_state`. -/
def StoredRegistry.ofTable (table : CardTable) (disabled : Finset String) :
    Except PyError StoredRegistry :=
  let unknown := disabled.filter fun capabilityId => ¬ table.ids.contains (.str capabilityId) = true
  if complete : unknown = ∅ then
    .ok {
      toCardTable := table
      disabled := disabled
      known := by
        intro capabilityId member
        have listed := Finset.filter_eq_empty_iff.mp complete member
        rw [not_not, PySet.contains_iff, CardTable.ids, List.map_map] at listed
        obtain ⟨card, stored, same⟩ := List.mem_map.mp listed
        refine ⟨card, stored, Json.pyNormal_eq_str.mp ?_⟩
        rw [← Json.pyNormal_str capabilityId]
        exact same }
  else .error (.valueError
    s!"disabled capabilities are unknown: {(textList (sortedElems unknown)).pyRepr}")

/-- The disabled identifiers of an image. -/
def disabledIds : Json → Except PyError (Finset String)
  | .arr items =>
    if items.all fun item => item.text?.isSome then .ok (items.filterMap Json.text?).toFinset
    else .error (.valueError "capability registry disabled IDs MUST be a list of strings")
  | _ => .error (.valueError "capability registry disabled IDs MUST be a list of strings")

/-- The loop of `restore_state`. -/
def addCard (table : CardTable) (raw : Json) : Except PyError CardTable := do
  table.add (← decodeCard raw)

/-- `CapabilityRegistry.restore_state`: the registry that an image gives. -/
def restoreState (image : Json) : Except PyError StoredRegistry :=
  match image with
  | .obj fields =>
    match fields.lookup "cards" with
    | some (.arr raws) => do
      let disabled ← disabledIds ((fields.lookup "disabled").getD (.arr []))
      let table ← raws.foldlM addCard {}
      StoredRegistry.ofTable table disabled
    | _ => .error (.valueError "capability registry snapshot MUST contain a cards list")
  | _ => .error (.valueError "capability registry snapshot MUST contain a cards list")

/-- The elements of the set compare with each other. -/
def Sorts (set : PySet) : Prop := ∃ items, set.sorted = .ok items

namespace StoredRegistry

variable (registry : StoredRegistry)

/-- `CapabilityRegistry.get`. -/
def get (capabilityId : Json) : Option StoredCard :=
  registry.cards.find? fun card => Json.pyEq card.capabilityId capabilityId

/-- `CapabilityRegistry.all`. -/
def all : Except PyError (List StoredCard) := do
  return (← registry.ids.sorted).filterMap registry.get

/-- `CapabilityRegistry.snapshot_state`. -/
def snapshotState : Except PyError Json := do
  let cards ← (← registry.all).mapM encodeCard
  return .obj [("cards", .arr cards), ("disabled", sortedTexts registry.disabled)]

/-- The identifiers compare, and so do the permissions and the calibration domains of each card. -/
structure Sortable : Prop where
  ids : Sorts registry.ids
  permissions : ∀ card ∈ registry.cards, Sorts card.permissions
  calibrationDomains : ∀ card ∈ registry.cards, Sorts card.calibrationDomains

/-- The same cards, and the same identifiers disabled. -/
structure Same (first second : StoredRegistry) : Prop where
  from_second : ∀ card ∈ first.cards, ∃ other ∈ second.cards, card.Same other
  from_first : ∀ other ∈ second.cards, ∃ card ∈ first.cards, card.Same other
  disabled : first.disabled = second.disabled

end StoredRegistry

/-! ### Writing a registry -/

theorem sorts_iff {set : PySet} : Sorts set ↔ (∀ elem ∈ set.elems, elem.text?.isSome = true) ∨
    (∀ elem ∈ set.elems, elem.number?.isSome = true) ∨ set.elems.length ≤ 1 := by
  rw [← List.all_eq_true, ← List.all_eq_true]
  unfold Sorts PySet.sorted
  split_ifs with texts numbers short
  all_goals simp_all

theorem sorts_congr {first second : PySet} (same : PySet.Same first second) :
    Sorts first ↔ Sorts second := by
  rw [sorts_iff, sorts_iff, same.length_eq]
  simp only [same.mem_iff]

namespace StoredRegistry

variable {registry : StoredRegistry}

theorem get_own {card : StoredCard} (stored : card ∈ registry.cards) :
    registry.get card.capabilityId = some card := by
  unfold get
  cases found : registry.cards.find? fun other =>
      Json.pyEq other.capabilityId card.capabilityId with
  | none => exact absurd (Json.pyEq_self _) (List.find?_eq_none.mp found card stored)
  | some other =>
    have equal : Json.pyEq other.capabilityId card.capabilityId = true := by
      simpa using List.find?_some found
    have same := Json.pyEq_iff.mp equal
    exact congrArg some
      (List.inj_on_of_nodup_map registry.distinct (List.mem_of_find?_eq_some found) stored same)

/-- The cards in the order of their identifiers. -/
theorem all_perm {cards : List StoredCard} (listed : registry.all = .ok cards) :
    cards.Perm registry.cards := by
  obtain ⟨keys, sorted, same⟩ := bind_eq_ok.mp listed
  obtain rfl := Except.ok.inj same
  have every : (registry.cards.map fun card => card.capabilityId).filterMap registry.get =
      registry.cards := by
    rw [List.filterMap_map]
    have each : ∀ card ∈ registry.cards,
        (registry.get ∘ fun card : StoredCard => card.capabilityId) card = some card :=
      fun card stored => get_own stored
    rw [List.filterMap_congr each, List.filterMap_some]
  have perm := (PySet.sorted_perm sorted).filterMap registry.get
  rw [← every]
  exact perm

/-- **A registry is written** exactly where its identifiers compare, and the permissions and the
calibration domains of each card. -/
theorem snapshotState_iff : (∃ image, registry.snapshotState = .ok image) ↔ registry.Sortable := by
  constructor
  · rintro ⟨image, written⟩
    obtain ⟨cards, listed, written⟩ := bind_eq_ok.mp written
    obtain ⟨documents, encodes, -⟩ := bind_eq_ok.mp written
    have each : ∀ card ∈ registry.cards, Sorts card.permissions ∧ Sorts card.calibrationDomains := by
      intro card stored
      obtain ⟨document, -, encoded⟩ :=
        forall₂_mem_left (mapM_eq_ok.mp encodes) ((all_perm listed).mem_iff.mpr stored)
      obtain ⟨permissions, domains, sorts, sortsDomains⟩ := encodeCard_eq_ok encoded
      exact ⟨⟨permissions, sorts⟩, ⟨domains, sortsDomains⟩⟩
    obtain ⟨keys, sorted, -⟩ := bind_eq_ok.mp listed
    exact ⟨⟨keys, sorted⟩, fun card stored => (each card stored).1,
      fun card stored => (each card stored).2⟩
  · rintro ⟨⟨keys, sorted⟩, permissions, domains⟩
    have listed : registry.all = .ok (keys.filterMap registry.get) := by
      rw [all, sorted]
      rfl
    have each : ∀ card ∈ keys.filterMap registry.get, ∃ document, encodeCard card = .ok document := by
      intro card member
      have stored := (all_perm listed).mem_iff.mp member
      obtain ⟨allowed, sorts⟩ := permissions card stored
      obtain ⟨calibrated, sortsDomains⟩ := domains card stored
      rw [encodeCard, sorts, sortsDomains]
      exact ⟨_, rfl⟩
    obtain ⟨documents, encodes⟩ := mapM_total each
    exact ⟨_, bind_eq_ok.mpr ⟨_, listed, bind_eq_ok.mpr ⟨documents, encodes, rfl⟩⟩⟩

/-! ### Restoring what was written -/

/-- The loop over written cards stores a card for each, in their order. -/
theorem foldlM_addCard {documents : List Json} {cards : List StoredCard} (table : CardTable)
    (decodes : List.Forall₂ (fun document card => decodeCard document = .ok card) documents cards)
    (hashed : ∀ card ∈ cards, card.capabilityId.hashable = true)
    (distinct : ((table.cards ++ cards).map fun card => card.capabilityId.pyNormal).Nodup) :
    ∃ last, documents.foldlM addCard table = .ok last ∧ last.cards = table.cards ++ cards := by
  induction decodes generalizing table with
  | nil => exact ⟨table, rfl, (List.append_nil _).symm⟩
  | @cons document card documents cards here later ih =>
    have fresh : table.ids.contains card.capabilityId = false := by
      rw [← Bool.not_eq_true, PySet.contains_iff, CardTable.ids, List.map_map]
      rw [List.map_append, List.nodup_append] at distinct
      exact fun stored => distinct.2.2 _ stored _ (List.mem_map_of_mem List.mem_cons_self) rfl
    have added : ∃ next, table.add card = .ok next ∧ next.cards = table.cards ++ [card] := by
      rw [CardTable.add, dif_pos (hashed card List.mem_cons_self), dif_pos fresh]
      exact ⟨_, rfl, rfl⟩
    obtain ⟨next, adds, content⟩ := added
    obtain ⟨last, ran, same⟩ := ih next
      (fun other member => hashed other (List.mem_cons_of_mem _ member))
      (by rw [content, List.append_assoc]; exact distinct)
    refine ⟨last, ?_, by rw [same, content, List.append_assoc]; rfl⟩
    have step : addCard table document = .ok next := by
      rw [addCard, here]
      exact adds
    rw [List.foldlM_cons, step]
    exact ran

/-- Written cards are read back one by one. -/
theorem decode_written {cards : List StoredCard} {documents : List Json}
    (written : List.Forall₂ (fun card document => encodeCard card = .ok document) cards documents) :
    ∃ decoded, List.Forall₂ (fun document card => decodeCard document = .ok card) documents decoded ∧
      List.Forall₂ StoredCard.Same decoded cards := by
  induction written with
  | nil => exact ⟨[], .nil, .nil⟩
  | cons here _ ih =>
    obtain ⟨card, decodes, same⟩ := decodeCard_encodeCard here
    obtain ⟨rest, decodesRest, sameRest⟩ := ih
    exact ⟨card :: rest, .cons decodes decodesRest, .cons same sameRest⟩

theorem disabledIds_sortedTexts (disabled : Finset String) :
    disabledIds (sortedTexts disabled) = .ok disabled := by
  have texts : ((sortedElems disabled).map Json.str).filterMap Json.text? = sortedElems disabled := by
    rw [List.filterMap_map]
    exact List.filterMap_some
  unfold sortedTexts textList disabledIds
  dsimp only
  rw [if_pos (by simp [Json.text?]), texts, toFinset_sortedElems]

/-- The last check passes where every disabled identifier is one of the cards. -/
theorem ofTable_of_known {table : CardTable} {disabled : Finset String}
    (known : ∀ capabilityId ∈ disabled, table.ids.contains (.str capabilityId) = true) :
    ∃ restored, ofTable table disabled = .ok restored ∧ restored.toCardTable = table ∧
      restored.disabled = disabled := by
  have complete : (disabled.filter fun capabilityId =>
      ¬ table.ids.contains (.str capabilityId) = true) = ∅ :=
    Finset.filter_eq_empty_iff.mpr fun capabilityId member => not_not.mpr (known capabilityId member)
  unfold ofTable
  rw [dif_pos complete]
  exact ⟨_, rfl, rfl, rfl⟩

/-- **What was written is restored.** -/
theorem restoreState_snapshotState {image : Json} (written : registry.snapshotState = .ok image) :
    ∃ restored, restoreState image = .ok restored ∧ restored.Same registry := by
  obtain ⟨cards, listed, written⟩ := bind_eq_ok.mp written
  obtain ⟨documents, encodes, same⟩ := bind_eq_ok.mp written
  obtain rfl := Except.ok.inj same
  have perm := all_perm listed
  obtain ⟨decoded, decodes, related⟩ := decode_written (mapM_eq_ok.mp encodes)
  have names : decoded.map (fun card => card.capabilityId) =
      cards.map fun card => card.capabilityId := by
    rw [← List.forall₂_eq_eq_eq, List.forall₂_map_left_iff, List.forall₂_map_right_iff]
    exact related.imp fun _ _ same => same.capabilityId
  have hashed : ∀ card ∈ decoded, card.capabilityId.hashable = true := by
    intro card member
    obtain ⟨origin, stored, same⟩ := forall₂_mem_left related member
    rw [same.capabilityId]
    exact registry.hashed origin (perm.mem_iff.mp stored)
  have distinct : (decoded.map fun card => card.capabilityId.pyNormal).Nodup := by
    have normals := congrArg (List.map Json.pyNormal) names
    rw [List.map_map, List.map_map] at normals
    have keys : (cards.map fun card => card.capabilityId.pyNormal).Nodup :=
      (perm.map _).nodup_iff.mpr registry.distinct
    exact normals ▸ keys
  obtain ⟨table, ran, stored⟩ : ∃ table, documents.foldlM addCard {} = .ok table ∧
      table.cards = decoded := foldlM_addCard {} decodes hashed distinct
  have known : ∀ capabilityId ∈ registry.disabled,
      table.ids.contains (.str capabilityId) = true := by
    intro capabilityId isDisabled
    obtain ⟨card, member, named⟩ := registry.known capabilityId isDisabled
    obtain ⟨other, inTable, same⟩ := forall₂_mem_right related (perm.mem_iff.mpr member)
    rw [PySet.contains_iff, CardTable.ids, List.map_map, stored, ← named, ← same.capabilityId]
    exact List.mem_map_of_mem inTable
  obtain ⟨restored, made, sameTable, sameDisabled⟩ := ofTable_of_known known
  have content : restored.cards = decoded := by rw [sameTable, stored]
  refine ⟨restored, ?_, ⟨?_, ?_, sameDisabled⟩⟩
  · have disabled := disabledIds_sortedTexts registry.disabled
    unfold restoreState
    simp only [List.lookup_cons, String.reduceBEq, Option.getD_some, disabled, bind, Except.bind, ran]
    exact made
  · intro card member
    obtain ⟨other, listedOther, same⟩ := forall₂_mem_left related (content ▸ member)
    exact ⟨other, perm.mem_iff.mp listedOther, same⟩
  · intro other member
    obtain ⟨card, inTable, same⟩ := forall₂_mem_right related (perm.mem_iff.mpr member)
    exact ⟨card, content.symm ▸ inTable, same⟩

/-! ### Agreement -/

theorem Same.trans {first second third : StoredRegistry} (here : first.Same second)
    (later : second.Same third) : first.Same third where
  from_second card stored := by
    obtain ⟨middle, member, same⟩ := here.from_second card stored
    obtain ⟨last, listed, also⟩ := later.from_second middle member
    exact ⟨last, listed, same.trans also⟩
  from_first card stored := by
    obtain ⟨middle, member, also⟩ := later.from_first card stored
    obtain ⟨first, listed, same⟩ := here.from_first middle member
    exact ⟨first, listed, same.trans also⟩
  disabled := here.disabled.trans later.disabled

theorem nodup_ids (table : CardTable) : (table.cards.map fun card => card.capabilityId).Nodup := by
  refine List.Nodup.of_map Json.pyNormal ?_
  rw [List.map_map]
  exact table.distinct

/-- Registries that agree are written or not alike. -/
theorem Same.sortable {first second : StoredRegistry} (same : first.Same second)
    (sortable : second.Sortable) : first.Sortable := by
  have ids : PySet.Same first.ids second.ids := by
    refine (List.perm_ext_iff_of_nodup (nodup_ids _) (nodup_ids _)).mpr fun capabilityId => ?_
    rw [List.mem_map, List.mem_map]
    constructor
    · rintro ⟨card, stored, rfl⟩
      obtain ⟨other, member, also⟩ := same.from_second card stored
      exact ⟨other, member, also.capabilityId.symm⟩
    · rintro ⟨other, stored, rfl⟩
      obtain ⟨card, member, also⟩ := same.from_first other stored
      exact ⟨card, member, also.capabilityId⟩
  refine ⟨(sorts_congr ids).mpr sortable.ids, fun card stored => ?_, fun card stored => ?_⟩
  · obtain ⟨other, member, also⟩ := same.from_second card stored
    exact (sorts_congr also.permissions).mpr (sortable.permissions other member)
  · obtain ⟨other, member, also⟩ := same.from_second card stored
    exact (sorts_congr also.calibrationDomains).mpr (sortable.calibrationDomains other member)

end StoredRegistry

/-! ### What an image gives -/

/-- An image in which the identifiers compare, and the permissions and the calibration domains of
each card. -/
structure ImageComparable (image : Json) : Prop where
  ids : ∀ raws, image.getItem "cards" = .ok (.arr raws) → ∀ ids,
    raws.mapM (fun raw => raw.getItem "capability_id") = .ok ids → Comparable ids
  sets : ∀ raws, image.getItem "cards" = .ok (.arr raws) → ∀ raw ∈ raws,
    ∀ field ∈ ["permissions", "calibration_domains"], ∀ items,
      decodeItems raw field = .ok items → Comparable items

theorem decodeCard_eq_ok {raw : Json} {card : StoredCard} (decoded : decodeCard raw = .ok card) :
    raw.getItem "capability_id" = .ok card.capabilityId ∧
      (∃ items, decodeItems raw "permissions" = .ok items ∧
        PySet.ofList items = .ok card.permissions) ∧
      ∃ items, decodeItems raw "calibration_domains" = .ok items ∧
        PySet.ofList items = .ok card.calibrationDomains := by
  unfold decodeCard at decoded
  split at decoded
  · simp only [bind_eq_ok] at decoded
    obtain ⟨capabilityId, named, _, -, _, -, _, -, _, -, _, -, _, -, _, -, _, -, _, -, _, -, allowed,
      permits, permissions, builds, calibrated, calibrates, domains, buildsDomains, _, -, _, -, _, -,
      _, -, _, -, _, -, _, -, _, -, _, -, _, -, _, -, _, -, made⟩ := decoded
    obtain same := StoredCard.ofData_eq_ok.mp made
    rw [same]
    exact ⟨named, ⟨allowed, permits, builds⟩, calibrated, calibrates, buildsDomains⟩
  · cases decoded

theorem add_eq_ok {table next : CardTable} {card : StoredCard} (added : table.add card = .ok next) :
    next.cards = table.cards ++ [card] := by
  unfold CardTable.add at added
  split_ifs at added
  cases added
  rfl

/-- The cards of a restored registry are those of the image, decoded. -/
theorem restoreState_eq_ok {image : Json} {registry : StoredRegistry}
    (restored : restoreState image = .ok registry) :
    ∃ raws, image.getItem "cards" = .ok (.arr raws) ∧
      List.Forall₂ (fun raw card => decodeCard raw = .ok card) raws registry.cards := by
  unfold restoreState at restored
  split at restored
  · rename_i fields
    split at restored
    · rename_i raws found
      obtain ⟨disabled, -, restored⟩ := bind_eq_ok.mp restored
      obtain ⟨table, ran, made⟩ := bind_eq_ok.mp restored
      refine ⟨raws, by rw [Json.getItem, found], ?_⟩
      have same : registry.cards = table.cards := by
        unfold StoredRegistry.ofTable at made
        dsimp only at made
        split_ifs at made
        cases made
        rfl
      rw [same]
      refine foldlM_consumes (P := fun (consumed : List Json) (table : CardTable) =>
        List.Forall₂ (fun raw card => decodeCard raw = .ok card) consumed table.cards)
        (fun consumed raw table next holds ran => ?_) .nil ran
      obtain ⟨card, decodes, added⟩ := bind_eq_ok.mp ran
      rw [add_eq_ok added]
      exact List.rel_append holds (.cons decodes .nil)
    · cases restored
  · cases restored

/-- **A restored registry can be written** exactly where its image was comparable. -/
theorem sortable_iff_comparable {image : Json} {registry : StoredRegistry}
    (restored : restoreState image = .ok registry) :
    registry.Sortable ↔ ImageComparable image := by
  obtain ⟨raws, given, decodes⟩ := restoreState_eq_ok restored
  have only : ∀ others, image.getItem "cards" = .ok (.arr others) → others = raws := by
    intro others also
    rw [given] at also
    exact (Json.arr.inj (Except.ok.inj also)).symm
  have named : raws.mapM (fun raw => raw.getItem "capability_id") =
      .ok (registry.cards.map fun card => card.capabilityId) := by
    rw [mapM_eq_ok, List.forall₂_map_right_iff]
    exact decodes.imp fun raw card decoded => (decodeCard_eq_ok decoded).1
  have built := PySet.ofList_of_distinct registry.ids.hashable registry.ids.distinct
  constructor
  · intro sortable
    refine ⟨fun others also ids shown => ?_, fun others also raw member field listed items iterates => ?_⟩
    · obtain rfl := only others also
      obtain rfl := Except.ok.inj (named.symm.trans shown)
      exact (sorted_iff_comparable built).mp sortable.ids
    · obtain rfl := only others also
      obtain ⟨card, stored, decoded⟩ := forall₂_mem_left decodes member
      obtain ⟨-, ⟨allowed, permits, builds⟩, calibrated, calibrates, buildsDomains⟩ :=
        decodeCard_eq_ok decoded
      rcases List.mem_pair.mp listed with rfl | rfl
      · obtain rfl := Except.ok.inj (permits.symm.trans iterates)
        exact (sorted_iff_comparable builds).mp (sortable.permissions card stored)
      · obtain rfl := Except.ok.inj (calibrates.symm.trans iterates)
        exact (sorted_iff_comparable buildsDomains).mp (sortable.calibrationDomains card stored)
  · intro comparable
    refine ⟨(sorted_iff_comparable built).mpr (comparable.ids raws given _ named),
      fun card stored => ?_, fun card stored => ?_⟩
    · obtain ⟨raw, member, decoded⟩ := forall₂_mem_right decodes stored
      obtain ⟨-, ⟨allowed, permits, builds⟩, -⟩ := decodeCard_eq_ok decoded
      exact (sorted_iff_comparable builds).mpr
        (comparable.sets raws given raw member "permissions" (by simp) allowed permits)
    · obtain ⟨raw, member, decoded⟩ := forall₂_mem_right decodes stored
      obtain ⟨-, -, calibrated, calibrates, buildsDomains⟩ := decodeCard_eq_ok decoded
      exact (sorted_iff_comparable buildsDomains).mpr
        (comparable.sets raws given raw member "calibration_domains" (by simp) calibrated calibrates)

end Dnc.Capabilities
