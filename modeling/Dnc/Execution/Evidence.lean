/-
**Recorded evidence.**

Of `dnc.execution.snapshot`: the response of a provider that a replay returns in place of the call
(`ProviderRecording`), the effect that a branch has declared (`EffectLedgerEntry`), and the hash
that binds a sequence of either to a manifest.
-/

import Dnc.Cognition.Canonical
import Dnc.Kernel.Contracts
import Dnc.Logic.Sequence

namespace Dnc

open PyLib Logic

/-! ### Effects -/

structure EffectLedgerEntryData where
  effectId : String
  effectType : EffectType
  target : String
  reversible : Bool
  committed : Bool := false
  compensatedBy : Option String := none
  metadata : PyDict := ∅

/-- `EffectLedgerEntry.__post_init__`. -/
def EffectLedgerEntryData.violation (data : EffectLedgerEntryData) : Option PyError :=
  if data.effectId = "" then some (.valueError "effect_id MUST be non-empty")
  else if data.target = "" then some (.valueError "target MUST be non-empty")
  else none

structure EffectLedgerEntry extends EffectLedgerEntryData where
  valid : toEffectLedgerEntryData.violation = none

namespace EffectLedgerEntry

/-- `asdict(effect)`, with the effect type as its value. -/
def data (effect : EffectLedgerEntry) : PyData :=
  .dict [("effect_id", .str effect.effectId),
    ("effect_type", .str (PyEnum.value effect.effectType)),
    ("target", .str effect.target),
    ("reversible", .bool effect.reversible),
    ("committed", .bool effect.committed),
    ("compensated_by", .optional .str effect.compensatedBy),
    ("metadata", effect.metadata.data)]

/-- The effect was committed, can be undone, and nothing has undone it. -/
def uncompensated (effect : EffectLedgerEntry) : Bool :=
  effect.committed && effect.reversible && effect.compensatedBy.isNone

end EffectLedgerEntry

/-! ### Provider recordings -/

structure ProviderRecordingData where
  recordingId : String
  providerId : String
  requestHash : String
  response : PyData
  metadata : PyDict := ∅

/-- `ProviderRecording.__post_init__`. -/
def ProviderRecordingData.violation (data : ProviderRecordingData) : Option PyError :=
  if data.recordingId = "" then some (.valueError "recording_id MUST be non-empty")
  else if data.providerId = "" then some (.valueError "provider_id MUST be non-empty")
  else if data.requestHash = "" then some (.valueError "request_hash MUST be non-empty")
  else none

structure ProviderRecording extends ProviderRecordingData where
  valid : toProviderRecordingData.violation = none

/-- `asdict(recording)`. -/
def ProviderRecording.data (recording : ProviderRecording) : PyData :=
  .dict [("recording_id", .str recording.recordingId),
    ("provider_id", .str recording.providerId),
    ("request_hash", .str recording.requestHash),
    ("response", recording.response),
    ("metadata", recording.metadata.data)]

/-! ### What binds them -/

/-- The canonical text of provider recordings. -/
def recordingsText (recordings : List ProviderRecording) : String :=
  Cognition.canonicalJson (.tuple (recordings.map ProviderRecording.data))

/-- The canonical text of effects. -/
def effectsText (effects : List EffectLedgerEntry) : String :=
  Cognition.canonicalJson (.tuple (effects.map EffectLedgerEntry.data))

/-- `snapshot_evidence_hash`, of what has a canonical text. -/
def snapshotEvidenceHash (sha256 : String → String) (text : String) : String := sha256 text

end Dnc
