/-
**The artifact registry.**

`dnc.registry.ArtifactRegistry`: immutable descriptors of artifacts, by tenant and content
reference, over an object store that the registry does not own. A run is of registrations, accepted
or refused, and of writes to the store by anybody else, which may leave any store behind. SHA-256 is
a parameter `digestOf`; data whose digest is not 64 hexadecimal digits is refused.

* `register_cases`, `register_eq_ok`: how a registration goes, and what is accepted.
* `artifact_run`: once accepted a descriptor stays, up to Python's equality; a registration that
  describes the content otherwise is refused, and content is returned only if it has the digest and
  the size it was registered with.
* `artifacts_isolated`: what a tenant reads does not depend on what other tenants register.
-/

import Dnc.Logic.Run
import Dnc.PyLib.Grouping
import Dnc.Registry.Graphs

namespace Dnc.Registry

open PyLib Logic

/-! ### Descriptors -/

structure ArtifactRecord where
  contentRef : String
  tenantId : String
  mediaType : String
  sizeBytes : Nat
  metadata : Json
deriving DecidableEq

/-- What `first == second` compares: metadata is a dictionary of JSON data. -/
def ArtifactRecord.compared (record : ArtifactRecord) : ArtifactRecord :=
  { record with metadata := record.metadata.pyNormal }

/-- What a caller gives as metadata: JSON data, or an object that `json.dumps` raises on. -/
inductive GivenMetadata where
  | data (value : Json) (wellFormed : value.wellFormed = true)
  | unwritable (isDict : Bool)

/-- `_validate_metadata`. A number may have more digits than the interpreter writes. -/
def validateMetadata : GivenMetadata → Except PyError Json
  | .data (.obj fields) _ =>
    if (Json.obj fields).showable = false then
      .error (.dncValidationError "artifact metadata MUST be finite JSON data")
    else
      match Json.loads (Json.dumps (.obj fields)) with
      | some (.obj restored) => .ok (.obj restored)
      | _ => .error (.dncValidationError "artifact metadata MUST be an object")
  | .data _ _ => .error (.dncValidationError "artifact metadata MUST be an object")
  | .unwritable true => .error (.dncValidationError "artifact metadata MUST be finite JSON data")
  | .unwritable false => .error (.dncValidationError "artifact metadata MUST be an object")

/-- `metadata or {}`. -/
def metadataOr : Option GivenMetadata → GivenMetadata
  | some (.data value wellFormed) =>
    if value.truthy then .data value wellFormed else .data (.obj []) rfl
  | some (.unwritable isDict) => .unwritable isDict
  | none => .data (.obj []) rfl

/-- The arguments of `register`. -/
structure Artifact where
  data : Bytes
  tenantId : String
  mediaType : String := "application/octet-stream"
  metadata : Option GivenMetadata := none

/-- The checks of `register` before its first write: the metadata that it has restored. -/
def Artifact.check (artifact : Artifact) : Except PyError Json := do
  let _ ← validateTenant artifact.tenantId
  if isNormalized artifact.mediaType = false then
    .error (.dncValidationError "artifact media_type MUST be normalized and non-empty")
  else validateMetadata (metadataOr artifact.metadata)

/-- The record of an artifact. -/
def Artifact.describe (artifact : Artifact) (contentRef : String) (metadata : Json) :
    ArtifactRecord where
  contentRef
  tenantId := artifact.tenantId
  mediaType := artifact.mediaType
  sizeBytes := artifact.data.length
  metadata

/-- `(tenant, content_ref)`. -/
def ArtifactRecord.key (record : ArtifactRecord) : String × String :=
  (record.tenantId, record.contentRef)

/-! ### The registry -/

structure ArtifactRegistry where
  objectStore : ContentAddressedObjectStore := {}
  records : Dict (String × String) ArtifactRecord := ∅

namespace ArtifactRegistry

/-- The end of `ArtifactRegistry.register`: the record is written, unless it conflicts with the one
that is there. -/
def newRecord (registry : ArtifactRegistry) (record : ArtifactRecord) :
    ArtifactRegistry × Except PyError ArtifactRecord :=
  if (registry.records.get? record.key).any fun previous =>
      previous.compared != record.compared then
    (registry, .error (.dncValidationError
      "artifact content is already registered with a conflicting descriptor"))
  else ({ registry with records := registry.records.set record.key record }, .ok record)

/-- `ArtifactRegistry.register`, given `hashlib.sha256(data).hexdigest()`. A call that is refused
for a conflict leaves the data in the store. -/
def register (digestOf : Bytes → String) (registry : ArtifactRegistry) (artifact : Artifact) :
    ArtifactRegistry × Except PyError ArtifactRecord :=
  match artifact.check with
  | .error error => (registry, .error error)
  | .ok metadata =>
    let (objectStore, digest) := registry.objectStore.put digestOf artifact.data artifact.tenantId
    let stored := { registry with objectStore }
    match validateContentRef (contentRefOf digest) with
    | .error error => (stored, .error error)
    | .ok contentRef => stored.newRecord (artifact.describe contentRef metadata)

/-- `ArtifactRegistry.record`. -/
def record (registry : ArtifactRegistry) (contentRef tenantId : String) :
    Except PyError ArtifactRecord := do
  let tenant ← validateTenant tenantId
  let reference ← validateContentRef contentRef
  match registry.records.get? (tenant, reference) with
  | some record => return record
  | none => .error (.keyError "unknown tenant-scoped artifact")

/-- `ArtifactRegistry.get`. -/
def get (digestOf : Bytes → String) (registry : ArtifactRegistry) (contentRef tenantId : String) :
    Except PyError Bytes := do
  let record ← registry.record contentRef tenantId
  let digest ← digestOfRef record.contentRef
  let data ← registry.objectStore.get digestOf digest record.tenantId
  if data.length ≠ record.sizeBytes then
    .error (.dncValidationError "artifact descriptor size does not match stored content")
  else return data

/-- `ArtifactRegistry.all`. -/
def all (registry : ArtifactRegistry) (tenantId : String) :
    Except PyError (List ArtifactRecord) := do
  let tenant ← validateTenant tenantId
  return registry.records.valuesUnder tenant

/-! ### One registration -/

/-- The record that a registration of the artifact would write. -/
def described (digestOf : Bytes → String) (artifact : Artifact) :
    Except PyError ArtifactRecord := do
  let metadata ← artifact.check
  let contentRef ← validateContentRef (contentRefOf (digestOf artifact.data))
  return artifact.describe contentRef metadata

/-- What is recorded under the key of the record is equal to it. -/
def Agrees (registry : ArtifactRegistry) (record : ArtifactRecord) : Prop :=
  ∀ previous, registry.records.get? record.key = some previous →
    previous.compared = record.compared

section Steps

variable {digestOf : Bytes → String} {registry : ArtifactRegistry} {artifact : Artifact}
  {record : ArtifactRecord}

theorem newRecord_cases (registry : ArtifactRegistry) (record : ArtifactRecord) :
    (registry.Agrees record ∧ registry.newRecord record =
        ({ registry with records := registry.records.set record.key record }, .ok record)) ∨
      (¬ registry.Agrees record ∧
        ∃ error, registry.newRecord record = (registry, .error error)) := by
  have conflict : ((registry.records.get? record.key).any fun previous =>
      previous.compared != record.compared) = true ↔ ¬ registry.Agrees record := by
    rw [Option.any_eq_true]
    unfold Agrees
    push Not
    simp only [bne_iff_ne]
  unfold newRecord
  split_ifs with differs
  · exact Or.inr ⟨conflict.mp differs, _, rfl⟩
  · exact Or.inl ⟨not_not.mp (mt conflict.mpr differs), rfl⟩

/-- **How a registration goes**: refused with no record written, or accepted with its record. -/
theorem register_cases (digestOf : Bytes → String) (registry : ArtifactRegistry)
    (artifact : Artifact) :
    (∃ error, (registry.register digestOf artifact).2 = .error error ∧
        (registry.register digestOf artifact).1.records = registry.records ∧
        ∀ record, described digestOf artifact = .ok record → ¬ registry.Agrees record) ∨
      ∃ record, described digestOf artifact = .ok record ∧ registry.Agrees record ∧
        registry.register digestOf artifact =
          ({ objectStore := (registry.objectStore.put digestOf artifact.data artifact.tenantId).1,
             records := registry.records.set record.key record }, .ok record) := by
  unfold register described
  cases artifact.check with
  | error error =>
    refine Or.inl ⟨error, rfl, rfl, fun record made => ?_⟩
    cases made
  | ok metadata =>
    dsimp only
    unfold ContentAddressedObjectStore.put
    dsimp only
    cases validateContentRef (contentRefOf (digestOf artifact.data)) with
    | error error =>
      refine Or.inl ⟨error, rfl, rfl, fun record made => ?_⟩
      cases made
    | ok contentRef =>
      dsimp only
      let stored : ArtifactRegistry := { registry with
        objectStore := ⟨registry.objectStore.objects.set (artifact.tenantId, digestOf artifact.data)
          artifact.data⟩ }
      rcases newRecord_cases stored (artifact.describe contentRef metadata) with
        ⟨agrees, written⟩ | ⟨differs, error, refused⟩
      · exact Or.inr ⟨_, rfl, agrees, written⟩
      · rw [refused]
        refine Or.inl ⟨error, rfl, rfl, fun record made => ?_⟩
        obtain rfl := Except.ok.inj made
        exact differs

/-- **What is accepted**: an artifact that can be described, in agreement with what is recorded. -/
theorem register_eq_ok :
    (registry.register digestOf artifact).2 = .ok record ↔
      described digestOf artifact = .ok record ∧ registry.Agrees record := by
  rcases register_cases digestOf registry artifact with
    ⟨error, refused, -, differs⟩ | ⟨made, describes, agrees, written⟩
  · rw [refused]
    refine iff_of_false (fun same => ?_) fun both => differs record both.1 both.2
    cases same
  · rw [written, describes]
    constructor
    · intro same
      obtain rfl := Except.ok.inj same
      exact ⟨rfl, agrees⟩
    · rintro ⟨same, -⟩
      exact same

theorem toOption_eq_some {result : Except PyError ArtifactRecord} :
    result.toOption = some record ↔ result = .ok record := by
  cases result <;> simp [Except.toOption]

/-- What a registration leaves under a key: its record, if it was accepted for that key. -/
theorem records_register (digestOf : Bytes → String) (registry : ArtifactRegistry)
    (artifact : Artifact) (key : String × String) :
    (registry.register digestOf artifact).1.records.get? key =
      ((registry.register digestOf artifact).2.toOption.filter fun record => record.key = key).or
        (registry.records.get? key) := by
  rcases register_cases digestOf registry artifact with
    ⟨error, refused, kept, -⟩ | ⟨record, -, -, written⟩
  · rw [refused, kept]
    rfl
  · rw [written]
    show (registry.records.set record.key record).get? key =
      (Option.filter (fun record => record.key = key) (some record)).or (registry.records.get? key)
    rw [Dict.get?_set, Option.filter_some]
    by_cases here : record.key = key
    · rw [if_pos here.symm, if_pos (decide_eq_true here)]
      rfl
    · rw [if_neg (Ne.symm here), if_neg (by simpa using here)]
      rfl

/-- What a registration leaves in the store: the data, once the descriptor is checked. -/
theorem objectStore_register (digestOf : Bytes → String) (registry : ArtifactRegistry)
    (artifact : Artifact) :
    (registry.register digestOf artifact).1.objectStore =
      match artifact.check with
      | .error _ => registry.objectStore
      | .ok _ => (registry.objectStore.put digestOf artifact.data artifact.tenantId).1 := by
  unfold register
  cases artifact.check with
  | error error => rfl
  | ok metadata =>
    dsimp only
    cases validateContentRef (contentRefOf _) with
    | error error => rfl
    | ok contentRef =>
      dsimp only
      rcases newRecord_cases { registry with objectStore :=
          (registry.objectStore.put digestOf artifact.data artifact.tenantId).1 }
        (artifact.describe contentRef metadata) with ⟨-, written⟩ | ⟨-, error, refused⟩
      · rw [written]
      · rw [refused]

end Steps

/-! ### References -/

theorem digestOfRef_eq_ok {contentRef digest : String} :
    digestOfRef contentRef = .ok digest ↔
      contentRef = contentRefOf digest ∧ isDigest digest = true := by
  constructor
  · intro read
    unfold digestOfRef referencedDigest at read
    dsimp only at read
    by_cases spelled : contentRef = contentRefOf (String.ofList (contentRef.toList.drop 7)) ∧
        isDigest (String.ofList (contentRef.toList.drop 7)) = true
    · rw [if_pos spelled] at read
      obtain rfl := Except.ok.inj read
      exact spelled
    · rw [if_neg spelled] at read
      cases read
  · rintro ⟨rfl, hex⟩
    exact digestOfRef_contentRefOf hex

/-- A record that can be made, and what was checked of it. -/
structure Describes (digestOf : Bytes → String) (artifact : Artifact) (record : ArtifactRecord) :
    Prop where
  tenant : validateTenant artifact.tenantId = .ok artifact.tenantId
  owner : record.tenantId = artifact.tenantId
  contentRef : record.contentRef = contentRefOf (digestOf artifact.data)
  digest : isDigest (digestOf artifact.data) = true
  size : record.sizeBytes = artifact.data.length

theorem describes_of_described {digestOf : Bytes → String} {artifact : Artifact}
    {record : ArtifactRecord} (made : described digestOf artifact = .ok record) :
    Describes digestOf artifact record := by
  obtain ⟨metadata, checked, made⟩ := bind_eq_ok.mp made
  obtain ⟨contentRef, valid, made⟩ := bind_eq_ok.mp made
  obtain ⟨tenant, normalized, -⟩ := bind_eq_ok.mp checked
  obtain ⟨digest, read, same⟩ := map_eq_ok.mp valid
  obtain ⟨spelled, hex⟩ := digestOfRef_eq_ok.mp read
  obtain rfl := contentRefOf_injective spelled
  obtain rfl := Except.ok.inj made
  obtain ⟨-, own⟩ := guard_eq_ok.mp normalized
  have named : tenant = artifact.tenantId := (Except.ok.inj own).symm
  exact ⟨named ▸ normalized, rfl, same.symm, hex, rfl⟩

/-! ### Runs -/

/-- A registration, or a write to the store by anybody else, which may leave any store behind. -/
inductive Call where
  | register (artifact : Artifact)
  | write (objectStore : ContentAddressedObjectStore)

section Runs

variable (digestOf : Bytes → String)

def step (registry : ArtifactRegistry) : Call → ArtifactRegistry
  | .register artifact => (registry.register digestOf artifact).1
  | .write objectStore => { registry with objectStore }

/-- The registry after the calls, over a store with whatever is in it. -/
def after (store : ContentAddressedObjectStore) (calls : List Call) : ArtifactRegistry :=
  run (step digestOf) { objectStore := store } calls

/-- The registration of the artifact was accepted in the run, with this record. -/
def Registered (store : ContentAddressedObjectStore) (calls : List Call) (artifact : Artifact)
    (record : ArtifactRecord) : Prop :=
  ∃ before later, calls = before ++ .register artifact :: later ∧
    ((after digestOf store before).register digestOf artifact).2 = .ok record

/-- The record that a call writes under a key. -/
def writes (key : String × String) (registry : ArtifactRegistry) : Call → Option ArtifactRecord
  | .register artifact =>
    (registry.register digestOf artifact).2.toOption.filter fun record => record.key = key
  | .write _ => none

variable {digestOf} {store : ContentAddressedObjectStore} {calls : List Call}

theorem records_step (key : String × String) (registry : ArtifactRegistry) (call : Call) :
    (step digestOf registry call).records.get? key =
      (writes digestOf key registry call).or (registry.records.get? key) := by
  cases call with
  | register artifact => exact records_register digestOf registry artifact key
  | write objectStore => rfl

theorem writes_eq_some {key : String × String} {registry : ArtifactRegistry} {call : Call}
    {record : ArtifactRecord} :
    writes digestOf key registry call = some record ↔
      ∃ artifact, call = .register artifact ∧ record.key = key ∧
        (registry.register digestOf artifact).2 = .ok record := by
  cases call with
  | register artifact =>
    unfold writes
    rw [Option.filter_eq_some_iff, decide_eq_true_iff, toOption_eq_some]
    constructor
    · rintro ⟨accepted, own⟩
      exact ⟨artifact, rfl, own, accepted⟩
    · rintro ⟨_, ⟨⟩, own, accepted⟩
      exact ⟨accepted, own⟩
  | write objectStore => simp [writes]

/-- **What is recorded** was written by an accepted registration. -/
theorem registered_of_recorded {key : String × String} {record : ArtifactRecord}
    (recorded : (after digestOf store calls).records.get? key = some record) :
    record.key = key ∧ ∃ artifact, Registered digestOf store calls artifact record := by
  have fresh : ({ objectStore := store } : ArtifactRegistry).records.get? key = none := rfl
  obtain ⟨before, call, later, split, written, -⟩ := (written_iff
    (fun registry : ArtifactRegistry => registry.records.get? key) (records_step key) _ fresh).mp
      recorded
  obtain ⟨artifact, rfl, own, accepted⟩ := writes_eq_some.mp written
  exact ⟨own, artifact, before, later, split, accepted⟩

/-- **What was accepted stays recorded**, as a record that is equal to it. -/
theorem Registered.recorded {artifact : Artifact} {record : ArtifactRecord}
    (registered : Registered digestOf store calls artifact record) :
    ∃ now, (after digestOf store calls).records.get? record.key = some now ∧
      now.compared = record.compared := by
  obtain ⟨before, later, rfl, accepted⟩ := registered
  have kept : ∀ registry call, (∃ now : ArtifactRecord,
      registry.records.get? record.key = some now ∧ now.compared = record.compared) →
      ∃ now, (step digestOf registry call).records.get? record.key = some now ∧
        now.compared = record.compared := by
    rintro registry call ⟨now, stored, same⟩
    rw [records_step]
    cases wrote : writes digestOf record.key registry call with
    | none => exact ⟨now, stored, same⟩
    | some next =>
      obtain ⟨other, rfl, own, made⟩ := writes_eq_some.mp wrote
      have agrees := (register_eq_ok.mp made).2 now (own ▸ stored)
      exact ⟨next, rfl, agrees.symm.trans same⟩
  have here : (step digestOf (after digestOf store before) (.register artifact)).records.get?
      record.key = some record := by
    rw [records_step, writes_eq_some.mpr ⟨artifact, rfl, rfl, accepted⟩, Option.some_or]
  unfold after
  rw [run_append, run_cons]
  exact run_invariant kept ⟨record, here, rfl⟩ later

theorem record_eq_ok {registry : ArtifactRegistry} {contentRef tenantId : String}
    {record : ArtifactRecord} (found : registry.record contentRef tenantId = .ok record) :
    registry.records.get? (tenantId, contentRef) = some record := by
  obtain ⟨tenant, normalized, found⟩ := bind_eq_ok.mp found
  obtain ⟨reference, valid, found⟩ := bind_eq_ok.mp found
  obtain ⟨-, own⟩ := guard_eq_ok.mp normalized
  obtain ⟨digest, -, same⟩ := map_eq_ok.mp valid
  obtain rfl := Except.ok.inj own
  obtain rfl := same
  cases stored : registry.records.get? (tenantId, contentRef) with
  | none =>
    rw [stored] at found
    cases found
  | some there =>
    rw [stored] at found
    exact congrArg some (Except.ok.inj found)

/-- A record of a described artifact is found by its own reference. -/
theorem Describes.record_eq {registry : ArtifactRegistry} {artifact : Artifact}
    {record stored : ArtifactRecord} (describes : Describes digestOf artifact record)
    (found : registry.records.get? record.key = some stored) :
    registry.record record.contentRef record.tenantId = .ok stored := by
  have named : validateTenant record.tenantId = .ok record.tenantId :=
    describes.owner ▸ describes.tenant
  have spelled : validateContentRef record.contentRef = .ok record.contentRef := by
    rw [describes.contentRef]
    exact validateContentRef_contentRefOf describes.digest
  unfold ArtifactRegistry.record
  rw [named]
  show (validateContentRef record.contentRef >>= _) = _
  rw [spelled]
  show (match registry.records.get? record.key with | some record => _ | none => _) = _
  rw [found]
  rfl

/-- Data that is got is the data that the store holds under the reference of a record, intact and
of the size of the record. -/
theorem get_eq_ok {registry : ArtifactRegistry} {contentRef tenantId : String} {data : Bytes} :
    registry.get digestOf contentRef tenantId = .ok data ↔
      ∃ record digest, registry.record contentRef tenantId = .ok record ∧
        digestOfRef record.contentRef = .ok digest ∧
        registry.objectStore.objects.get? (record.tenantId, digest) = some data ∧
        digestOf data = digest ∧ data.length = record.sizeBytes := by
  unfold ArtifactRegistry.get
  simp only [bind_eq_ok]
  constructor
  · rintro ⟨record, found, digest, read, stored, got, same⟩
    obtain ⟨fits, same⟩ := guard_eq_ok.mp same
    obtain rfl := Except.ok.inj same
    obtain ⟨held, own⟩ := ContentAddressedObjectStore.get_eq_ok.mp got
    exact ⟨record, digest, found, read, held, own, not_not.mp fits⟩
  · rintro ⟨record, digest, found, read, held, own, fits⟩
    exact ⟨record, found, digest, read, data, ContentAddressedObjectStore.get_eq_ok.mpr ⟨held, own⟩,
      guard_eq_ok.mpr ⟨not_not.mpr fits, rfl⟩⟩

/-- **What a run of the registry promises**, whatever is written to the store behind its back. -/
structure KeepsArtifacts (digestOf : Bytes → String) (store : ContentAddressedObjectStore)
    (calls : List Call) : Prop where
  /-- What is recorded was accepted. -/
  origin : ∀ contentRef tenantId record,
    (after digestOf store calls).record contentRef tenantId = .ok record →
    record.key = (tenantId, contentRef) ∧
      ∃ artifact, Registered digestOf store calls artifact record
  /-- What was accepted stays recorded. -/
  permanent : ∀ artifact record, Registered digestOf store calls artifact record →
    ∃ now, (after digestOf store calls).record record.contentRef record.tenantId = .ok now ∧
      now.compared = record.compared
  /-- Content that was accepted is accepted again with an equal descriptor, and with no other. -/
  verdict : ∀ artifact record,
    ((after digestOf store calls).register digestOf artifact).2 = .ok record ↔
      described digestOf artifact = .ok record ∧
        ∀ other earlier, Registered digestOf store calls other earlier →
          earlier.key = record.key → earlier.compared = record.compared
  /-- Data that is returned has the digest and the size of an artifact that was accepted. -/
  content : ∀ contentRef tenantId data,
    (after digestOf store calls).get digestOf contentRef tenantId = .ok data →
    ∃ artifact record, Registered digestOf store calls artifact record ∧
      record.key = (tenantId, contentRef) ∧ digestOf data = digestOf artifact.data ∧
      data.length = artifact.data.length ∧
      (Set.InjOn digestOf {data, artifact.data} → data = artifact.data)
  /-- An artifact that is accepted is there, whatever had become of its data before. -/
  restored : ∀ artifact record,
    ((after digestOf store calls).register digestOf artifact).2 = .ok record →
    ((after digestOf store calls).register digestOf artifact).1.get digestOf record.contentRef
      record.tenantId = .ok artifact.data

theorem artifact_run (store : ContentAddressedObjectStore) (calls : List Call) :
    KeepsArtifacts digestOf store calls where
  origin contentRef tenantId record found := registered_of_recorded (record_eq_ok found)
  permanent artifact record registered := by
    obtain ⟨now, stored, same⟩ := registered.recorded
    obtain ⟨before, later, split, accepted⟩ := registered
    have describes := describes_of_described (register_eq_ok.mp accepted).1
    exact ⟨now, describes.record_eq stored, same⟩
  verdict artifact record := by
    rw [register_eq_ok]
    refine and_congr_right fun _ => ⟨fun agrees other earlier registered own => ?_,
      fun agrees previous stored => ?_⟩
    · obtain ⟨now, stored, same⟩ := registered.recorded
      rw [own] at stored
      exact same.symm.trans (agrees now stored)
    · obtain ⟨own, other, registered⟩ := registered_of_recorded stored
      exact agrees other previous registered own
  content contentRef tenantId data got := by
    obtain ⟨record, digest, found, read, held, own, fits⟩ := get_eq_ok.mp got
    obtain ⟨key, artifact, registered⟩ := registered_of_recorded (record_eq_ok found)
    obtain ⟨before, later, split, accepted⟩ := registered
    have describes := describes_of_described (register_eq_ok.mp accepted).1
    obtain ⟨spelled, -⟩ := digestOfRef_eq_ok.mp read
    have same : digestOf data = digestOf artifact.data := by
      rw [own, ← contentRefOf_injective (describes.contentRef.symm.trans spelled)]
    exact ⟨artifact, record, ⟨before, later, split, accepted⟩, key, same,
      fits.trans describes.size, fun injective =>
        injective (Set.mem_insert _ _) (Set.mem_insert_of_mem _ rfl) same⟩
  restored artifact record accepted := by
    have describes := describes_of_described (register_eq_ok.mp accepted).1
    rcases register_cases digestOf (after digestOf store calls) artifact with
      ⟨error, refused, -⟩ | ⟨made, -, -, written⟩
    · cases refused.symm.trans accepted
    · rw [written] at accepted ⊢
      obtain rfl := Except.ok.inj accepted
      have stored : ((after digestOf store calls).records.set made.key made).get? made.key =
          some made := Dict.get?_set_self _ _ _
      refine get_eq_ok.mpr ⟨made, digestOf artifact.data, describes.record_eq stored, ?_, ?_, rfl,
        describes.size.symm⟩
      · rw [describes.contentRef]
        exact digestOfRef_contentRefOf describes.digest
      · rw [describes.owner]
        exact Dict.get?_set_self _ _ _

/-! ### Tenants -/

/-- The calls that concern a tenant: its registrations, and what is written to the store. -/
def Call.concerns (tenantId : String) : Call → Bool
  | .register artifact => artifact.tenantId = tenantId
  | .write _ => true

/-- Registries that hold the same for a tenant. -/
structure SameFor (tenantId : String) (first second : ArtifactRegistry) : Prop where
  records : ∀ contentRef,
    first.records.get? (tenantId, contentRef) = second.records.get? (tenantId, contentRef)
  objects : ∀ digest, first.objectStore.objects.get? (tenantId, digest) =
    second.objectStore.objects.get? (tenantId, digest)

variable {tenantId : String} {first second : ArtifactRegistry}

/-- A tenant's registration is accepted in both or in neither. -/
theorem SameFor.accepts (digestOf : Bytes → String) (same : SameFor tenantId first second)
    {artifact : Artifact} (own : artifact.tenantId = tenantId) :
    (first.register digestOf artifact).2.toOption =
      (second.register digestOf artifact).2.toOption := by
  refine Option.ext fun record => ?_
  rw [toOption_eq_some, toOption_eq_some, register_eq_ok, register_eq_ok]
  refine and_congr_right fun made => ?_
  have key : record.key = (tenantId, record.contentRef) :=
    Prod.ext ((describes_of_described made).owner.trans own) rfl
  unfold Agrees
  rw [key, same.records]

theorem SameFor.register (same : SameFor tenantId first second) {artifact : Artifact}
    (own : artifact.tenantId = tenantId) :
    SameFor tenantId (first.register digestOf artifact).1
      (second.register digestOf artifact).1 where
  records contentRef := by
    rw [records_register, records_register, same.accepts digestOf own, same.records]
  objects digest := by
    rw [objectStore_register, objectStore_register]
    cases artifact.check with
    | error error => exact same.objects digest
    | ok metadata =>
      show (first.objectStore.objects.set _ _).get? _ = (second.objectStore.objects.set _ _).get? _
      rw [Dict.get?_set, Dict.get?_set, same.objects]

/-- What another tenant registers does not show. -/
theorem SameFor.register_other (same : SameFor tenantId first second) {artifact : Artifact}
    (other : artifact.tenantId ≠ tenantId) :
    SameFor tenantId (first.register digestOf artifact).1 second where
  records contentRef := by
    rw [records_register, ← same.records]
    cases accepted : (first.register digestOf artifact).2 with
    | error error => rfl
    | ok record =>
      have owner := (describes_of_described (register_eq_ok.mp accepted).1).owner
      have foreign : record.key ≠ (tenantId, contentRef) := fun here =>
        other (owner.symm.trans (congrArg Prod.fst here))
      show ((some record).filter fun record => record.key = (tenantId, contentRef)).or _ = _
      rw [Option.filter_some, if_neg (by simpa using foreign), Option.none_or]
  objects digest := by
    rw [objectStore_register, ← same.objects]
    cases artifact.check with
    | error error => rfl
    | ok metadata =>
      show (first.objectStore.objects.set _ _).get? _ = _
      exact Dict.get?_set_of_ne _ (fun here => other (congrArg Prod.fst here).symm) _

theorem SameFor.record_eq (same : SameFor tenantId first second) (contentRef : String) :
    first.record contentRef tenantId = second.record contentRef tenantId := by
  unfold ArtifactRegistry.record
  cases normalized : validateTenant tenantId with
  | error error => rfl
  | ok tenant =>
    cases valid : validateContentRef contentRef with
    | error error => rfl
    | ok reference =>
      obtain ⟨-, own⟩ := guard_eq_ok.mp normalized
      obtain rfl := Except.ok.inj own
      show (match first.records.get? (tenantId, reference) with | some record => _ | none => _) =
        match second.records.get? (tenantId, reference) with | some record => _ | none => _
      rw [same.records]

theorem SameFor.get_eq (same : SameFor tenantId first second) {contentRef : String}
    (keyed : ∀ record, second.record contentRef tenantId = .ok record →
      record.tenantId = tenantId) :
    first.get digestOf contentRef tenantId = second.get digestOf contentRef tenantId := by
  unfold ArtifactRegistry.get
  rw [same.record_eq contentRef]
  cases found : second.record contentRef tenantId with
  | error error => rfl
  | ok record =>
    have held : ∀ digest, first.objectStore.get digestOf digest record.tenantId =
        second.objectStore.get digestOf digest record.tenantId := by
      intro digest
      unfold ContentAddressedObjectStore.get
      rw [keyed record found, same.objects]
    show (digestOfRef record.contentRef >>= fun digest => first.objectStore.get digestOf digest
        record.tenantId >>= _) = digestOfRef record.contentRef >>= fun digest =>
          second.objectStore.get digestOf digest record.tenantId >>= _
    simp only [held]

/-- **Tenants are isolated**: what a tenant reads after a run, it would read had no other tenant
registered anything. -/
theorem artifacts_isolated (store : ContentAddressedObjectStore) (calls : List Call)
    (tenantId contentRef : String) :
    let own := calls.filter (Call.concerns tenantId)
    (after digestOf store calls).record contentRef tenantId =
        (after digestOf store own).record contentRef tenantId ∧
      (after digestOf store calls).get digestOf contentRef tenantId =
        (after digestOf store own).get digestOf contentRef tenantId ∧
      (after digestOf store calls).all tenantId = (after digestOf store own).all tenantId := by
  intro own
  have same : SameFor tenantId (after digestOf store calls) (after digestOf store own) := by
    refine run_filter_related (R := SameFor tenantId) (fun left right call seen same => ?_)
      (fun state other call unseen same => ?_) ⟨fun _ => rfl, fun _ => rfl⟩ calls
    · cases call with
      | register artifact => exact same.register (of_decide_eq_true seen)
      | write objectStore => exact ⟨same.records, fun _ => rfl⟩
    · cases call with
      | register artifact => exact same.register_other (of_decide_eq_false unseen)
      | write objectStore => cases unseen
  have keyed : ∀ record, (after digestOf store own).record contentRef tenantId = .ok record →
      record.tenantId = tenantId := fun record found =>
    congrArg Prod.fst (registered_of_recorded (record_eq_ok found)).1
  refine ⟨same.record_eq contentRef, same.get_eq keyed, ?_⟩
  unfold ArtifactRegistry.all
  cases normalized : validateTenant tenantId with
  | error error => rfl
  | ok tenant =>
    obtain ⟨-, own⟩ := guard_eq_ok.mp normalized
    obtain rfl := Except.ok.inj own
    exact congrArg Except.ok (Dict.valuesUnder_congr same.records)

end Runs

end ArtifactRegistry

end Dnc.Registry
