/-
**The graph registry keeps what it accepts.**

A run of a registry over an object store that others write to as well: graphs are registered for
tenants, some of them refused, and data is put into the store. Loading changes nothing, and so is no
call of a run. SHA-256 is a parameter `digestOf` whose digests are 64 hexadecimal digits and which
tells the data of the run apart.

* `perform_cases`: what a registration can do, and `Consistent`: a record is the description of the
  payload that the store holds under its reference. Every call keeps it (`Consistent.step`), so that
  no record conflicts (`Consistent.newRecord`), and an accepted record stays (`Accepted.recorded`).
* `acceptance_iff`: what is accepted does not depend on the registry.
* `registersFaithfully` — after any run, a graph that was accepted is loaded under the same tenant
  and context, with the same content; a graph with the same content, wherever in the run it is
  registered under that tenant and context, is accepted with the same record; and a tenant that
  registered no graph with that content cannot load it.
-/

import Dnc.Logic.Run
import Dnc.Registry.Graphs
import Mathlib.Data.Set.Function

namespace Dnc.Registry

open PyLib Logic

/-! ### Runs -/

/-- The arguments of `register`. -/
structure Registration where
  graph : JsonGraph
  tenantId : String
  context : Option ExecutionContext

/-- A registration, or data that another user of the object store puts. -/
inductive RegistryCall where
  | register (registration : Registration)
  | put (data : Bytes) (tenantId : String)

/-- The data that a call may put into the store. -/
def RegistryCall.data? : RegistryCall → Option Bytes
  | .register registration => (graphPayload registration.graph.toStructuralGraph).toOption
  | .put data _ => some data

/-- The data of a run. -/
def written (calls : List RegistryCall) : Set Bytes :=
  {data | ∃ call ∈ calls, call.data? = some data}

section Runs

variable (digestOf : Bytes → String)

/-- The registration, made at a registry. -/
def Registration.perform (registration : Registration) (registry : GraphRegistry) :
    GraphRegistry × Except PyError GraphRecord :=
  registry.register digestOf registration.graph.toStructuralGraph registration.tenantId
    registration.context

def step (registry : GraphRegistry) : RegistryCall → GraphRegistry
  | .register registration => (registration.perform digestOf registry).1
  | .put data tenantId =>
    { registry with objectStore := (registry.objectStore.put digestOf data tenantId).1 }

variable (store : ContentAddressedObjectStore)

/-- The registry after the calls, over a store with whatever is in it. -/
def after (calls : List RegistryCall) : GraphRegistry :=
  run (step digestOf) { objectStore := store } calls

/-- The registration was accepted in the run, with this record. -/
def Accepted (calls : List RegistryCall) (registration : Registration) (record : GraphRecord) :
    Prop :=
  ∃ before later, calls = before ++ .register registration :: later ∧
    (registration.perform digestOf (after digestOf store before)).2 = .ok record

/-- The registrations are of graphs with the same content, under one tenant and context. -/
structure Registration.Repeats (again first : Registration) : Prop where
  content : again.graph.content = first.graph.content
  tenantId : again.tenantId = first.tenantId
  context : again.context = first.context

/-- **What a run of the registry promises.** -/
structure RegistersFaithfully (calls : List RegistryCall) : Prop where
  /-- What was accepted is loaded. -/
  loads : ∀ registration record, Accepted digestOf store calls registration record →
    ∃ loaded, (after digestOf store calls).load digestOf record.contentRef registration.tenantId
      registration.context = .ok loaded ∧ loaded.content = registration.graph.content
  /-- Wherever it is registered again, it is accepted with the same record. -/
  repeats : ∀ registration record, Accepted digestOf store calls registration record →
    ∀ before again later, calls = before ++ .register again :: later →
      again.Repeats registration →
      (again.perform digestOf (after digestOf store before)).2 = .ok record
  /-- A tenant that never registered it cannot load it. -/
  isolated : ∀ registration record, Accepted digestOf store calls registration record →
    ∀ tenantId, (∀ other otherRecord, Accepted digestOf store calls other otherRecord →
      other.tenantId = tenantId → other.graph.content ≠ registration.graph.content) →
    ∀ context, ∃ error, (after digestOf store calls).load digestOf record.contentRef tenantId
      context = .error error

end Runs

/-! ### One registration -/

/-- The reference of a payload. -/
def refOf (digestOf : Bytes → String) (payload : Bytes) : String := contentRefOf (digestOf payload)

section Steps

variable {digestOf : Bytes → String} {registry : GraphRegistry} {registration : Registration}
  {record : GraphRecord}

/-- The registry with a payload put into its store. -/
def GraphRegistry.holding (digestOf : Bytes → String) (registry : GraphRegistry) (payload : Bytes)
    (tenantId : String) : GraphRegistry :=
  { registry with objectStore := (registry.objectStore.put digestOf payload tenantId).1 }

theorem newRecord_eq_ok (hex : ∀ data, isDigest (digestOf data) = true) {payload : Bytes}
    {tenantId : String} {graph : StructuralGraph} :
    registry.newRecord (digestOf payload) tenantId graph = .ok record ↔
      record = graphRecord (refOf digestOf payload) tenantId graph ∧
        ∀ previous, registry.records.get? (tenantId, refOf digestOf payload) = some previous →
          previous = record := by
  have conflict : ∀ described : GraphRecord,
      ((registry.records.get? (tenantId, refOf digestOf payload)).any fun previous =>
        previous != described) = true ↔
      ¬ ∀ previous, registry.records.get? (tenantId, refOf digestOf payload) = some previous →
        previous = described := fun described => by
    rw [Option.any_eq_true]
    push Not
    simp only [bne_iff_ne]
  unfold GraphRegistry.newRecord
  rw [validateContentRef_contentRefOf (hex payload)]
  show (if _ then _ else _) = _ ↔ _
  rw [guard_eq_ok]
  constructor
  · rintro ⟨agrees, same⟩
    obtain rfl := Except.ok.inj same
    exact ⟨rfl, not_not.mp fun differs => agrees ((conflict _).mpr differs)⟩
  · rintro ⟨rfl, agrees⟩
    exact ⟨fun differs => (conflict _).mp differs agrees, rfl⟩

/-- **What a registration can do**: it is refused before the first write, or it puts its payload and
is then refused or recorded. -/
theorem perform_cases (digestOf : Bytes → String) (registration : Registration)
    (registry : GraphRegistry) :
    (∃ error, registration.perform digestOf registry = (registry, .error error)) ∨
    ∃ payload canonicalGraph, Canonicalizes registration.graph.toStructuralGraph
        registration.tenantId registration.context payload canonicalGraph ∧
      ((∃ error, registry.newRecord (digestOf payload) registration.tenantId canonicalGraph =
          .error error ∧ registration.perform digestOf registry =
            (registry.holding digestOf payload registration.tenantId, .error error)) ∨
        ∃ record, registry.newRecord (digestOf payload) registration.tenantId canonicalGraph =
          .ok record ∧ registration.perform digestOf registry =
            ({ registry.holding digestOf payload registration.tenantId with
              records := registry.records.set (registration.tenantId, record.contentRef) record },
              .ok record)) := by
  unfold Registration.perform GraphRegistry.register
  cases made : canonicalize registration.graph.toStructuralGraph registration.tenantId
      registration.context with
  | error error => exact Or.inl ⟨error, rfl⟩
  | ok result =>
    obtain ⟨payload, canonicalGraph⟩ := result
    refine Or.inr ⟨payload, canonicalGraph, canonicalize_eq_ok.mp made, ?_⟩
    simp only [ContentAddressedObjectStore.put]
    cases registry.newRecord (digestOf payload) registration.tenantId canonicalGraph with
    | error error => exact Or.inl ⟨error, rfl, rfl⟩
    | ok record => exact Or.inr ⟨record, rfl, rfl⟩

/-- A graph that is canonicalized and does not conflict is accepted. -/
theorem perform_of_newRecord {payload : Bytes} {canonicalGraph : StructuralGraph}
    (made : Canonicalizes registration.graph.toStructuralGraph registration.tenantId
      registration.context payload canonicalGraph)
    (described : registry.newRecord (digestOf payload) registration.tenantId canonicalGraph =
      .ok record) : (registration.perform digestOf registry).2 = .ok record := by
  unfold Registration.perform GraphRegistry.register
  rw [canonicalize_eq_ok.mpr made]
  simp only [ContentAddressedObjectStore.put, described]

/-- What a registration does to the records: nothing, or it is accepted and recorded. -/
theorem perform_records (digestOf : Bytes → String) (registration : Registration)
    (registry : GraphRegistry) :
    ((∃ error, (registration.perform digestOf registry).2 = .error error) ∧
      (registration.perform digestOf registry).1.records = registry.records) ∨
    ∃ payload canonicalGraph record, Canonicalizes registration.graph.toStructuralGraph
        registration.tenantId registration.context payload canonicalGraph ∧
      registry.newRecord (digestOf payload) registration.tenantId canonicalGraph = .ok record ∧
      (registration.perform digestOf registry).2 = .ok record ∧
      (registration.perform digestOf registry).1.records =
        registry.records.set (registration.tenantId, record.contentRef) record := by
  obtain ⟨error, refused⟩ | ⟨payload, canonicalGraph, made, refusal | accepts⟩ :=
    perform_cases digestOf registration registry
  · rw [refused]
    exact Or.inl ⟨⟨error, rfl⟩, rfl⟩
  · obtain ⟨error, -, refused⟩ := refusal
    rw [refused]
    exact Or.inl ⟨⟨error, rfl⟩, rfl⟩
  · obtain ⟨record, newRecord, accepted⟩ := accepts
    rw [accepted]
    exact Or.inr ⟨payload, canonicalGraph, record, made, newRecord, rfl, rfl⟩

/-- What an accepted registration has made. -/
theorem perform_eq_ok (hex : ∀ data, isDigest (digestOf data) = true)
    (accepted : (registration.perform digestOf registry).2 = .ok record) :
    ∃ payload canonicalGraph, Canonicalizes registration.graph.toStructuralGraph
        registration.tenantId registration.context payload canonicalGraph ∧
      record = graphRecord (refOf digestOf payload) registration.tenantId canonicalGraph ∧
      (registration.perform digestOf registry).1.records =
        registry.records.set (registration.tenantId, record.contentRef) record := by
  obtain ⟨⟨error, refused⟩, -⟩ | ⟨payload, canonicalGraph, described, made, newRecord, returned,
    records⟩ := perform_records digestOf registration registry
  · rw [refused] at accepted
    cases accepted
  · obtain rfl := Except.ok.inj (returned.symm.trans accepted)
    exact ⟨payload, canonicalGraph, made, ((newRecord_eq_ok hex).mp newRecord).1, records⟩

end Steps

/-! ### Consistent registries -/

section Consistency

variable {digestOf : Bytes → String} {data : Set Bytes} {registry : GraphRegistry}

/-- Every record describes the payload, of the given data, that the store holds under its
reference. -/
def Consistent (digestOf : Bytes → String) (data : Set Bytes) (registry : GraphRegistry) : Prop :=
  ∀ tenantId contentRef record, registry.records.get? (tenantId, contentRef) = some record →
    ∃ payload ∈ data, ∃ canonicalGraph, contentRef = refOf digestOf payload ∧
      decodePayload payload = .ok canonicalGraph ∧
      record = graphRecord contentRef tenantId canonicalGraph ∧
      registry.objectStore.objects.get? (tenantId, digestOf payload) = some payload

theorem refOf_injOn (injective : Set.InjOn digestOf data) : Set.InjOn (refOf digestOf) data :=
  fun _ inFirst _ inSecond same => injective inFirst inSecond (contentRefOf_injective same)

/-- Putting data of the run replaces no object by another. -/
theorem Consistent.holding (consistent : Consistent digestOf data registry)
    (injective : Set.InjOn digestOf data) {payload : Bytes} (given : payload ∈ data)
    (tenantId : String) :
    Consistent digestOf data (registry.holding digestOf payload tenantId) := by
  intro owner contentRef record recorded
  obtain ⟨stored, inData, canonicalGraph, reference, decodes, described, held⟩ :=
    consistent owner contentRef record recorded
  refine ⟨stored, inData, canonicalGraph, reference, decodes, described, ?_⟩
  show (registry.objectStore.objects.set _ _).get? _ = _
  rw [Dict.get?_set]
  split_ifs with here
  · have digests : digestOf stored = digestOf payload := congrArg Prod.snd here
    exact congrArg some (injective inData given digests).symm
  · exact held

/-- **No conflict**: what a consistent registry is given again is described as before. -/
theorem Consistent.newRecord (consistent : Consistent digestOf data registry)
    (hex : ∀ data, isDigest (digestOf data) = true) (injective : Set.InjOn digestOf data)
    {payload : Bytes} (given : payload ∈ data) {canonicalGraph : StructuralGraph}
    (decodes : decodePayload payload = .ok canonicalGraph) (tenantId : String) :
    registry.newRecord (digestOf payload) tenantId canonicalGraph =
      .ok (graphRecord (refOf digestOf payload) tenantId canonicalGraph) := by
  refine (newRecord_eq_ok hex).mpr ⟨rfl, fun previous recorded => ?_⟩
  obtain ⟨stored, inData, storedGraph, reference, decodesStored, described, -⟩ :=
    consistent tenantId _ previous recorded
  obtain rfl := refOf_injOn injective given inData reference
  rw [decodes] at decodesStored
  rw [described, Except.ok.inj decodesStored]

theorem RegistryCall.data?_of_canonicalizes {registration : Registration} {payload : Bytes}
    {canonicalGraph : StructuralGraph} (made : Canonicalizes registration.graph.toStructuralGraph
      registration.tenantId registration.context payload canonicalGraph) :
    (RegistryCall.register registration).data? = some payload := by
  unfold RegistryCall.data?
  simp only [made.writes, Except.toOption]

/-- **Every call keeps a registry consistent.** -/
theorem Consistent.step (consistent : Consistent digestOf data registry)
    (hex : ∀ data, isDigest (digestOf data) = true) (injective : Set.InjOn digestOf data)
    {call : RegistryCall} (given : ∀ payload, call.data? = some payload → payload ∈ data) :
    Consistent digestOf data (step digestOf registry call) := by
  cases call with
  | put payload tenantId => exact consistent.holding injective (given payload rfl) tenantId
  | register registration =>
    show Consistent digestOf data (registration.perform digestOf registry).1
    obtain ⟨error, refused⟩ | ⟨payload, canonicalGraph, made, refusal | accepts⟩ :=
      perform_cases digestOf registration registry
    · rw [refused]
      exact consistent
    · obtain ⟨error, -, refused⟩ := refusal
      rw [refused]
      exact consistent.holding injective (given payload
        (RegistryCall.data?_of_canonicalizes made)) registration.tenantId
    · obtain ⟨record, described, performed⟩ := accepts
      have inData := given payload (RegistryCall.data?_of_canonicalizes made)
      rw [performed]
      intro owner contentRef other recorded
      have recorded : (registry.records.set (registration.tenantId, record.contentRef) record).get?
          (owner, contentRef) = some other := recorded
      rw [Dict.get?_set] at recorded
      split_ifs at recorded with here
      · obtain rfl := Option.some.inj recorded
        obtain ⟨rfl, -⟩ := (newRecord_eq_ok hex).mp described
        cases here
        exact ⟨payload, inData, canonicalGraph, rfl, made.reads, rfl, Dict.get?_set_self _ _ _⟩
      · exact consistent.holding injective inData registration.tenantId owner contentRef other
          recorded

end Consistency

/-! ### Runs of the registry -/

section Runs

variable {digestOf : Bytes → String} {store : ContentAddressedObjectStore}
  {calls : List RegistryCall} {registration : Registration} {record : GraphRecord}

theorem after_append (first second : List RegistryCall) :
    after digestOf store (first ++ second) =
      run (step digestOf) (after digestOf store first) second :=
  run_append _ _ _ _

/-- **The registry is consistent at every point of a run.** -/
theorem consistent_of_run (hex : ∀ data, isDigest (digestOf data) = true)
    (injective : Set.InjOn digestOf (written calls)) {before later : List RegistryCall}
    (split : calls = before ++ later) :
    Consistent digestOf (written calls) (after digestOf store before) := by
  refine run_invariant_of_trace (fun tenantId contentRef record recorded => ?_)
    fun entry member consistent => consistent.step hex injective fun payload given => ?_
  · cases recorded
  · obtain ⟨first, second, whole, -⟩ := mem_trace _ member
    refine ⟨entry.2, ?_, given⟩
    rw [split, whole, List.append_assoc]
    exact List.mem_append_right _ List.mem_cons_self

/-- A record stays. -/
theorem recorded_step (hex : ∀ data, isDigest (digestOf data) = true) {registry : GraphRegistry}
    {tenantId contentRef : String}
    (recorded : registry.records.get? (tenantId, contentRef) = some record) (call : RegistryCall) :
    (step digestOf registry call).records.get? (tenantId, contentRef) = some record := by
  cases call with
  | put payload owner => exact recorded
  | register other =>
    show (other.perform digestOf registry).1.records.get? _ = _
    obtain ⟨-, same⟩ | ⟨payload, canonicalGraph, described, -, newRecord, -, records⟩ :=
      perform_records digestOf other registry
    · rw [same]
      exact recorded
    · obtain ⟨rfl, agrees⟩ := (newRecord_eq_ok hex).mp newRecord
      rw [records, Dict.get?_set]
      split_ifs with here
      · cases here
        exact congrArg some (agrees record recorded).symm
      · exact recorded

/-- An accepted registration has been canonicalized, and its record is there at the end. -/
theorem Accepted.recorded (hex : ∀ data, isDigest (digestOf data) = true)
    (accepted : Accepted digestOf store calls registration record) :
    ∃ payload ∈ written calls, ∃ canonicalGraph, Canonicalizes registration.graph.toStructuralGraph
        registration.tenantId registration.context payload canonicalGraph ∧
      record = graphRecord (refOf digestOf payload) registration.tenantId canonicalGraph ∧
      (after digestOf store calls).records.get? (registration.tenantId, record.contentRef) =
        some record := by
  obtain ⟨before, later, rfl, performed⟩ := accepted
  obtain ⟨payload, canonicalGraph, made, described, records⟩ := perform_eq_ok hex performed
  have inRun : payload ∈ written (before ++ .register registration :: later) :=
    ⟨.register registration, List.mem_append_right _ List.mem_cons_self,
      RegistryCall.data?_of_canonicalizes made⟩
  refine ⟨payload, inRun, canonicalGraph, made, described, ?_⟩
  rw [after_append, run_cons]
  refine run_invariant (P := fun registry : GraphRegistry =>
    registry.records.get? (registration.tenantId, record.contentRef) = some record)
    (fun registry call recorded => recorded_step hex recorded call) ?_ later
  show (registration.perform digestOf _).1.records.get? _ = _
  rw [records]
  exact Dict.get?_set_self _ _ _

/-- What was accepted in the beginning of a run was accepted in the run. -/
theorem Accepted.append (accepted : Accepted digestOf store calls registration record)
    (more : List RegistryCall) : Accepted digestOf store (calls ++ more) registration record := by
  obtain ⟨before, later, rfl, performed⟩ := accepted
  exact ⟨before, later ++ more, by rw [List.append_assoc, List.cons_append], performed⟩

/-- Every record comes from an accepted registration of its tenant. -/
theorem accepted_of_recorded {tenantId contentRef : String}
    (recorded : (after digestOf store calls).records.get? (tenantId, contentRef) = some record) :
    ∃ other, Accepted digestOf store calls other record ∧ other.tenantId = tenantId ∧
      record.contentRef = contentRef := by
  induction calls using List.reverseRecOn with
  | nil => cases recorded
  | append_singleton before call ih =>
    rw [after_append, run_cons, run_nil] at recorded
    have earlier : (after digestOf store before).records.get? (tenantId, contentRef) = some record →
        ∃ other, Accepted digestOf store (before ++ [call]) other record ∧
          other.tenantId = tenantId ∧ record.contentRef = contentRef := fun found => by
      obtain ⟨other, accepted, tenant, reference⟩ := ih found
      exact ⟨other, accepted.append [call], tenant, reference⟩
    cases call with
    | put payload owner => exact earlier recorded
    | register other =>
      have recorded : (other.perform digestOf (after digestOf store before)).1.records.get?
          (tenantId, contentRef) = some record := recorded
      obtain ⟨-, same⟩ | ⟨payload, canonicalGraph, described, -, newRecord, accepts, records⟩ :=
        perform_records digestOf other (after digestOf store before)
      · rw [same] at recorded
        exact earlier recorded
      · rw [records, Dict.get?_set] at recorded
        split_ifs at recorded with here
        · obtain rfl := Option.some.inj recorded
          cases here
          exact ⟨other, ⟨before, [], rfl, accepts⟩, rfl, rfl⟩
        · exact earlier recorded

/-! ### Loading -/

/-- What is recorded and held is loaded. -/
theorem load_eq_ok {registry : GraphRegistry} {payload : Bytes} {canonicalGraph : StructuralGraph}
    (hex : ∀ data, isDigest (digestOf data) = true)
    (made : Canonicalizes registration.graph.toStructuralGraph registration.tenantId
      registration.context payload canonicalGraph)
    (described : record = graphRecord (refOf digestOf payload) registration.tenantId canonicalGraph)
    (recorded : registry.records.get? (registration.tenantId, record.contentRef) = some record)
    (held : registry.objectStore.objects.get? (registration.tenantId, digestOf payload) =
      some payload) :
    registry.load digestOf record.contentRef registration.tenantId registration.context =
      .ok canonicalGraph := by
  have tenant : validateTenant registration.tenantId = .ok registration.tenantId := by
    obtain ⟨tenant, normalized, -⟩ := bind_eq_ok.mp made.tenant
    obtain ⟨passes, own⟩ := guard_eq_ok.mp normalized
    exact guard_eq_ok.mpr ⟨passes, rfl⟩
  have reference : record.contentRef = contentRefOf (digestOf payload) := by
    rw [described]
    rfl
  have reads : registry.record record.contentRef registration.tenantId = .ok record := by
    unfold GraphRegistry.record
    rw [tenant, reference, validateContentRef_contentRefOf (hex payload)]
    rw [reference] at recorded
    dsimp only [bind, Except.bind]
    rw [recorded]
    rfl
  have gets : registry.objectStore.get digestOf (digestOf payload) registration.tenantId =
      .ok payload := by
    unfold ContentAddressedObjectStore.get
    rw [held]
    exact if_neg (not_not.mpr rfl)
  have digest : digestOfRef record.contentRef = .ok (digestOf payload) := by
    rw [reference]
    exact digestOfRef_contentRefOf (hex payload)
  refine bind_eq_ok.mpr ⟨_, made.tenant, bind_eq_ok.mpr ⟨_, reads, bind_eq_ok.mpr ⟨_, digest,
    bind_eq_ok.mpr ⟨_, gets, bind_eq_ok.mpr ⟨_, decodeRegistered_of_decodePayload made.reads,
      bind_eq_ok.mpr ⟨(), admitGraph_eq_ok.mpr made.readmitted, ?_⟩⟩⟩⟩⟩⟩
  refine guard_eq_ok.mpr ⟨not_not.mpr ?_, rfl⟩
  rw [reference, described]
  rfl

/-- What can be loaded is recorded for the tenant. -/
theorem recorded_of_load {registry : GraphRegistry} {contentRef tenantId : String}
    {context : Option ExecutionContext} {graph : StructuralGraph}
    (loaded : registry.load digestOf contentRef tenantId context = .ok graph) :
    ∃ record, registry.records.get? (tenantId, contentRef) = some record := by
  obtain ⟨tenant, checked, rest⟩ := bind_eq_ok.mp loaded
  obtain ⟨record, reads, -⟩ := bind_eq_ok.mp rest
  obtain ⟨owner, normalized, reads⟩ := bind_eq_ok.mp reads
  obtain ⟨-, own⟩ := guard_eq_ok.mp normalized
  obtain ⟨reference, valid, found⟩ := bind_eq_ok.mp reads
  obtain ⟨_, -, same⟩ := map_eq_ok.mp valid
  rw [← Except.ok.inj own, validateTenantContext_eq_ok checked, ← same] at found
  cases stored : registry.records.get? (tenantId, contentRef) with
  | none =>
    rw [stored] at found
    cases found
  | some record => exact ⟨record, rfl⟩

/-- Accepted registrations of one reference are of graphs with one content. -/
theorem Accepted.content_eq (hex : ∀ data, isDigest (digestOf data) = true)
    (injective : Set.InjOn digestOf (written calls)) {other : Registration}
    {otherRecord : GraphRecord} (accepted : Accepted digestOf store calls registration record)
    (acceptedOther : Accepted digestOf store calls other otherRecord)
    (same : otherRecord.contentRef = record.contentRef) :
    other.graph.content = registration.graph.content := by
  obtain ⟨payload, inRun, canonicalGraph, made, described, -⟩ := accepted.recorded hex
  obtain ⟨payloadOther, inRunOther, graphOther, madeOther, describedOther, -⟩ :=
    acceptedOther.recorded hex
  rw [described, describedOther] at same
  have payloads : payloadOther = payload := refOf_injOn injective inRunOther inRun same
  subst payloads
  have graphs : graphOther = canonicalGraph :=
    Except.ok.inj (madeOther.reads.symm.trans made.reads)
  rw [← canonicalize_content made, ← canonicalize_content madeOther, graphs]

/-- **The graph registry keeps what it accepts.** Over a hash whose digests are 64 hexadecimal
digits and which tells the data of the run apart, every run of the registry, over any store, loads
what it accepted, accepts it again with the same record, and does not load it for a tenant that
never registered it. -/
theorem registersFaithfully (hex : ∀ data, isDigest (digestOf data) = true)
    (store : ContentAddressedObjectStore) (calls : List RegistryCall)
    (injective : Set.InjOn digestOf (written calls)) :
    RegistersFaithfully digestOf store calls where
  loads registration record accepted := by
    obtain ⟨payload, inRun, canonicalGraph, made, described, recorded⟩ := accepted.recorded hex
    obtain ⟨stored, inData, storedGraph, reference, -, -, held⟩ :=
      consistent_of_run hex injective (List.append_nil calls).symm _ _ record recorded
    rw [described] at reference
    obtain rfl := refOf_injOn injective inRun inData reference
    exact ⟨canonicalGraph, load_eq_ok hex made described recorded held, canonicalize_content made⟩
  repeats registration record accepted before again later split repeated := by
    obtain ⟨payload, inRun, canonicalGraph, made, described, -⟩ := accepted.recorded hex
    have madeAgain : Canonicalizes again.graph.toStructuralGraph again.tenantId again.context
        payload canonicalGraph := by
      rw [repeated.tenantId, repeated.context]
      exact canonicalize_of_content repeated.content.symm made
    have consistent : Consistent digestOf (written calls) (after digestOf store before) :=
      consistent_of_run hex injective split
    refine perform_of_newRecord madeAgain ?_
    rw [described, ← repeated.tenantId]
    exact consistent.newRecord hex injective inRun made.reads again.tenantId
  isolated registration record accepted tenantId never context := by
    cases loaded : (after digestOf store calls).load digestOf record.contentRef tenantId
        context with
    | error error => exact ⟨error, rfl⟩
    | ok graph =>
      obtain ⟨otherRecord, recorded⟩ := recorded_of_load loaded
      obtain ⟨other, acceptedOther, tenant, reference⟩ := accepted_of_recorded recorded
      exact absurd (accepted.content_eq hex injective acceptedOther reference)
        (never other otherRecord acceptedOther tenant)

/-- **Acceptance is a property of the arguments**: at every point of a run exactly the acceptable
graphs are accepted. -/
theorem acceptance_iff (hex : ∀ data, isDigest (digestOf data) = true)
    (injective : Set.InjOn digestOf (written calls)) {before later : List RegistryCall}
    (split : calls = before ++ .register registration :: later) :
    (∃ record, (registration.perform digestOf (after digestOf store before)).2 = .ok record) ↔
      Acceptable registration.graph.toStructuralGraph registration.tenantId
        registration.context := by
  rw [← canonicalizes_iff]
  constructor
  · rintro ⟨record, accepted⟩
    obtain ⟨payload, canonicalGraph, made, -, -⟩ := perform_eq_ok hex accepted
    exact ⟨payload, canonicalGraph, made⟩
  · rintro ⟨payload, canonicalGraph, made⟩
    have inRun : payload ∈ written calls := by
      refine ⟨.register registration, ?_, RegistryCall.data?_of_canonicalizes made⟩
      rw [split]
      exact List.mem_append_right _ List.mem_cons_self
    have consistent : Consistent digestOf (written calls) (after digestOf store before) :=
      consistent_of_run hex injective split
    exact ⟨_, perform_of_newRecord made
      (consistent.newRecord hex injective inRun made.reads registration.tenantId)⟩

end Runs

namespace Sample

/-- The SHA-256 digest of the payload of the sample graph. -/
def digest : String := "d24a1088a38fb1ae0bb43d6a555737d0602d7ce2aff3ac3b4e791292840a2d73"

def jsonGraph : JsonGraph where
  toStructuralGraph := Dnc.Sample.graph
  freeForm := Dnc.Sample.freeForm_graph
  mutations uid unit stored := by
    obtain ⟨unitId, rfl, rfl⟩ := Dnc.Sample.stored_in_graph stored
    exact List.nodup_nil

def registration : Registration := ⟨jsonGraph, "tenant_a", none⟩

/-- The sample graph, registered twice. -/
def calls : List RegistryCall := [.register registration, .register registration]

theorem hex (data : Bytes) : isDigest ((fun _ => digest) data) = true :=
  isDigest_of_spelled (show digest = _ from rfl) rfl (by decide)

/-- Both calls write the same data. -/
theorem written_injective : Set.InjOn (fun _ => digest) (written calls) := by
  rintro first ⟨call, member, writes⟩ second ⟨other, memberOther, writesOther⟩ -
  obtain rfl : call = .register registration := by
    rcases List.mem_pair.mp member with same | same <;> exact same
  obtain rfl : other = .register registration := by
    rcases List.mem_pair.mp memberOther with same | same <;> exact same
  exact Option.some.inj (writes.symm.trans writesOther)

theorem writable_graph : Writable Dnc.Sample.graph := by
  intro document written
  have shown : (toDict Dnc.Sample.graph).toOption.all (fun document =>
      document.sortKeys.showable) = true := by decide +kernel
  rw [written] at shown
  exact shown

theorem acceptable : Acceptable jsonGraph.toStructuralGraph "tenant_a" none where
  tenant := by decide +kernel
  admitted := ⟨⟨⟨true, [], []⟩, rfl, rfl⟩, nofun, fun _ => by
    rintro ⟨uid, unit, stored, requires⟩
    obtain ⟨unitId, rfl, rfl⟩ := Dnc.Sample.stored_in_graph stored
    cases requires⟩
  keys := Dnc.Sample.documented_graph.keys
  sortable := Dnc.Sample.sortable_graph
  writable := writable_graph

end Sample

/-- The sample graph is accepted, and the registry keeps it. -/
theorem registersFaithfully_twice :
    (∃ record, Accepted (fun _ => Sample.digest) {} Sample.calls Sample.registration record) ∧
      RegistersFaithfully (fun _ => Sample.digest) {} Sample.calls := by
  refine ⟨?_, registersFaithfully Sample.hex {} Sample.calls Sample.written_injective⟩
  have accepts : ∃ record, (Sample.registration.perform (fun _ => Sample.digest)
      (after (fun _ => Sample.digest) {} [])).2 = .ok record :=
    (acceptance_iff Sample.hex Sample.written_injective rfl).mpr Sample.acceptable
  obtain ⟨record, accepted⟩ := accepts
  exact ⟨record, [], [.register Sample.registration], rfl, accepted⟩

end Dnc.Registry
