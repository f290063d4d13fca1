/-
**Compression and access.**

A compressed record stands for its sources: whoever it is shown to has been shown what they say.
`compress_records` takes the union of their labels and the least of their trust, and leaves the
integrity unverified, so a retrieval that admits the record would admit each source as far as these
go. It carries over neither an expiry nor a domain: the record never expires and is of the domain
`general`.

* `passes_of_compressed`: sources that never expire and are of the domain `general` pass whatever the
  record passes.
* `retrieved_at`: a record that is alone in the memory is retrieved by whoever may read it, at any
  time.

`grantsNoAccess_iff`: in every run after the compression no retrieval returns the record unless all
its sources pass the same filters, exactly when the sources are such.
-/

import Dnc.Memory.Compression
import Dnc.Memory.LegalHold

namespace Dnc.Memory

open PyLib Logic

section Access

variable {C R : Type} [PyFloat R]

/-- The filters of a retrieval, apart from whether the record is deleted. -/
structure Retrieval.Passes (request : Retrieval C R) (record : MemoryRecord C R) : Prop where
  tenant : record.tenantId = request.tenantId
  labels : record.securityLabels ⊆ request.allowedLabels
  trust : request.minimumTrust ≤ record.trust
  expiry : ∀ expiry ∈ record.expiresAtNs, request.nowNs < expiry
  domain : ∀ domain ∈ request.domain, record.domain = domain
  integrity : request.critical = true → record.integrityVerified = true

theorem Retrieval.admits_iff {request : Retrieval C R} {record : MemoryRecord C R} :
    request.admits record ↔ request.Passes record ∧ record.deleted = false := by
  constructor
  · rintro ⟨tenant, live, labels, trust, expiry, domain, integrity⟩
    exact ⟨⟨tenant, labels, trust, expiry, domain, integrity⟩, live⟩
  · rintro ⟨⟨tenant, labels, trust, expiry, domain, integrity⟩, live⟩
    exact ⟨tenant, live, labels, trust, expiry, domain, integrity⟩

/-- **The record grants no access**: it is put into a memory, and after any further calls a retrieval
from its store that returns it would admit every source. -/
def GrantsNoAccess (terms : String → Finset String) (str : Option C → String)
    (sources : List (MemoryRecord C R)) (record : MemoryRecord C R) : Prop :=
  ∀ (start : MemoryRun C R) (calls : List (MemoryCall C R)) (request : Retrieval C R)
    (returned : List (MemoryRecord C R)),
    ((run memoryStep start (.put record :: calls)).current.memory.store record.kind).retrieve
      terms str request = .ok returned →
    record ∈ returned → ∀ source ∈ sources, request.Passes source

/-- Nothing of the source is lost that a retrieval asks for. -/
def Ungoverned (source : MemoryRecord C R) : Prop :=
  source.expiresAtNs = none ∧ source.domain = "general"

variable {sources : List (MemoryRecord C R)} {outputId : String} {summary : Option C}
  {preservedIds : List String} {maximumInformationLoss : R} {result : CompressionResult C R}

/-- **What the record passes, sources without expiry and domain of their own pass.** -/
theorem passes_of_compressed
    (compressed : compressRecords sources outputId summary preservedIds maximumInformationLoss =
      .ok result)
    (ungoverned : ∀ source ∈ sources, Ungoverned source) {request : Retrieval C R}
    (passes : request.Passes result.record) : ∀ source ∈ sources, request.Passes source := by
  obtain ⟨first, rest, rfl, tenants, fields⟩ := compressRecords_data compressed
  have trust := passes.trust
  have labels := passes.labels
  have tenant := passes.tenant
  have domain := passes.domain
  have integrity := passes.integrity
  rw [fields] at trust labels tenant domain integrity
  have trusted : ∀ record ∈ first :: rest, request.minimumTrust ≤ record.trust :=
    List.forall_mem_cons.mpr ((le_foldl_inf_iff fun record : MemoryRecord C R => record.trust).mp trust)
  have readable : ∀ record ∈ first :: rest, record.securityLabels ⊆ request.allowedLabels :=
    ((foldl_sup_le_iff fun record : MemoryRecord C R => record.securityLabels).mp labels).2
  intro source member
  obtain ⟨permanent, general⟩ := ungoverned source member
  exact {
    tenant := (tenants source member).trans tenant
    labels := readable source member
    trust := trusted source member
    expiry := by
      rw [permanent]
      exact nofun
    domain := fun asked given => general.trans (domain asked given)
    integrity := fun critical => Bool.noConfusion (integrity critical) }

/-- The call that asks, at a time, for all that is like the record. -/
def asking (record : MemoryRecord C R) (nowNs : Int) : Retrieval C R where
  tenantId := record.tenantId
  allowedLabels := record.securityLabels
  nowNs
  minimumTrust := record.trust
  domain := some record.domain

/-- **A live record that never expires is retrieved at any time** after it was put. -/
theorem retrieved_at (terms : String → Finset String) (str : Option C → String)
    {record : MemoryRecord C R} (live : record.deleted = false)
    (permanent : record.expiresAtNs = none) (nowNs : Int) :
    ∃ returned, ((run memoryStep ({} : MemoryRun C R)
        [.put record]).current.memory.store record.kind).retrieve terms str (asking record nowNs) =
      .ok returned ∧ record ∈ returned := by
  have fresh := Dict.get?_empty (α := MemoryRecord C R) record.recordId
  have empty : (({} : GovernedMemory C R).store record.kind).records.get? record.recordId = none :=
    fresh
  obtain ⟨store, stored, content⟩ := MemoryStore.put_of_fresh rfl empty
  have after : (run memoryStep ({} : MemoryRun C R) [.put record]).current.memory.store record.kind =
      store := by
    have put : ({} : GovernedMemory C R).put record =
        .ok (({} : GovernedMemory C R).withStore record.kind store) :=
      bind_eq_ok.mpr ⟨store, stored, rfl⟩
    show (memoryStep ({} : MemoryRun C R) (.put record)).current.memory.store record.kind = _
    rw [memoryStep, put]
    exact GovernedMemory.store_withStore_self record.kind store
  have plain : (asking record nowNs).exactReranker = none := rfl
  obtain ⟨returned, ran, complete⟩ := MemoryStore.retrieve_plain terms str store rfl plain
  refine ⟨returned, by rw [after, ran], complete record ?_ ?_⟩
  · rw [content, Dict.get?_set_self]
  · refine Retrieval.admits_iff.mpr ⟨⟨rfl, Finset.Subset.refl _, le_rfl, ?_, ?_, ?_⟩, live⟩
    · rw [permanent]
      intro expiry present
      cases present
    · exact fun domain asked => Option.some.inj asked
    · intro critical
      cases critical

/-- **A compressed record grants no access exactly when no source expires and all are of the domain
`general`.** -/
theorem grantsNoAccess_iff (terms : String → Finset String) (str : Option C → String)
    (compressed : compressRecords sources outputId summary preservedIds maximumInformationLoss =
      .ok result) :
    GrantsNoAccess terms str sources result.record ↔ ∀ source ∈ sources, Ungoverned source := by
  constructor
  · intro safe source member
    obtain ⟨first, rest, -, -, fields⟩ := compressRecords_data compressed
    have live : result.record.deleted = false := by rw [fields]; rfl
    have permanent : result.record.expiresAtNs = none := by rw [fields]; rfl
    have general : result.record.domain = "general" := by rw [fields]; rfl
    have passes : ∀ nowNs, (asking result.record nowNs).Passes source := by
      intro nowNs
      obtain ⟨returned, ran, listed⟩ := retrieved_at terms str live permanent nowNs
      exact safe {} [] (asking result.record nowNs) returned ran listed source member
    constructor
    · cases expires : source.expiresAtNs with
      | none => rfl
      | some expiry => exact absurd ((passes expiry).expiry expiry expires) (lt_irrefl expiry)
    · exact (passes 0).domain "general" (congrArg some general)
  · intro ungoverned start calls request returned ran listed
    obtain ⟨-, admitted⟩ := MemoryStore.mem_of_retrieve ran listed
    exact passes_of_compressed compressed ungoverned (Retrieval.admits_iff.mp admitted).1

end Access

/-! ### A memo that expires -/

namespace Sample

/-- A memo of the tenant, with its expiry. -/
def memoData (recordId : String) (expiresAtNs : Option Int) : MemoryRecordData String ℚ where
  recordId
  kind := .episodic
  tenantId := "tenant"
  content := some "the door code"
  provenance := ["event"]
  expiresAtNs

def lasting : MemoryRecord String ℚ := ⟨memoData "memo" none, by decide +kernel⟩

def note : MemoryRecord String ℚ := ⟨memoData "note" none, by decide +kernel⟩

def expiring : MemoryRecord String ℚ := ⟨memoData "memo" (some 10), by decide +kernel⟩

/-- The memo compressed with others, with nothing lost. -/
def summaryOf (memo : MemoryRecord String ℚ) (rest : List (MemoryRecord String ℚ))
    (valid : (compressedData memo rest "summary" (some "a door code")).violation = none) :
    CompressionResult String ℚ :=
  let ids := (memo :: rest).map fun record => record.recordId
  ⟨⟨compressedData memo rest "summary" (some "a door code"), valid⟩, ids, ids,
    informationLoss ids ids⟩

theorem compressRecords_memo (memo : MemoryRecord String ℚ) {rest : List (MemoryRecord String ℚ)}
    (alike : ∀ record ∈ rest, record.tenantId = memo.tenantId)
    (valid : (compressedData memo rest "summary" (some "a door code")).violation = none) :
    compressRecords (memo :: rest) "summary" (some "a door code")
        ((memo :: rest).map fun record => record.recordId) 0 = .ok (summaryOf memo rest valid) := by
  rw [compressRecords, if_neg (by simpa using alike), if_neg, if_neg (by simp [informationLoss])]
  · exact bind_eq_ok.mpr ⟨_, construct_of_valid valid, rfl⟩
  · rintro ⟨id, listed, missing⟩
    exact missing listed

end Sample

theorem lasting_grants_no_access :
    GrantsNoAccess (fun _ => ∅) (fun _ => "") [Sample.lasting, Sample.note]
      (Sample.summaryOf Sample.lasting [Sample.note] (by decide +kernel)).record :=
  (grantsNoAccess_iff _ _ (Sample.compressRecords_memo Sample.lasting (by decide +kernel)
    (by decide +kernel))).mpr (by simp [Ungoverned, Sample.lasting, Sample.note, Sample.memoData])

/-- The memo expires at 10; its summary is still retrieved then. -/
theorem expired_still_read : ¬ ∀ (terms : String → Finset String) (str : Option String → String)
    (sources : List (MemoryRecord String ℚ)) (outputId : String) (summary : Option String)
    (preservedIds : List String) (maximumInformationLoss : ℚ) (result : CompressionResult String ℚ),
    (∀ source ∈ sources, source.deleted = false) →
    compressRecords sources outputId summary preservedIds maximumInformationLoss = .ok result →
    GrantsNoAccess terms str sources result.record := by
  intro always
  have valid : (compressedData Sample.expiring [] "summary" (some "a door code")).violation = none := by
    decide +kernel
  have safe := always (fun _ => ∅) (fun _ => "") [Sample.expiring] _ _ _ _ _
    (List.forall_mem_singleton.mpr rfl)
    (Sample.compressRecords_memo Sample.expiring (List.forall_mem_nil _) valid)
  have live : (Sample.summaryOf Sample.expiring [] valid).record.deleted = false := rfl
  obtain ⟨returned, ran, listed⟩ := retrieved_at (fun _ => ∅) (fun _ => "") live rfl 10
  have passes := safe {} [] _ returned ran listed Sample.expiring (List.mem_singleton.mpr rfl)
  exact absurd (passes.expiry 10 rfl) (lt_irrefl _)

end Dnc.Memory
