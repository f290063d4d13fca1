/-
**Checked compression.**

`dnc.memory.compression.compress_records`: records of one tenant become a SEMANTIC record whose
provenance and dependencies are the ids of its sources.
-/

import Dnc.Logic.Sequence
import Dnc.Memory.Contracts

namespace Dnc.Memory

open PyLib Logic

variable {C R : Type} [PyFloat R]

/-- The constructor call of a record. -/
def MemoryRecord.ofData : MemoryRecordData C R → Except PyError (MemoryRecord C R) :=
  construct MemoryRecordData.violation fun data valid => ⟨data, valid⟩

structure CompressionResult (C R : Type) [PyFloat R] where
  record : MemoryRecord C R
  sourceIds : List String
  preservedIds : List String
  informationLoss : R

/-- `1 - len(set(preserved_ids)) / len(set(source_ids))`. -/
def informationLoss (sourceIds preservedIds : List String) : R :=
  ((1 : Int) : R) - ((preservedIds.toFinset.card : Int) : R) / ((sourceIds.toFinset.card : Int) : R)

/-- The fields of the record that `compress_records` builds. -/
def compressedData (first : MemoryRecord C R) (rest : List (MemoryRecord C R)) (outputId : String)
    (summary : Option C) : MemoryRecordData C R :=
  let sourceIds := (first :: rest).map fun record => record.recordId
  { recordId := outputId
    kind := .semantic
    tenantId := first.tenantId
    content := summary
    provenance := sourceIds
    securityLabels := (first :: rest).foldl (fun labels record => labels ∪ record.securityLabels) ∅
    trust := rest.foldl (fun least record => min least record.trust) first.trust
    createdAtNs := rest.foldl (fun latest record => max latest record.createdAtNs) first.createdAtNs
    dependencies := sourceIds }

/-- `compress_records`. -/
def compressRecords (records : List (MemoryRecord C R)) (outputId : String) (summary : Option C)
    (preservedIds : List String) (maximumInformationLoss : R) :
    Except PyError (CompressionResult C R) :=
  match records with
  | [] => .error (.valueError "compression requires source records")
  | first :: rest =>
    let sourceIds := (first :: rest).map fun record => record.recordId
    if ∃ record ∈ rest, record.tenantId ≠ first.tenantId then
      .error (.valueError "compression cannot cross tenants")
    else if ∃ preserved ∈ preservedIds, preserved ∉ sourceIds then
      .error (.valueError "preservation claims MUST reference source records")
    else if maximumInformationLoss < informationLoss sourceIds preservedIds then
      .error (.valueError "compression exceeds information-loss threshold")
    else do
      let record ← MemoryRecord.ofData (compressedData first rest outputId summary)
      .ok ⟨record, sourceIds, preservedIds, informationLoss sourceIds preservedIds⟩

/-- The sources are of one tenant, and the record has the fields that are computed of them. -/
theorem compressRecords_data {records : List (MemoryRecord C R)} {outputId : String}
    {summary : Option C} {preservedIds : List String} {maximumInformationLoss : R}
    {result : CompressionResult C R}
    (compressed : compressRecords records outputId summary preservedIds maximumInformationLoss =
      .ok result) :
    ∃ first rest, records = first :: rest ∧
      (∀ record ∈ records, record.tenantId = first.tenantId) ∧
      result.record.toMemoryRecordData = compressedData first rest outputId summary := by
  cases records with
  | nil => cases compressed
  | cons first rest =>
    obtain ⟨tenants, oneTenant⟩ := guard_eq_ok.mp compressed
    obtain ⟨-, preserving⟩ := guard_eq_ok.mp oneTenant
    obtain ⟨-, lossless⟩ := guard_eq_ok.mp preserving
    obtain ⟨record, built, same⟩ := bind_eq_ok.mp lossless
    cases same
    obtain ⟨valid, rfl⟩ := construct_eq_ok built
    refine ⟨first, rest, rfl, List.forall_mem_cons.mpr ⟨rfl, fun record member => ?_⟩, rfl⟩
    by_contra different
    exact tenants ⟨record, member, different⟩

end Dnc.Memory
