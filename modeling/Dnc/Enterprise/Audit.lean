/-
**Runs of the audit log and of the data governance.**

`dnc.enterprise.operations`: records and assets are stored by tenant and identifier. A record is
redacted when it is appended, stays as it is until a purge finds it out of retention and under no
legal hold, and is the only one of its identifier until then (`audit_contents`). An asset is
registered once, in a residency that the registration allows; its key is rotated and it is marked
deleted, never under a legal hold (`governance_contents`). No tenant sees what another does
(`records_isolated`).
-/

import Dnc.Enterprise.Redaction
import Dnc.Logic.Run
import Dnc.PyLib.Grouping

namespace Dnc.Enterprise

open PyLib Logic

/-! ### The audit log -/

section Audit

/-- A purge at the time removes the record. -/
def AuditRecord.Expired (record : AuditRecord) (nowNs : Int) : Prop :=
  record.legalHold = false ∧ record.retainUntilNs ≤ nowNs

instance (record : AuditRecord) (nowNs : Int) : Decidable (record.Expired nowNs) :=
  inferInstanceAs (Decidable (_ ∧ _))

/-- `AuditLog.purge`: the log, and the identifiers removed. -/
def AuditLog.purge (log : AuditLog) (nowNs : Int) : AuditLog × List String :=
  let expired := log.records.entries.filter fun entry => entry.2.Expired nowNs
  (⟨expired.foldl (fun records entry => records.erase entry.1) log.records⟩,
    sortBy id (expired.map fun entry => entry.2.recordId))

/-- `AuditLog.records(tenant_id=…)`. -/
def AuditLog.recordsOf (log : AuditLog) (tenantId : String) : List AuditRecord :=
  log.records.valuesUnder tenantId

variable (chars : WordChars)

/-- A record as it is stored. -/
def AuditRecord.stored (record : AuditRecord) : AuditRecord :=
  { record with payload := redactPayload chars record.payload }

def AuditRecord.key (record : AuditRecord) : String × String := (record.tenantId, record.recordId)

/-- A call of the log. -/
inductive AuditCall where
  | append (record : AuditRecord)
  | purge (nowNs : Int)

/-- The log after a call; an append that raises leaves it as it is. -/
def AuditLog.step (log : AuditLog) : AuditCall → AuditLog
  | .append record => (log.append chars record).toOption.getD log
  | .purge nowNs => (log.purge nowNs).1

theorem get?_foldl_erase {κ α : Type} [DecidableEq κ] (entries : List (κ × α)) (dict : Dict κ α)
    (key : κ) :
    (entries.foldl (fun dict entry => dict.erase entry.1) dict).get? key =
      if key ∈ entries.map Prod.fst then none else dict.get? key := by
  induction entries generalizing dict with
  | nil => simp
  | cons entry rest ih =>
    rw [List.foldl_cons, ih, Dict.get?_erase, List.map_cons]
    by_cases here : key = entry.1
    · simp [here]
    · rw [if_neg here]
      exact if_congr (by simp [here]) rfl rfl

/-- **A purge** takes the expired records and no others. -/
theorem AuditLog.get?_purge (log : AuditLog) (nowNs : Int) (key : String × String) :
    (log.purge nowNs).1.records.get? key =
      (log.records.get? key).bind fun record =>
        if record.Expired nowNs then none else some record := by
  unfold AuditLog.purge
  dsimp only
  rw [get?_foldl_erase]
  cases found : log.records.get? key with
  | none => simp
  | some record =>
    have removed : key ∈ ((log.records.entries.filter fun entry =>
        entry.2.Expired nowNs).map Prod.fst) ↔ record.Expired nowNs := by
      simp only [List.mem_map, List.mem_filter, decide_eq_true_eq, Prod.exists, exists_and_right,
        exists_eq_right]
      constructor
      · rintro ⟨other, member, expired⟩
        have same := (Dict.mem_entries.mp member).symm.trans found
        exact Option.some.inj same ▸ expired
      · exact fun expired => ⟨record, Dict.mem_entries.mpr found, expired⟩
    rw [Option.bind_some]
    by_cases expired : record.Expired nowNs
    · rw [if_pos (removed.mpr expired), if_pos expired]
    · rw [if_neg (removed.not.mpr expired), if_neg expired]

/-- **An append** stores the redacted record where its key is free. -/
theorem AuditLog.get?_append (log : AuditLog) (record : AuditRecord) (key : String × String) :
    (log.step chars (.append record)).records.get? key =
      if key = record.key ∧ log.records.get? key = none then some (record.stored chars)
      else log.records.get? key := by
  unfold AuditLog.step AuditLog.append
  dsimp only
  by_cases taken : (record.tenantId, record.recordId) ∈ log.records
  · rw [if_pos taken, if_neg]
    · rfl
    · rintro ⟨rfl, free⟩
      exact Dict.get?_eq_none.mp free taken
  · rw [if_neg taken]
    refine (Dict.get?_set _ _ _ _).trans (ite_congr ?_ (fun _ => rfl) fun _ => rfl)
    refine propext ⟨fun same => ⟨same, ?_⟩, And.left⟩
    rw [same]
    exact Dict.get?_eq_none.mpr taken

/-- What an append puts under a key. -/
def appended (key : String × String) : AuditCall → Option AuditRecord
  | .append record => if key = record.key then some (record.stored chars) else none
  | .purge _ => none

/-- What a call leaves of a stored record. -/
def retained (record : AuditRecord) : AuditCall → Option AuditRecord
  | .append _ => some record
  | .purge nowNs => if record.Expired nowNs then none else some record

theorem AuditLog.slot (key : String × String) :
    Slot (AuditLog.step chars) (fun log => log.records.get? key)
      (fun _ call => appended chars key call) retained where
  empty log call free := by
    cases call with
    | append record =>
      rw [log.get?_append, appended]
      by_cases same : key = record.key
      · rw [if_pos ⟨same, free⟩, if_pos same]
      · rw [if_neg fun both => same both.1, if_neg same, free]
    | purge nowNs =>
      refine (log.get?_purge nowNs key).trans ?_
      rw [free]
      rfl
  filled log call record found := by
    cases call with
    | append other =>
      rw [log.get?_append, found, if_neg]
      · rfl
      · rintro ⟨-, free⟩
        cases free
    | purge nowNs =>
      refine (log.get?_purge nowNs key).trans ?_
      rw [found]
      rfl

variable {chars}

/-- A record comes through the calls that do not expire it, as it is. -/
theorem retained_through {record last : AuditRecord} {calls : List AuditCall} :
    calls.foldlM retained record = some last ↔
      last = record ∧ ∀ nowNs, .purge nowNs ∈ calls → ¬ record.Expired nowNs := by
  induction calls with
  | nil =>
    refine ⟨fun same => ⟨(Option.some.inj same).symm, fun _ member => ?_⟩, ?_⟩
    · exact absurd member List.not_mem_nil
    · rintro ⟨rfl, -⟩
      rfl
  | cons call rest ih =>
    rw [List.foldlM_cons]
    cases call with
    | append other =>
      refine ih.trans (and_congr_right fun _ => forall_congr' fun nowNs => ?_)
      rw [List.mem_cons, or_iff_right (by simp)]
    | purge nowNs =>
      rw [retained]
      by_cases expired : record.Expired nowNs
      · rw [if_pos expired]
        refine iff_of_false (by simp) ?_
        rintro ⟨-, kept⟩
        exact kept nowNs List.mem_cons_self expired
      · rw [if_neg expired]
        refine ih.trans (and_congr_right fun _ => ⟨fun kept time member => ?_, ?_⟩)
        · rcases List.mem_cons.mp member with same | later
          · obtain rfl := AuditCall.purge.inj same
            exact expired
          · exact kept time later
        · exact fun kept time member => kept time (List.mem_cons_of_mem _ member)

/-- **The contents of the audit log** after any run: under a key, the redacted form of a record that
was appended when the key was free and that no purge since has found expired. -/
theorem audit_contents (calls : List AuditCall) (key : String × String) (record : AuditRecord) :
    (run (AuditLog.step chars) {} calls).records.get? key = some record ↔
      ∃ before given after, calls = before ++ .append given :: after ∧ given.key = key ∧
        (run (AuditLog.step chars) {} before).records.get? key = none ∧
        record = given.stored chars ∧
        ∀ nowNs, .purge nowNs ∈ after → ¬ (given.stored chars).Expired nowNs := by
  rw [stored_iff (AuditLog.slot chars key) {} rfl]
  constructor
  · rintro ⟨before, call, after, first, split, free, birth, passed⟩
    cases call with
    | purge nowNs => cases birth
    | append given =>
      rw [appended] at birth
      split_ifs at birth with same
      obtain rfl := Option.some.inj birth
      obtain ⟨rfl, kept⟩ := retained_through.mp passed
      exact ⟨before, given, after, split, same.symm, free, rfl, kept⟩
  · rintro ⟨before, given, after, split, rfl, free, rfl, kept⟩
    exact ⟨before, .append given, after, given.stored chars, split, free, if_pos rfl,
      retained_through.mpr ⟨rfl, kept⟩⟩

/-- The calls that concern a tenant. -/
def AuditCall.concerns (tenantId : String) : AuditCall → Bool
  | .append record => record.tenantId = tenantId
  | .purge _ => true

/-- **Tenants are isolated**: what a tenant reads after a run is what it would read had no other
tenant appended anything. -/
theorem records_isolated (calls : List AuditCall) (tenantId : String) :
    (run (AuditLog.step chars) {} calls).recordsOf tenantId =
      (run (AuditLog.step chars) {} (calls.filter (AuditCall.concerns tenantId))).recordsOf
        tenantId := by
  let R (first second : AuditLog) : Prop := ∀ recordId,
    first.records.get? (tenantId, recordId) = second.records.get? (tenantId, recordId)
  have initial : R {} {} := fun _ => rfl
  refine Dict.valuesUnder_congr (run_filter_related (R := R) ?_ ?_ initial calls)
  · intro left right call _ same recordId
    cases call with
    | append record => rw [left.get?_append, right.get?_append, same]
    | purge nowNs =>
      refine (left.get?_purge nowNs _).trans ?_
      rw [same recordId]
      exact (right.get?_purge nowNs _).symm
  · intro state other call unseen same recordId
    cases call with
    | append record =>
      have foreign : record.tenantId ≠ tenantId := of_decide_eq_false unseen
      rw [state.get?_append, if_neg, same]
      rintro ⟨key, -⟩
      exact foreign (Prod.mk.inj key).1.symm
    | purge nowNs => cases unseen

end Audit

/-! ### The data governance -/

section Governance

/-- `KeyError` of a tuple. -/
def unknownAsset (tenantId assetId : String) : PyError :=
  .keyError s!"({Json.textRepr tenantId}, {Json.textRepr assetId})"

/-- `DataGovernance.register`. -/
def DataGovernance.register (governance : DataGovernance) (asset : DataAsset)
    (allowedResidencies : Finset String) : Except PyError DataGovernance :=
  if asset.residency ∉ allowedResidencies then
    .error (.permissionError "data residency policy denied asset")
  else
    let key := (asset.tenantId, asset.assetId)
    if key ∈ governance.assets then .error (.valueError "data asset registration is immutable")
    else .ok ⟨governance.assets.set key asset⟩

/-- `DataGovernance.rotate_key`. -/
def DataGovernance.rotateKey (governance : DataGovernance) (assetId tenantId keyVersion : String) :
    Except PyError DataGovernance :=
  let key := (tenantId, assetId)
  match governance.assets.get? key with
  | none => .error (unknownAsset tenantId assetId)
  | some asset => .ok ⟨governance.assets.set key { asset with keyVersion }⟩

/-- `DataGovernance.delete`. -/
def DataGovernance.delete (governance : DataGovernance) (assetId tenantId : String) :
    Except PyError DataGovernance :=
  let key := (tenantId, assetId)
  match governance.assets.get? key with
  | none => .error (unknownAsset tenantId assetId)
  | some asset =>
    if asset.legalHold then
      .error (.permissionError "asset under legal hold cannot be deleted")
    else .ok ⟨governance.assets.set key { asset with deleted := true }⟩

/-- A call of the governance. -/
inductive GovernanceCall where
  | register (asset : DataAsset) (allowedResidencies : Finset String)
  | rotateKey (assetId tenantId keyVersion : String)
  | delete (assetId tenantId : String)

/-- What a call returns or raises. -/
def DataGovernance.answer (governance : DataGovernance) :
    GovernanceCall → Except PyError DataGovernance
  | .register asset allowedResidencies => governance.register asset allowedResidencies
  | .rotateKey assetId tenantId keyVersion => governance.rotateKey assetId tenantId keyVersion
  | .delete assetId tenantId => governance.delete assetId tenantId

/-- The governance after a call; one that raises leaves it as it is. -/
def DataGovernance.step (governance : DataGovernance) (call : GovernanceCall) : DataGovernance :=
  match governance.answer call with
  | .ok next => next
  | .error _ => governance

/-- What a call registers under a key. -/
def registered (key : String × String) : GovernanceCall → Option DataAsset
  | .register asset allowedResidencies =>
    if key = (asset.tenantId, asset.assetId) ∧ asset.residency ∈ allowedResidencies then some asset
    else none
  | _ => none

/-- What a call makes of the asset under a key. -/
def governed (key : String × String) (asset : DataAsset) : GovernanceCall → DataAsset
  | .register _ _ => asset
  | .rotateKey assetId tenantId keyVersion =>
    if key = (tenantId, assetId) then { asset with keyVersion } else asset
  | .delete assetId tenantId =>
    if key = (tenantId, assetId) ∧ asset.legalHold = false then { asset with deleted := true }
    else asset

/-- What one call makes of the asset under a key, or of there being none. -/
theorem DataGovernance.get?_step (governance : DataGovernance) (call : GovernanceCall)
    (key : String × String) :
    (governance.step call).assets.get? key =
      match governance.assets.get? key with
      | none => registered key call
      | some stored => some (governed key stored call) := by
  cases call with
  | register asset allowedResidencies =>
    unfold DataGovernance.step DataGovernance.answer DataGovernance.register
    by_cases denied : asset.residency ∉ allowedResidencies
    · cases here : governance.assets.get? key <;> simp [denied, here, registered, governed]
    · by_cases same : key = (asset.tenantId, asset.assetId)
      · subst same
        cases here : governance.assets.get? (asset.tenantId, asset.assetId) with
        | none => simp [not_not.mp denied, Dict.get?_eq_none.mp here, registered]
        | some stored => simp [denied, Dict.mem_of_get? here, here, governed]
      · by_cases taken : (asset.tenantId, asset.assetId) ∈ governance.assets
        · cases here : governance.assets.get? key <;>
            simp [denied, taken, same, here, registered, governed]
        · cases here : governance.assets.get? key <;>
            simp [denied, taken, same, here, Dict.get?_set, registered, governed]
  | rotateKey assetId tenantId keyVersion =>
    unfold DataGovernance.step DataGovernance.answer DataGovernance.rotateKey
    by_cases same : key = (tenantId, assetId)
    · subst same
      cases here : governance.assets.get? (tenantId, assetId) <;> simp [here, registered, governed]
    · cases here : governance.assets.get? key <;>
        cases found : governance.assets.get? (tenantId, assetId) <;>
        simp [here, found, same, Dict.get?_set, registered, governed]
  | delete assetId tenantId =>
    unfold DataGovernance.step DataGovernance.answer DataGovernance.delete
    cases found : governance.assets.get? (tenantId, assetId) with
    | none =>
      by_cases same : key = (tenantId, assetId)
      · subst same
        simp [found, registered]
      · cases here : governance.assets.get? key <;> simp [here, found, same, registered, governed]
    | some asset =>
      by_cases same : key = (tenantId, assetId)
      · subst same
        by_cases held : asset.legalHold = true <;> simp [found, held, governed]
      · cases here : governance.assets.get? key <;> by_cases held : asset.legalHold = true <;>
          simp [here, found, same, held, Dict.get?_set, registered, governed]

theorem DataGovernance.slot (key : String × String) :
    Slot DataGovernance.step (fun governance => governance.assets.get? key)
      (fun _ call => registered key call) (fun asset call => some (governed key asset call)) where
  empty governance call free := by rw [governance.get?_step, free]
  filled governance call stored here := by rw [governance.get?_step, here]

/-- The version that a call rotates the key of the asset to. -/
def rotation (key : String × String) : GovernanceCall → Option String
  | .rotateKey assetId tenantId keyVersion =>
    if key = (tenantId, assetId) then some keyVersion else none
  | _ => none

/-- The asset the calls make of a registered one: its key is rotated to the last version, and it
is deleted where some call deletes it and no legal hold forbids that. -/
structure Descends (key : String × String) (given asset : DataAsset)
    (calls : List GovernanceCall) : Prop where
  assetId : asset.assetId = given.assetId
  tenantId : asset.tenantId = given.tenantId
  residency : asset.residency = given.residency
  legalHold : asset.legalHold = given.legalHold
  keyVersion : asset.keyVersion =
    (calls.reverse.findSome? (rotation key)).getD given.keyVersion
  deleted : asset.deleted = true ↔
    given.deleted = true ∨ given.legalHold = false ∧ .delete key.2 key.1 ∈ calls

theorem Descends.unique {key : String × String} {given first second : DataAsset}
    {calls : List GovernanceCall} (left : Descends key given first calls)
    (right : Descends key given second calls) : first = second := by
  obtain ⟨assetId, tenantId, residency, keyVersion, legalHold, deleted⟩ := first
  obtain ⟨assetId', tenantId', residency', keyVersion', legalHold', deleted'⟩ := second
  have sameDeleted : deleted = deleted' :=
    Bool.eq_iff_iff.mpr (left.deleted.trans right.deleted.symm)
  obtain rfl := left.assetId.trans right.assetId.symm
  obtain rfl := left.tenantId.trans right.tenantId.symm
  obtain rfl := left.residency.trans right.residency.symm
  obtain rfl := left.legalHold.trans right.legalHold.symm
  obtain rfl := left.keyVersion.trans right.keyVersion.symm
  rw [sameDeleted]

/-- **One more call** on the asset under the key. -/
theorem Descends.governed {key : String × String} {given asset : DataAsset}
    {calls : List GovernanceCall} (descends : Descends key given asset calls)
    (call : GovernanceCall) : Descends key given (governed key asset call) (calls ++ [call]) := by
  obtain ⟨assetId, tenantId, residency, legalHold, keyVersion, deleted⟩ := descends
  have listed : call ≠ .delete key.2 key.1 →
      (.delete key.2 key.1 ∈ calls ++ [call] ↔ .delete key.2 key.1 ∈ calls) := by
    intro other
    rw [List.mem_append, List.mem_singleton]
    exact or_iff_left other.symm
  cases call with
  | register other allowedResidencies =>
    refine ⟨assetId, tenantId, residency, legalHold, ?_, by rwa [listed (by simp)]⟩
    rw [List.reverse_concat]
    exact keyVersion
  | rotateKey rotatedId rotatedTenant version =>
    rw [Enterprise.governed]
    by_cases same : key = (rotatedTenant, rotatedId)
    · rw [if_pos same]
      refine ⟨assetId, tenantId, residency, legalHold, ?_, by rwa [listed (by simp)]⟩
      rw [List.reverse_concat, List.findSome?_cons, rotation, if_pos same]
      rfl
    · rw [if_neg same]
      refine ⟨assetId, tenantId, residency, legalHold, ?_, by rwa [listed (by simp)]⟩
      rw [List.reverse_concat, List.findSome?_cons, rotation, if_neg same]
      exact keyVersion
  | delete deletedId deletedTenant =>
    have version : asset.keyVersion =
        ((calls ++ [GovernanceCall.delete deletedId deletedTenant]).reverse.findSome?
            (rotation key)).getD
          given.keyVersion := by
      rw [List.reverse_concat]
      exact keyVersion
    rw [Enterprise.governed]
    by_cases taken : key = (deletedTenant, deletedId) ∧ asset.legalHold = false
    · rw [if_pos taken]
      obtain ⟨rfl, free⟩ := taken
      exact ⟨assetId, tenantId, residency, legalHold, version,
        iff_of_true rfl (Or.inr ⟨legalHold ▸ free, by simp⟩)⟩
    · rw [if_neg taken]
      refine ⟨assetId, tenantId, residency, legalHold, version, deleted.trans (or_congr_right ?_)⟩
      refine and_congr_right fun free => ?_
      rw [List.mem_append, List.mem_singleton]
      refine (or_iff_left fun same => taken ?_).symm
      obtain ⟨sameId, sameTenant⟩ := GovernanceCall.delete.inj same
      exact ⟨Prod.ext sameTenant sameId, legalHold.trans free⟩

theorem governed_through {key : String × String} {given asset : DataAsset}
    {calls : List GovernanceCall} :
    calls.foldlM (fun asset call => some (governed key asset call)) given = some asset ↔
      Descends key given asset calls := by
  have total : ∀ (calls : List GovernanceCall) (given : DataAsset),
      calls.foldlM (fun asset call => some (governed key asset call)) given =
        some (calls.foldl (governed key) given) := fun calls given =>
    List.foldlM_pure (m := Option)
  have descends : ∀ calls : List GovernanceCall,
      Descends key given (calls.foldl (governed key) given) calls := by
    intro calls
    induction calls using List.reverseRecOn with
    | nil => exact ⟨rfl, rfl, rfl, rfl, rfl, by simp⟩
    | append_singleton before call ih =>
      rw [List.foldl_append]
      exact ih.governed call
  rw [total, Option.some.injEq]
  exact ⟨fun same => same ▸ descends calls, fun other => (descends calls).unique other⟩

/-- **The contents of the governance** after any run: under a key, what the calls since have made of
an asset that was registered in an allowed residency when the key was free. -/
theorem governance_contents (calls : List GovernanceCall) (key : String × String)
    (asset : DataAsset) :
    (run DataGovernance.step {} calls).assets.get? key = some asset ↔
      ∃ before given allowedResidencies after,
        calls = before ++ .register given allowedResidencies :: after ∧
        key = (given.tenantId, given.assetId) ∧ given.residency ∈ allowedResidencies ∧
        (run DataGovernance.step {} before).assets.get? key = none ∧
        Descends key given asset after := by
  rw [stored_iff (DataGovernance.slot key) {} rfl]
  constructor
  · rintro ⟨before, call, after, first, split, free, birth, passed⟩
    cases call with
    | rotateKey assetId tenantId keyVersion => cases birth
    | delete assetId tenantId => cases birth
    | register given allowedResidencies =>
      rw [registered] at birth
      split_ifs at birth with allowed
      obtain rfl := Option.some.inj birth
      exact ⟨before, given, allowedResidencies, after, split, allowed.1, allowed.2, free,
        governed_through.mp passed⟩
  · rintro ⟨before, given, allowedResidencies, after, split, same, allowed, free, descends⟩
    exact ⟨before, .register given allowedResidencies, after, given, split, free,
      if_pos ⟨same, allowed⟩, governed_through.mpr descends⟩

end Governance

end Dnc.Enterprise
