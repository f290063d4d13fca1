/-
**The object store.**

`dnc.persistence.object_store.ContentAddressedObjectStore`: objects by tenant and digest. A backup is
restored as a whole, after every object of it was hashed again and its tenant looked at. `put` does
not look at the tenant, so a store can hold an object that its own backup is refused for
(`restore_snapshot_iff`).
-/

import Dnc.Logic.Run
import Dnc.Logic.Sequence
import Dnc.PyLib.Dict
import Dnc.PyLib.Value

namespace Dnc

open PyLib Logic

/-- `bytes`. -/
abbrev Bytes := List UInt8

structure ContentAddressedObjectStore where
  objects : Dict (String × String) Bytes := ∅

namespace ContentAddressedObjectStore

variable (digestOf : Bytes → String) (store : ContentAddressedObjectStore)

/-- `ContentAddressedObjectStore.put`, given `hashlib.sha256(data).hexdigest()`. -/
def put (data : Bytes) (tenantId : String) : ContentAddressedObjectStore × String :=
  (⟨store.objects.set (tenantId, digestOf data) data⟩, digestOf data)

/-- `ContentAddressedObjectStore.get`. -/
def get (digest tenantId : String) : Except PyError Bytes :=
  match store.objects.get? (tenantId, digest) with
  | none => .error (.keyError "unknown tenant-scoped object")
  | some data =>
    if digestOf data ≠ digest then
      .error (.valueError "object integrity verification failed")
    else .ok data

/-- `ContentAddressedObjectStore.snapshot`. -/
def snapshot : Dict (String × String) Bytes := store.objects

/-- The checks of one object of a backup. -/
def checkObject (entry : (String × String) × Bytes) : Except PyError Unit :=
  if digestOf entry.2 ≠ entry.1.2 then
    .error (.valueError "backup object integrity verification failed")
  else if entry.1.1 = "" then .error (.valueError "backup object tenant MUST be non-empty")
  else .ok ()

/-- `ContentAddressedObjectStore.restore`. -/
def restore (state : Dict (String × String) Bytes) :
    Except PyError ContentAddressedObjectStore := do
  state.entries.forM (checkObject digestOf)
  return ⟨state⟩

/-- Every object hashes to the digest it is stored under, and has a tenant. -/
def Intact : Prop :=
  ∀ tenantId digest data, store.objects.get? (tenantId, digest) = some data →
    digestOf data = digest ∧ tenantId ≠ ""

variable {digestOf}

theorem get_eq_ok {store : ContentAddressedObjectStore} {digest tenantId : String} {data : Bytes} :
    store.get digestOf digest tenantId = .ok data ↔
      store.objects.get? (tenantId, digest) = some data ∧ digestOf data = digest := by
  unfold ContentAddressedObjectStore.get
  cases store.objects.get? (tenantId, digest) with
  | none => simp
  | some held =>
    dsimp only
    rw [guard_eq_ok, not_not, Except.ok.injEq, Option.some.injEq]
    constructor
    · rintro ⟨own, rfl⟩
      exact ⟨rfl, own⟩
    · rintro ⟨rfl, own⟩
      exact ⟨own, rfl⟩

theorem checkObject_eq_ok {entry : (String × String) × Bytes} :
    checkObject digestOf entry = .ok () ↔ digestOf entry.2 = entry.1.2 ∧ entry.1.1 ≠ "" := by
  unfold checkObject
  split_ifs with changed unnamed
  · exact iff_of_false nofun fun both => changed both.1
  · exact iff_of_false nofun fun both => both.2 unnamed
  · exact iff_of_true rfl ⟨not_not.mp changed, unnamed⟩

/-- What is restored is the backup, if every object of it is intact. -/
theorem restore_eq_ok {state : Dict (String × String) Bytes} {restored : ContentAddressedObjectStore} :
    restore digestOf state = .ok restored ↔ restored = ⟨state⟩ ∧ Intact digestOf ⟨state⟩ := by
  have checks : state.entries.forM (checkObject digestOf) = .ok () ↔ Intact digestOf ⟨state⟩ := by
    rw [forM_eq_ok]
    constructor
    · intro each tenantId digest data found
      exact checkObject_eq_ok.mp (each _ (Dict.mem_entries.mpr found))
    · rintro intact ⟨⟨tenantId, digest⟩, data⟩ member
      exact checkObject_eq_ok.mpr (intact tenantId digest data (Dict.mem_entries.mp member))
  rw [← checks]
  constructor
  · intro ran
    obtain ⟨_, checked, same⟩ := bind_eq_ok.mp ran
    exact ⟨(Except.ok.inj same).symm, checked⟩
  · rintro ⟨rfl, checked⟩
    exact bind_eq_ok.mpr ⟨(), checked, rfl⟩

/-- **A store restores from its own backup** exactly where every object of it is intact. -/
theorem restore_snapshot_iff {store : ContentAddressedObjectStore} :
    (∃ restored, restore digestOf store.snapshot = .ok restored) ↔ store.Intact digestOf := by
  constructor
  · rintro ⟨restored, ran⟩
    exact (restore_eq_ok.mp ran).2
  · intro intact
    exact ⟨store, restore_eq_ok.mpr ⟨rfl, intact⟩⟩

/-- An object that is put for a tenant is intact. -/
theorem Intact.put {store : ContentAddressedObjectStore} (intact : store.Intact digestOf)
    (data : Bytes) {tenantId : String} (named : tenantId ≠ "") :
    (store.put digestOf data tenantId).1.Intact digestOf := by
  intro owner digest stored found
  have lookup : (store.objects.set (tenantId, digestOf data) data).get? (owner, digest) =
      some stored := found
  rw [Dict.get?_set] at lookup
  split_ifs at lookup with here
  · cases lookup
    cases here
    exact ⟨rfl, named⟩
  · exact intact owner digest stored lookup

theorem intact_empty : Intact digestOf {} := by
  intro tenantId digest data found
  cases found

end ContentAddressedObjectStore

end Dnc
