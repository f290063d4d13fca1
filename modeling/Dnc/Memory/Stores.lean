/-
**The governed memory.**

`dnc.memory.stores`: a store of records for each kind of memory. A store holds records of its own
kind under their own ids, which `put` checks or sees to, and which every tombstone keeps; the
structure carries both facts.

`put`, `delete` and `invalidate_dependencies` are followed by what a lookup finds afterwards; a
snapshot that is restored gives every lookup back (`restore_snapshot`).
-/

import Dnc.Logic.Sequence
import Dnc.Memory.Contracts
import Mathlib.Data.Prod.Lex

namespace Dnc.Memory

open PyLib Logic

section Stores

variable {C R : Type} [PyFloat R]

/-- What `retrieve` is asked for; a reranker may raise. -/
structure Retrieval (C R : Type) [PyFloat R] where
  tenantId : String
  allowedLabels : Finset String
  nowNs : Int
  minimumTrust : R := 0.0
  domain : Option String := none
  query : String := ""
  critical : Bool := false
  exactReranker : Option (MemoryRecord C R → Except PyError R) := none

/-- The conditions of `retrieve` on a candidate. -/
def Retrieval.admits (request : Retrieval C R) (record : MemoryRecord C R) : Prop :=
  record.tenantId = request.tenantId ∧ record.deleted = false ∧
    record.securityLabels ⊆ request.allowedLabels ∧ request.minimumTrust ≤ record.trust ∧
    (∀ expiry ∈ record.expiresAtNs, request.nowNs < expiry) ∧
    (∀ domain ∈ request.domain, record.domain = domain) ∧
    (request.critical = true → record.integrityVerified = true)

instance (request : Retrieval C R) : DecidablePred request.admits :=
  fun _ => inferInstanceAs (Decidable (_ ∧ _))

/-- The key that `retrieve` sorts by; `terms text` is `set(text.casefold().split())`. -/
def Retrieval.score (terms : String → Finset String) (str : Option C → String)
    (request : Retrieval C R) (record : MemoryRecord C R) :
    Except PyError (R ×ₗ R ×ₗ Int ×ₗ String) := do
  let reranked ← match request.exactReranker with
    | none => pure 0.0
    | some reranker => reranker record
  let lexical := (terms request.query ∩ terms (str record.content)).card
  return toLex (-reranked, toLex (-record.trust, toLex (-(lexical : Int), record.recordId)))

variable (C R) in
structure MemoryStore (kind : MemoryKind) where
  records : Dict String (MemoryRecord C R) := ∅
  keyed : ∀ recordId record, records.get? recordId = some record →
    record.recordId = recordId ∧ record.kind = kind := by intro _ _ found; exact nomatch found

namespace MemoryStore

variable {kind : MemoryKind}

/-- Storing a record of the kind under its own id. -/
def assign (store : MemoryStore C R kind) (record : MemoryRecord C R)
    (sameKind : record.kind = kind) : MemoryStore C R kind where
  records := store.records.set record.recordId record
  keyed recordId other found := by
    rw [Dict.get?_set] at found
    split_ifs at found with here
    · cases found
      exact ⟨here.symm, sameKind⟩
    · exact store.keyed recordId other found

/-- `MemoryStore.put`. -/
def put (store : MemoryStore C R kind) (record : MemoryRecord C R) :
    Except PyError (MemoryStore C R kind) :=
  if sameKind : record.kind = kind then
    if record.recordId ∈ store.records then
      .error (.valueError s!"memory record already exists: {record.recordId}")
    else .ok (store.assign record sameKind)
  else .error (.valueError "record kind MUST match memory namespace")

/-- `MemoryStore.get`. -/
def get (store : MemoryStore C R kind) (recordId tenantId : String) :
    Option (MemoryRecord C R) :=
  (store.records.get? recordId).filter fun record =>
    record.tenantId = tenantId ∧ record.deleted = false

/-- `MemoryStore.delete`. -/
def delete (store : MemoryStore C R kind) (recordId tenantId : String) :
    Except PyError (MemoryStore C R kind) :=
  match found : store.get recordId tenantId with
  | none => .error (.keyError s!"unknown memory record: {recordId}")
  | some record =>
    if record.legalHold then
      .error (.permissionError "memory under legal hold cannot be deleted")
    else .ok (store.assign record.tombstone
      (store.keyed recordId record (Option.filter_eq_some_iff.mp found).1).2)

/-- `MemoryStore.retrieve`. -/
def retrieve (terms : String → Finset String) (str : Option C → String)
    (store : MemoryStore C R kind) (request : Retrieval C R) :
    Except PyError (List (MemoryRecord C R)) :=
  let candidates := store.records.values.filter fun record => request.admits record
  if request.critical = true ∧ request.exactReranker.isNone then
    .error (.valueError "critical retrieval requires an exact reranker")
  else do
    let scored ← candidates.mapM fun record => do
      return (← request.score terms str record, record)
    return (sortBy Prod.fst scored).map Prod.snd

/-- `set(record.dependencies) & changed_fingerprints` for a record that is not deleted. -/
def dependent (changed : Finset String) (record : MemoryRecord C R) : Prop :=
  record.deleted = false ∧ ∃ dependency ∈ record.dependencies, dependency ∈ changed

instance (changed : Finset String) : DecidablePred (dependent (C := C) (R := R) changed) :=
  fun _ => inferInstanceAs (Decidable (_ ∧ _))

/-- The body of the loop of `invalidate_dependencies`. -/
def buried (changed : Finset String) (record : MemoryRecord C R) : MemoryRecord C R :=
  if dependent changed record then record.tombstone else record

/-- The loop of `invalidate_dependencies` over one store, which writes each record back under its
own id. -/
def invalidate (store : MemoryStore C R kind) (changed : Finset String) :
    MemoryStore C R kind where
  records := store.records.mapValues (buried changed)
  keyed recordId record found := by
    rw [Dict.get?_mapValues] at found
    obtain ⟨origin, stored, rfl⟩ := Option.map_eq_some_iff.mp found
    have own := store.keyed recordId origin stored
    unfold buried
    split_ifs
    · exact own
    · exact own

/-- `MemoryStore.snapshot`. -/
def snapshot (store : MemoryStore C R kind) : List (MemoryRecord C R) :=
  (sortBy id store.records.keys).filterMap store.records.get?

end MemoryStore

/-- `GovernedMemory`: a store of each kind. -/
structure GovernedMemory (C R : Type) [PyFloat R] where
  store : (kind : MemoryKind) → MemoryStore C R kind := fun _ => {}

namespace GovernedMemory

variable (memory : GovernedMemory C R)

/-- What is stored under a kind and an id. -/
def lookup (kind : MemoryKind) (recordId : String) : Option (MemoryRecord C R) :=
  (memory.store kind).records.get? recordId

/-- One store replaced. -/
def withStore (kind : MemoryKind) (store : MemoryStore C R kind) : GovernedMemory C R :=
  ⟨Function.update memory.store kind store⟩

/-- `GovernedMemory.put`. -/
def put (record : MemoryRecord C R) : Except PyError (GovernedMemory C R) := do
  return memory.withStore record.kind (← (memory.store record.kind).put record)

/-- `memory.store(kind).delete(record_id, tenant_id=tenant_id)`. -/
def delete (kind : MemoryKind) (recordId tenantId : String) :
    Except PyError (GovernedMemory C R) := do
  return memory.withStore kind (← (memory.store kind).delete recordId tenantId)

/-- `GovernedMemory.invalidate_dependencies`. -/
def invalidateDependencies (changed : Finset String) : GovernedMemory C R × List String :=
  (⟨fun kind => (memory.store kind).invalidate changed⟩,
    sortBy id (((PyEnum.members (α := MemoryKind)).flatMap fun kind =>
      (memory.store kind).snapshot.filter fun record => MemoryStore.dependent changed record).map
        fun record => record.recordId))

/-- `GovernedMemory.snapshot`. -/
def snapshot : Dict String (List (MemoryRecord C R)) :=
  Dict.ofItems (PyEnum.members.map fun kind : MemoryKind =>
    (PyEnum.value kind, (memory.store kind).snapshot))

/-- The inner loop of `GovernedMemory.restore`. -/
def restoreStore (kind : MemoryKind) (records : List (MemoryRecord C R)) :
    Except PyError (MemoryStore C R kind) :=
  records.foldlM MemoryStore.put {}

/-- `GovernedMemory.restore`. -/
def restore (state : Dict String (List (MemoryRecord C R))) :
    Except PyError (GovernedMemory C R) :=
  PyEnum.members.foldlM (fun restored (kind : MemoryKind) => do
    return restored.withStore kind
      (← restoreStore kind ((state.get? (PyEnum.value kind)).getD []))) {}

end GovernedMemory

/-! ### What a lookup finds -/

namespace MemoryStore

variable {kind : MemoryKind}

theorem put_eq_ok {store next : MemoryStore C R kind} {record : MemoryRecord C R}
    (stored : store.put record = .ok next) :
    record.kind = kind ∧ store.records.get? record.recordId = none ∧
      next.records = store.records.set record.recordId record := by
  unfold put at stored
  split_ifs at stored with sameKind taken
  cases stored
  exact ⟨sameKind, Dict.get?_eq_none.mpr taken, rfl⟩

theorem put_of_fresh {store : MemoryStore C R kind} {record : MemoryRecord C R}
    (sameKind : record.kind = kind) (fresh : store.records.get? record.recordId = none) :
    ∃ next, store.put record = .ok next ∧
      next.records = store.records.set record.recordId record := by
  refine ⟨store.assign record sameKind, ?_, rfl⟩
  rw [put, dif_pos sameKind, if_neg (Dict.get?_eq_none.mp fresh)]

theorem delete_eq_ok {store next : MemoryStore C R kind} {recordId tenantId : String}
    (deleted : store.delete recordId tenantId = .ok next) :
    ∃ record, store.records.get? recordId = some record ∧ record.legalHold = false ∧
      next.records = store.records.set recordId record.tombstone := by
  unfold delete at deleted
  split at deleted
  · cases deleted
  · rename_i record found
    split_ifs at deleted with held
    cases deleted
    have stored := (Option.filter_eq_some_iff.mp found).1
    refine ⟨record, stored, Bool.eq_false_iff.mpr held, ?_⟩
    show store.records.set record.tombstone.recordId _ = _
    rw [MemoryRecord.recordId_tombstone, (store.keyed _ _ stored).1]

/-- What is retrieved is stored, and admitted by the request. -/
theorem mem_of_retrieve {terms : String → Finset String} {str : Option C → String}
    {store : MemoryStore C R kind} {request : Retrieval C R} {records : List (MemoryRecord C R)}
    (returned : store.retrieve terms str request = .ok records) {record : MemoryRecord C R}
    (listed : record ∈ records) :
    store.records.get? record.recordId = some record ∧ request.admits record := by
  unfold retrieve at returned
  split_ifs at returned
  obtain ⟨scored, ran, same⟩ := bind_eq_ok.mp returned
  obtain rfl : (sortBy Prod.fst scored).map Prod.snd = records := Except.ok.inj same
  obtain ⟨⟨score, last⟩, member, rfl : last = record⟩ := List.mem_map.mp listed
  obtain ⟨candidate, isCandidate, shown⟩ :=
    forall₂_mem_right (mapM_eq_ok.mp ran) (mem_sortBy.mp member)
  obtain ⟨_, -, paired⟩ := bind_eq_ok.mp shown
  obtain rfl : candidate = last := congrArg Prod.snd (Except.ok.inj paired)
  obtain ⟨stored, admitted⟩ := List.mem_filter.mp isCandidate
  obtain ⟨recordId, found⟩ := Dict.mem_values.mp stored
  refine ⟨?_, of_decide_eq_true admitted⟩
  rw [(store.keyed _ _ found).1]
  exact found

/-- Without a reranker and without the critical flag, every admitted record is retrieved. -/
theorem retrieve_plain (terms : String → Finset String) (str : Option C → String)
    (store : MemoryStore C R kind) {request : Retrieval C R} (uncritical : request.critical = false)
    (plain : request.exactReranker = none) :
    ∃ records, store.retrieve terms str request = .ok records ∧
      ∀ record, store.records.get? record.recordId = some record → request.admits record →
        record ∈ records := by
  let scoreOf (record : MemoryRecord C R) : R ×ₗ R ×ₗ Int ×ₗ String :=
    toLex (-(0.0 : R), toLex (-record.trust, toLex
      (-((terms request.query ∩ terms (str record.content)).card : Int), record.recordId)))
  have scores : ∀ record, request.score terms str record = .ok (scoreOf record) := by
    intro record
    unfold Retrieval.score
    rw [plain]
    rfl
  have scored : ∀ candidates : List (MemoryRecord C R),
      (candidates.mapM fun record => do return (← request.score terms str record, record)) =
        .ok (candidates.map fun record => (scoreOf record, record)) := by
    intro candidates
    have each : ∀ record ∈ candidates,
        (do return (← request.score terms str record, record) : Except PyError _) =
          .ok (scoreOf record, record) := by
      intro record _
      rw [scores]
      rfl
    exact mapM_eq_ok.mpr (List.forall₂_map_right_iff.mpr (List.forall₂_same.mpr each))
  unfold retrieve
  rw [if_neg fun both => by simp [uncritical] at both, scored]
  refine ⟨_, rfl, fun record stored admitted => ?_⟩
  refine List.mem_map.mpr ⟨(scoreOf record, record), mem_sortBy.mpr ?_, rfl⟩
  refine List.mem_map_of_mem (List.mem_filter.mpr ⟨?_, decide_eq_true admitted⟩)
  exact Dict.mem_values.mpr ⟨record.recordId, stored⟩

theorem mem_snapshot {store : MemoryStore C R kind} {record : MemoryRecord C R} :
    record ∈ store.snapshot ↔ store.records.get? record.recordId = some record := by
  unfold snapshot
  rw [List.mem_filterMap]
  constructor
  · rintro ⟨recordId, -, found⟩
    rw [(store.keyed _ _ found).1]
    exact found
  · intro found
    refine ⟨record.recordId, mem_sortBy.mpr ?_, found⟩
    exact Dict.mem_of_get? found

/-- The ids of a snapshot are the keys in order. -/
theorem map_recordId_snapshot (store : MemoryStore C R kind) :
    store.snapshot.map (fun record => record.recordId) = sortBy id store.records.keys := by
  have each : ∀ keys : List String, (∀ key ∈ keys, key ∈ store.records) →
      (keys.filterMap store.records.get?).map (fun record => record.recordId) = keys := by
    intro keys
    induction keys with
    | nil => exact fun _ => rfl
    | cons key rest ih =>
      intro present
      obtain ⟨record, found⟩ := Dict.mem_iff_get?.mp (present key List.mem_cons_self)
      rw [List.filterMap_cons_some found, List.map_cons, (store.keyed _ _ found).1,
        ih fun other member => present other (List.mem_cons_of_mem _ member)]
  exact each _ fun key member => mem_sortBy.mp member

/-- Records of the kind with distinct, fresh ids are all put. -/
theorem foldlM_put {records : List (MemoryRecord C R)} {store : MemoryStore C R kind}
    (ofKind : ∀ record ∈ records, record.kind = kind)
    (distinct : (records.map fun record => record.recordId).Nodup)
    (fresh : ∀ record ∈ records, store.records.get? record.recordId = none) :
    ∃ next, records.foldlM put store = .ok next ∧ ∀ recordId record,
      next.records.get? recordId = some record ↔
        (record ∈ records ∧ record.recordId = recordId) ∨
          store.records.get? recordId = some record := by
  induction records generalizing store with
  | nil => exact ⟨store, rfl, fun _ _ => by simp⟩
  | cons first rest ih =>
    rw [List.map_cons, List.nodup_cons] at distinct
    obtain ⟨middle, stored, content⟩ := put_of_fresh (ofKind first List.mem_cons_self)
      (fresh first List.mem_cons_self)
    have others : ∀ record ∈ rest, record.recordId ≠ first.recordId := fun record member same =>
      distinct.1 (same ▸ List.mem_map_of_mem (f := fun record => record.recordId) member)
    obtain ⟨next, ran, found⟩ := @ih middle
      (fun record member => ofKind record (List.mem_cons_of_mem _ member)) distinct.2 (by
        intro record member
        rw [content, Dict.get?_set_of_ne _ (others record member)]
        exact fresh record (List.mem_cons_of_mem _ member))
    refine ⟨next, by rw [List.foldlM_cons, stored]; exact ran, fun recordId record => ?_⟩
    rw [found, content, Dict.get?_set, List.mem_cons]
    by_cases here : recordId = first.recordId
    · subst here
      rw [if_pos rfl, fresh first List.mem_cons_self, Option.some.injEq]
      constructor
      · rintro (⟨member, same⟩ | rfl)
        · exact absurd same (others record member)
        · exact Or.inl ⟨Or.inl rfl, rfl⟩
      · rintro (⟨rfl | member, same⟩ | impossible)
        · exact Or.inr rfl
        · exact absurd same (others record member)
        · cases impossible
    · rw [if_neg here]
      constructor
      · rintro (⟨member, same⟩ | old)
        · exact Or.inl ⟨Or.inr member, same⟩
        · exact Or.inr old
      · rintro (⟨rfl | member, same⟩ | old)
        · exact absurd same.symm here
        · exact Or.inl ⟨member, same⟩
        · exact Or.inr old

end MemoryStore

namespace GovernedMemory

variable {memory next : GovernedMemory C R}

theorem store_withStore_self (kind : MemoryKind) (store : MemoryStore C R kind) :
    (memory.withStore kind store).store kind = store := Function.update_self ..

theorem store_withStore_of_ne {kind other : MemoryKind} (different : other ≠ kind)
    (store : MemoryStore C R kind) : (memory.withStore kind store).store other = memory.store other :=
  Function.update_of_ne different _ _

/-- What a lookup finds after one store was assigned to. -/
theorem lookup_of_set {kind : MemoryKind} {store : MemoryStore C R kind} {recordId : String}
    {record : MemoryRecord C R}
    (content : store.records = (memory.store kind).records.set recordId record)
    (other : MemoryKind) (otherId : String) :
    (memory.withStore kind store).lookup other otherId =
      if other = kind ∧ otherId = recordId then some record else memory.lookup other otherId := by
  unfold lookup
  by_cases sameKind : other = kind
  · subst sameKind
    rw [store_withStore_self, content, Dict.get?_set]
    by_cases same : otherId = recordId <;> simp [same]
  · rw [store_withStore_of_ne sameKind, if_neg fun both => sameKind both.1]

theorem put_eq_ok {record : MemoryRecord C R} (stored : memory.put record = .ok next) :
    memory.lookup record.kind record.recordId = none ∧ ∀ kind recordId,
      next.lookup kind recordId = if kind = record.kind ∧ recordId = record.recordId then some record
        else memory.lookup kind recordId := by
  obtain ⟨store, inStore, same⟩ := bind_eq_ok.mp stored
  obtain rfl : memory.withStore record.kind store = next := Except.ok.inj same
  obtain ⟨-, fresh, content⟩ := MemoryStore.put_eq_ok inStore
  exact ⟨fresh, lookup_of_set content⟩

theorem delete_eq_ok {kind : MemoryKind} {recordId tenantId : String}
    (deleted : memory.delete kind recordId tenantId = .ok next) :
    ∃ record, memory.lookup kind recordId = some record ∧ record.legalHold = false ∧
      ∀ other otherId, next.lookup other otherId =
        if other = kind ∧ otherId = recordId then some record.tombstone
        else memory.lookup other otherId := by
  obtain ⟨store, inStore, same⟩ := bind_eq_ok.mp deleted
  obtain rfl : memory.withStore kind store = next := Except.ok.inj same
  obtain ⟨record, found, free, content⟩ := MemoryStore.delete_eq_ok inStore
  exact ⟨record, found, free, lookup_of_set content⟩

theorem lookup_invalidate (changed : Finset String) (kind : MemoryKind) (recordId : String) :
    (memory.invalidateDependencies changed).1.lookup kind recordId =
      (memory.lookup kind recordId).map (MemoryStore.buried changed) :=
  Dict.get?_mapValues _ _ _

theorem get?_snapshot (memory : GovernedMemory C R) (kind : MemoryKind) :
    memory.snapshot.get? (PyEnum.value kind) = some (memory.store kind).snapshot := by
  refine Dict.mem_entries.mp ?_
  unfold snapshot
  rw [Dict.entries_ofItems]
  · exact List.mem_map_of_mem (PyEnum.complete kind)
  · rw [List.map_map]
    show ((PyEnum.members (α := MemoryKind)).map PyEnum.value).Nodup
    decide

/-- **A snapshot restores**, and every lookup finds what it found in the memory captured. -/
theorem restore_snapshot (memory : GovernedMemory C R) :
    ∃ restored, GovernedMemory.restore memory.snapshot = .ok restored ∧
      ∀ kind recordId, restored.lookup kind recordId = memory.lookup kind recordId := by
  have each : ∀ kind : MemoryKind, ∃ store : MemoryStore C R kind,
      restoreStore kind (memory.store kind).snapshot = .ok store ∧ ∀ recordId,
        store.records.get? recordId = (memory.store kind).records.get? recordId := by
    intro kind
    obtain ⟨store, ran, found⟩ := @MemoryStore.foldlM_put C R _ kind
      (memory.store kind).snapshot {}
      (fun record member => ((memory.store kind).keyed _ _ (MemoryStore.mem_snapshot.mp member)).2)
      (by
        rw [MemoryStore.map_recordId_snapshot]
        exact (sortBy_perm _ _).nodup_iff.mpr (memory.store kind).records.nodup)
      fun _ _ => Dict.get?_empty _
    refine ⟨store, ran, fun recordId => Option.ext fun record => ?_⟩
    rw [found, MemoryStore.mem_snapshot]
    constructor
    · rintro (⟨stored, rfl⟩ | impossible)
      · exact stored
      · cases impossible
    · intro stored
      have own := ((memory.store kind).keyed _ _ stored).1
      exact Or.inl ⟨own.symm ▸ stored, own⟩
  choose stores ran same using each
  -- the outer loop fills the stores one after the other
  have filled : ∀ (kinds : List MemoryKind) (start : GovernedMemory C R), ∃ restored,
      kinds.foldlM (fun restored (kind : MemoryKind) => do
        return restored.withStore kind
          (← restoreStore kind ((memory.snapshot.get? (PyEnum.value kind)).getD []))) start =
        Except.ok (ε := PyError) restored ∧
      ∀ kind, restored.store kind = if kind ∈ kinds then stores kind else start.store kind := by
    intro kinds
    induction kinds with
    | nil => exact fun start => ⟨start, rfl, fun _ => rfl⟩
    | cons first rest ih =>
      intro start
      obtain ⟨restored, later, content⟩ := ih (start.withStore first (stores first))
      refine ⟨restored, ?_, fun kind => ?_⟩
      · rw [List.foldlM_cons, get?_snapshot, Option.getD_some, ran first]
        exact later
      · rw [content]
        by_cases inRest : kind ∈ rest
        · rw [if_pos inRest, if_pos (List.mem_cons_of_mem _ inRest)]
        by_cases here : kind = first
        · subst here
          rw [if_neg inRest, if_pos List.mem_cons_self, store_withStore_self]
        · have notListed : kind ∉ first :: rest := by simp [here, inRest]
          rw [if_neg inRest, if_neg notListed, store_withStore_of_ne here]
  obtain ⟨restored, succeeded, content⟩ := filled PyEnum.members {}
  refine ⟨restored, succeeded, fun kind recordId => ?_⟩
  rw [lookup, content, if_pos (PyEnum.complete kind)]
  exact same kind recordId

end GovernedMemory

end Stores

end Dnc.Memory
