/-
**The effect ledger and its cleanup.**

`dnc.execution.snapshot`: `EffectLedger` keeps the declared effects by their identifiers, and
`CleanupReconciler.reconcile` compensates every effect `u` that was committed, can be undone and has
not been, by a new effect `cleanup:u`.

* `compensate_entries`: what one compensation writes. The compensating effect takes the place of
  whatever has its identifier.
* `reconcile_returns`: the reconciliation raises nothing and leaves nothing uncompensated.
* `Compensated.reconciled`: the ledger it leaves, where no uncompensated effect has the identifier of
  the cleanup of another.
* `reconciles_iff`: it keeps the effects, compensates each, by an effect of its own, exactly on the
  ledgers that are `Tidy`.
-/

import Dnc.Execution.Evidence
import Dnc.PyLib.Dict

namespace Dnc

open PyLib Logic

/-- An effect ledger: every effect is kept under its identifier. -/
structure EffectLedger where
  entries : Dict String EffectLedgerEntry
  keyed : ∀ effectId entry, entries.get? effectId = some entry → entry.effectId = effectId

/-- The effect, compensated by another. -/
def EffectLedgerEntry.compensatedWith (entry : EffectLedgerEntry) (cleanupId : String) :
    EffectLedgerEntry :=
  { entry with
    compensatedBy := some cleanupId
    valid := entry.valid }

/-- `{"compensates": effect_id}`. -/
def compensates (effectId : String) : PyDict := ⟨[("compensates", .str effectId)], rfl⟩

namespace EffectLedger

/-- `self._entries[entry.effect_id] = entry`. -/
def store (ledger : EffectLedger) (entry : EffectLedgerEntry) : EffectLedger where
  entries := ledger.entries.set entry.effectId entry
  keyed effectId other found := by
    rw [Dict.get?_set] at found
    split at found
    · rename_i same
      rw [same, Option.some.inj found]
    · exact ledger.keyed effectId other found

/-- `EffectLedger.uncompensated`. -/
def uncompensated (ledger : EffectLedger) : List EffectLedgerEntry :=
  ledger.entries.values.filter EffectLedgerEntry.uncompensated

/-- The fields of the local variable `cleanup` of `compensate`. -/
def cleanupData (entry : EffectLedgerEntry) (cleanupId : String) : EffectLedgerEntryData where
  effectId := cleanupId
  effectType := .cleanup
  target := entry.target
  reversible := false
  committed := true
  metadata := compensates entry.effectId

/-- `EffectLedger.compensate`. -/
def compensate (ledger : EffectLedger) (effectId cleanupId : String) :
    Except PyError EffectLedger :=
  match ledger.entries.get? effectId with
  | none => .error (.keyError effectId)
  | some entry => do
    let cleanup ← construct EffectLedgerEntryData.violation EffectLedgerEntry.mk
      (cleanupData entry cleanupId)
    return (ledger.store (entry.compensatedWith cleanupId)).store cleanup

/-- `EffectLedger.all`. -/
def all (ledger : EffectLedger) : List EffectLedgerEntry :=
  (sortBy id ledger.entries.keys).filterMap ledger.entries.get?

/-- `f"cleanup:{effect_id}"`. -/
def cleanupId (effectId : String) : String := "cleanup:" ++ effectId

/-- The loop of `reconcile`. -/
def compensateAll (ledger : EffectLedger) (effects : List EffectLedgerEntry) :
    Except PyError EffectLedger :=
  effects.foldlM (fun ledger entry => ledger.compensate entry.effectId (cleanupId entry.effectId))
    ledger

/-- `CleanupReconciler.reconcile`, with the ledger it leaves. -/
def reconcile (ledger : EffectLedger) : Except PyError (List EffectLedgerEntry × EffectLedger) := do
  let reconciled ← ledger.compensateAll ledger.uncompensated
  if reconciled.uncompensated ≠ [] then
    throw (.dncCleanupError "cleanup reconciliation left uncompensated effects")
  return (reconciled.all, reconciled)

/-! ### What the ledger holds -/

/-- The ledger holds the effect. -/
def Holds (ledger : EffectLedger) (entry : EffectLedgerEntry) : Prop :=
  ledger.entries.get? entry.effectId = some entry

theorem holds_of_get? {ledger : EffectLedger} {effectId : String} {entry : EffectLedgerEntry}
    (found : ledger.entries.get? effectId = some entry) : ledger.Holds entry := by
  unfold Holds
  rw [ledger.keyed effectId entry found, found]

/-- Under one identifier there is one effect. -/
theorem Holds.unique {ledger : EffectLedger} {first second : EffectLedgerEntry}
    (holdsFirst : ledger.Holds first) (holdsSecond : ledger.Holds second)
    (same : first.effectId = second.effectId) : first = second := by
  unfold Holds at holdsFirst holdsSecond
  rw [same, holdsSecond] at holdsFirst
  exact (Option.some.inj holdsFirst).symm

theorem mem_uncompensated {ledger : EffectLedger} {entry : EffectLedgerEntry} :
    entry ∈ ledger.uncompensated ↔ ledger.Holds entry ∧ entry.uncompensated = true := by
  rw [uncompensated, List.mem_filter, Dict.mem_values]
  refine and_congr_left fun _ => ⟨?_, fun holds => ⟨_, holds⟩⟩
  rintro ⟨effectId, found⟩
  exact holds_of_get? found

theorem nodup_uncompensated (ledger : EffectLedger) :
    (ledger.uncompensated.map fun entry => entry.effectId).Nodup := by
  have keys : ledger.entries.values.map (fun entry => entry.effectId) = ledger.entries.keys := by
    rw [Dict.values, Dict.keys, List.map_map]
    refine List.map_congr_left fun entry member => ?_
    exact ledger.keyed entry.1 entry.2 (Dict.mem_entries.mp member)
  have distinct : (ledger.entries.values.map fun entry => entry.effectId).Nodup := by
    rw [keys]
    exact ledger.entries.nodup
  exact distinct.sublist (List.filter_sublist.map _)

/-! ### One compensation -/

theorem cleanupId_ne_empty (effectId : String) : cleanupId effectId ≠ "" := by
  intro empty
  have letters := congrArg String.toList empty
  rw [cleanupId, String.toList_append] at letters
  cases letters

theorem cleanupId_injective {first second : String} (same : cleanupId first = cleanupId second) :
    first = second :=
  (String.append_right_inj _).mp same

theorem cleanupData_valid (entry : EffectLedgerEntry) :
    (cleanupData entry (cleanupId entry.effectId)).violation = none := by
  have valid := entry.valid
  unfold EffectLedgerEntryData.violation at valid ⊢
  show (if cleanupId entry.effectId = "" then _ else _) = none
  rw [if_neg (cleanupId_ne_empty entry.effectId)]
  split at valid
  · cases valid
  · exact valid

/-- The effect that compensates another. -/
def cleanupOf (entry : EffectLedgerEntry) : EffectLedgerEntry :=
  ⟨cleanupData entry (cleanupId entry.effectId), cleanupData_valid entry⟩

/-- The ledger after the compensation of an effect. -/
def compensated (ledger : EffectLedger) (entry : EffectLedgerEntry) : EffectLedger :=
  (ledger.store (entry.compensatedWith (cleanupId entry.effectId))).store (cleanupOf entry)

theorem compensate_eq {ledger : EffectLedger} {effectId : String} {entry : EffectLedgerEntry}
    (found : ledger.entries.get? effectId = some entry) :
    ledger.compensate effectId (cleanupId effectId) = .ok (ledger.compensated entry) := by
  obtain rfl := ledger.keyed effectId entry found
  unfold compensate
  rw [found]
  show (construct _ _ _ >>= fun cleanup => Except.ok _) = _
  rw [construct_of_valid (cleanupData_valid entry)]
  rfl

/-- **What one compensation writes**: the compensating effect last. -/
theorem compensate_entries (ledger : EffectLedger) (entry : EffectLedgerEntry) (effectId : String) :
    (ledger.compensated entry).entries.get? effectId =
      if effectId = cleanupId entry.effectId then some (cleanupOf entry)
      else if effectId = entry.effectId then
        some (entry.compensatedWith (cleanupId entry.effectId))
      else ledger.entries.get? effectId := by
  show (Dict.set (Dict.set _ _ _) _ _).get? effectId = _
  rw [Dict.get?_set, Dict.get?_set]
  rfl

/-! ### The loop, on any ledger -/

/-- What is kept under the identifier cannot be undone. -/
def Final (ledger : EffectLedger) (effectId : String) : Prop :=
  ∀ entry, ledger.entries.get? effectId = some entry → entry.reversible = false

/-- What the compensations of some effects make of a ledger. -/
structure Progress (effects : List EffectLedgerEntry) (before after : EffectLedger) : Prop where
  keeps : ∀ effectId ∈ before.entries, effectId ∈ after.entries
  pending : ∀ effectId entry, after.entries.get? effectId = some entry →
    entry.uncompensated = true →
      effectId ∉ effects.map (fun effect => effect.effectId) ∧
        before.entries.get? effectId = some entry
  final : ∀ effectId, before.Final effectId → after.Final effectId
  cleaned : ∀ effect ∈ effects, after.Final (cleanupId effect.effectId)

theorem Progress.refl (ledger : EffectLedger) : Progress [] ledger ledger :=
  ⟨fun _ member => member, fun _ _ found _ => ⟨List.not_mem_nil, found⟩, fun _ final => final,
    fun _ member => by cases member⟩

/-- One compensation more. -/
theorem Progress.compensated {effect entry : EffectLedgerEntry} {rest : List EffectLedgerEntry}
    {before after : EffectLedger} (same : entry.effectId = effect.effectId)
    (found : before.Holds entry) (later : Progress rest (before.compensated entry) after) :
    Progress (effect :: rest) before after where
  keeps effectId member := by
    refine later.keeps effectId (Dict.mem_set.mpr (.inr (Dict.mem_set.mpr (.inr member))))
  pending effectId other stored waits := by
    obtain ⟨notLater, here⟩ := later.pending effectId other stored waits
    rw [compensate_entries] at here
    split at here
    · obtain rfl := Option.some.inj here
      cases waits
    · split at here
      · obtain rfl := Option.some.inj here
        simp [EffectLedgerEntry.uncompensated, EffectLedgerEntry.compensatedWith] at waits
      · rename_i others
        refine ⟨?_, here⟩
        rw [List.map_cons, List.mem_cons, not_or, ← same]
        exact ⟨others, notLater⟩
  final effectId wasFinal := by
    refine later.final effectId fun other stored => ?_
    rw [compensate_entries] at stored
    split at stored
    · obtain rfl := Option.some.inj stored
      rfl
    · split at stored
      · rename_i here
        obtain rfl := Option.some.inj stored
        exact wasFinal entry (here ▸ found)
      · exact wasFinal other stored
  cleaned other member := by
    rcases List.mem_cons.mp member with rfl | inRest
    · refine later.final _ fun written stored => ?_
      rw [compensate_entries, same, if_pos rfl] at stored
      obtain rfl := Option.some.inj stored
      rfl
    · exact later.cleaned other inRest

theorem compensateAll_progress (effects : List EffectLedgerEntry) : ∀ before : EffectLedger,
    (∀ effect ∈ effects, effect.effectId ∈ before.entries) →
      ∃ after, before.compensateAll effects = .ok after ∧ Progress effects before after := by
  induction effects with
  | nil => exact fun before _ => ⟨before, rfl, Progress.refl before⟩
  | cons effect rest ih =>
    intro before present
    obtain ⟨entry, found⟩ := Dict.mem_iff_get?.mp (present effect List.mem_cons_self)
    have same := before.keyed effect.effectId entry found
    have stillPresent : ∀ other ∈ rest, other.effectId ∈ (before.compensated entry).entries :=
      fun other member => Dict.mem_set.mpr (.inr (Dict.mem_set.mpr
        (.inr (present other (List.mem_cons_of_mem _ member)))))
    obtain ⟨after, made, later⟩ := ih (before.compensated entry) stillPresent
    refine ⟨after, ?_, Progress.compensated same (holds_of_get? found) later⟩
    unfold compensateAll at made ⊢
    rw [List.foldlM_cons, compensate_eq found]
    exact made

/-- **The reconciliation raises nothing and leaves nothing uncompensated.** -/
theorem reconcile_returns (before : EffectLedger) :
    ∃ after, before.reconcile = .ok (after.all, after) ∧
      before.compensateAll before.uncompensated = .ok after ∧ after.uncompensated = [] ∧
      Progress before.uncompensated before after := by
  obtain ⟨after, made, progress⟩ := compensateAll_progress before.uncompensated before
    fun effect member => Dict.mem_of_get? (mem_uncompensated.mp member).1
  have nothing : after.uncompensated = [] := by
    refine List.eq_nil_iff_forall_not_mem.mpr fun effect member => ?_
    obtain ⟨holds, waits⟩ := mem_uncompensated.mp member
    obtain ⟨notThere, there⟩ := progress.pending effect.effectId effect holds waits
    exact notThere (List.mem_map_of_mem (mem_uncompensated.mpr ⟨holds_of_get? there, waits⟩))
  refine ⟨after, ?_, made, nothing, progress⟩
  unfold reconcile
  rw [made]
  show (if after.uncompensated ≠ [] then _ else _) = _
  rw [if_neg (not_not.mpr nothing)]
  rfl

/-- A ledger with nothing uncompensated stays as it is. -/
theorem reconcile_of_compensated {ledger : EffectLedger} (nothing : ledger.uncompensated = []) :
    ledger.reconcile = .ok (ledger.all, ledger) := by
  unfold reconcile
  rw [nothing]
  show (if ledger.uncompensated ≠ [] then _ else _) = _
  rw [if_neg (not_not.mpr nothing)]
  rfl

/-! ### The loop, where no cleanup meets another effect to be compensated -/

/-- No effect has the identifier of the cleanup of another. -/
def Free (effects : List EffectLedgerEntry) : Prop :=
  ∀ effect ∈ effects, ∀ other ∈ effects, other.effectId ≠ cleanupId effect.effectId

/-- What the compensations of free effects make of a ledger. -/
structure Compensated (effects : List EffectLedgerEntry) (before after : EffectLedger) : Prop where
  cleanup : ∀ effect ∈ effects,
    after.entries.get? (cleanupId effect.effectId) = some (cleanupOf effect)
  effect : ∀ effect ∈ effects, after.entries.get? effect.effectId =
    some (effect.compensatedWith (cleanupId effect.effectId))
  others : ∀ effectId,
    (∀ effect ∈ effects, effectId ≠ effect.effectId ∧ effectId ≠ cleanupId effect.effectId) →
      after.entries.get? effectId = before.entries.get? effectId

theorem compensateAll_of_free (effects : List EffectLedgerEntry) : ∀ before : EffectLedger,
    (effects.map fun effect => effect.effectId).Nodup → Free effects →
    (∀ effect ∈ effects, before.Holds effect) →
      ∃ after, before.compensateAll effects = .ok after ∧ Compensated effects before after := by
  induction effects with
  | nil =>
    refine fun before _ _ _ => ⟨before, rfl, ?_, ?_, fun _ _ => rfl⟩
    · intro _ member
      cases member
    · intro _ member
      cases member
  | cons first rest ih =>
    intro before distinct free held
    rw [List.map_cons, List.nodup_cons] at distinct
    have apart : ∀ other ∈ rest, other.effectId ≠ first.effectId := fun other member same =>
      distinct.1 (same ▸ List.mem_map_of_mem member)
    have freeOf : ∀ other ∈ rest, other.effectId ≠ cleanupId first.effectId :=
      fun other member => free first List.mem_cons_self other (List.mem_cons_of_mem _ member)
    have stillHeld : ∀ other ∈ rest, (before.compensated first).Holds other := by
      intro other member
      unfold Holds
      rw [compensate_entries, if_neg (freeOf other member), if_neg (apart other member)]
      exact held other (List.mem_cons_of_mem _ member)
    obtain ⟨after, made, later⟩ := ih (before.compensated first) distinct.2
      (fun effect member other otherMember => free effect (List.mem_cons_of_mem _ member) other
        (List.mem_cons_of_mem _ otherMember)) stillHeld
    refine ⟨after, ?_, ?_, ?_, ?_⟩
    · unfold compensateAll at made ⊢
      rw [List.foldlM_cons, compensate_eq (held first List.mem_cons_self)]
      exact made
    · intro effect member
      rcases List.mem_cons.mp member with rfl | inRest
      · rw [later.others, compensate_entries, if_pos rfl]
        intro other otherMember
        exact ⟨(freeOf other otherMember).symm,
          fun same => apart other otherMember (cleanupId_injective same).symm⟩
      · exact later.cleanup effect inRest
    · intro effect member
      rcases List.mem_cons.mp member with rfl | inRest
      · have notCleanup := free effect List.mem_cons_self effect List.mem_cons_self
        rw [later.others, compensate_entries, if_neg notCleanup, if_pos rfl]
        intro other otherMember
        exact ⟨(apart other otherMember).symm,
          free other (List.mem_cons_of_mem _ otherMember) effect List.mem_cons_self⟩
      · exact later.effect effect inRest
    · intro effectId none
      have notFirst := none first List.mem_cons_self
      rw [later.others effectId fun other member => none other (List.mem_cons_of_mem _ member),
        compensate_entries, if_neg notFirst.2, if_neg notFirst.1]

/-! ### A reconciled ledger -/

/-- The effect is kept, with whatever it is compensated by. -/
structure KeptAs (kept effect : EffectLedgerEntry) : Prop where
  effectId : kept.effectId = effect.effectId
  effectType : kept.effectType = effect.effectType
  target : kept.target = effect.target
  reversible : kept.reversible = effect.reversible
  committed : kept.committed = effect.committed
  metadata : kept.metadata = effect.metadata

/-- The first effect is a committed cleanup of the second: each names the other. -/
structure Compensates (cleanup effect : EffectLedgerEntry) : Prop where
  compensatedBy : effect.compensatedBy = some cleanup.effectId
  effectType : cleanup.effectType = .cleanup
  committed : cleanup.committed = true
  target : cleanup.target = effect.target
  metadata : cleanup.metadata.fields.lookup "compensates" = some (.str effect.effectId)

/-- The effects are kept, every committed effect that can be undone is compensated, each by an effect
of its own, and reconciling again changes nothing. -/
structure Reconciled (before after : EffectLedger) : Prop where
  keeps : ∀ effect, before.Holds effect → ∃ kept, after.Holds kept ∧ KeptAs kept effect
  compensates : ∀ effect, after.Holds effect → effect.committed = true → effect.reversible = true →
    ∃ cleanup, after.Holds cleanup ∧ Compensates cleanup effect
  apart : ∀ first second cleanup, after.Holds first → after.Holds second → after.Holds cleanup →
    first.compensatedBy = some cleanup.effectId → second.compensatedBy = some cleanup.effectId →
      first = second
  again : after.reconcile = .ok (after.all, after)

/-- The reconciliation returns the effects of a reconciled ledger. -/
def Reconciles (before : EffectLedger) : Prop :=
  ∃ after, before.reconcile = .ok (after.all, after) ∧ Reconciled before after

/-- A cleanup takes the place of what has the identifier. -/
def Replaced (before : EffectLedger) (effectId : String) : Prop :=
  ∃ effect ∈ before.uncompensated, effectId = cleanupId effect.effectId

/-- What is there under the identifier of a cleanup is already that cleanup, and what is already
compensated is so by a cleanup of its own. -/
structure Tidy (before : EffectLedger) : Prop where
  free : ∀ effect ∈ before.uncompensated, ∀ old, before.Holds old →
    old.effectId = cleanupId effect.effectId → KeptAs (cleanupOf effect) old
  compensated : ∀ effect, before.Holds effect → effect.committed = true → effect.reversible = true →
    effect.compensatedBy ≠ none → ∃ cleanup, before.Holds cleanup ∧ Compensates cleanup effect
  apart : ∀ first second cleanup, before.Holds first → before.Holds second → before.Holds cleanup →
    ¬ before.Replaced first.effectId → ¬ before.Replaced second.effectId →
    first.compensatedBy = some cleanup.effectId → second.compensatedBy = some cleanup.effectId →
      first = second
  unclaimed : ∀ effect ∈ before.uncompensated, ∀ old, before.Holds old →
    ¬ before.Replaced old.effectId → old.compensatedBy ≠ some (cleanupId effect.effectId)

section Reconciliation

variable {before after : EffectLedger}

/-- An effect to be compensated can be undone, and nothing compensates it. -/
theorem of_mem_uncompensated {effect : EffectLedgerEntry} (member : effect ∈ before.uncompensated) :
    before.Holds effect ∧ effect.committed = true ∧ effect.reversible = true ∧
      effect.compensatedBy = none := by
  obtain ⟨holds, waits⟩ := mem_uncompensated.mp member
  rw [EffectLedgerEntry.uncompensated, Bool.and_eq_true, Bool.and_eq_true,
    Option.isNone_iff_eq_none] at waits
  exact ⟨holds, waits.1.1, waits.1.2, waits.2⟩

/-- What cannot be undone is no cleanup's to replace, if it is kept. -/
theorem Tidy.isFree (tidy : before.Tidy) : Free before.uncompensated := by
  intro effect member other otherMember same
  obtain ⟨holds, -, reversible, -⟩ := of_mem_uncompensated otherMember
  have kept := (tidy.free effect member other holds same).reversible
  rw [reversible] at kept
  cases kept

theorem Reconciled.isFree (progress : Progress before.uncompensated before after)
    (reconciled : Reconciled before after) : Free before.uncompensated := by
  intro effect member other otherMember same
  obtain ⟨holds, -, reversible, -⟩ := of_mem_uncompensated otherMember
  obtain ⟨kept, there, keptAs⟩ := reconciled.keeps other holds
  unfold Holds at there
  rw [keptAs.effectId, same] at there
  have final := progress.cleaned effect member kept there
  rw [keptAs.reversible, reversible] at final
  cases final

variable (compensated : Compensated before.uncompensated before after)
include compensated

/-- What is held after the loop. -/
theorem Compensated.held {entry : EffectLedgerEntry} (holds : after.Holds entry) :
    (∃ effect ∈ before.uncompensated, entry = cleanupOf effect) ∨
      (∃ effect ∈ before.uncompensated,
        entry = effect.compensatedWith (cleanupId effect.effectId)) ∨
      (before.Holds entry ∧ entry ∉ before.uncompensated ∧ ¬ before.Replaced entry.effectId) := by
  by_cases replaced : before.Replaced entry.effectId
  · obtain ⟨effect, member, same⟩ := replaced
    refine .inl ⟨effect, member, Option.some.inj ?_⟩
    rw [← compensated.cleanup effect member, ← same, holds]
  · by_cases waited : ∃ effect ∈ before.uncompensated, entry.effectId = effect.effectId
    · obtain ⟨effect, member, same⟩ := waited
      refine .inr (.inl ⟨effect, member, Option.some.inj ?_⟩)
      rw [← compensated.effect effect member, ← same, holds]
    · refine .inr (.inr ⟨?_, fun member => waited ⟨entry, member, rfl⟩, replaced⟩)
      unfold Holds at holds ⊢
      rw [← holds]
      refine (compensated.others entry.effectId fun effect member => ⟨?_, ?_⟩).symm
      · exact fun same => waited ⟨effect, member, same⟩
      · exact fun same => replaced ⟨effect, member, same⟩

/-- What the loop does not touch. -/
theorem Compensated.untouched {entry : EffectLedgerEntry} (holds : before.Holds entry)
    (settled : entry ∉ before.uncompensated) (stays : ¬ before.Replaced entry.effectId) :
    after.Holds entry := by
  unfold Holds
  rw [compensated.others]
  · exact holds
  · refine fun effect member => ⟨fun same => settled ?_, fun same => stays ⟨effect, member, same⟩⟩
    rw [holds.unique (of_mem_uncompensated member).1 same]
    exact member

theorem Compensated.holds_cleanup {effect : EffectLedgerEntry}
    (member : effect ∈ before.uncompensated) : after.Holds (cleanupOf effect) :=
  compensated.cleanup effect member

theorem Compensated.holds_effect {effect : EffectLedgerEntry}
    (member : effect ∈ before.uncompensated) :
    after.Holds (effect.compensatedWith (cleanupId effect.effectId)) :=
  compensated.effect effect member

/-- Of a tidy ledger, the effects are kept. -/
theorem Compensated.keeps (tidy : before.Tidy) {effect : EffectLedgerEntry}
    (holds : before.Holds effect) : ∃ kept, after.Holds kept ∧ KeptAs kept effect := by
  by_cases replaced : before.Replaced effect.effectId
  · obtain ⟨other, member, same⟩ := replaced
    exact ⟨_, compensated.holds_cleanup member, tidy.free other member effect holds same⟩
  · by_cases waits : effect ∈ before.uncompensated
    · exact ⟨_, compensated.holds_effect waits, rfl, rfl, rfl, rfl, rfl, rfl⟩
    · exact ⟨effect, compensated.untouched holds waits replaced, rfl, rfl, rfl, rfl, rfl, rfl⟩

/-- Of a tidy ledger, a cleanup still is one. -/
theorem Compensated.stillCompensates (tidy : before.Tidy) {cleanup effect : EffectLedgerEntry}
    (held : before.Holds cleanup) (compensates : Compensates cleanup effect) :
    ∃ cleanup, after.Holds cleanup ∧ Compensates cleanup effect := by
  obtain ⟨kept, there, keptAs⟩ := compensated.keeps tidy held
  refine ⟨kept, there, ?_, ?_, ?_, ?_, ?_⟩
  · rw [compensates.compensatedBy, keptAs.effectId]
  · rw [keptAs.effectType, compensates.effectType]
  · rw [keptAs.committed, compensates.committed]
  · rw [keptAs.target, compensates.target]
  · rw [keptAs.metadata, compensates.metadata]

/-- A cleanup that is there after the loop was there before, if its effect was settled. -/
theorem Compensated.alreadyCompensates {cleanup effect : EffectLedgerEntry}
    (holds : before.Holds effect) (settled : effect ∉ before.uncompensated)
    (held : after.Holds cleanup) (compensates : Compensates cleanup effect) :
    ∃ cleanup, before.Holds cleanup ∧ Compensates cleanup effect := by
  rcases compensated.held held with ⟨other, member, rfl⟩ | ⟨other, member, rfl⟩ | ⟨old, -, -⟩
  · -- a new cleanup names an effect that waited
    have names : other.effectId = effect.effectId :=
      PyData.str.inj (Option.some.inj compensates.metadata)
    have same := (of_mem_uncompensated member).1.unique holds names
    exact absurd (same ▸ member) settled
  · exact ⟨other, (of_mem_uncompensated member).1, compensates.compensatedBy,
      compensates.effectType, compensates.committed, compensates.target, compensates.metadata⟩
  · exact ⟨cleanup, old, compensates⟩

theorem Compensated.reconciled (nothing : after.uncompensated = []) (tidy : before.Tidy) :
    Reconciled before after where
  keeps effect holds := compensated.keeps tidy holds
  compensates effect holds committed reversible := by
    rcases compensated.held holds with ⟨other, member, rfl⟩ | ⟨other, member, rfl⟩ | ⟨old, settled, -⟩
    · cases reversible
    · exact ⟨_, compensated.holds_cleanup member, rfl, rfl, rfl, rfl, rfl⟩
    · have already : effect.compensatedBy ≠ none := by
        intro none
        refine settled (mem_uncompensated.mpr ⟨old, ?_⟩)
        rw [EffectLedgerEntry.uncompensated, committed, reversible, none]
        rfl
      obtain ⟨cleanup, held, compensates⟩ :=
        tidy.compensated effect old committed reversible already
      exact compensated.stillCompensates tidy held compensates
  apart first second cleanup holdsFirst holdsSecond holdsCleanup byFirst bySecond := by
    -- what is compensated by a new cleanup was to be compensated
    have claimed : ∀ entry, after.Holds entry → ∀ effect ∈ before.uncompensated,
        entry.compensatedBy = some (cleanupId effect.effectId) →
        entry = effect.compensatedWith (cleanupId effect.effectId) := by
      intro entry holds effect member claims
      rcases compensated.held holds with ⟨other, _, rfl⟩ | ⟨other, otherMember, rfl⟩ |
        ⟨old, _, stays⟩
      · cases claims
      · have ids := cleanupId_injective (Option.some.inj claims)
        rw [(of_mem_uncompensated otherMember).1.unique (of_mem_uncompensated member).1 ids]
      · exact absurd claims (tidy.unclaimed effect member entry old stays)
    rcases compensated.held holdsFirst with ⟨_, _, rfl⟩ | ⟨effect, member, rfl⟩ |
      ⟨oldFirst, _, staysFirst⟩
    · cases byFirst
    · refine (claimed second holdsSecond effect member ?_).symm
      rw [bySecond]
      exact byFirst.symm
    · rcases compensated.held holdsSecond with ⟨_, _, rfl⟩ | ⟨effect, member, rfl⟩ |
        ⟨oldSecond, _, staysSecond⟩
      · cases bySecond
      · refine claimed first holdsFirst effect member ?_
        rw [byFirst]
        exact bySecond.symm
      · rcases compensated.held holdsCleanup with ⟨effect, member, rfl⟩ | ⟨effect, member, rfl⟩ |
          ⟨oldCleanup, _, _⟩
        · exact absurd byFirst (tidy.unclaimed effect member first oldFirst staysFirst)
        · exact tidy.apart first second effect oldFirst oldSecond (of_mem_uncompensated member).1
            staysFirst staysSecond byFirst bySecond
        · exact tidy.apart first second cleanup oldFirst oldSecond oldCleanup staysFirst
            staysSecond byFirst bySecond
  again := reconcile_of_compensated nothing

theorem Compensated.tidy (reconciled : Reconciled before after) : before.Tidy where
  free effect member old holds same := by
    obtain ⟨kept, there, keptAs⟩ := reconciled.keeps old holds
    have cleanup : kept = cleanupOf effect :=
      there.unique (compensated.holds_cleanup member) (keptAs.effectId.trans same)
    rwa [cleanup] at keptAs
  compensated effect holds committed reversible already := by
    have settled : effect ∉ before.uncompensated := fun member =>
      already (of_mem_uncompensated member).2.2.2
    have stays : ¬ before.Replaced effect.effectId := by
      rintro ⟨other, member, same⟩
      obtain ⟨kept, there, keptAs⟩ := reconciled.keeps effect holds
      have cleanup : kept = cleanupOf other :=
        there.unique (compensated.holds_cleanup member) (keptAs.effectId.trans same)
      have undone := keptAs.reversible
      rw [cleanup, reversible] at undone
      cases undone
    obtain ⟨cleanup, held, compensates⟩ := reconciled.compensates effect
      (compensated.untouched holds settled stays) committed reversible
    exact compensated.alreadyCompensates holds settled held compensates
  apart first second cleanup holdsFirst holdsSecond holdsCleanup staysFirst staysSecond byFirst
      bySecond := by
    have settled : ∀ entry, entry.compensatedBy = some cleanup.effectId →
        entry ∉ before.uncompensated := by
      intro entry claims member
      rw [(of_mem_uncompensated member).2.2.2] at claims
      cases claims
    obtain ⟨kept, there, keptAs⟩ := reconciled.keeps cleanup holdsCleanup
    rw [← keptAs.effectId] at byFirst bySecond
    exact reconciled.apart first second kept
      (compensated.untouched holdsFirst (settled first (keptAs.effectId ▸ byFirst)) staysFirst)
      (compensated.untouched holdsSecond (settled second (keptAs.effectId ▸ bySecond)) staysSecond)
      there byFirst bySecond
  unclaimed effect member old holds stays claims := by
    have settled : old ∉ before.uncompensated := by
      intro waits
      rw [(of_mem_uncompensated waits).2.2.2] at claims
      cases claims
    have same := reconciled.apart old (effect.compensatedWith (cleanupId effect.effectId))
      (cleanupOf effect) (compensated.untouched holds settled stays)
      (compensated.holds_effect member) (compensated.holds_cleanup member) claims rfl
    have ids : old.effectId = effect.effectId := by rw [same]; rfl
    exact settled (holds.unique (of_mem_uncompensated member).1 ids ▸ member)

end Reconciliation

/-- **A ledger is reconciled exactly when it is tidy**: under the identifier of a cleanup that is to
come there is nothing but that cleanup, and what is already compensated is so by a cleanup of its
own. -/
theorem reconciles_iff (before : EffectLedger) : before.Reconciles ↔ before.Tidy := by
  obtain ⟨after, returns, made, nothing, progress⟩ := reconcile_returns before
  have compensates : Free before.uncompensated → Compensated before.uncompensated before after := by
    intro free
    obtain ⟨other, same, compensated⟩ := compensateAll_of_free before.uncompensated before
      (nodup_uncompensated before) free fun effect member => (mem_uncompensated.mp member).1
    rw [made] at same
    obtain rfl := Except.ok.inj same
    exact compensated
  constructor
  · rintro ⟨other, same, reconciled⟩
    rw [returns] at same
    obtain rfl : after = other := congrArg Prod.snd (Except.ok.inj same)
    exact (compensates (reconciled.isFree progress)).tidy reconciled
  · intro tidy
    exact ⟨after, returns, (compensates tidy.isFree).reconciled nothing tidy⟩

namespace Sample

/-- A committed write that can be undone. -/
def written : EffectLedgerEntry where
  effectId := "write"
  effectType := .fileWrite
  target := "artifact://out"
  reversible := true
  committed := true
  valid := by decide +kernel

/-- A committed call under the identifier that the cleanup of the write will have. -/
def called : EffectLedgerEntry where
  effectId := "cleanup:write"
  effectType := .networkCall
  target := "https://example.test"
  reversible := false
  committed := true
  valid := by decide +kernel

/-- The ledger of the call and the write. -/
def ledger : EffectLedger := (store ⟨∅, fun _ _ found => by cases found⟩ called).store written

end Sample

/-- **The cleanup of the write takes the place of the call.** -/
theorem cleanup_replaces_call : ¬ Sample.ledger.Reconciles := by
  rintro ⟨after, returns, reconciled⟩
  obtain rfl : Sample.ledger.compensated Sample.written = after :=
    congrArg Prod.snd (Except.ok.inj returns)
  have there : (Sample.ledger.compensated Sample.written).entries.get? "cleanup:write" =
    some (cleanupOf Sample.written) := rfl
  obtain ⟨kept, holds, keptAs⟩ := reconciled.keeps Sample.called rfl
  unfold Holds at holds
  rw [keptAs.effectId] at holds
  have same := Option.some.inj (there.symm.trans holds)
  have type := keptAs.effectType
  rw [← same] at type
  cases type

end EffectLedger

end Dnc
