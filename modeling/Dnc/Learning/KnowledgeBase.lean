/-
**The knowledge base.**

`dnc.learning.continual.KnowledgeBase`: three dictionaries, the current version number, and the
stored snapshots by version number. Dictionaries are objects that are assigned to in place, so they
live on a heap here, the fields of the knowledge base and of a snapshot hold their addresses, and
`dict(x)` allocates. The snapshots themselves are never assigned to.

`history` forgets the addresses: what remains are the version number, the live contents and the
contents of each stored version. As long as no address is used twice (`Separated`, which every call
keeps), a call does to the history what `historyStep` says (`kbStep_refines`).
-/

import Dnc.Logic.Heap
import Dnc.Logic.Run
import Dnc.PyLib.Dict
import Dnc.PyLib.Value

namespace Dnc.Learning

open PyLib Logic

/-- The dictionaries of a knowledge base. -/
inductive KbField where
  | kbModules | kbPlans | kbCosts
deriving DecidableEq, Repr

/-- Where the three dictionaries are. -/
structure KbReferences where
  kbModules : Nat
  kbPlans : Nat
  kbCosts : Nat
deriving DecidableEq

def KbReferences.address (references : KbReferences) : KbField → Nat
  | .kbModules => references.kbModules
  | .kbPlans => references.kbPlans
  | .kbCosts => references.kbCosts

section KnowledgeBase

variable (V : Type)

instance : Inhabited (Dict String V) := ⟨∅⟩

structure KnowledgeBase extends KbReferences where
  heap : Heap (Dict String V)
  kbVersion : Int
  versions : Dict Int KbReferences

/-- What the three dictionaries hold. -/
abbrev KbContents := KbField → Dict String V

variable {V}

/-- `KnowledgeBase()`. -/
def KnowledgeBase.new : KnowledgeBase V where
  heap := ⟨[∅, ∅, ∅]⟩
  kbModules := 0
  kbPlans := 1
  kbCosts := 2
  kbVersion := 0
  versions := ∅

/-- `dict(…)` of the three dictionaries, one after another. -/
def copyDicts (heap : Heap (Dict String V)) (references : KbReferences) :
    KbReferences × Heap (Dict String V) :=
  let (kbModules, heap) := heap.copy references.kbModules
  let (kbPlans, heap) := heap.copy references.kbPlans
  let (kbCosts, heap) := heap.copy references.kbCosts
  ({ kbModules, kbPlans, kbCosts }, heap)

namespace KnowledgeBase

/-- `KnowledgeBase.commit`. -/
def commit (kb : KnowledgeBase V) : Int × KnowledgeBase V :=
  let kbVersion := kb.kbVersion + 1
  let (snapshot, heap) := copyDicts kb.heap kb.toKbReferences
  (kbVersion, { kb with heap, kbVersion, versions := kb.versions.set kbVersion snapshot })

/-- `KnowledgeBase.get_version`. -/
def getVersion (kb : KnowledgeBase V) (version : Int) : Except PyError KbReferences :=
  match kb.versions.get? version with
  | none => .error (.keyError s!"KB version {version} not found")
  | some snapshot => .ok snapshot

/-- `KnowledgeBase.rollback_to`. -/
def rollbackTo (kb : KnowledgeBase V) (targetVersion : Int) : Except PyError (KnowledgeBase V) := do
  let snapshot ← kb.getVersion targetVersion
  let (references, heap) := copyDicts kb.heap snapshot
  return { toKbReferences := references, heap, kbVersion := targetVersion, versions := kb.versions }

/-- `kb.KB_modules[key] = value`, and the same for the other two. -/
def assign (kb : KnowledgeBase V) (field : KbField) (key : String) (value : V) : KnowledgeBase V :=
  { kb with heap := kb.heap.modify (kb.address field) fun dict => dict.set key value }

/-- What the dictionaries at some addresses hold. -/
def contents (kb : KnowledgeBase V) (references : KbReferences) : KbContents V :=
  fun field => kb.heap.read (references.address field)

/-- What the live dictionaries hold. -/
def live (kb : KnowledgeBase V) : KbContents V := kb.contents kb.toKbReferences

end KnowledgeBase

/-- A call on a knowledge base, or an assignment to an entry of one of its dictionaries. -/
inductive KbCall (V : Type) where
  | commit
  | rollbackTo (targetVersion : Int)
  | assign (field : KbField) (key : String) (value : V)

/-- One call as a step; a call that raises changes nothing. -/
def kbStep (kb : KnowledgeBase V) : KbCall V → KnowledgeBase V
  | .commit => kb.commit.2
  | .rollbackTo targetVersion =>
    match kb.rollbackTo targetVersion with
    | .ok next => next
    | .error _ => kb
  | .assign field key value => kb.assign field key value

/-! ### The history -/

variable (V) in
/-- A knowledge base without its addresses. -/
structure KbHistory where
  version : Int
  live : KbContents V
  stored : Int → Option (KbContents V)

/-- What a call does to the history. -/
def historyStep (history : KbHistory V) : KbCall V → KbHistory V
  | .commit =>
    { history with
      version := history.version + 1
      stored := Function.update history.stored (history.version + 1) (some history.live) }
  | .rollbackTo targetVersion =>
    match history.stored targetVersion with
    | none => history
    | some contents => { history with version := targetVersion, live := contents }
  | .assign field key value =>
    { history with live := Function.update history.live field ((history.live field).set key value) }

def KnowledgeBase.history (kb : KnowledgeBase V) : KbHistory V where
  version := kb.kbVersion
  live := kb.live
  stored version := (kb.versions.get? version).map kb.contents

/-! ### Nothing is shared -/

/-- **No address is used twice** where it would matter: the live dictionaries are three objects, and
none of them belongs to a stored version. -/
structure KnowledgeBase.Separated (kb : KnowledgeBase V) : Prop where
  live : ∀ field, kb.heap.Allocated (kb.address field)
  apart : ∀ first second, kb.address first = kb.address second → first = second
  stored : ∀ version snapshot, kb.versions.get? version = some snapshot →
    ∀ field, kb.heap.Allocated (snapshot.address field)
  unshared : ∀ version snapshot, kb.versions.get? version = some snapshot →
    ∀ field other, snapshot.address field ≠ kb.address other

/-- Every address is one of an object, as references are. -/
structure KnowledgeBase.Resolved (kb : KnowledgeBase V) : Prop where
  live : ∀ field, kb.heap.Allocated (kb.address field)
  stored : ∀ version snapshot, kb.versions.get? version = some snapshot →
    ∀ field, kb.heap.Allocated (snapshot.address field)

theorem KnowledgeBase.Separated.resolved {kb : KnowledgeBase V} (separated : kb.Separated) :
    kb.Resolved := ⟨separated.live, separated.stored⟩

/-- Copies are three new objects with the contents of the old ones. -/
structure Copied (heap next : Heap (Dict String V)) (references copies : KbReferences) : Prop where
  grows : heap.Extends next
  allocated : ∀ field, next.Allocated (copies.address field)
  fresh : ∀ field, ¬ heap.Allocated (copies.address field)
  apart : ∀ first second, copies.address first = copies.address second → first = second
  same : ∀ field, next.read (copies.address field) = heap.read (references.address field)

theorem copyDicts_copied {heap : Heap (Dict String V)} {references : KbReferences}
    (known : ∀ field, heap.Allocated (references.address field)) :
    Copied heap (copyDicts heap references).2 references (copyDicts heap references).1 := by
  -- the address and the heap after the first, the second and the third copy
  let first := heap.copy references.kbModules
  let second := first.2.copy references.kbPlans
  let third := second.2.copy references.kbCosts
  have toFirst : heap.Extends first.2 := heap.extends_copy _
  have toSecond : first.2.Extends second.2 := first.2.extends_copy _
  have toThird : second.2.Extends third.2 := second.2.extends_copy _
  have firstNew : first.2.Allocated first.1 := heap.allocated_copy _
  have secondNew : second.2.Allocated second.1 := first.2.allocated_copy _
  have firstFresh : ¬ heap.Allocated first.1 := heap.not_allocated_copy _
  have secondFresh : ¬ first.2.Allocated second.1 := first.2.not_allocated_copy _
  have thirdFresh : ¬ second.2.Allocated third.1 := second.2.not_allocated_copy _
  show Copied heap third.2 references ⟨first.1, second.1, third.1⟩
  constructor
  · exact (toFirst.trans toSecond).trans toThird
  · rintro (_ | _ | _)
    · exact (toSecond.trans toThird).allocated _ firstNew
    · exact toThird.allocated _ secondNew
    · exact second.2.allocated_copy _
  · rintro (_ | _ | _)
    · exact firstFresh
    · exact fun old => secondFresh (toFirst.allocated _ old)
    · exact fun old => thirdFresh ((toFirst.trans toSecond).allocated _ old)
  · have firstSecond : first.1 ≠ second.1 := fun same => secondFresh (same ▸ firstNew)
    have firstThird : first.1 ≠ third.1 :=
      fun same => thirdFresh (same ▸ toSecond.allocated _ firstNew)
    have secondThird : second.1 ≠ third.1 := fun same => thirdFresh (same ▸ secondNew)
    rintro (_ | _ | _) (_ | _ | _) same
    · rfl
    · exact absurd same firstSecond
    · exact absurd same firstThird
    · exact absurd same.symm firstSecond
    · rfl
    · exact absurd same secondThird
    · exact absurd same.symm firstThird
    · exact absurd same.symm secondThird
    · rfl
  · rintro (_ | _ | _)
    · exact ((toSecond.trans toThird).read _ firstNew).trans (heap.read_copy _)
    · have copied := (toThird.read _ secondNew).trans (first.2.read_copy references.kbPlans)
      exact copied.trans (toFirst.read _ (known .kbPlans))
    · have copied := second.2.read_copy references.kbCosts
      exact copied.trans ((toFirst.trans toSecond).read _ (known .kbCosts))

namespace KnowledgeBase

variable {kb : KnowledgeBase V}

theorem separated_new : (new : KnowledgeBase V).Separated where
  live field := by cases field <;> simp [new, Heap.Allocated, KbReferences.address]
  apart first second same := by
    cases first <;> cases second <;> first | rfl | exact nomatch same
  stored _ _ found := nomatch found
  unshared _ _ found := nomatch found

/-- What a stored version holds stays where the heap only grows. -/
theorem contents_of_extends (next : KnowledgeBase V) {references : KbReferences}
    (grows : kb.heap.Extends next.heap)
    (known : ∀ field, kb.heap.Allocated (references.address field)) :
    next.contents references = kb.contents references :=
  funext fun field => grows.read _ (known field)

theorem Separated.commit (separated : kb.Separated) : kb.commit.2.Separated := by
  have copied := copyDicts_copied separated.live
  refine ⟨fun field => copied.grows.allocated _ (separated.live field), separated.apart,
    fun version snapshot found => ?_, fun version snapshot found => ?_⟩
  all_goals
    have found : (kb.versions.set (kb.kbVersion + 1) (copyDicts kb.heap kb.toKbReferences).1).get?
      version = some snapshot := found
    rw [Dict.get?_set] at found
    split_ifs at found with new
  · cases found
    exact copied.allocated
  · exact fun field => copied.grows.allocated _ (separated.stored version snapshot found field)
  · cases found
    exact fun field other same => copied.fresh field (same ▸ separated.live other)
  · exact separated.unshared version snapshot found

theorem history_commit (separated : kb.Separated) :
    kb.commit.2.history = historyStep kb.history .commit := by
  have copied := copyDicts_copied separated.live
  have live : kb.commit.2.live = kb.live :=
    contents_of_extends kb.commit.2 copied.grows separated.live
  have stored : kb.commit.2.history.stored =
      Function.update kb.history.stored (kb.kbVersion + 1) (some kb.live) := by
    funext version
    show ((kb.versions.set (kb.kbVersion + 1) _).get? version).map kb.commit.2.contents = _
    rw [Dict.get?_set, Function.update_apply]
    by_cases new : version = kb.kbVersion + 1
    · rw [if_pos new, if_pos new]
      exact congrArg some (funext copied.same)
    · rw [if_neg new, if_neg new]
      refine Option.map_congr fun snapshot found => ?_
      exact contents_of_extends kb.commit.2 copied.grows
        (separated.stored version snapshot found)
  show KbHistory.mk _ kb.commit.2.live kb.commit.2.history.stored = _
  rw [live, stored]
  rfl

/-- What a rollback that returns leaves. -/
theorem rollbackTo_eq_ok {next : KnowledgeBase V} {targetVersion : Int}
    (returned : kb.rollbackTo targetVersion = .ok next) :
    ∃ snapshot, kb.versions.get? targetVersion = some snapshot ∧
      next = ⟨(copyDicts kb.heap snapshot).1, (copyDicts kb.heap snapshot).2, targetVersion,
        kb.versions⟩ := by
  unfold rollbackTo getVersion at returned
  cases found : kb.versions.get? targetVersion with
  | none => simp [found, bind, Except.bind] at returned
  | some snapshot =>
    simp only [found, bind, Except.bind, pure, Except.pure, Except.ok.injEq] at returned
    exact ⟨snapshot, rfl, returned.symm⟩

theorem Resolved.rollbackTo (resolved : kb.Resolved) {next : KnowledgeBase V}
    {targetVersion : Int} (returned : kb.rollbackTo targetVersion = .ok next) : next.Resolved := by
  obtain ⟨target, stored, rfl⟩ := rollbackTo_eq_ok returned
  have copied := copyDicts_copied (resolved.stored targetVersion target stored)
  exact ⟨copied.allocated, fun version snapshot found field =>
    copied.grows.allocated _ (resolved.stored version snapshot found field)⟩

theorem Separated.rollbackTo (separated : kb.Separated) {next : KnowledgeBase V}
    {targetVersion : Int} (returned : kb.rollbackTo targetVersion = .ok next) : next.Separated := by
  obtain ⟨target, stored, rfl⟩ := rollbackTo_eq_ok returned
  have copied := copyDicts_copied (separated.stored targetVersion target stored)
  refine ⟨copied.allocated, copied.apart, fun version snapshot found field => ?_,
    fun version snapshot found field other same => ?_⟩
  · exact copied.grows.allocated _ (separated.stored version snapshot found field)
  · have known := separated.stored version snapshot found field
    rw [same] at known
    exact copied.fresh other known

/-- A rollback does to the history what `historyStep` says, whatever is shared. -/
theorem history_rollbackTo_of_resolved (resolved : kb.Resolved) {next : KnowledgeBase V}
    {targetVersion : Int} (returned : kb.rollbackTo targetVersion = .ok next) :
    next.history = historyStep kb.history (.rollbackTo targetVersion) := by
  obtain ⟨target, stored, rfl⟩ := rollbackTo_eq_ok returned
  have copied := copyDicts_copied (resolved.stored targetVersion target stored)
  have found : kb.history.stored targetVersion = some (kb.contents target) := by
    show (kb.versions.get? targetVersion).map kb.contents = _
    rw [stored]
    rfl
  simp only [historyStep, found]
  show KbHistory.mk _ _ _ = KbHistory.mk _ _ _
  congr 1
  · exact funext copied.same
  · funext version
    refine Option.map_congr fun snapshot listed => ?_
    exact contents_of_extends _ copied.grows (resolved.stored version snapshot listed)

theorem history_rollbackTo (separated : kb.Separated) {next : KnowledgeBase V}
    {targetVersion : Int} (returned : kb.rollbackTo targetVersion = .ok next) :
    next.history = historyStep kb.history (.rollbackTo targetVersion) :=
  history_rollbackTo_of_resolved separated.resolved returned

theorem Separated.assign (separated : kb.Separated) (field : KbField) (key : String) (value : V) :
    (kb.assign field key value).Separated where
  live other := Heap.allocated_modify.mpr (separated.live other)
  apart := separated.apart
  stored version snapshot found other :=
    Heap.allocated_modify.mpr (separated.stored version snapshot found other)
  unshared := separated.unshared

theorem history_assign (separated : kb.Separated) (field : KbField) (key : String) (value : V) :
    (kb.assign field key value).history = historyStep kb.history (.assign field key value) := by
  show KbHistory.mk _ _ _ = KbHistory.mk _ _ _
  congr 1
  · funext other
    rw [Function.update_apply]
    by_cases same : other = field
    · rw [if_pos same, same]
      exact Heap.read_modify_self (separated.live field) _
    · rw [if_neg same]
      exact Heap.read_modify_of_ne _ (fun shared => same (separated.apart _ _ shared)) _
  · funext version
    refine Option.map_congr fun snapshot found => funext fun other => ?_
    exact Heap.read_modify_of_ne _ (separated.unshared version snapshot found other field) _

end KnowledgeBase

/-- **A call keeps the objects apart.** -/
theorem kbStep_separated {kb : KnowledgeBase V} (separated : kb.Separated) (call : KbCall V) :
    (kbStep kb call).Separated := by
  cases call with
  | commit => exact separated.commit
  | rollbackTo targetVersion =>
    cases returned : kb.rollbackTo targetVersion with
    | ok next =>
      simp only [kbStep, returned]
      exact separated.rollbackTo returned
    | error _ =>
      simp only [kbStep, returned]
      exact separated
  | assign field key value => exact separated.assign field key value

/-- **A call does to the history what `historyStep` says.** -/
theorem kbStep_refines {kb : KnowledgeBase V} (separated : kb.Separated) (call : KbCall V) :
    (kbStep kb call).history = historyStep kb.history call := by
  cases call with
  | commit => exact kb.history_commit separated
  | rollbackTo targetVersion =>
    cases returned : kb.rollbackTo targetVersion with
    | ok next =>
      simp only [kbStep, returned]
      exact kb.history_rollbackTo separated returned
    | error _ =>
      have absent : kb.history.stored targetVersion = none := by
        unfold KnowledgeBase.rollbackTo KnowledgeBase.getVersion at returned
        cases found : kb.versions.get? targetVersion with
        | none => exact congrArg (Option.map _) found
        | some snapshot => simp [found, bind, Except.bind, pure, Except.pure] at returned
      simp only [kbStep, historyStep, returned, absent]
  | assign field key value => exact kb.history_assign separated field key value

end KnowledgeBase

end Dnc.Learning
