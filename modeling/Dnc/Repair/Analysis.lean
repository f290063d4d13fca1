/-
**Dependency cuts.**

`dnc.repair.analysis` over the artifacts of `dnc.repair.contracts`: what depends on the roots, in an
order in which every artifact comes after those it depends on. The loop that finds the affected
artifacts is the one of `Logic.Saturation`; the order is found round by round, and a round without an
artifact whose dependencies are all placed raises.

`dependencyCut_ok_iff`: when a cut is computed (`mem_topologicalOrder`: what is in it). The rounds
get stuck exactly in a core of the dependency relation (`Logic.Acyclic`), that is, where an affected
artifact lies on a cycle.
-/

import Dnc.Logic.Acyclic
import Dnc.Logic.Saturation
import Dnc.Logic.Sequence
import Dnc.PyLib.Sorted
import Dnc.PyLib.Value

namespace Dnc.Repair

open PyLib Logic Relation

inductive ArtifactKind where
  | claim | plan | action | output | memory | skill
deriving DecidableEq, Repr

structure RepairArtifactData where
  artifactId : String
  kind : ArtifactKind
  dependsOn : List String := []

/-- `RepairArtifact.__post_init__`. -/
def RepairArtifactData.violation (data : RepairArtifactData) : Option PyError :=
  if data.artifactId = "" then some (.valueError "repair artifact_id MUST be non-empty")
  else if data.artifactId ∈ data.dependsOn then
    some (.valueError "repair artifacts MUST NOT depend on themselves")
  else none

structure RepairArtifact extends RepairArtifactData where
  valid : toRepairArtifactData.violation = none

/-- The constructor call. -/
def RepairArtifact.ofData : RepairArtifactData → Except PyError RepairArtifact :=
  construct RepairArtifactData.violation RepairArtifact.mk

structure DependencyCut where
  rootIds : List String
  affectedIds : List String
  unaffectedIds : List String
  topologicalOrder : List String

/-! ### The cut -/

/-- The dictionary `dependencies` of `_topological_order`, among the given artifacts. -/
def dependencySets (artifacts : List RepairArtifact) : List (String × Finset String) :=
  let ids := (artifacts.map fun artifact => artifact.artifactId).toFinset
  artifacts.map fun artifact => (artifact.artifactId, artifact.dependsOn.toFinset ∩ ids)

/-- The keys without dependencies left. -/
def readyIds (dependencies : List (String × Finset String)) : Finset String :=
  ((dependencies.filter fun entry => entry.2 = ∅).map Prod.fst).toFinset

/-- The entries left when the ready keys are placed. -/
def removeReady (dependencies : List (String × Finset String)) (ready : Finset String) :
    List (String × Finset String) :=
  (dependencies.filter fun entry => entry.1 ∉ ready).map fun entry => (entry.1, entry.2 \ ready)

/-- The loop of `_topological_order`. A round removes an entry, so as many rounds as entries are
enough. -/
def orderRounds : Nat → List (String × Finset String) → Except PyError (List String)
  | _, [] => .ok []
  | 0, _ :: _ => .ok []
  | rounds + 1, dependencies =>
    let ready := readyIds dependencies
    if ready = ∅ then .error (.valueError "repair dependency graph MUST be acyclic")
    else do
      let later ← orderRounds rounds (removeReady dependencies ready)
      return sortedElems ready ++ later

/-- `_topological_order`. -/
def topologicalOrder (artifacts : List RepairArtifact) : Except PyError (List String) :=
  orderRounds artifacts.length (dependencySets artifacts)

/-- One round of the loop of `dependency_cut`. -/
def affectedRound (artifacts : List RepairArtifact) (affected : Finset String) : Finset String :=
  artifacts.foldl (fun affected artifact =>
    if artifact.artifactId ∉ affected ∧ ∃ itemId ∈ artifact.dependsOn, itemId ∈ affected then
      insert artifact.artifactId affected
    else affected) affected

/-- `affected` at the end of the loop. Every round but the last adds an artifact. -/
def affectedBy (artifacts : List RepairArtifact) (rootIds : List String) : Finset String :=
  untilStable (affectedRound artifacts) artifacts.length rootIds.toFinset

/-- `dependency_cut`. -/
def dependencyCut (artifacts : List RepairArtifact) (rootIds : List String) :
    Except PyError DependencyCut := do
  let ids := artifacts.map fun artifact => artifact.artifactId
  if ¬ ids.Nodup then throw (.valueError "repair artifacts MUST have unique IDs")
  let missing := rootIds.toFinset \ ids.toFinset
  if missing.Nonempty then
    let shown := Json.pyRepr (.arr ((sortedElems missing).map .str))
    throw (.keyError s!"unknown repair roots: {shown}")
  let affected := affectedBy artifacts rootIds
  let order ← topologicalOrder (artifacts.filter fun artifact => artifact.artifactId ∈ affected)
  return {
    rootIds := sortBy id rootIds
    affectedIds := order
    unaffectedIds := sortedElems (ids.toFinset \ affected)
    topologicalOrder := order }

/-! ### The rounds -/

section Rounds

variable {dependencies : List (String × Finset String)}

/-- A key waits for the identifiers of its entries. -/
def WaitsFor (dependencies : List (String × Finset String)) (first second : String) : Prop :=
  ∃ entry ∈ dependencies, entry.1 = first ∧ second ∈ entry.2

theorem mem_readyIds {key : String} :
    key ∈ readyIds dependencies ↔ ∃ entry ∈ dependencies, entry.2 = ∅ ∧ entry.1 = key := by
  rw [readyIds, List.mem_toFinset, List.mem_map]
  simp only [List.mem_filter, decide_eq_true_eq, and_assoc]

theorem mem_keys_removeReady {ready : Finset String} {key : String} :
    key ∈ (removeReady dependencies ready).map Prod.fst ↔
      key ∈ dependencies.map Prod.fst ∧ key ∉ ready := by
  unfold removeReady
  rw [List.map_map, List.mem_map, List.mem_map]
  constructor
  · rintro ⟨entry, kept, rfl⟩
    obtain ⟨listed, notReady⟩ := List.mem_filter.mp kept
    exact ⟨⟨entry, listed, rfl⟩, of_decide_eq_true notReady⟩
  · rintro ⟨⟨entry, listed, rfl⟩, notReady⟩
    exact ⟨entry, List.mem_filter.mpr ⟨listed, decide_eq_true notReady⟩, rfl⟩

theorem waitsFor_removeReady {ready : Finset String} {first second : String} :
    WaitsFor (removeReady dependencies ready) first second ↔
      WaitsFor dependencies first second ∧ first ∉ ready ∧ second ∉ ready := by
  unfold removeReady
  constructor
  · rintro ⟨entry, member, rfl, waits⟩
    obtain ⟨origin, kept, rfl⟩ := List.mem_map.mp member
    obtain ⟨listed, notReady⟩ := List.mem_filter.mp kept
    obtain ⟨before, apart⟩ := Finset.mem_sdiff.mp waits
    exact ⟨⟨origin, listed, rfl, before⟩, of_decide_eq_true notReady, apart⟩
  · rintro ⟨⟨entry, listed, rfl, waits⟩, notReady, apart⟩
    exact ⟨_, List.mem_map_of_mem (List.mem_filter.mpr ⟨listed, decide_eq_true notReady⟩), rfl,
      Finset.mem_sdiff.mpr ⟨waits, apart⟩⟩

theorem orderRounds_succ (rounds : Nat) (nonempty : dependencies ≠ []) :
    orderRounds (rounds + 1) dependencies =
      if readyIds dependencies = ∅ then
        .error (.valueError "repair dependency graph MUST be acyclic")
      else do
        let later ← orderRounds rounds (removeReady dependencies (readyIds dependencies))
        return sortedElems (readyIds dependencies) ++ later := by
  cases dependencies with
  | nil => exact absurd rfl nonempty
  | cons entry rest => rfl

/-- A round that does not raise, and the rest. -/
theorem rounds_of_ordered {rounds : Nat} {order : List String} (nonempty : dependencies ≠ [])
    (ordered : orderRounds (rounds + 1) dependencies = .ok order) :
    ∃ later, orderRounds rounds (removeReady dependencies (readyIds dependencies)) = .ok later ∧
      order = sortedElems (readyIds dependencies) ++ later := by
  rw [orderRounds_succ rounds nonempty] at ordered
  split_ifs at ordered
  obtain ⟨later, rests, same⟩ := bind_eq_ok.mp ordered
  exact ⟨later, rests, (Except.ok.inj same).symm⟩

/-- A round places an entry. -/
theorem length_removeReady_lt (some : (readyIds dependencies).Nonempty) :
    (removeReady dependencies (readyIds dependencies)).length < dependencies.length := by
  obtain ⟨key, isReady⟩ := some
  obtain ⟨entry, listed, -, rfl⟩ := mem_readyIds.mp isReady
  rw [removeReady, List.length_map]
  exact List.length_filter_lt_length_iff_exists.mpr ⟨entry, listed, by simpa using isReady⟩

theorem nodup_removeReady {ready : Finset String} (unique : (dependencies.map Prod.fst).Nodup) :
    ((removeReady dependencies ready).map Prod.fst).Nodup := by
  unfold removeReady
  rw [List.map_map]
  exact (List.filter_sublist.map Prod.fst).nodup unique

/-- A key that waits for something is not ready. -/
theorem not_ready_of_waits (unique : (dependencies.map Prod.fst).Nodup) {first second : String}
    (waits : WaitsFor dependencies first second) : first ∉ readyIds dependencies := by
  intro isReady
  obtain ⟨entry, listed, rfl, isOther⟩ := waits
  obtain ⟨ready, isListed, done, sameKey⟩ := mem_readyIds.mp isReady
  have same : ready = entry := List.inj_on_of_nodup_map unique isListed listed sameKey
  rw [← same, done] at isOther
  exact Finset.notMem_empty _ isOther

/-- What no core holds up is placed. -/
theorem orderRounds_of_acyclic {rounds : Nat} (enough : dependencies.length ≤ rounds)
    (unique : (dependencies.map Prod.fst).Nodup)
    (within : ∀ first second, WaitsFor dependencies first second →
      second ∈ dependencies.map Prod.fst)
    (acyclic : ∀ key, ¬ TransGen (WaitsFor dependencies) key key) :
    ∃ order, orderRounds rounds dependencies = .ok order ∧
      ∀ key, key ∈ order ↔ key ∈ dependencies.map Prod.fst := by
  induction rounds generalizing dependencies with
  | zero =>
    obtain rfl := List.eq_nil_of_length_eq_zero (Nat.le_zero.mp enough)
    exact ⟨[], rfl, fun _ => Iff.rfl⟩
  | succ rounds ih =>
    by_cases empty : dependencies = []
    · subst empty
      exact ⟨[], rfl, fun _ => Iff.rfl⟩
    · have nonempty : (readyIds dependencies).Nonempty := by
        by_contra none
        rw [Finset.not_nonempty_iff_eq_empty] at none
        have core : Core (WaitsFor dependencies) {key | key ∈ dependencies.map Prod.fst} := by
          refine ⟨?_, fun key isKey => ?_⟩
          · obtain ⟨first, member⟩ := List.exists_mem_of_ne_nil _ empty
            exact ⟨first.1, List.mem_map_of_mem member⟩
          · obtain ⟨entry, member, rfl⟩ := List.mem_map.mp isKey
            have waits : entry.2.Nonempty := by
              by_contra done
              rw [Finset.not_nonempty_iff_eq_empty] at done
              have isReady := mem_readyIds.mpr ⟨entry, member, done, rfl⟩
              rw [none] at isReady
              exact Finset.notMem_empty _ isReady
            obtain ⟨other, isOther⟩ := waits
            exact ⟨other, within entry.1 other ⟨entry, member, rfl, isOther⟩,
              ⟨entry, member, rfl, isOther⟩⟩
        obtain ⟨key, -, cycle⟩ := core.exists_cycle (List.finite_toSet _)
        exact acyclic key cycle
      have fewer := length_removeReady_lt nonempty
      obtain ⟨later, ordered, keys⟩ := @ih (removeReady dependencies (readyIds dependencies))
        (by omega) (nodup_removeReady unique)
        (by
          intro source target waits
          obtain ⟨before, -, apart⟩ := waitsFor_removeReady.mp waits
          exact mem_keys_removeReady.mpr ⟨within source target before, apart⟩)
        (by
          intro key cycle
          exact acyclic key
            (TransGen.mono (fun _ _ waits => (waitsFor_removeReady.mp waits).1) _ _ cycle))
      refine ⟨sortedElems (readyIds dependencies) ++ later, ?_, fun key => ?_⟩
      · rw [orderRounds_succ rounds empty, if_neg nonempty.ne_empty, ordered]
        rfl
      · rw [List.mem_append, mem_sortedElems, keys, mem_keys_removeReady]
        constructor
        · rintro (isReady | ⟨isKey, -⟩)
          · obtain ⟨entry, member, -, rfl⟩ := mem_readyIds.mp isReady
            exact List.mem_map_of_mem member
          · exact isKey
        · intro isKey
          by_cases isReady : key ∈ readyIds dependencies
          · exact Or.inl isReady
          · exact Or.inr ⟨isKey, isReady⟩

/-- The rounds end in an error where a core holds them up. -/
theorem orderRounds_of_core {rounds : Nat} (enough : dependencies.length ≤ rounds)
    (unique : (dependencies.map Prod.fst).Nodup) {S : Set String}
    (core : Core (WaitsFor dependencies) S) :
    ∃ error, orderRounds rounds dependencies = .error error := by
  induction rounds generalizing dependencies with
  | zero =>
    obtain rfl := List.eq_nil_of_length_eq_zero (Nat.le_zero.mp enough)
    obtain ⟨key, member⟩ := core.nonempty
    obtain ⟨-, -, entry, listed, -⟩ := core.next key member
    exact absurd listed List.not_mem_nil
  | succ rounds ih =>
    have nonempty : dependencies ≠ [] := by
      rintro rfl
      obtain ⟨key, member⟩ := core.nonempty
      obtain ⟨-, -, entry, listed, -⟩ := core.next key member
      exact absurd listed List.not_mem_nil
    rw [orderRounds_succ rounds nonempty]
    by_cases none : readyIds dependencies = ∅
    · rw [if_pos none]
      exact ⟨_, rfl⟩
    · -- a member of the core has a dependency, so it is never ready
      have held : ∀ key ∈ S, key ∉ readyIds dependencies := by
        intro key member
        obtain ⟨_, -, waits⟩ := core.next key member
        exact not_ready_of_waits unique waits
      have fewer := length_removeReady_lt (Finset.nonempty_iff_ne_empty.mpr none)
      have later : Core (WaitsFor (removeReady dependencies (readyIds dependencies))) S := by
        refine ⟨core.nonempty, fun key member => ?_⟩
        obtain ⟨other, isOther, waits⟩ := core.next key member
        exact ⟨other, isOther,
          waitsFor_removeReady.mpr ⟨waits, held key member, held other isOther⟩⟩
      obtain ⟨error, failed⟩ := ih (by omega) (nodup_removeReady unique) later
      rw [if_neg none, failed]
      exact ⟨error, rfl⟩

/-- What is placed was among the keys, and is placed once. -/
theorem nodup_orderRounds {rounds : Nat} {order : List String}
    (ordered : orderRounds rounds dependencies = .ok order) :
    order.Nodup ∧ ∀ key ∈ order, key ∈ dependencies.map Prod.fst := by
  induction rounds generalizing dependencies order with
  | zero =>
    obtain rfl : [] = order := by cases dependencies <;> exact Except.ok.inj ordered
    exact ⟨List.nodup_nil, fun _ member => absurd member List.not_mem_nil⟩
  | succ rounds ih =>
    by_cases empty : dependencies = []
    · subst empty
      obtain rfl : [] = order := Except.ok.inj ordered
      exact ⟨List.nodup_nil, fun _ member => absurd member List.not_mem_nil⟩
    obtain ⟨later, rests, rfl⟩ := rounds_of_ordered empty ordered
    obtain ⟨distinct, keys⟩ := ih rests
    refine ⟨List.nodup_append'.mpr ⟨sortedElems_nodup _, distinct, ?_⟩, fun key member => ?_⟩
    · intro key isReady isLater
      exact (mem_keys_removeReady.mp (keys key isLater)).2 (mem_sortedElems.mp isReady)
    · rcases List.mem_append.mp member with isReady | isLater
      · obtain ⟨entry, listed, -, rfl⟩ := mem_readyIds.mp (mem_sortedElems.mp isReady)
        exact List.mem_map_of_mem listed
      · exact (mem_keys_removeReady.mp (keys key isLater)).1

end Rounds

/-! ### What a cut contains -/

section Cut

variable {artifacts : List RepairArtifact} {rootIds : List String}

/-- An artifact depends on the identifiers of its `depends_on` field. -/
def DependsOn (artifacts : List RepairArtifact) (first second : String) : Prop :=
  ∃ artifact ∈ artifacts, artifact.artifactId = first ∧ second ∈ artifact.dependsOn

/-- **The loop of `dependency_cut` finds what depends on the roots.** -/
theorem mem_affectedBy {artifactId : String} :
    artifactId ∈ affectedBy artifacts rootIds ↔
      ∃ rootId ∈ rootIds, ReflTransGen (DependsOn artifacts) artifactId rootId := by
  let rules := artifacts.map fun artifact => (artifact.artifactId, artifact.dependsOn)
  have round : affectedRound artifacts = Logic.pass rules := by
    funext affected
    rw [Logic.pass, List.foldl_map]
    rfl
  have edges : Fires rules = DependsOn artifacts := by
    funext first second
    refine propext ⟨?_, ?_⟩
    · rintro ⟨rule, listed, concludes, triggers⟩
      obtain ⟨artifact, member, rfl⟩ := List.mem_map.mp listed
      exact ⟨artifact, member, concludes, triggers⟩
    · rintro ⟨artifact, member, concludes, triggers⟩
      exact ⟨_, List.mem_map_of_mem member, concludes, triggers⟩
  have enough : rules.length ≤ artifacts.length := by rw [List.length_map]
  rw [affectedBy, round, ← edges]
  refine (mem_saturate enough).trans ?_
  simp only [List.mem_toFinset]

/-- Among the affected artifacts, an artifact waits for those it depends on. -/
theorem waitsFor_dependencySets {first second : String} :
    WaitsFor (dependencySets artifacts) first second ↔
      DependsOn artifacts first second ∧
        second ∈ artifacts.map fun artifact => artifact.artifactId := by
  unfold WaitsFor dependencySets
  constructor
  · rintro ⟨entry, member, rfl, waits⟩
    obtain ⟨artifact, listed, rfl⟩ := List.mem_map.mp member
    obtain ⟨depends, known⟩ := Finset.mem_inter.mp waits
    exact ⟨⟨artifact, listed, rfl, List.mem_toFinset.mp depends⟩, List.mem_toFinset.mp known⟩
  · rintro ⟨⟨artifact, listed, rfl, depends⟩, known⟩
    exact ⟨_, List.mem_map_of_mem listed, rfl,
      Finset.mem_inter.mpr ⟨List.mem_toFinset.mpr depends, List.mem_toFinset.mpr known⟩⟩

theorem keys_dependencySets (artifacts : List RepairArtifact) :
    (dependencySets artifacts).map Prod.fst = artifacts.map fun artifact => artifact.artifactId := by
  rw [dependencySets, List.map_map]
  rfl

/-- The artifacts that a cut puts in order. -/
def affectedArtifacts (artifacts : List RepairArtifact) (rootIds : List String) :
    List RepairArtifact :=
  artifacts.filter fun artifact => artifact.artifactId ∈ affectedBy artifacts rootIds

theorem mem_affectedIds {artifactId : String} :
    (artifactId ∈ (affectedArtifacts artifacts rootIds).map fun artifact => artifact.artifactId) ↔
      (artifactId ∈ artifacts.map fun artifact => artifact.artifactId) ∧
        artifactId ∈ affectedBy artifacts rootIds := by
  unfold affectedArtifacts
  rw [List.mem_map, List.mem_map]
  constructor
  · rintro ⟨artifact, kept, rfl⟩
    obtain ⟨listed, isAffected⟩ := List.mem_filter.mp kept
    exact ⟨⟨artifact, listed, rfl⟩, of_decide_eq_true isAffected⟩
  · rintro ⟨⟨artifact, listed, rfl⟩, isAffected⟩
    exact ⟨artifact, List.mem_filter.mpr ⟨listed, decide_eq_true isAffected⟩, rfl⟩

/-- A dependency among the affected artifacts, and so a cycle. -/
theorem waitsFor_affected {first last : String} (path : TransGen (DependsOn artifacts) first last)
    (isAffected : last ∈ affectedBy artifacts rootIds)
    (known : last ∈ artifacts.map fun artifact => artifact.artifactId) :
    TransGen (WaitsFor (dependencySets (affectedArtifacts artifacts rootIds))) first last := by
  obtain ⟨rootId, isRoot, toRoot⟩ := mem_affectedBy.mp isAffected
  have edge : ∀ {source target : String}, DependsOn artifacts source target →
      target ∈ affectedBy artifacts rootIds →
      (target ∈ artifacts.map fun artifact => artifact.artifactId) →
      WaitsFor (dependencySets (affectedArtifacts artifacts rootIds)) source target := by
    rintro source target ⟨artifact, listed, rfl, depends⟩ targetAffected targetKnown
    obtain ⟨root, inRoots, onward⟩ := mem_affectedBy.mp targetAffected
    have sourceAffected : artifact.artifactId ∈ affectedBy artifacts rootIds :=
      mem_affectedBy.mpr ⟨root, inRoots, onward.head ⟨artifact, listed, rfl, depends⟩⟩
    refine waitsFor_dependencySets.mpr ⟨⟨artifact, ?_, rfl, depends⟩,
      mem_affectedIds.mpr ⟨targetKnown, targetAffected⟩⟩
    exact List.mem_filter.mpr ⟨listed, decide_eq_true sourceAffected⟩
  induction path using TransGen.head_induction_on with
  | single depends => exact TransGen.single (edge depends isAffected known)
  | head depends rest ih =>
    refine TransGen.head (edge depends ?_ ?_) ih
    · exact mem_affectedBy.mpr ⟨rootId, isRoot, rest.to_reflTransGen.trans toRoot⟩
    · obtain ⟨-, ⟨artifact, listed, rfl, -⟩, -⟩ := TransGen.head'_iff.mp rest
      exact List.mem_map_of_mem listed

theorem nodup_dependencySets (unique : (artifacts.map fun artifact => artifact.artifactId).Nodup) :
    ((dependencySets (affectedArtifacts artifacts rootIds)).map Prod.fst).Nodup := by
  rw [keys_dependencySets]
  exact (List.filter_sublist.map _).nodup unique

theorem length_dependencySets (artifacts : List RepairArtifact) :
    (dependencySets artifacts).length = artifacts.length := by
  rw [dependencySets, List.length_map]

/-- The affected artifacts are put in order where none of them depends on itself. -/
theorem topologicalOrder_of_acyclic
    (unique : (artifacts.map fun artifact => artifact.artifactId).Nodup)
    (acyclic : ∀ artifactId ∈ affectedBy artifacts rootIds,
      ¬ TransGen (DependsOn artifacts) artifactId artifactId) :
    ∃ order, topologicalOrder (affectedArtifacts artifacts rootIds) = .ok order ∧
      ∀ artifactId, artifactId ∈ order ↔
        artifactId ∈ (affectedArtifacts artifacts rootIds).map fun artifact => artifact.artifactId := by
  rw [← keys_dependencySets]
  apply orderRounds_of_acyclic
  · rw [length_dependencySets]
  · exact nodup_dependencySets unique
  · intro first second waits
    rw [keys_dependencySets]
    exact (waitsFor_dependencySets.mp waits).2
  · intro key cycle
    have isAffected : key ∈ affectedBy artifacts rootIds := by
      obtain ⟨_, waits, -⟩ := TransGen.head'_iff.mp cycle
      obtain ⟨⟨artifact, listed, rfl, -⟩, -⟩ := waitsFor_dependencySets.mp waits
      exact of_decide_eq_true (List.mem_filter.mp listed).2
    refine acyclic key isAffected (TransGen.mono ?_ _ _ cycle)
    intro first second waits
    obtain ⟨⟨artifact, listed, same, depends⟩, -⟩ := waitsFor_dependencySets.mp waits
    exact ⟨artifact, List.mem_of_mem_filter listed, same, depends⟩

theorem topologicalOrder_of_cycle
    (unique : (artifacts.map fun artifact => artifact.artifactId).Nodup) {artifactId : String}
    (isAffected : artifactId ∈ affectedBy artifacts rootIds)
    (cycle : TransGen (DependsOn artifacts) artifactId artifactId) :
    ∃ error, topologicalOrder (affectedArtifacts artifacts rootIds) = .error error := by
  have known : artifactId ∈ artifacts.map fun artifact => artifact.artifactId := by
    obtain ⟨_, ⟨artifact, listed, rfl, -⟩, -⟩ := TransGen.head'_iff.mp cycle
    exact List.mem_map_of_mem listed
  refine orderRounds_of_core ?_ (nodup_dependencySets unique)
    (core_of_cycle (waitsFor_affected cycle isAffected known))
  rw [length_dependencySets]

/-- What `dependency_cut` returns: the identifiers are distinct, the roots known, and the affected
artifacts put in order. -/
theorem dependencyCut_eq_ok {cut : DependencyCut} :
    dependencyCut artifacts rootIds = .ok cut ↔
      (artifacts.map fun artifact => artifact.artifactId).Nodup ∧
      (∀ rootId ∈ rootIds, rootId ∈ artifacts.map fun artifact => artifact.artifactId) ∧
      ∃ order, topologicalOrder (affectedArtifacts artifacts rootIds) = .ok order ∧
        cut = {
          rootIds := sortBy id rootIds
          affectedIds := order
          unaffectedIds := sortedElems
            ((artifacts.map fun artifact => artifact.artifactId).toFinset \
              affectedBy artifacts rootIds)
          topologicalOrder := order } := by
  unfold dependencyCut
  by_cases unique : (artifacts.map fun artifact => artifact.artifactId).Nodup
  swap
  · rw [if_pos unique]
    exact iff_of_false nofun fun conditions => unique conditions.1
  rw [if_neg (not_not.mpr unique), and_iff_right unique]
  by_cases missing : (rootIds.toFinset \
      (artifacts.map fun artifact => artifact.artifactId).toFinset).Nonempty
  · simp only [missing, if_true]
    refine iff_of_false nofun fun conditions => ?_
    obtain ⟨rootId, isMissing⟩ := missing
    obtain ⟨isRoot, unknown⟩ := Finset.mem_sdiff.mp isMissing
    exact unknown (List.mem_toFinset.mpr (conditions.1 rootId (List.mem_toFinset.mp isRoot)))
  have known : ∀ rootId ∈ rootIds, rootId ∈ artifacts.map fun artifact => artifact.artifactId := by
    intro rootId isRoot
    by_contra unknown
    exact missing ⟨rootId, by simpa using ⟨isRoot, by simpa using unknown⟩⟩
  simp only [missing, if_false]
  rw [and_iff_right known]
  refine bind_eq_ok.trans (exists_congr fun order => and_congr Iff.rfl ?_)
  exact ⟨fun same => (Except.ok.inj same).symm, fun same => congrArg Except.ok same.symm⟩

/-- **When a cut is computed**: the identifiers are distinct, the roots known, and no affected
artifact depends on itself. -/
theorem dependencyCut_ok_iff :
    (∃ cut, dependencyCut artifacts rootIds = .ok cut) ↔
      (artifacts.map fun artifact => artifact.artifactId).Nodup ∧
      (∀ rootId ∈ rootIds, rootId ∈ artifacts.map fun artifact => artifact.artifactId) ∧
      ∀ artifactId ∈ affectedBy artifacts rootIds,
        ¬ TransGen (DependsOn artifacts) artifactId artifactId := by
  constructor
  · rintro ⟨cut, computed⟩
    obtain ⟨unique, known, order, ordered, -⟩ := dependencyCut_eq_ok.mp computed
    refine ⟨unique, known, fun artifactId isAffected cycle => ?_⟩
    obtain ⟨error, failed⟩ := topologicalOrder_of_cycle unique isAffected cycle
    exact nomatch failed.symm.trans ordered
  · rintro ⟨unique, known, acyclic⟩
    obtain ⟨order, ordered, -⟩ := topologicalOrder_of_acyclic unique acyclic
    exact ⟨_, dependencyCut_eq_ok.mpr ⟨unique, known, order, ordered, rfl⟩⟩

/-- **A cut contains what depends on the roots.** -/
theorem mem_topologicalOrder {cut : DependencyCut}
    (computed : dependencyCut artifacts rootIds = .ok cut) {artifactId : String} :
    artifactId ∈ cut.topologicalOrder ↔ artifactId ∈ affectedBy artifacts rootIds := by
  obtain ⟨unique, known, acyclic⟩ := dependencyCut_ok_iff.mp ⟨cut, computed⟩
  obtain ⟨other, isOther, mem⟩ := topologicalOrder_of_acyclic unique acyclic
  obtain ⟨-, -, order, ordered, rfl⟩ := dependencyCut_eq_ok.mp computed
  obtain rfl := Except.ok.inj (isOther.symm.trans ordered)
  rw [mem, mem_affectedIds, and_iff_right_iff_imp]
  intro isAffected
  obtain ⟨rootId, isRoot, path⟩ := mem_affectedBy.mp isAffected
  rcases path.cases_head with rfl | ⟨_, ⟨artifact, listed, rfl, -⟩, -⟩
  · exact known artifactId isRoot
  · exact List.mem_map_of_mem listed

/-- A cut names every artifact once. -/
theorem nodup_affectedIds {cut : DependencyCut}
    (computed : dependencyCut artifacts rootIds = .ok cut) :
    cut.affectedIds.Nodup ∧ cut.topologicalOrder = cut.affectedIds := by
  obtain ⟨-, -, order, ordered, rfl⟩ := dependencyCut_eq_ok.mp computed
  exact ⟨(nodup_orderRounds ordered).1, rfl⟩

end Cut

end Dnc.Repair
