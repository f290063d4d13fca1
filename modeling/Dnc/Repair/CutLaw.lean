/-
**The law of dependency cuts.**

The two loops of `dependency_cut` run until they leave off by themselves; `dependencyCutWithin`
bounds them by a number of rounds and is undecided where that is not enough.

* `dependencyCutWithin_eq`: a round more than there are artifacts is enough, and the result is that
  of `dependencyCut`.
* `orderRounds_before`: what a key waits for is placed before it.
* `dependencyCut_perm`: neither the order of the artifacts nor that of the roots matters.
* `cutLaw`: the law, for every tuple of artifacts and of roots.
-/

import Dnc.Logic.Run
import Dnc.Repair.Analysis

namespace Dnc.Repair

open PyLib Logic Relation

/-! ### The loops as they run -/

/-- One pass of `while changed`, which leaves off where it has added nothing. -/
def affectedStep (artifacts : List RepairArtifact) (affected : Finset String) :
    Finset String ⊕ Finset String :=
  let next := affectedRound artifacts affected
  if next = affected then .inr affected else .inl next

/-- One pass of `while dependencies`, which extends `ordered`. -/
def orderStep : List String × List (String × Finset String) →
    (List String × List (String × Finset String)) ⊕ Except PyError (List String)
  | (ordered, []) => .inr (.ok ordered)
  | (ordered, dependencies) =>
    let ready := readyIds dependencies
    if ready = ∅ then .inr (.error (.valueError "repair dependency graph MUST be acyclic"))
    else .inl (ordered ++ sortedElems ready, removeReady dependencies ready)

/-- `_topological_order`, in at most a number of passes. -/
def topologicalOrderWithin (rounds : Nat) (artifacts : List RepairArtifact) :
    Option (Except PyError (List String)) :=
  whileWithin orderStep rounds ([], dependencySets artifacts)

/-- `dependency_cut`, in at most a number of passes of each loop. -/
def dependencyCutWithin (rounds : Nat) (artifacts : List RepairArtifact) (rootIds : List String) :
    Option (Except PyError DependencyCut) :=
  let ids := artifacts.map fun artifact => artifact.artifactId
  let missing := rootIds.toFinset \ ids.toFinset
  if ¬ ids.Nodup then some (.error (.valueError "repair artifacts MUST have unique IDs"))
  else if missing.Nonempty then
    let shown := Json.pyRepr (.arr ((sortedElems missing).map .str))
    some (.error (.keyError s!"unknown repair roots: {shown}"))
  else do
    let affected ← whileWithin (affectedStep artifacts) rounds rootIds.toFinset
    let order ← topologicalOrderWithin rounds
      (artifacts.filter fun artifact => artifact.artifactId ∈ affected)
    return order.map fun order => {
      rootIds := sortBy id rootIds
      affectedIds := order
      unaffectedIds := sortedElems (ids.toFinset \ affected)
      topologicalOrder := order }

section Loops

variable {artifacts : List RepairArtifact} {rootIds : List String}
  {dependencies : List (String × Finset String)}

/-- The artifacts as rules: an identifier follows from those it depends on. -/
def dependencyRules (artifacts : List RepairArtifact) : List (String × List String) :=
  artifacts.map fun artifact => (artifact.artifactId, artifact.dependsOn)

theorem affectedRound_eq (affected : Finset String) :
    affectedRound artifacts affected = Logic.pass (dependencyRules artifacts) affected := by
  rw [Logic.pass, dependencyRules, List.foldl_map]
  rfl

/-- **The passes over the artifacts end**, after at most one more than there are artifacts. -/
theorem affectedWithin_eq {rounds : Nat} (enough : artifacts.length < rounds) :
    whileWithin (affectedStep artifacts) rounds rootIds.toFinset =
      some (affectedBy artifacts rootIds) := by
  have length : (dependencyRules artifacts).length = artifacts.length := List.length_map _
  have result : affectedBy artifacts rootIds =
      saturate (dependencyRules artifacts) artifacts.length rootIds.toFinset := by
    rw [affectedBy, saturate, ← funext affectedRound_eq]
  rw [result]
  refine whileWithin_eq (unmet (dependencyRules artifacts))
    (saturate (dependencyRules artifacts) artifacts.length) ?_ ?_
    ((List.countP_le_length.trans length.le).trans_lt enough)
  · intro affected found leaves
    unfold affectedStep at leaves
    rw [affectedRound_eq] at leaves
    by_cases same : Logic.pass (dependencyRules artifacts) affected = affected
    · rw [if_pos same] at leaves
      obtain rfl := Sum.inr.inj leaves
      cases artifacts with
      | nil => rfl
      | cons first rest => rw [List.length_cons, saturate_succ, if_pos same]
    · rw [if_neg same] at leaves
      cases leaves
  · intro affected next goesOn
    unfold affectedStep at goesOn
    rw [affectedRound_eq] at goesOn
    by_cases same : Logic.pass (dependencyRules artifacts) affected = affected
    · rw [if_pos same] at goesOn
      cases goesOn
    rw [if_neg same] at goesOn
    obtain rfl := Sum.inl.inj goesOn
    refine ⟨unmet_pass_lt same, ?_⟩
    -- a pass adds only what reaches the set already
    ext artifactId
    rw [mem_saturate length.le, mem_saturate length.le]
    constructor
    · rintro ⟨middle, added, path⟩
      obtain ⟨start, present, onward⟩ := pass_reaches (fun _ listed => listed)
        (fun known present => ⟨known, present, ReflTransGen.refl⟩) middle added
      exact ⟨start, present, path.trans onward⟩
    · rintro ⟨start, present, path⟩
      exact ⟨start, subset_pass _ _ present, path⟩

/-- As many rounds as entries are enough. -/
theorem orderRounds_enough {first second : Nat} (enough : dependencies.length ≤ first)
    (also : dependencies.length ≤ second) :
    orderRounds first dependencies = orderRounds second dependencies := by
  induction first generalizing dependencies second with
  | zero =>
    obtain rfl := List.eq_nil_of_length_eq_zero (Nat.le_zero.mp enough)
    cases second <;> rfl
  | succ first ih =>
    by_cases empty : dependencies = []
    · subst empty
      cases second <;> rfl
    have positive := List.length_pos_iff.mpr empty
    obtain ⟨second, rfl⟩ := Nat.exists_eq_add_one.mpr (positive.trans_le also)
    rw [orderRounds_succ first empty, orderRounds_succ second empty]
    by_cases stuck : readyIds dependencies = ∅
    · rw [if_pos stuck, if_pos stuck]
    · have fewer := length_removeReady_lt (Finset.nonempty_iff_ne_empty.mpr stuck)
      rw [if_neg stuck, if_neg stuck, @ih _ second (by omega) (by omega)]

theorem orderStep_eq (ordered : List String) (nonempty : dependencies ≠ []) :
    orderStep (ordered, dependencies) =
      if readyIds dependencies = ∅ then
        .inr (.error (.valueError "repair dependency graph MUST be acyclic"))
      else .inl (ordered ++ sortedElems (readyIds dependencies),
        removeReady dependencies (readyIds dependencies)) := by
  cases dependencies with
  | nil => exact absurd rfl nonempty
  | cons entry rest => rfl

/-- **The passes over the dependencies end**, after at most one more than there are entries. -/
theorem orderWithin_eq {rounds : Nat} (enough : dependencies.length < rounds)
    (ordered : List String) :
    whileWithin orderStep rounds (ordered, dependencies) =
      some ((orderRounds dependencies.length dependencies).map (ordered ++ ·)) := by
  let State := List String × List (String × Finset String)
  refine whileWithin_eq (fun state : State => state.2.length)
    (fun state => (orderRounds state.2.length state.2).map (state.1 ++ ·)) ?_ ?_ enough
  · rintro ⟨placed, left⟩ found leaves
    by_cases empty : left = []
    · subst empty
      obtain rfl := Sum.inr.inj leaves
      show Except.ok placed = Except.ok (placed ++ [])
      rw [List.append_nil]
    · rw [orderStep_eq placed empty] at leaves
      obtain ⟨rounds, isLength⟩ := Nat.exists_eq_add_one.mpr (List.length_pos_iff.mpr empty)
      by_cases stuck : readyIds left = ∅
      · rw [if_pos stuck] at leaves
        obtain rfl := Sum.inr.inj leaves
        rw [isLength, orderRounds_succ rounds empty, if_pos stuck]
        rfl
      · rw [if_neg stuck] at leaves
        cases leaves
  · rintro ⟨placed, left⟩ next goesOn
    by_cases empty : left = []
    · subst empty
      cases goesOn
    rw [orderStep_eq placed empty] at goesOn
    by_cases stuck : readyIds left = ∅
    · rw [if_pos stuck] at goesOn
      cases goesOn
    rw [if_neg stuck] at goesOn
    obtain rfl := Sum.inl.inj goesOn
    have fewer := length_removeReady_lt (Finset.nonempty_iff_ne_empty.mpr stuck)
    refine ⟨fewer, ?_⟩
    obtain ⟨rounds, isLength⟩ := Nat.exists_eq_add_one.mpr (List.length_pos_iff.mpr empty)
    rw [isLength, orderRounds_succ rounds empty, if_neg stuck,
      @orderRounds_enough _ rounds (removeReady left (readyIds left)).length (by omega) le_rfl]
    cases orderRounds (removeReady left (readyIds left)).length
      (removeReady left (readyIds left)) with
    | error error => rfl
    | ok later => exact congrArg Except.ok (List.append_assoc _ _ _)

theorem topologicalOrderWithin_eq {rounds : Nat} (enough : artifacts.length < rounds) :
    topologicalOrderWithin rounds artifacts = some (topologicalOrder artifacts) := by
  have length := length_dependencySets artifacts
  rw [topologicalOrderWithin, orderWithin_eq (length.trans_lt enough), topologicalOrder, length]
  cases orderRounds artifacts.length (dependencySets artifacts) <;> rfl

/-- **Both loops end**: more rounds than there are artifacts are enough. -/
theorem dependencyCutWithin_eq {rounds : Nat} (enough : artifacts.length < rounds) :
    dependencyCutWithin rounds artifacts rootIds = some (dependencyCut artifacts rootIds) := by
  have fewer : (artifacts.filter fun artifact =>
      artifact.artifactId ∈ affectedBy artifacts rootIds).length < rounds :=
    (List.length_filter_le _ _).trans_lt enough
  unfold dependencyCutWithin dependencyCut
  by_cases unique : (artifacts.map fun artifact => artifact.artifactId).Nodup
  swap
  · rw [if_pos unique, if_pos unique]
    rfl
  rw [if_neg (not_not.mpr unique), if_neg (not_not.mpr unique)]
  by_cases missing : (rootIds.toFinset \
      (artifacts.map fun artifact => artifact.artifactId).toFinset).Nonempty
  · simp only [missing, if_true]
    rfl
  · simp only [missing, if_false, affectedWithin_eq enough, topologicalOrderWithin_eq fewer,
      Option.bind_eq_bind, Option.bind_some]
    cases topologicalOrder (artifacts.filter fun artifact =>
      artifact.artifactId ∈ affectedBy artifacts rootIds) <;> rfl

end Loops

/-! ### The order -/

section Order

variable {dependencies : List (String × Finset String)}

/-- **What a key waits for is placed before it.** -/
theorem orderRounds_before {rounds : Nat} {order : List String}
    (ordered : orderRounds rounds dependencies = .ok order)
    (unique : (dependencies.map Prod.fst).Nodup) {first second : String}
    (waits : WaitsFor dependencies first second) (placed : second ∈ order) :
    order.idxOf second < order.idxOf first := by
  induction rounds generalizing dependencies order with
  | zero =>
    obtain rfl : [] = order := by cases dependencies <;> exact Except.ok.inj ordered
    exact absurd placed List.not_mem_nil
  | succ rounds ih =>
    have nonempty : dependencies ≠ [] := by
      rintro rfl
      obtain ⟨entry, listed, -⟩ := waits
      exact absurd listed List.not_mem_nil
    obtain ⟨later, rests, rfl⟩ := rounds_of_ordered nonempty ordered
    have notReady := not_ready_of_waits unique waits
    have isLater : first ∉ sortedElems (readyIds dependencies) := mt mem_sortedElems.mp notReady
    rw [List.idxOf_append_of_notMem isLater]
    by_cases isReady : second ∈ readyIds dependencies
    · have early : second ∈ sortedElems (readyIds dependencies) := mem_sortedElems.mpr isReady
      rw [List.idxOf_append_of_mem early]
      exact (List.idxOf_lt_length_of_mem early).trans_le (Nat.le_add_right _ _)
    · have apart : second ∉ sortedElems (readyIds dependencies) := mt mem_sortedElems.mp isReady
      rw [List.idxOf_append_of_notMem apart]
      have inLater : second ∈ later := (List.mem_append.mp placed).resolve_left apart
      have rest := ih rests (nodup_removeReady unique)
        (waitsFor_removeReady.mpr ⟨waits, notReady, isReady⟩) inLater
      omega

/-- The order of the entries does not matter. -/
theorem orderRounds_perm {rounds : Nat} {others : List (String × Finset String)}
    (perm : dependencies.Perm others) :
    orderRounds rounds dependencies = orderRounds rounds others := by
  induction rounds generalizing dependencies others with
  | zero =>
    cases dependencies with
    | nil => rw [perm.nil_eq]
    | cons entry rest =>
      cases others with
      | nil => exact absurd perm.eq_nil (List.cons_ne_nil _ _)
      | cons => rfl
  | succ rounds ih =>
    by_cases empty : dependencies = []
    · subst empty
      rw [perm.nil_eq]
    have alsoNonempty : others ≠ [] := fun none => empty (none ▸ perm).eq_nil
    have sameReady : readyIds dependencies = readyIds others :=
      List.toFinset_eq_of_perm _ _ ((perm.filter _).map _)
    have rest : (removeReady dependencies (readyIds others)).Perm
        (removeReady others (readyIds others)) := (perm.filter _).map _
    rw [orderRounds_succ rounds empty, orderRounds_succ rounds alsoNonempty, sameReady, ih rest]

end Order

/-! ### The order of the artifacts -/

section Permutations

variable {artifacts others : List RepairArtifact} {rootIds otherRoots : List String}

theorem ids_perm (perm : artifacts.Perm others) :
    (artifacts.map fun artifact => artifact.artifactId).Perm
      (others.map fun artifact => artifact.artifactId) := perm.map _

/-- The set of the affected artifacts may be listed in any order. -/
theorem topologicalOrder_perm (perm : artifacts.Perm others) :
    topologicalOrder artifacts = topologicalOrder others := by
  have sets : (dependencySets artifacts).Perm (dependencySets others) := by
    unfold dependencySets
    rw [List.toFinset_eq_of_perm _ _ (ids_perm perm)]
    exact perm.map _
  rw [topologicalOrder, topologicalOrder, perm.length_eq, orderRounds_perm sets]

theorem dependsOn_perm (perm : artifacts.Perm others) : DependsOn artifacts = DependsOn others := by
  funext first second
  refine propext (exists_congr fun artifact => ?_)
  rw [perm.mem_iff]

theorem affectedBy_perm (perm : artifacts.Perm others) (roots : rootIds.Perm otherRoots) :
    affectedBy artifacts rootIds = affectedBy others otherRoots := by
  ext artifactId
  simp only [mem_affectedBy, dependsOn_perm perm, roots.mem_iff]

/-- **A cut does not depend on the order of the artifacts**, nor on that of the roots. -/
theorem dependencyCut_perm (perm : artifacts.Perm others) (roots : rootIds.Perm otherRoots) :
    dependencyCut artifacts rootIds = dependencyCut others otherRoots := by
  have sameIds := List.toFinset_eq_of_perm _ _ (ids_perm perm)
  have sameRoots := List.toFinset_eq_of_perm _ _ roots
  have sameOrder := topologicalOrder_perm
    (perm.filter fun artifact => artifact.artifactId ∈ affectedBy others otherRoots)
  have sorted : sortBy id rootIds = sortBy id otherRoots :=
    sortBy_eq_of_perm roots fun _ _ _ _ same => same
  unfold dependencyCut
  simp only [(ids_perm perm).nodup_iff, sameIds, sameRoots, affectedBy_perm perm roots, sameOrder,
    sorted]

end Permutations

/-! ### The law -/

/-- What the roots affect. -/
def Affected (artifacts : List RepairArtifact) (rootIds : List String) : Set String :=
  {artifactId | ∃ rootId ∈ rootIds, ReflTransGen (DependsOn artifacts) artifactId rootId}

/-- The dependencies among what the roots affect. -/
def AffectedEdge (artifacts : List RepairArtifact) (rootIds : List String)
    (first second : String) : Prop :=
  DependsOn artifacts first second ∧ first ∈ Affected artifacts rootIds ∧
    second ∈ Affected artifacts rootIds

/-- The sets that contain the roots and are closed under being depended on. -/
def ClosedAround (artifacts : List RepairArtifact) (rootIds : List String) : Set (Set String) :=
  {ids | (∀ rootId ∈ rootIds, rootId ∈ ids) ∧
    ∀ first second, DependsOn artifacts first second → second ∈ ids → first ∈ ids}

/-- **What a cut says.** -/
structure CutOf (artifacts : List RepairArtifact) (rootIds : List String) (cut : DependencyCut) :
    Prop where
  roots : cut.rootIds.Perm rootIds
  least : IsLeast (ClosedAround artifacts rootIds) {artifactId | artifactId ∈ cut.affectedIds}
  known : ∀ artifactId ∈ cut.affectedIds,
    artifactId ∈ artifacts.map fun artifact => artifact.artifactId
  once : cut.affectedIds.Nodup
  ordered : ∀ first second, DependsOn artifacts first second → first ∈ cut.affectedIds →
    second ∈ cut.affectedIds → cut.affectedIds.idxOf second < cut.affectedIds.idxOf first
  sameOrder : cut.topologicalOrder = cut.affectedIds
  unaffected : ∀ artifactId, artifactId ∈ cut.unaffectedIds ↔
    (artifactId ∈ artifacts.map fun artifact => artifact.artifactId) ∧
      artifactId ∉ cut.affectedIds

/-- **The law of dependency cuts.** The affected artifacts may be listed in any order, as those of a
set are. -/
structure CutLaw (artifacts : List RepairArtifact) (rootIds : List String) : Prop where
  terminates : ∀ rounds, artifacts.length < rounds →
    dependencyCutWithin rounds artifacts rootIds = some (dependencyCut artifacts rootIds)
  raises : (∃ error, dependencyCut artifacts rootIds = .error error) ↔
    ¬ (artifacts.map fun artifact => artifact.artifactId).Nodup ∨
    (∃ rootId ∈ rootIds, rootId ∉ artifacts.map fun artifact => artifact.artifactId) ∨
    ∃ artifactId, TransGen (AffectedEdge artifacts rootIds) artifactId artifactId
  otherwise : ∀ cut, dependencyCut artifacts rootIds = .ok cut → CutOf artifacts rootIds cut
  anyOrder : ∀ others otherRoots, artifacts.Perm others → rootIds.Perm otherRoots →
    dependencyCut others otherRoots = dependencyCut artifacts rootIds
  anyListing : ∀ listed, listed.Perm (affectedArtifacts artifacts rootIds) →
    topologicalOrder listed = topologicalOrder (affectedArtifacts artifacts rootIds)

section Law

variable {artifacts : List RepairArtifact} {rootIds : List String}

theorem isLeast_affected (artifacts : List RepairArtifact) (rootIds : List String) :
    IsLeast (ClosedAround artifacts rootIds) (Affected artifacts rootIds) :=
  isLeast_reaches (DependsOn artifacts) {rootId | rootId ∈ rootIds}

/-- A path to what is affected runs among what is affected. -/
theorem affectedEdge_of_path {first last : String}
    (path : TransGen (DependsOn artifacts) first last) (isAffected : last ∈ Affected artifacts rootIds) :
    TransGen (AffectedEdge artifacts rootIds) first last := by
  obtain ⟨rootId, isRoot, toRoot⟩ := isAffected
  induction path using TransGen.head_induction_on with
  | single edge =>
    exact TransGen.single ⟨edge, ⟨rootId, isRoot, toRoot.head edge⟩, ⟨rootId, isRoot, toRoot⟩⟩
  | head edge rest ih =>
    have onward := rest.to_reflTransGen.trans toRoot
    exact TransGen.head ⟨edge, ⟨rootId, isRoot, onward.head edge⟩, ⟨rootId, isRoot, onward⟩⟩ ih

/-- **The rounds get stuck exactly where the affected artifacts have a cycle.** -/
theorem cycle_iff :
    (∃ artifactId, TransGen (AffectedEdge artifacts rootIds) artifactId artifactId) ↔
      ∃ artifactId ∈ affectedBy artifacts rootIds,
        TransGen (DependsOn artifacts) artifactId artifactId := by
  constructor
  · rintro ⟨artifactId, cycle⟩
    obtain ⟨_, edge, -⟩ := TransGen.head'_iff.mp cycle
    exact ⟨artifactId, mem_affectedBy.mpr edge.2.1,
      TransGen.mono (fun _ _ affected => affected.1) _ _ cycle⟩
  · rintro ⟨artifactId, isAffected, cycle⟩
    exact ⟨artifactId, affectedEdge_of_path cycle (mem_affectedBy.mp isAffected)⟩

theorem cutOf_of_ok {cut : DependencyCut} (computed : dependencyCut artifacts rootIds = .ok cut) :
    CutOf artifacts rootIds cut := by
  have placed : ∀ artifactId, artifactId ∈ cut.affectedIds ↔
      artifactId ∈ affectedBy artifacts rootIds := fun artifactId => by
    rw [← (nodup_affectedIds computed).2]
    exact mem_topologicalOrder computed
  obtain ⟨once, sameOrder⟩ := nodup_affectedIds computed
  obtain ⟨unique, known, order, ordered, isCut⟩ := dependencyCut_eq_ok.mp computed
  have isOrder : cut.affectedIds = order := congrArg DependencyCut.affectedIds isCut
  have known : ∀ artifactId ∈ cut.affectedIds,
      artifactId ∈ artifacts.map fun artifact => artifact.artifactId := by
    intro artifactId member
    rw [isOrder] at member
    have listed := (nodup_orderRounds ordered).2 artifactId member
    rw [keys_dependencySets] at listed
    exact (mem_affectedIds.mp listed).1
  refine ⟨?_, ?_, known, once, ?_, sameOrder, ?_⟩
  · rw [isCut]
    exact sortBy_perm id rootIds
  · have same : {artifactId | artifactId ∈ cut.affectedIds} = Affected artifacts rootIds :=
      Set.ext fun artifactId => (placed artifactId).trans mem_affectedBy
    rw [same]
    exact isLeast_affected artifacts rootIds
  · rintro first second ⟨artifact, listed, rfl, depends⟩ isFirst isSecond
    have waits : WaitsFor (dependencySets (affectedArtifacts artifacts rootIds))
        artifact.artifactId second := by
      refine waitsFor_dependencySets.mpr ⟨⟨artifact, ?_, rfl, depends⟩,
        mem_affectedIds.mpr ⟨known second isSecond, (placed second).mp isSecond⟩⟩
      exact List.mem_filter.mpr ⟨listed, decide_eq_true ((placed _).mp isFirst)⟩
    rw [isOrder] at isSecond ⊢
    exact orderRounds_before ordered (nodup_dependencySets unique) waits isSecond
  · intro artifactId
    rw [placed, isCut, mem_sortedElems, Finset.mem_sdiff, List.mem_toFinset]

theorem cutLaw (artifacts : List RepairArtifact) (rootIds : List String) :
    CutLaw artifacts rootIds where
  terminates _ enough := dependencyCutWithin_eq enough
  raises := by
    have fails : (∃ error, dependencyCut artifacts rootIds = .error error) ↔
        ¬ ∃ cut, dependencyCut artifacts rootIds = .ok cut := by
      cases dependencyCut artifacts rootIds <;> simp
    rw [fails, dependencyCut_ok_iff, cycle_iff]
    simp only [not_and_or, not_forall, not_not, exists_prop]
  otherwise _ computed := cutOf_of_ok computed
  anyOrder _ _ perm roots := (dependencyCut_perm perm roots).symm
  anyListing _ perm := topologicalOrder_perm perm

end Law

end Dnc.Repair
