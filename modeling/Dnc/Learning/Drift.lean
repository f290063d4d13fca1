/-
**The drift checker.**

`dnc.learning.continual.DriftChecker`: the recorded executions, their clusters and the
representative sample, against which `is_within_drift_bound` measures a vector. The sample is
recomputed when the eleventh execution is recorded, and then after every tenth. The distance is any
function.

* `sample_run`: the sample after a run is that of the last recomputation, and empty before the
  first.
* `mem_recentIndices_of_mostRecent`: the most recent execution of every task class is among what
  goes into a sample, and `mem_truncatedSample`: so few entries are not truncated
  (`length_sampleEntries`).
* `farthest_singledOut`: with a distance that singles an execution out there is one cluster, and
  this is its farthest member.
* `guaranteesDrift_iff`: the law of the bound holds after a run, whatever the distance is, exactly
  where the most recent executions are in the box of those at the last recomputation.
-/

import Dnc.Learning.Protocol
import Dnc.Logic.Box
import Dnc.PyLib.Grouping
import Mathlib.Data.List.MinMax

namespace Dnc.Learning

open PyLib Logic

/-- `DriftChecker.K_CLUSTERS`. -/
def kClusters : Nat := 10

/-- `DriftChecker.MAX_DRIFT_CHECK_SAMPLES`. -/
def maxDriftCheckSamples : Nat := 100

section Drift

variable (R : Type)

/-- The drift checker with its clusters. -/
structure ClusteredDriftChecker extends DriftChecker R where
  centers : List (List R) := []
  clusterAssignments : List Nat := []

variable {R} [PyFloat R]

/-- `self._history[i].metric_vector`. -/
def vectorAt (history : List (ExecutionRecord R)) (index : Nat) : List R :=
  (history[index]?.map ExecutionRecord.metricVector).getD []

/-- `self._history[i].timestamp`. -/
def timestampAt (history : List (ExecutionRecord R)) (index : Nat) : R :=
  (history[index]?.map ExecutionRecord.timestamp).getD 0.0

/-! ### Clusters -/

/-- `for d in range(n_metrics): self._centers[…][d] = v[d]`. The index is that of the first record
with the vector, which is the first that equals it. -/
def placeCenter (history : List (ExecutionRecord R)) (nMetrics : Nat) (vector : List R) :
    List (List (List R) → Except PyError (List (List R))) :=
  (List.range nMetrics).map fun d centers =>
    match vector[d]? with
    | none => .error (.indexError "list index out of range")
    | some value =>
      let index := history.findIdx fun record => record.metricVector = vector
      .ok (centers.modify (index % kClusters) fun center => center.set d value)

variable (env : LearningEnv R) (distance : List R → List R → List (List R) → R)

/-- `best_cluster`, the center that is nearest. -/
def bestCluster (vectors centers : List (List R)) (vector : List R) : Nat :=
  (centers.zipIdx.foldl (fun nearest center =>
    if distance vector center.1 vectors < nearest.1 then
      (distance vector center.1 vectors, center.2)
    else nearest) (env.inf, 0)).2

/-- `by_task_class`. -/
def byTaskClass (history : List (ExecutionRecord R)) : Dict String (List Nat) :=
  history.zipIdx.foldl (fun groups entry =>
    groups.set entry.1.taskClass ((groups.get? entry.1.taskClass).getD [] ++ [entry.2])) ∅

/-- `[i for i, assigned in enumerate(self._cluster_assignments) if assigned == c]`. -/
def clusterMembers (clusterAssignments : List Nat) (c : Nat) : List Nat :=
  (clusterAssignments.zipIdx.filter fun entry => entry.1 = c).map Prod.snd

/-- The `farthest` of every cluster. -/
def farthestMembers (history : List (ExecutionRecord R)) (centers : List (List R))
    (clusterAssignments : List Nat) : List Nat :=
  (List.range kClusters).filterMap fun c =>
    (clusterMembers clusterAssignments c).argmax fun i =>
      distance (vectorAt history i) (centers[c]?.getD [])
        (history.map ExecutionRecord.metricVector)

/-- The `most_recent` of every task class. -/
def recentIndices (history : List (ExecutionRecord R)) : List Nat :=
  (byTaskClass history).values.filterMap fun indices => indices.argmax (timestampAt history)

/-- What `_update_representative_sample` adds to the sample. -/
def sampleEntries (history : List (ExecutionRecord R)) (centers : List (List R))
    (clusterAssignments : List Nat) : List Nat :=
  farthestMembers distance history centers clusterAssignments ++ recentIndices history

/-- The set that `_update_representative_sample` makes of them. -/
def truncatedSample (entries : List Nat) : List Nat :=
  let sample := entries.foldl (fun sample index => sample.insert index) []
  if maxDriftCheckSamples < sample.length then
    (sortBy id sample).take maxDriftCheckSamples
  else sample

namespace ClusteredDriftChecker

/-- `DriftChecker._update_representative_sample`. -/
def updateRepresentativeSample (checker : ClusteredDriftChecker R) : ClusteredDriftChecker R :=
  { checker with
    representativeSample := truncatedSample
      (sampleEntries distance checker.history checker.centers checker.clusterAssignments) }

/-- `DriftChecker._recompute_clusters`: what it raises, and the checker it leaves. -/
def recomputeClusters (checker : ClusteredDriftChecker R) :
    Except PyError Unit × ClusteredDriftChecker R :=
  if checker.history.length < kClusters then
    (.ok (), { checker with representativeSample := List.range checker.history.length })
  else
    let vectors := checker.history.map ExecutionRecord.metricVector
    let nMetrics := (vectors.head?.getD []).length
    if nMetrics = 0 then (.ok (), checker)
    else
      match block ((vectors.take kClusters).flatMap (placeCenter checker.history nMetrics))
        (List.replicate kClusters (List.replicate nMetrics 0.0)) with
      | (.error error, centers) => (.error error, { checker with centers })
      | (.ok (), centers) =>
        let clusterAssignments := vectors.map (bestCluster env distance vectors centers)
        (.ok (), updateRepresentativeSample distance { checker with centers, clusterAssignments })

/-- `DriftChecker.record_execution`. -/
def recordExecution (checker : ClusteredDriftChecker R) (record : ExecutionRecord R) :
    Except PyError Unit × ClusteredDriftChecker R :=
  let checker := { checker with history := checker.history ++ [record] }
  if 10 < checker.history.length ∧ checker.history.length % 10 = 1 then
    checker.recomputeClusters env distance
  else (.ok (), checker)

/-- `DriftChecker.is_within_drift_bound`. -/
def isWithinDriftBound (checker : ClusteredDriftChecker R) (vector : List R) (driftBound : R) :
    Except PyError (Bool × List (Nat × R)) := do
  let violations ← checker.violations env vector driftBound checker.representativeSample
  return (violations.isEmpty, violations)

/-- A new checker, and then the executions. -/
def recordAll (records : List (ExecutionRecord R)) : ClusteredDriftChecker R :=
  run (fun checker record => (checker.recordExecution env distance record).2) {} records

end ClusteredDriftChecker

/-! ### What the bound is for -/

/-- The most recent execution of a task class: of those with the latest timestamp the one that was
recorded first. -/
def mostRecent (history : List (ExecutionRecord R)) (taskClass : String) :
    Option (ExecutionRecord R) :=
  (history.filter fun record => record.taskClass = taskClass).argmax ExecutionRecord.timestamp

/-- How many executions are recorded when the sample is recomputed for the last time. -/
def lastRecomputation (executions : Nat) : Nat := executions - (executions - 1) % 10

/-! ### The greatest of a list -/

/-- The greatest of a list of images is the image of the greatest. -/
theorem argmax_map {α β γ : Type} [LinearOrder γ] {items : List α} {image : α → β} {key : β → γ}
    {keyOf : α → γ} (same : ∀ item ∈ items, key (image item) = keyOf item) :
    (items.map image).argmax key = (items.argmax keyOf).map image := by
  induction items using List.reverseRecOn with
  | nil => rfl
  | append_singleton rest last ih =>
    rw [List.forall_mem_append] at same
    have lastKey := same.2 last List.mem_cons_self
    rw [List.map_append, List.map_singleton, List.argmax_concat, List.argmax_concat, ih same.1]
    cases greatest : rest.argmax keyOf with
    | none => rfl
    | some item =>
      have itemKey := same.1 item (List.argmax_mem greatest)
      simp only [Option.map_some, lastKey, itemKey]
      split_ifs <;> rfl

/-! ### Task classes -/

section TaskClasses

variable {history : List (ExecutionRecord R)}

variable (history) in
/-- The executions of a task class with their indices. -/
def executionsOf (taskClass : String) : List (ExecutionRecord R × Nat) :=
  history.zipIdx.filter fun entry => entry.1.taskClass = taskClass

omit [PyFloat R] in
variable (history) in
/-- **Every task class has the indices of its executions.** -/
theorem get?_byTaskClass (taskClass : String) :
    ((byTaskClass history).get? taskClass).getD [] = (executionsOf history taskClass).map Prod.snd :=
  get?_appendTo ∅ history.zipIdx taskClass

omit [PyFloat R] in
theorem exists_of_mem_byTaskClass {taskClass : String} (member : taskClass ∈ byTaskClass history) :
    taskClass ∈ history.map ExecutionRecord.taskClass := by
  rcases mem_appendTo.mp member with impossible | ⟨entry, isEntry, rfl⟩
  · exact absurd impossible List.not_mem_nil
  · exact List.mem_map_of_mem (List.fst_mem_of_mem_zipIdx isEntry)

theorem greatest_index (taskClass : String) :
    ((executionsOf history taskClass).map Prod.snd).argmax (timestampAt history) =
      ((executionsOf history taskClass).argmax fun entry => entry.1.timestamp).map Prod.snd := by
  refine argmax_map fun entry member => ?_
  have at' := List.mk_mem_zipIdx_iff_getElem?.mp (List.mem_of_mem_filter member)
  rw [timestampAt, at']
  rfl

theorem mostRecent_eq (taskClass : String) :
    mostRecent history taskClass =
      ((executionsOf history taskClass).argmax fun entry => entry.1.timestamp).map Prod.fst := by
  have records : history.filter (fun record => record.taskClass = taskClass) =
      (executionsOf history taskClass).map Prod.fst := by
    conv_lhs => rw [← List.zipIdx_map_fst 0 history]
    rw [List.filter_map]
    rfl
  rw [mostRecent, records]
  exact argmax_map fun _ _ => rfl

theorem mem_recentIndices {index : Nat} :
    index ∈ recentIndices history ↔ ∃ taskClass record,
      mostRecent history taskClass = some record ∧
        ((executionsOf history taskClass).argmax fun entry => entry.1.timestamp) =
          some (record, index) := by
  rw [recentIndices, List.mem_filterMap]
  constructor
  · rintro ⟨indices, listed, greatest⟩
    obtain ⟨taskClass, found⟩ := Dict.mem_values.mp listed
    have same := get?_byTaskClass history taskClass
    rw [found, Option.getD_some] at same
    rw [same, greatest_index] at greatest
    obtain ⟨entry, isGreatest, rfl⟩ := Option.map_eq_some_iff.mp greatest
    refine ⟨taskClass, entry.1, ?_, isGreatest⟩
    rw [mostRecent_eq, isGreatest]
    rfl
  · rintro ⟨taskClass, record, -, greatest⟩
    have same := get?_byTaskClass history taskClass
    have isIndex : ((executionsOf history taskClass).map Prod.snd).argmax (timestampAt history) =
        some index := by
      rw [greatest_index, greatest]
      rfl
    cases found : (byTaskClass history).get? taskClass with
    | none =>
      rw [found, Option.getD_none] at same
      rw [← same] at isIndex
      cases isIndex
    | some indices =>
      rw [found, Option.getD_some] at same
      exact ⟨indices, Dict.mem_values.mpr ⟨taskClass, found⟩, same ▸ isIndex⟩

/-- **The most recent execution of a task class has its index in every sample.** -/
theorem mem_recentIndices_of_mostRecent {taskClass : String} {record : ExecutionRecord R}
    (recent : mostRecent history taskClass = some record) :
    ∃ index ∈ recentIndices history, history[index]? = some record := by
  have recent' := recent
  rw [mostRecent_eq] at recent
  obtain ⟨⟨first, index⟩, greatest, rfl⟩ := Option.map_eq_some_iff.mp recent
  refine ⟨index, mem_recentIndices.mpr ⟨taskClass, first, recent', greatest⟩, ?_⟩
  exact List.mk_mem_zipIdx_iff_getElem?.mp (List.mem_of_mem_filter (List.argmax_mem greatest))

theorem mostRecent_of_mem_recentIndices {index : Nat} (member : index ∈ recentIndices history) :
    ∃ taskClass record, mostRecent history taskClass = some record ∧
      history[index]? = some record := by
  obtain ⟨taskClass, record, recent, greatest⟩ := mem_recentIndices.mp member
  exact ⟨taskClass, record, recent,
    List.mk_mem_zipIdx_iff_getElem?.mp (List.mem_of_mem_filter (List.argmax_mem greatest))⟩

/-- A recorded task class has a most recent execution. -/
theorem exists_mostRecent {record : ExecutionRecord R} (member : record ∈ history) :
    ∃ recent, mostRecent history record.taskClass = some recent := by
  refine Option.ne_none_iff_exists'.mp fun none => ?_
  have empty := List.argmax_eq_none.mp none
  exact List.filter_eq_nil_iff.mp empty record member (decide_eq_true rfl)

theorem length_recentIndices :
    (recentIndices history).length ≤ (history.map ExecutionRecord.taskClass).toFinset.card := by
  calc (recentIndices history).length
      ≤ (byTaskClass history).values.length := List.length_filterMap_le _ _
    _ = (byTaskClass history).entries.length := List.length_map _
    _ = (byTaskClass history).keys.toFinset.card := (Dict.card_keys_toFinset _).symm
    _ ≤ (history.map ExecutionRecord.taskClass).toFinset.card := Finset.card_le_card fun _ isKey =>
        List.mem_toFinset.mpr (exists_of_mem_byTaskClass (List.mem_toFinset.mp isKey))

end TaskClasses

/-! ### The sample -/

theorem mem_foldl_insert {entries sample : List Nat} {index : Nat} :
    index ∈ entries.foldl (fun sample index => sample.insert index) sample ↔
      index ∈ sample ∨ index ∈ entries := by
  induction entries generalizing sample with
  | nil => simp
  | cons entry rest ih =>
    rw [List.foldl_cons, ih, List.mem_insert_iff, List.mem_cons]
    tauto

theorem length_foldl_insert {entries sample : List Nat} :
    (entries.foldl (fun sample index => sample.insert index) sample).length ≤
      sample.length + entries.length := by
  induction entries generalizing sample with
  | nil => exact le_rfl
  | cons entry rest ih =>
    have once : (sample.insert entry).length ≤ sample.length + 1 := by
      rw [List.insert]
      split_ifs
      · exact Nat.le_succ _
      · exact le_rfl
    rw [List.foldl_cons, List.length_cons]
    refine ih.trans ?_
    omega

/-- A sample that is small enough is not truncated. -/
theorem mem_truncatedSample {entries : List Nat} {index : Nat}
    (few : entries.length ≤ maxDriftCheckSamples) :
    index ∈ truncatedSample entries ↔ index ∈ entries := by
  have length : (entries.foldl (fun sample index => sample.insert index) []).length ≤
      0 + entries.length := length_foldl_insert
  rw [truncatedSample, if_neg (by omega), mem_foldl_insert, or_iff_right List.not_mem_nil]

variable {distance}

theorem length_sampleEntries {history : List (ExecutionRecord R)}
    (few : (history.map ExecutionRecord.taskClass).toFinset.card < 90)
    (centers : List (List R)) (clusterAssignments : List Nat) :
    (sampleEntries distance history centers clusterAssignments).length ≤ maxDriftCheckSamples := by
  have clusters : (farthestMembers distance history centers clusterAssignments).length ≤ 10 :=
    (List.length_filterMap_le _ _).trans_eq List.length_range
  have classes := length_recentIndices.trans_lt few
  rw [sampleEntries, List.length_append, maxDriftCheckSamples]
  omega

/-! ### Runs -/

open ClusteredDriftChecker

theorem history_recomputeClusters (checker : ClusteredDriftChecker R) :
    (checker.recomputeClusters env distance).2.history = checker.history := by
  unfold recomputeClusters
  dsimp only
  by_cases few : checker.history.length < kClusters
  · rw [if_pos few]
  · rw [if_neg few]
    split_ifs
    · rfl
    · split <;> rfl

/-- **All the executions are recorded.** -/
theorem history_recordAll (records : List (ExecutionRecord R)) :
    (recordAll env distance records).history = records := by
  induction records using List.reverseRecOn with
  | nil => rfl
  | append_singleton before record ih =>
    have appended : (recordAll env distance (before ++ [record])).history =
        (recordAll env distance before).history ++ [record] := by
      rw [recordAll, run_append]
      show (recordExecution env distance (recordAll env distance before) record).2.history = _
      unfold recordExecution
      dsimp only
      split_ifs
      · exact history_recomputeClusters env _
      · rfl
    rw [appended, ih]

theorem recordAll_append (before : List (ExecutionRecord R)) (record : ExecutionRecord R) :
    recordAll env distance (before ++ [record]) =
      ((recordAll env distance before).recordExecution env distance record).2 :=
  run_append _ _ _ _

/-- The sample changes only where it is recomputed. -/
theorem sample_recordAll_append {before : List (ExecutionRecord R)} {record : ExecutionRecord R}
    (stale : ¬ (10 < before.length + 1 ∧ (before.length + 1) % 10 = 1)) :
    (recordAll env distance (before ++ [record])).representativeSample =
      (recordAll env distance before).representativeSample := by
  rw [recordAll_append]
  unfold recordExecution
  dsimp only
  rw [history_recordAll, List.length_append, List.length_singleton, if_neg stale]

/-- **The sample after a run** is that of the last recomputation. -/
theorem sample_run (records : List (ExecutionRecord R)) :
    (recordAll env distance records).representativeSample =
      if records.length < 11 then []
      else (recordAll env distance
        (records.take (lastRecomputation records.length))).representativeSample := by
  induction records using List.reverseRecOn with
  | nil => rfl
  | append_singleton before record ih =>
    rw [List.length_append, List.length_singleton]
    by_cases now : 10 < before.length + 1 ∧ (before.length + 1) % 10 = 1
    · have all : lastRecomputation (before.length + 1) = before.length + 1 := by
        unfold lastRecomputation
        omega
      have whole : (before ++ [record]).take (before.length + 1) = before ++ [record] :=
        List.take_of_length_le (by rw [List.length_append, List.length_singleton])
      rw [if_neg (by omega), all, whole]
    · rw [sample_recordAll_append env now, ih]
      by_cases early : before.length + 1 < 11
      · rw [if_pos (by omega), if_pos early]
      · have same : lastRecomputation (before.length + 1) = lastRecomputation before.length := by
          unfold lastRecomputation
          omega
        have within : lastRecomputation before.length ≤ before.length := Nat.sub_le _ _
        rw [if_neg (by omega), if_neg early, same, List.take_append_of_le_length within]

/-- The centers can be placed where no vector is too short. -/
theorem placeCenters_returns (history : List (ExecutionRecord R)) {nMetrics : Nat}
    {vectors : List (List R)} (long : ∀ vector ∈ vectors, nMetrics ≤ vector.length)
    (centers : List (List R)) :
    ∃ placed, block (vectors.flatMap (placeCenter history nMetrics)) centers = (.ok (), placed) := by
  refine block_total (fun statement member centers => ?_) centers
  obtain ⟨vector, isVector, isStatement⟩ := List.mem_flatMap.mp member
  obtain ⟨d, inside, rfl⟩ := List.mem_map.mp isStatement
  have within : d < vector.length := (List.mem_range.mp inside).trans_le (long vector isVector)
  dsimp only
  rw [List.getElem?_eq_getElem within]
  exact ⟨_, rfl⟩

section Uniform

variable {records : List (ExecutionRecord R)} {dimension : Nat} (positive : 0 < dimension)
  (uniform : ∀ record ∈ records, record.metricVector.length = dimension)
include positive uniform

/-- **A recomputation returns, with the sample of the clusters of all the executions.** -/
theorem recomputeClusters_returns (checker : ClusteredDriftChecker R)
    (recorded : checker.history = records) (many : kClusters ≤ records.length) :
    ∃ centers, (checker.recomputeClusters env distance).1 = .ok () ∧
      (checker.recomputeClusters env distance).2.representativeSample =
        truncatedSample (sampleEntries distance records centers
          ((records.map ExecutionRecord.metricVector).map
            (bestCluster env distance (records.map ExecutionRecord.metricVector) centers))) := by
  subst recorded
  have long : ∀ vector ∈ (checker.history.map ExecutionRecord.metricVector).take kClusters,
      dimension ≤ vector.length := by
    intro vector member
    obtain ⟨record, isRecord, rfl⟩ := List.mem_map.mp (List.mem_of_mem_take member)
    exact (uniform record isRecord).ge
  have first : ((checker.history.map ExecutionRecord.metricVector).head?.getD []).length =
      dimension := by
    cases history : checker.history with
    | nil =>
      rw [history] at many
      exact absurd many (Nat.not_succ_le_zero 9)
    | cons record rest => exact uniform record (history ▸ List.mem_cons_self)
  obtain ⟨centers, placed⟩ := placeCenters_returns checker.history long
    (List.replicate kClusters (List.replicate dimension 0.0))
  refine ⟨centers, ?_⟩
  unfold recomputeClusters
  dsimp only
  rw [if_neg (not_lt.mpr many), first, if_neg positive.ne', placed]
  exact ⟨rfl, rfl⟩

variable (distance) in
/-- **The sample after a run that recomputes it last.** -/
theorem sample_recomputed (now : 10 < records.length ∧ records.length % 10 = 1) :
    ∃ centers, (recordAll env distance records).representativeSample =
      truncatedSample (sampleEntries distance records centers
        ((records.map ExecutionRecord.metricVector).map
          (bestCluster env distance (records.map ExecutionRecord.metricVector) centers))) := by
  rcases List.eq_nil_or_concat records with rfl | ⟨before, record, rfl⟩
  · exact absurd now.1 (Nat.not_lt_zero 10)
  · rw [List.concat_eq_append] at *
    have many : kClusters ≤ (before ++ [record]).length := now.1.le
    obtain ⟨centers, -, sample⟩ := recomputeClusters_returns env positive uniform
      { recordAll env distance before with
        history := (recordAll env distance before).history ++ [record] }
      (congrArg (· ++ [record]) (history_recordAll env before)) many
    refine ⟨centers, ?_⟩
    rw [recordAll_append]
    unfold recordExecution
    dsimp only
    rw [if_pos (by rwa [history_recordAll])]
    exact sample

end Uniform

/-! ### The adversary -/

/-- Nothing is nearer than the first of centers that are all as far. -/
theorem bestCluster_of_constant {vectors centers : List (List R)} {vector : List R}
    (constant : ∀ first second, distance vector first vectors = distance vector second vectors) :
    bestCluster env distance vectors centers vector = 0 := by
  have stays : ∀ (rest : List (List R × Nat)) (nearest : R × Nat),
      ¬ distance vector [] vectors < nearest.1 →
      rest.foldl (fun nearest center =>
        if distance vector center.1 vectors < nearest.1 then
          (distance vector center.1 vectors, center.2)
        else nearest) nearest = nearest := by
    intro rest nearest far
    induction rest with
    | nil => rfl
    | cons center rest ih => rw [List.foldl_cons, constant center.1 [], if_neg far, ih]
  cases centers with
  | nil => rfl
  | cons center rest =>
    rw [bestCluster, List.zipIdx_cons, List.foldl_cons]
    dsimp only
    rw [constant center []]
    split_ifs with nearer
    · rw [stays _ _ (lt_irrefl _)]
    · rw [stays _ _ nearer]

theorem mem_clusterMembers {clusterAssignments : List Nat} {c index : Nat} :
    index ∈ clusterMembers clusterAssignments c ↔ clusterAssignments[index]? = some c := by
  rw [clusterMembers, List.mem_map]
  constructor
  · rintro ⟨⟨assigned, index⟩, member, rfl⟩
    obtain ⟨listed, same⟩ := List.mem_filter.mp member
    have same : assigned = c := of_decide_eq_true same
    rw [List.mk_mem_zipIdx_iff_getElem?.mp listed, same]
  · intro assigned
    exact ⟨(c, index), List.mem_filter.mpr
      ⟨List.mk_mem_zipIdx_iff_getElem?.mpr assigned, decide_eq_true rfl⟩, rfl⟩

/-! ### The bound -/

variable {env}

theorem violations_eq_nil_iff {checker : DriftChecker R} {vector : List R} {driftBound : R}
    {sample : List Nat} :
    checker.violations env vector driftBound sample = .ok [] ↔
      ∀ index ∈ sample, ∃ drift, checker.computeDrift env index vector = .ok drift ∧
        drift ≤ driftBound := by
  induction sample with
  | nil => exact iff_of_true rfl (List.forall_mem_nil _)
  | cons index rest ih =>
    rw [List.forall_mem_cons, ← ih, DriftChecker.violations]
    cases checker.computeDrift env index vector with
    | error failure => exact iff_of_false nofun fun ⟨⟨_, impossible, _⟩, _⟩ => nomatch impossible
    | ok drift =>
      cases checker.violations env vector driftBound rest with
      | error failure => exact iff_of_false nofun fun ⟨_, impossible⟩ => nomatch impossible
      | ok others =>
        simp only [bind, Except.bind, Except.ok.injEq, exists_eq_left']
        split_ifs with beyond
        · exact iff_of_false not_false fun ⟨within, _⟩ => absurd within (not_le.mpr beyond)
        · exact (and_iff_right (not_lt.mp beyond)).symm

theorem isWithinDriftBound_iff {checker : ClusteredDriftChecker R} {vector : List R}
    {driftBound : R} :
    (∃ violations, checker.isWithinDriftBound env vector driftBound = .ok (true, violations)) ↔
      ∀ index ∈ checker.representativeSample, ∃ drift,
        checker.computeDrift env index vector = .ok drift ∧ drift ≤ driftBound := by
  rw [← violations_eq_nil_iff, isWithinDriftBound]
  cases checker.violations env vector driftBound checker.representativeSample with
  | error failure => exact iff_of_false (fun ⟨_, impossible⟩ => nomatch impossible) nofun
  | ok violations =>
    cases violations with
    | nil => exact iff_of_true ⟨[], rfl⟩ rfl
    | cons first rest => exact iff_of_false (fun ⟨_, impossible⟩ => nomatch impossible) nofun

end Drift

/-! ### The law of the bound -/

section DriftBound

/-- The metrics of a vector of a dimension. -/
def coordinates (dimension : Nat) (vector : List ℚ) : Fin dimension → ℚ :=
  fun metric => vector.getD metric 0

/-- The differences to a vector are at most the bound in every metric. -/
abbrev WithinBound (dimension : Nat) (vector : List ℚ) (driftBound : ℚ)
    (record : ExecutionRecord ℚ) : Prop :=
  Near (coordinates dimension vector) driftBound (coordinates dimension record.metricVector)

variable (env : LearningEnv ℚ) (records : List (ExecutionRecord ℚ)) (dimension : Nat)

/-- **The law of the bound**, whatever the distance is: a vector that is accepted after the
executions is within the bound of the most recent one of each task class, and of all of them as long
as there are fewer than clusters. -/
def GuaranteesDrift : Prop :=
  ∀ (distance : List ℚ → List ℚ → List (List ℚ) → ℚ) (vector : List ℚ) (driftBound : ℚ)
    (violations : List (Nat × ℚ)), vector.length = dimension →
    (ClusteredDriftChecker.recordAll env distance records).isWithinDriftBound env vector driftBound =
      .ok (true, violations) →
    (∀ taskClass, ∀ record ∈ mostRecent records taskClass,
      WithinBound dimension vector driftBound record) ∧
    (records.length < kClusters → ∀ record ∈ records, WithinBound dimension vector driftBound record)

/-- The metrics of the most recent executions. -/
def recentPoints (history : List (ExecutionRecord ℚ)) : List (Fin dimension → ℚ) :=
  history.filterMap fun record =>
    (mostRecent history record.taskClass).map fun recent => coordinates dimension recent.metricVector

/-- Where it holds: the sample was computed, and the most recent executions of now are in the box of
those of then. -/
def SampleCovers : Prop :=
  11 ≤ records.length ∧ ∀ taskClass, ∀ record ∈ mostRecent records taskClass,
    Boxed (recentPoints dimension (records.take (lastRecomputation records.length)))
      (coordinates dimension record.metricVector)

variable {records dimension}

theorem pyAbs_eq_abs (value : ℚ) : pyAbs value = |value| := by
  rw [pyAbs, Int.cast_zero]
  split_ifs with negative
  · exact (abs_of_neg negative).symm
  · exact (abs_of_nonneg (not_lt.mp negative)).symm

theorem foldl_max_le_iff {pairs : List (ℚ × ℚ)} {greatest driftBound : ℚ} :
    pairs.foldl (fun greatest pair => max greatest (pyAbs (pair.1 - pair.2))) greatest ≤ driftBound ↔
      greatest ≤ driftBound ∧ ∀ pair ∈ pairs, |pair.1 - pair.2| ≤ driftBound := by
  induction pairs generalizing greatest with
  | nil => exact (and_iff_left (List.forall_mem_nil _)).symm
  | cons pair rest ih =>
    rw [List.foldl_cons, ih, max_le_iff, List.forall_mem_cons, pyAbs_eq_abs, and_assoc]

theorem forall_mem_zip_iff {first second : List ℚ} {P : ℚ → ℚ → Prop}
    (firstLength : first.length = dimension) (secondLength : second.length = dimension) :
    (∀ pair ∈ first.zip second, P pair.1 pair.2) ↔
      ∀ metric, P (coordinates dimension first metric) (coordinates dimension second metric) := by
  have length : (first.zip second).length = dimension := by
    rw [List.length_zip, firstLength, secondLength, min_self]
  have at' : ∀ metric (inside : metric < (first.zip second).length),
      (first.zip second)[metric] = (first.getD metric 0, second.getD metric 0) := by
    intro metric inside
    rw [List.getElem_zip, List.getD_eq_getElem _ _ (by omega), List.getD_eq_getElem _ _ (by omega)]
  rw [List.forall_mem_iff_forall_getElem]
  constructor
  · intro all metric
    have here := all metric (length ▸ metric.isLt)
    rwa [at'] at here
  · intro all metric inside
    rw [at']
    exact all ⟨metric, length ▸ inside⟩

/-- **The drift is within the bound where every metric is.** -/
theorem maximumDifference_le_iff {first second : List ℚ} {driftBound : ℚ} (positive : 0 < dimension)
    (firstLength : first.length = dimension) (secondLength : second.length = dimension) :
    (∃ drift, maximumDifference first second = .ok drift ∧ drift ≤ driftBound) ↔
      Near (coordinates dimension second) driftBound (coordinates dimension first) := by
  rw [Near, ← forall_mem_zip_iff (P := fun one other => |one - other| ≤ driftBound) firstLength
    secondLength]
  cases first with
  | nil => exact absurd firstLength positive.ne
  | cons one ones =>
    cases second with
    | nil => exact absurd secondLength positive.ne
    | cons other others =>
      rw [maximumDifference, List.zip_cons_cons, List.forall_mem_cons, ← pyAbs_eq_abs,
        ← foldl_max_le_iff]
      simp only [Except.ok.injEq, exists_eq_left']

section Run

variable (positive : 0 < dimension)
  (uniform : ∀ record ∈ records, record.metricVector.length = dimension)
include positive uniform

/-- **A vector is accepted where it is within the bound of the sample.** -/
theorem isWithinDriftBound_recordAll_iff
    {distance : List ℚ → List ℚ → List (List ℚ) → ℚ} {vector : List ℚ} {driftBound : ℚ}
    (sized : vector.length = dimension)
    (inside : ∀ index ∈ (ClusteredDriftChecker.recordAll env distance records).representativeSample,
      index < records.length) :
    (∃ violations, (ClusteredDriftChecker.recordAll env distance records).isWithinDriftBound env
      vector driftBound = .ok (true, violations)) ↔
      ∀ index ∈ (ClusteredDriftChecker.recordAll env distance records).representativeSample,
        ∀ record ∈ records[index]?, WithinBound dimension vector driftBound record := by
  rw [isWithinDriftBound_iff]
  refine forall₂_congr fun index member => ?_
  have here := List.getElem?_eq_getElem (inside index member)
  have length := uniform _ (List.getElem_mem (inside index member))
  rw [DriftChecker.computeDrift, history_recordAll, here]
  dsimp only
  rw [if_neg (not_not.mpr (length.trans sized.symm)), maximumDifference_le_iff positive length sized]
  exact ⟨fun within record same => Option.some.inj same ▸ within, fun all => all _ rfl⟩

variable (few : (records.map ExecutionRecord.taskClass).toFinset.card < 90)
  (recomputed : 11 ≤ records.length)
include few recomputed

/-- **What is in the sample**: the last recomputation's farthest member of each cluster, and its
most recent execution of each task class. -/
theorem mem_sample_iff (distance : List ℚ → List ℚ → List (List ℚ) → ℚ) :
    ∃ centers, ∀ index,
      index ∈ (ClusteredDriftChecker.recordAll env distance records).representativeSample ↔
        index ∈ farthestMembers distance (records.take (lastRecomputation records.length)) centers
          (((records.take (lastRecomputation records.length)).map ExecutionRecord.metricVector).map
            (bestCluster env distance ((records.take (lastRecomputation records.length)).map
              ExecutionRecord.metricVector) centers)) ∨
        index ∈ recentIndices (records.take (lastRecomputation records.length)) := by
  have length : (records.take (lastRecomputation records.length)).length =
      lastRecomputation records.length := List.length_take_of_le (Nat.sub_le _ _)
  have now : 10 < (records.take (lastRecomputation records.length)).length ∧
      (records.take (lastRecomputation records.length)).length % 10 = 1 := by
    rw [length]
    unfold lastRecomputation
    omega
  have fewer : ((records.take (lastRecomputation records.length)).map
      ExecutionRecord.taskClass).toFinset.card < 90 := by
    refine (Finset.card_le_card fun taskClass member => ?_).trans_lt few
    rw [List.mem_toFinset] at member ⊢
    rw [List.map_take] at member
    exact List.mem_of_mem_take member
  obtain ⟨centers, sample⟩ := sample_recomputed env distance positive
    (fun record member => uniform record (List.mem_of_mem_take member)) now
  refine ⟨centers, fun index => ?_⟩
  rw [sample_run, if_neg (not_lt.mpr recomputed), sample,
    mem_truncatedSample (length_sampleEntries fewer _ _), sampleEntries, List.mem_append]

end Run

theorem lt_of_mem_farthestMembers {distance : List ℚ → List ℚ → List (List ℚ) → ℚ}
    {history : List (ExecutionRecord ℚ)} {centers : List (List ℚ)} {cluster : List ℚ → Nat}
    {index : Nat} (member : index ∈ farthestMembers distance history centers
      ((history.map ExecutionRecord.metricVector).map cluster)) : index < history.length := by
  obtain ⟨c, -, farthest⟩ := List.mem_filterMap.mp member
  have assigned := mem_clusterMembers.mp (List.argmax_mem farthest)
  have inside := (List.getElem?_eq_some_iff.mp assigned).1
  rwa [List.length_map, List.length_map] at inside

/-- The distance that singles a vector out. -/
def singledOut (vector other _center : List ℚ) (_vectors : List (List ℚ)) : ℚ :=
  if other = vector then 1 else 0

/-- **The farthest member is the one that is singled out**, in the only cluster there is. -/
theorem farthest_singledOut {history : List (ExecutionRecord ℚ)} {record : ExecutionRecord ℚ}
    (isRecord : record ∈ history) {centers : List (List ℚ)} {index : Nat}
    (member : index ∈ farthestMembers (singledOut record.metricVector) history centers
      ((history.map ExecutionRecord.metricVector).map (bestCluster env
        (singledOut record.metricVector) (history.map ExecutionRecord.metricVector) centers))) :
    vectorAt history index = record.metricVector := by
  obtain ⟨c, -, farthest⟩ := List.mem_filterMap.mp member
  have single : bestCluster env (singledOut record.metricVector)
      (history.map ExecutionRecord.metricVector) centers = fun _ => 0 :=
    funext fun vector => bestCluster_of_constant env fun _ _ => rfl
  rw [single] at farthest
  have assigned := mem_clusterMembers.mp (List.argmax_mem farthest)
  obtain ⟨position, inside, rfl⟩ := List.getElem_of_mem isRecord
  have here : vectorAt history position = history[position].metricVector := by
    rw [vectorAt, List.getElem?_eq_getElem inside]
    rfl
  -- the cluster of the farthest member has every execution
  have also : position ∈ clusterMembers
      ((history.map ExecutionRecord.metricVector).map fun _ => 0) c := by
    rw [List.getElem?_map] at assigned
    obtain ⟨_, -, rfl⟩ := Option.map_eq_some_iff.mp assigned
    rw [mem_clusterMembers, List.getElem?_map, List.getElem?_map, List.getElem?_eq_getElem inside]
    rfl
  have greatest := List.le_of_mem_argmax also farthest
  rw [singledOut, singledOut, if_pos here] at greatest
  by_contra different
  rw [if_neg different] at greatest
  exact absurd greatest (by decide)

theorem mem_recentPoints {history : List (ExecutionRecord ℚ)} {point : Fin dimension → ℚ} :
    point ∈ recentPoints dimension history ↔ ∃ taskClass, ∃ record ∈ mostRecent history taskClass,
      coordinates dimension record.metricVector = point := by
  rw [recentPoints, List.mem_filterMap]
  constructor
  · rintro ⟨record, -, found⟩
    obtain ⟨recent, isRecent, same⟩ := Option.map_eq_some_iff.mp found
    exact ⟨record.taskClass, recent, isRecent, same⟩
  · rintro ⟨taskClass, record, isRecent, same⟩
    obtain ⟨member, ofClass⟩ := List.mem_filter.mp (List.argmax_mem isRecent)
    have ofClass : record.taskClass = taskClass := of_decide_eq_true ofClass
    exact ⟨record, member, Option.map_eq_some_iff.mpr ⟨record, ofClass ▸ isRecent, same⟩⟩

theorem getElem?_of_take {index : Nat} {record : ExecutionRecord ℚ}
    (found : (records.take (lastRecomputation records.length))[index]? = some record) :
    records[index]? = some record := by
  have inside := (List.getElem?_eq_some_iff.mp found).1
  rw [List.length_take] at inside
  rwa [List.getElem?_take_of_lt (inside.trans_le (min_le_left _ _))] at found

theorem coordinates_ofFn (center : Fin dimension → ℚ) :
    coordinates dimension (List.ofFn center) = center := by
  funext metric
  have inside : metric.val < (List.ofFn center).length := by
    rw [List.length_ofFn]
    exact metric.isLt
  rw [coordinates, List.getD_eq_getElem _ _ inside, List.getElem_ofFn]

section Law

variable (positive : 0 < dimension)
  (uniform : ∀ record ∈ records, record.metricVector.length = dimension)
  (few : (records.map ExecutionRecord.taskClass).toFinset.card < 90)
include positive uniform few

omit few in
/-- Before the first recomputation everything is accepted. -/
theorem recomputed_of_guaranteesDrift (guarantees : GuaranteesDrift env records dimension)
    (some : records ≠ []) : 11 ≤ records.length := by
  by_contra early
  obtain ⟨record, isRecord⟩ := List.exists_mem_of_ne_nil records some
  obtain ⟨recent, isRecent⟩ := exists_mostRecent isRecord
  have empty : (ClusteredDriftChecker.recordAll env (singledOut []) records).representativeSample =
      [] := by
    rw [sample_run, if_pos (not_le.mp early)]
  have sized : (List.replicate dimension (0 : ℚ)).length = dimension := List.length_replicate
  obtain ⟨violations, accepted⟩ : ∃ violations,
      (ClusteredDriftChecker.recordAll env (singledOut []) records).isWithinDriftBound env
        (List.replicate dimension 0) (-1) = .ok (true, violations) := by
    refine (isWithinDriftBound_recordAll_iff env positive uniform sized ?_).mpr ?_
    · rw [empty]
      exact List.forall_mem_nil _
    · rw [empty]
      exact List.forall_mem_nil _
  have near := (guarantees _ _ _ _ sized accepted).1 _ recent isRecent ⟨0, positive⟩
  exact absurd (near.trans_lt neg_one_lt_zero) (not_lt.mpr (abs_nonneg _))

theorem lt_of_mem_sample (recomputed : 11 ≤ records.length)
    (distance : List ℚ → List ℚ → List (List ℚ) → ℚ) :
    ∀ index ∈ (ClusteredDriftChecker.recordAll env distance records).representativeSample,
      index < records.length := by
  intro index inSample
  obtain ⟨centers, members⟩ := mem_sample_iff env positive uniform few recomputed distance
  rcases (members index).mp inSample with farthest | isLatest
  · exact (lt_of_mem_farthestMembers farthest).trans_le (List.length_take_le' _ _)
  · obtain ⟨-, _, -, here⟩ := mostRecent_of_mem_recentIndices isLatest
    exact (List.getElem?_eq_some_iff.mp (getElem?_of_take here)).1

/-- With the adversary's distance there are only most recent executions in the sample. -/
theorem exists_recent_of_mem_sample (recomputed : 11 ≤ records.length) :
    ∃ distance, ∀ index ∈
        (ClusteredDriftChecker.recordAll env distance records).representativeSample,
      ∃ record, records[index]? = some record ∧
        coordinates dimension record.metricVector ∈
          recentPoints dimension (records.take (lastRecomputation records.length)) := by
  have some : records.take (lastRecomputation records.length) ≠ [] := by
    have length : (records.take (lastRecomputation records.length)).length =
        records.length - (records.length - 1) % 10 := List.length_take_of_le (Nat.sub_le _ _)
    refine List.length_pos_iff_ne_nil.mp ?_
    omega
  obtain ⟨first, isFirst⟩ := List.exists_mem_of_ne_nil _ some
  obtain ⟨recent, isRecent⟩ := exists_mostRecent isFirst
  have member := List.mem_of_mem_filter (List.argmax_mem isRecent)
  refine ⟨singledOut recent.metricVector, fun index inSample => ?_⟩
  obtain ⟨centers, members⟩ := mem_sample_iff env positive uniform few recomputed
    (singledOut recent.metricVector)
  rcases (members index).mp inSample with farthest | isLatest
  · have here := List.getElem?_eq_getElem (lt_of_mem_farthestMembers farthest)
    have same := farthest_singledOut env member farthest
    rw [vectorAt, here] at same
    refine ⟨_, getElem?_of_take here, mem_recentPoints.mpr ⟨first.taskClass, recent, isRecent, ?_⟩⟩
    exact congrArg (coordinates dimension) same.symm
  · obtain ⟨taskClass, record, isRecord, here⟩ := mostRecent_of_mem_recentIndices isLatest
    exact ⟨record, getElem?_of_take here, mem_recentPoints.mpr ⟨taskClass, record, isRecord, rfl⟩⟩

/-- **The guarantee makes the sample cover the most recent executions.** -/
theorem SampleCovers.of_guaranteesDrift (guarantees : GuaranteesDrift env records dimension)
    (some : records ≠ []) : SampleCovers records dimension := by
  have recomputed := recomputed_of_guaranteesDrift env positive uniform guarantees some
  refine ⟨recomputed, fun taskClass record isRecent => near_all_iff.mp fun center radius all => ?_⟩
  obtain ⟨distance, adversarial⟩ :=
    exists_recent_of_mem_sample env positive uniform few recomputed
  have sized : (List.ofFn center).length = dimension := List.length_ofFn
  have within : ∀ index ∈
      (ClusteredDriftChecker.recordAll env distance records).representativeSample,
      ∀ sampled ∈ records[index]?, WithinBound dimension (List.ofFn center) radius sampled := by
    intro index inSample sampled found
    obtain ⟨other, here, isPoint⟩ := adversarial index inSample
    obtain rfl := Option.some.inj (here.symm.trans found)
    rw [WithinBound, coordinates_ofFn]
    exact all _ isPoint
  obtain ⟨violations, accepted⟩ := (isWithinDriftBound_recordAll_iff env positive uniform sized
    (lt_of_mem_sample env positive uniform few recomputed distance)).mpr within
  have near := (guarantees _ _ _ _ sized accepted).1 taskClass record isRecent
  rwa [WithinBound, coordinates_ofFn] at near

/-- **A sample that covers the most recent executions guarantees the bound.** -/
theorem SampleCovers.guaranteesDrift (covers : SampleCovers records dimension) :
    GuaranteesDrift env records dimension := by
  intro distance vector driftBound violations sized accepted
  obtain ⟨recomputed, boxed⟩ := covers
  refine ⟨fun taskClass record isRecent => (boxed taskClass record isRecent).near ?_, fun fewer => ?_⟩
  · obtain ⟨centers, members⟩ :=
      mem_sample_iff env positive uniform few recomputed distance
    have within := (isWithinDriftBound_recordAll_iff env positive uniform sized
      (lt_of_mem_sample env positive uniform few recomputed distance)).mp ⟨violations, accepted⟩
    intro point isPoint
    obtain ⟨otherClass, other, isOther, rfl⟩ := mem_recentPoints.mp isPoint
    obtain ⟨index, isIndex, found⟩ := mem_recentIndices_of_mostRecent isOther
    exact within index ((members index).mpr (Or.inr isIndex)) other (getElem?_of_take found)
  · exact absurd fewer (by unfold kClusters; omega)

end Law

/-- **The law of the bound holds exactly where the sample covers the most recent executions.** -/
theorem guaranteesDrift_iff (uniform : ∀ record ∈ records, record.metricVector.length = dimension)
    (few : (records.map ExecutionRecord.taskClass).toFinset.card < 90) :
    GuaranteesDrift env records dimension ↔
      records = [] ∨ dimension = 0 ∨ SampleCovers records dimension := by
  constructor
  · intro guarantees
    by_cases none : records = []
    · exact Or.inl none
    by_cases flat : dimension = 0
    · exact Or.inr (Or.inl flat)
    exact Or.inr (Or.inr (SampleCovers.of_guaranteesDrift env (Nat.pos_of_ne_zero flat) uniform few
      guarantees none))
  · rintro (rfl | rfl | covers)
    · intro distance vector driftBound violations _ _
      exact ⟨(fun taskClass record impossible => nomatch impossible), fun _ => List.forall_mem_nil _⟩
    · intro distance vector driftBound violations _ _
      exact ⟨fun taskClass record _ metric => metric.elim0, fun _ record _ metric => metric.elim0⟩
    · by_cases flat : dimension = 0
      · subst flat
        intro distance vector driftBound violations _ _
        exact ⟨fun taskClass record _ metric => metric.elim0, fun _ record _ metric => metric.elim0⟩
      · exact covers.guaranteesDrift env (Nat.pos_of_ne_zero flat) uniform few

end DriftBound

namespace Sample

def still : ExecutionRecord ℚ := ⟨"run", "sorting", [0], 0⟩

def driftEnv : LearningEnv ℚ :=
  ⟨1000, fun _ => "", fun _ => "", ⟨fun _ => "", fun _ => ⟨false, 0, [0], none, FloatLit.isFloat_zero⟩, id⟩⟩

/-- Executions of two classes, each with a metric of its own. -/
def eleven : List (ExecutionRecord ℚ) := (List.range 11).map fun index : Nat =>
  ⟨toString index, if index % 2 = 0 then "sorting" else "searching", [(index : ℚ)], index⟩

end Sample

/-- After eleven executions the sample is up to date. -/
theorem eleven_guaranteed : GuaranteesDrift Sample.driftEnv Sample.eleven 1 := by
  refine (guaranteesDrift_iff Sample.driftEnv (by decide +kernel) (by decide +kernel)).mpr
    (Or.inr (Or.inr ⟨by decide, ?_⟩))
  intro taskClass record isRecent metric
  have isPoint : coordinates 1 record.metricVector ∈ recentPoints 1
      (Sample.eleven.take (lastRecomputation 11)) :=
    mem_recentPoints.mpr ⟨taskClass, record, isRecent, rfl⟩
  exact ⟨⟨_, isPoint, le_rfl⟩, _, isPoint, le_rfl⟩

/-- After one execution any vector is accepted. -/
theorem single_accepts_far : ¬ GuaranteesDrift Sample.driftEnv [Sample.still] 1 := by
  intro guarantees
  have accepted := guarantees (singledOut []) [1] (1 / 2) [] rfl rfl
  have near := accepted.2 (by decide) Sample.still List.mem_cons_self 0
  exact absurd near (by decide +kernel)

end Dnc.Learning
