/-
**What holds across every history of transactions.**

Any calls of `execute_transaction`, with any operations and base versions, in any order, committed
or not. The graph stays *sound*: it is valid, holds every unit under its own identifier, and no
retired identifier is live.

The argument is one step deep. A mutation keeps the keys, only adds to the retired identifiers, and
keeps them apart from the live units (`MutationStep.keeps`); the retired identifiers are read
from metadata, where `REMOVE_UNIT` writes them as a sorted list, so the point is that reading the
sorted list back gives the same set (`retired_of_retiredWith`). A transaction is a fold of mutations
followed by a validation or changes nothing (`executeTransaction_cases`), and a history is a run of
transactions.
-/

import Dnc.Transaction.Atomicity

namespace Dnc

open PyLib

/-! ### Retired identifiers -/

/-- The retired identifiers, as `set(metadata.get("retired_unit_ids", []))` reads them. -/
def StructuralGraph.IsRetired (graph : StructuralGraph) (uid : String) : Prop :=
  ∃ retired, graph.retired = .ok retired ∧ retired.contains (.str uid) = true

/-- **A sound graph.** -/
structure StructuralGraph.Sound (graph : StructuralGraph) : Prop where
  valid : Valid graph
  keys : graph.KeysMatch
  apart : ∀ uid, graph.IsRetired uid → uid ∉ graph.units

/-- The two parts of soundness that every single mutation keeps. -/
structure StructuralGraph.IdentitiesKept (graph : StructuralGraph) : Prop where
  keys : graph.KeysMatch
  apart : ∀ uid, graph.IsRetired uid → uid ∉ graph.units

theorem IsRetired.congr {first second : StructuralGraph} (same : first.metadata = second.metadata)
    {uid : String} : first.IsRetired uid ↔ second.IsRetired uid := by
  unfold StructuralGraph.IsRetired StructuralGraph.retired StructuralGraph.retiredUnitIds
  rw [same]

theorem isRetired_of_same {graph next : StructuralGraph} (same : next.metadata = graph.metadata)
    {uid : String} {removed : Prop} (none : ¬ removed) :
    next.IsRetired uid ↔ graph.IsRetired uid ∨ removed :=
  (IsRetired.congr same).trans (or_iff_left none).symm

/-- Reading back the list that `REMOVE_UNIT` writes gives the retired identifiers and one more. -/
theorem retired_of_retiredWith {graph next : StructuralGraph} {uid : String} {items : List Json}
    (extended : graph.retiredWith uid = .ok items)
    (written : next.metadata = setItem graph.metadata "retired_unit_ids" (.arr items))
    {other : String} : next.IsRetired other ↔ graph.IsRetired other ∨ other = uid := by
  unfold StructuralGraph.retiredWith at extended
  cases read : graph.retired with
  | error error => simp [read, bind, Except.bind] at extended
  | ok retired =>
    cases added : retired.add (.str uid) with
    | error error => simp [read, added, bind, Except.bind] at extended
    | ok larger =>
      have sorted : larger.sorted = .ok items := by
        simpa [read, added, bind, Except.bind] using extended
      obtain ⟨rebuilt, again, same⟩ := PySet.ofList_perm (PySet.sorted_perm sorted)
      have lookup : next.retiredUnitIds = .arr items := by
        unfold StructuralGraph.retiredUnitIds
        rw [written, lookup_setItem, if_pos rfl, Option.getD_some]
      have nextRead : next.retired = .ok rebuilt := by
        unfold StructuralGraph.retired
        rw [lookup]
        exact again
      have contains : rebuilt.contains (.str other) = true ↔
          retired.contains (.str other) = true ∨ other = uid := by
        rw [same.contains_iff, PySet.contains_of_add added]
        simp
      constructor
      · rintro ⟨found, foundRead, member⟩
        obtain rfl : rebuilt = found := Except.ok.inj (nextRead.symm.trans foundRead)
        exact (contains.mp member).imp (fun old => ⟨retired, read, old⟩) id
      · rintro (⟨found, foundRead, member⟩ | same)
        · obtain rfl : retired = found := Except.ok.inj (read.symm.trans foundRead)
          exact ⟨rebuilt, nextRead, contains.mpr (Or.inl member)⟩
        · exact ⟨rebuilt, nextRead, contains.mpr (Or.inr same)⟩

/-! ### One mutation -/

/-- A mutation retires what it removes and keeps what was retired. -/
theorem MutationStep.retired {graph next : StructuralGraph} {mutation : Mutation}
    {inverse : InverseOperation} (step : MutationStep graph mutation next inverse) {uid : String} :
    next.IsRetired uid ↔
      graph.IsRetired uid ∨ ∃ unitId, mutation = .removeUnit unitId ∧ uid = unitId.value := by
  cases step with
  | removeUnit found extended =>
    rw [retired_of_retiredWith extended rfl]
    simp
  | addUnit known permitted fresh => exact isRetired_of_same rfl (by simp)
  | connectUnits edge => exact isRetired_of_same rfl (by simp)
  | disconnectUnits source target edgeType sourcePort targetPort =>
    exact isRetired_of_same rfl (by simp)
  | rewireEdge found => exact isRetired_of_same rfl (by simp)

/-- **A mutation keeps the identities**: keys match, and no retired identifier is live. -/
theorem MutationStep.keeps {graph next : StructuralGraph} {mutation : Mutation}
    {inverse : InverseOperation} (step : MutationStep graph mutation next inverse)
    (kept : graph.IdentitiesKept) : next.IdentitiesKept := by
  have retired := fun uid => (@MutationStep.retired _ _ _ _ step uid).mp
  cases step with
  | @addUnit unit read known permitted fresh =>
    refine ⟨kept.keys.set unit, fun uid isRetired live => ?_⟩
    have old : graph.IsRetired uid := by simpa using retired uid isRetired
    rcases Dict.mem_set.mp live with same | present
    · -- the unit added now was refused if its identifier were retired
      obtain ⟨found, foundRead, member⟩ := old
      obtain rfl : read = found := Except.ok.inj (known.symm.trans foundRead)
      rw [same, permitted] at member
      exact Bool.false_ne_true member
    · exact kept.apart uid old present
  | @removeUnit unitId unit items found extended =>
    refine ⟨fun uid stored lookup => ?_, fun uid isRetired live => ?_⟩
    · have erased := Dict.get?_erase graph.units unitId.value uid
      have lookup : (graph.units.erase unitId.value).get? uid = some stored := lookup
      rw [erased] at lookup
      split_ifs at lookup
      exact kept.keys uid stored lookup
    · obtain ⟨different, present⟩ := Dict.mem_erase.mp live
      rcases retired uid isRetired with old | ⟨other, same, named⟩
      · exact kept.apart uid old present
      · cases same
        exact different named
  | connectUnits edge =>
    exact ⟨kept.keys, fun uid isRetired => kept.apart uid ((IsRetired.congr rfl).mp isRetired)⟩
  | disconnectUnits source target edgeType sourcePort targetPort =>
    exact ⟨kept.keys, fun uid isRetired => kept.apart uid ((IsRetired.congr rfl).mp isRetired)⟩
  | rewireEdge found =>
    exact ⟨kept.keys, fun uid isRetired => kept.apart uid ((IsRetired.congr rfl).mp isRetired)⟩

/-! ### One transaction -/

/-- An operation that was applied made a mutation step, and then the version advanced. -/
theorem applyChecked_eq_some {graph last : StructuralGraph} {operation : IROperation}
    (applied : applyChecked graph operation = some last) :
    ∃ mutation next inverse, operation.mutation = some mutation ∧
      MutationStep graph mutation next inverse ∧
      last = { next with version := next.version.nextSequence } := by
  unfold applyChecked at applied
  split_ifs at applied with both
  obtain ⟨mutation, next, inverse, read, step, same⟩ := applyOperation_success both.2
  rw [same] at applied
  exact ⟨mutation, next, inverse, read, step, (Option.some.inj applied).symm⟩

theorem applyChecked_keeps {graph last : StructuralGraph} {operation : IROperation}
    (kept : graph.IdentitiesKept) (applied : applyChecked graph operation = some last) :
    last.IdentitiesKept := by
  obtain ⟨mutation, next, inverse, _, step, same⟩ := applyChecked_eq_some applied
  have after := step.keeps kept
  rw [same]
  exact ⟨after.keys, fun uid isRetired => after.apart uid ((IsRetired.congr rfl).mp isRetired)⟩

theorem applyChecked_retired {graph last : StructuralGraph} {operation : IROperation} {uid : String}
    (applied : applyChecked graph operation = some last) :
    last.IsRetired uid ↔ graph.IsRetired uid ∨
      ∃ unitId, operation.mutation = some (.removeUnit unitId) ∧ uid = unitId.value := by
  obtain ⟨mutation, next, inverse, read, step, same⟩ := applyChecked_eq_some applied
  have unchanged : last.IsRetired uid ↔ next.IsRetired uid := by
    rw [same]
    exact IsRetired.congr rfl
  rw [unchanged, step.retired, read]
  simp

/-- The operations of a list keep what was retired, and retire what they remove. -/
theorem applyAll_retires {graph final : StructuralGraph} {operations : List IROperation}
    (applied : applyAll graph operations = some final) {uid : String}
    (reason : graph.IsRetired uid ∨ ∃ operation ∈ operations, ∃ unitId,
      operation.mutation = some (.removeUnit unitId) ∧ uid = unitId.value) :
    final.IsRetired uid := by
  have grows : ∀ {first last : StructuralGraph} {rest : List IROperation},
      rest.foldlM applyChecked first = some last → first.IsRetired uid → last.IsRetired uid :=
    fun ran retired => Logic.foldlM_invariant (P := fun graph => graph.IsRetired uid)
      (fun state operation next old step => (applyChecked_retired step).mpr (Or.inl old))
      retired ran
  rcases reason with old | ⟨operation, member, removal⟩
  · exact grows applied old
  · obtain ⟨before, after, middle, next, _, _, step, rest⟩ := Logic.foldlM_through member applied
    exact grows rest ((applyChecked_retired step).mpr (Or.inr removal))

/-- The graph and the log that a sequence of transactions works on. -/
structure Managed where
  graph : StructuralGraph
  log : Option ProvenanceLog := none

/-- A call of `execute_transaction`. -/
structure TransactionCall where
  txId : TransactionID
  operations : List IROperation
  base : Option GraphVersion := none

section Transaction

variable (env : TransactionEnv)

def Managed.execute (state : Managed) (call : TransactionCall) : Outcome :=
  executeTransaction env state.log call.txId state.graph call.operations call.base

/-- One call as a step, whatever it returns. -/
def transactionStep (state : Managed) (call : TransactionCall) : Managed :=
  ⟨(state.execute env call).graph, (state.execute env call).log⟩

/-- The call of a trace entry returned `True`. -/
def CommittedCall (entry : Managed × TransactionCall) : Prop :=
  (entry.1.execute env entry.2).committed = true

instance : DecidablePred (CommittedCall env) := fun entry =>
  inferInstanceAs (Decidable ((entry.1.execute env entry.2).committed = true))

theorem transactionStep_cases (state : Managed) (call : TransactionCall) :
    (CommittedCall env (state, call) ∧ ∃ final,
      Commits state.graph call.operations call.base final ∧
      (transactionStep env state call).graph = state.graph.commit final) ∨
    (¬ CommittedCall env (state, call) ∧
      (transactionStep env state call).graph = state.graph) := by
  rcases executeTransaction_cases env state.log call.txId state.graph call.operations call.base with
    ⟨final, commits, committed, same⟩ | ⟨_, committed, same⟩
  · exact Or.inl ⟨committed, final, commits, same⟩
  · refine Or.inr ⟨fun success => ?_, same⟩
    exact absurd (committed.symm.trans success) (by simp)

/-- **A transaction keeps a graph sound.** -/
theorem transactionStep_sound (state : Managed) (call : TransactionCall)
    (sound : state.graph.Sound) : (transactionStep env state call).graph.Sound := by
  rcases transactionStep_cases env state call with ⟨_, final, commits, same⟩ | ⟨_, same⟩
  · obtain ⟨_, applied, valid⟩ := commits
    have kept : final.IdentitiesKept :=
      Logic.foldlM_invariant (fun _ _ _ kept step => applyChecked_keeps kept step)
        ⟨sound.keys, sound.apart⟩ applied
    rw [same]
    exact ⟨valid.congr rfl rfl, kept.keys,
      fun uid isRetired => kept.apart uid ((IsRetired.congr rfl).mp isRetired)⟩
  · rw [same]
    exact sound

theorem transactionStep_retired (state : Managed) (call : TransactionCall) {uid : String}
    (retired : state.graph.IsRetired uid) :
    (transactionStep env state call).graph.IsRetired uid := by
  rcases transactionStep_cases env state call with ⟨_, final, ⟨_, applied, _⟩, same⟩ | ⟨_, same⟩
  · rw [same]
    exact (IsRetired.congr rfl).mpr (applyAll_retires applied (Or.inl retired))
  · rw [same]
    exact retired

/-- A committed call retires the units it removes. -/
theorem committed_retires {entry : Managed × TransactionCall} (committed : CommittedCall env entry)
    {operation : IROperation} (member : operation ∈ entry.2.operations) {unitId : UnitID}
    (removal : operation.mutation = some (.removeUnit unitId)) :
    (transactionStep env entry.1 entry.2).graph.IsRetired unitId.value := by
  rcases transactionStep_cases env entry.1 entry.2 with ⟨_, final, ⟨_, applied, _⟩, same⟩ | ⟨refused, _⟩
  · rw [same]
    exact (IsRetired.congr rfl).mpr
      (applyAll_retires applied (Or.inr ⟨operation, member, unitId, removal, rfl⟩))
  · exact absurd committed refused

theorem transactionStep_version (state : Managed) (call : TransactionCall) :
    (transactionStep env state call).graph.version =
      state.graph.version.advance (if CommittedCall env (state, call) then 1 else 0) := by
  rcases transactionStep_cases env state call with ⟨committed, final, _, same⟩ | ⟨refused, same⟩
  · rw [same, if_pos committed]
    rfl
  · rw [same, if_neg refused]
    rfl

theorem committed_base {entry : Managed × TransactionCall} (committed : CommittedCall env entry) :
    entry.2.base.getD entry.1.graph.version = entry.1.graph.version := by
  rcases transactionStep_cases env entry.1 entry.2 with ⟨_, final, ⟨current, _⟩, _⟩ | ⟨refused, _⟩
  · exact current.symm
  · exact absurd committed refused

/-! ### Histories -/

/-- The entries of a history whose calls committed. -/
def committedCalls (start : Managed) (calls : List TransactionCall) :
    List (Managed × TransactionCall) :=
  (Logic.trace (transactionStep env) start calls).filter fun entry => CommittedCall env entry

/-- The version counts the commits. -/
theorem history_version (start : Managed) (calls : List TransactionCall) :
    (Logic.run (transactionStep env) start calls).graph.version =
      start.graph.version.advance (committedCalls env start calls).length := by
  unfold committedCalls
  induction calls generalizing start with
  | nil => rfl
  | cons call rest ih =>
    rw [Logic.run_cons, ih, transactionStep_version, GraphVersion.advance_advance, Logic.trace_cons]
    by_cases committed : CommittedCall env (start, call)
    · rw [if_pos committed, List.filter_cons_of_pos (by simpa using committed), List.length_cons]
      rw [Nat.add_comm]
    · rw [if_neg committed, List.filter_cons_of_neg (by simpa using committed), Nat.zero_add]

/-- Commits are based on strictly growing versions. -/
theorem committedCalls_pairwise (start : Managed) (calls : List TransactionCall) :
    (committedCalls env start calls).Pairwise fun first second =>
      first.1.graph.version.sequence < second.1.graph.version.sequence := by
  refine Logic.trace_pairwise (m := fun state : Managed => state.graph.version.sequence)
    (fun entry _ => ?_) fun entry _ committed => ?_
  · rw [transactionStep_version]
    exact Nat.le_add_right _ _
  · rw [transactionStep_version, if_pos committed]
    exact Nat.lt_succ_self _

/-- **Histories of transactions.** From a sound graph, every history ends in a sound graph; its
version counts the commits; retired identifiers stay retired; what a committed transaction removed
is retired and never live again; no two commits are based on the same version. -/
theorem history_sound (start : Managed) (sound : start.graph.Sound)
    (calls : List TransactionCall) :
    let final := Logic.run (transactionStep env) start calls
    final.graph.Sound ∧
    final.graph.version =
      start.graph.version.advance (committedCalls env start calls).length ∧
    (∀ before after, calls = before ++ after → ∀ uid,
      (Logic.run (transactionStep env) start before).graph.IsRetired uid →
        final.graph.IsRetired uid) ∧
    (∀ entry ∈ committedCalls env start calls, ∀ operation ∈ entry.2.operations, ∀ unitId,
      operation.mutation = some (.removeUnit unitId) →
        final.graph.IsRetired unitId.value ∧ unitId.value ∉ final.graph.units) ∧
    ((committedCalls env start calls).map fun entry =>
      entry.2.base.getD entry.1.graph.version).Nodup := by
  intro final
  have finalSound : final.graph.Sound :=
    Logic.run_invariant (P := fun state : Managed => state.graph.Sound) (transactionStep_sound env)
      sound calls
  refine ⟨finalSound, history_version env start calls, ?_, ?_, ?_⟩
  · intro before after split uid retired
    have last : final = Logic.run (transactionStep env)
        (Logic.run (transactionStep env) start before) after := by
      rw [← Logic.run_append, ← split]
    rw [last]
    have kept : ∀ (state : Managed) (call : TransactionCall), state.graph.IsRetired uid →
        (transactionStep env state call).graph.IsRetired uid :=
      fun state call old => transactionStep_retired env state call old
    exact Logic.run_invariant (P := fun state : Managed => state.graph.IsRetired uid) kept
      retired after
  · intro entry member operation inCall unitId removal
    obtain ⟨inTrace, committed⟩ := List.mem_filter.mp member
    have retired : final.graph.IsRetired unitId.value :=
      Logic.run_remembers (P := fun _ => True)
        (Q := fun state : Managed => state.graph.IsRetired unitId.value) inTrace trivial
        (fun _ _ _ => trivial)
        (fun _ => committed_retires env (of_decide_eq_true committed) inCall removal)
        (fun state call _ old => transactionStep_retired env state call old)
    exact ⟨retired, finalSound.apart _ retired⟩
  · rw [List.Nodup, List.pairwise_map]
    refine (committedCalls_pairwise env start calls).imp_of_mem fun {first second} inFirst inSecond
      below same => ?_
    have firstBase := committed_base env (of_decide_eq_true (List.mem_filter.mp inFirst).2)
    have secondBase := committed_base env (of_decide_eq_true (List.mem_filter.mp inSecond).2)
    rw [firstBase, secondBase] at same
    rw [same] at below
    exact lt_irrefl _ below

end Transaction

theorem Sample.graph_sound : Sample.graph.Sound where
  valid := ⟨⟨true, [], []⟩, rfl, rfl⟩
  keys uid unit found := by
    rcases List.mem_cons.mp (Dict.mem_entries.mpr found) with first | rest
    · cases first
      rfl
    · rcases List.mem_cons.mp rest with second | none
      · cases second
        rfl
      · exact absurd none List.not_mem_nil
  apart uid isRetired := by
    obtain ⟨retired, read, member⟩ := isRetired
    obtain rfl : PySet.empty = retired := Except.ok.inj read
    exact absurd member (by simp [PySet.contains, PySet.empty])

/-- A unit that a transaction removed cannot come back: the second call fails. -/
theorem history_sound_remove :
    let calls : List TransactionCall := [
      { txId := ⟨"tx_1", by decide⟩, operations := [Sample.remove Sample.unitA] },
      { txId := ⟨"tx_2", by decide⟩, operations := [Sample.add Sample.unitA] }]
    let final := Logic.run (transactionStep Sample.env) ⟨Sample.graph, none⟩ calls
    final.graph.Sound ∧ (committedCalls Sample.env ⟨Sample.graph, none⟩ calls).length = 1 ∧
      final.graph.IsRetired "unit_a" := by
  intro calls final
  have history := history_sound Sample.env ⟨Sample.graph, none⟩ Sample.graph_sound calls
  have committed : CommittedCall Sample.env (⟨Sample.graph, none⟩, calls.head (by simp [calls])) := by
    decide
  have entry : (⟨Sample.graph, none⟩, calls.head (by simp [calls])) ∈
      committedCalls Sample.env ⟨Sample.graph, none⟩ calls :=
    List.mem_filter.mpr ⟨List.mem_cons_self, decide_eq_true committed⟩
  refine ⟨history.1, by decide, ?_⟩
  exact (history.2.2.2.1 _ entry (Sample.remove Sample.unitA) List.mem_cons_self Sample.unitA rfl).1

end Dnc
