/-
**What a rollback restores.**

A checkpoint holds `to_dict` of the state, the checkpoint record before it included, so that a
rollback closes the checkpoint it goes back to and the record is a stack. `savedAt` reads the
snapshot under a number of later checkpoints. Calls whose checkpoints and rollbacks are nested leave
the first checkpoint on top (`savedAt_of_nested`), and a rollback then restores the state that was
saved (`rollback_of_savedAt`), but for the remaining budget: `to_dict` leaves it out, and `from_dict`
reads 1.0 in its place.

`restoresExactly_iff` is the resulting condition.
-/

import Dnc.Logic.Nesting
import Dnc.Runtime.Replan

namespace Dnc.Runtime

open PyLib Logic

namespace Session

variable {R α π ω : Type} [PyFloat R] {interpreter : Interpreter α}

/-! ### The statement -/

/-- The session in which the PRE_REPLAN checkpoint of the execution state has just been taken, on
its own or in a replan that went on to its end or to an exception. -/
inductive TakesCheckpoint (interpreter : Interpreter α) (session : Session R α π ω) :
    Session R α π ω → Prop
  | alone : TakesCheckpoint interpreter session session.takeCheckpoint.2
  | replan (allowed : session.replanAllowed = true) :
      TakesCheckpoint interpreter session (executeReplan interpreter session).2

/-- What a decision does to the checkpoint record. -/
def decisionBracket (session : Session R α π ω) : Decision → Bracket
  | .replan => if session.replanAllowed then .opens else .neither
  | .rollback => .closes
  | _ => .neither

/-- What a call does to the checkpoint record. -/
def callBracket : Session R α π ω × SessionCall R → Bracket
  | (session, .step timestamp) =>
    match (session.decide (session.observe timestamp)).1 with
    | .ok decision => session.decisionBracket decision
    | .error _ => .neither
  | (session, .act decision) => session.decisionBracket decision
  | (_, .registerModule _) | (_, .resume) => .neither

/-- Every rollback of the calls goes back to a checkpoint of the calls, and no other checkpoint of
theirs is left. -/
def Nested (interpreter : Interpreter α) (start : Session R α π ω)
    (calls : List (SessionCall R)) : Prop :=
  nesting 0 ((trace (sessionStep interpreter) start calls).map callBracket) = some 0

/-- A rollback leaves the state that was saved. -/
def RestoresExactly (saved : ExecutionState R α) (session : Session R α π ω) : Prop :=
  SameButRecord saved session.rollbackToCheckpoint.2.es

/-- A snapshot of the state with its remaining budget, whatever its checkpoint record. -/
structure SnapshotOf (saved : ExecutionState R α) (snapshot : Snapshot R α (List (Checkpoint R α))) :
    Prop where
  components : { snapshot with C := saved.C, budgetRemaining := none } = saved.toDict
  budgetRemaining : snapshot.budgetRemaining.getD 1.0 = saved.budgetRemaining

/-- The latest checkpoint is one of the saved state; or there is none, and the state is the saved
one. -/
def LatestIs (saved live : ExecutionState R α) : Prop :=
  match latestCheckpoint live.C with
  | some checkpoint => SnapshotOf saved checkpoint.esSnapshot
  | none => SameButRecord saved live

/-! ### The record as a stack -/

/-- The snapshot under so many later checkpoints. -/
def savedAt : Nat → List (Checkpoint R α) → Option (Snapshot R α (List (Checkpoint R α)))
  | 0, record => (latestCheckpoint record).map Checkpoint.esSnapshot
  | depth + 1, record =>
    (latestCheckpoint record).bind fun checkpoint => savedAt depth checkpoint.esSnapshot.C

/-- How a record changes. -/
def RecordMoves (before after : List (Checkpoint R α)) : Bracket → Prop
  | .opens => ∃ checkpoint, latestCheckpoint after = some checkpoint ∧
      checkpoint.esSnapshot.C = before
  | .closes => ∀ checkpoint, latestCheckpoint before = some checkpoint →
      after = checkpoint.esSnapshot.C
  | .neither => after = before

omit [PyFloat R] in
theorem savedAt_opens {before after : List (Checkpoint R α)} (moved : RecordMoves before after .opens)
    (depth : Nat) : savedAt (depth + 1) after = savedAt depth before := by
  obtain ⟨checkpoint, latest, below⟩ := moved
  rw [savedAt, latest, Option.bind_some, below]

omit [PyFloat R] in
theorem savedAt_closes {before after : List (Checkpoint R α)}
    (moved : RecordMoves before after .closes) {depth : Nat}
    {snapshot : Snapshot R α (List (Checkpoint R α))}
    (saved : savedAt (depth + 1) before = some snapshot) : savedAt depth after = some snapshot := by
  obtain ⟨checkpoint, latest, below⟩ := Option.bind_eq_some_iff.mp saved
  rw [moved checkpoint latest]
  exact below

/-! ### What a call does to the record -/

omit [PyFloat R] in
theorem checkpointed_moves (session : Session R α π ω) :
    RecordMoves session.es.C session.checkpointed.es.C .opens := by
  obtain ⟨record, checkpoint, taken, latest, snapshot⟩ := session.checkpointed_eq
  refine ⟨checkpoint, ?_, ?_⟩
  · rw [taken]
    exact latest
  · rw [snapshot]
    rfl

/-- Whatever becomes of a replan, its checkpoint stays. -/
theorem executeReplan_record {session : Session R α π ω} (allowed : session.replanAllowed = true) :
    (executeReplan interpreter session).2.es.C = session.checkpointed.es.C := by
  apply executeReplan_rule interpreter (P := fun next => next.es.C = session.checkpointed.es.C)
  · intro blocked
    rw [allowed] at blocked
    cases blocked
  · exact fun _ => rfl
  · exact fun _ gOld gNew _ => (installGraph_keeps interpreter session.checkpointed gOld gNew).C

variable (interpreter) in
theorem act_moves (session : Session R α π ω) (decision : Decision) :
    RecordMoves session.es.C (act interpreter session decision).2.es.C
      (session.decisionBracket decision) := by
  cases decision with
  | terminate => rfl
  | idle => rfl
  | pause => rfl
  | replan =>
    unfold act decisionBracket
    by_cases allowed : session.replanAllowed = true
    · rw [if_pos allowed, executeReplan_record allowed]
      exact session.checkpointed_moves
    · rw [if_neg allowed, executeReplan_blocked interpreter (Bool.eq_false_of_not_eq_true allowed)]
      rfl
  | rollback =>
    intro checkpoint latest
    show session.rollbackToCheckpoint.2.es.C = _
    rw [session.rollbackToCheckpoint_eq, latest]
    rfl
  | proceed =>
    show (act interpreter session .proceed).2.es.C = session.es.C
    exact (act_proceed_keeps interpreter session).C

omit [PyFloat R] in
/-- The end of an iteration leaves the execution state alone. -/
theorem settle_es (session : Session R α π ω) (decision : Decision) :
    (session.settle decision).es = session.es := by
  cases decision <;> rfl

omit [PyFloat R] in
/-- A decision leaves alone what the guards of a replan read. -/
theorem SameButPolicy.replanAllowed {session next : Session R α π ω}
    (kept : SameButPolicy session next) : next.replanAllowed = session.replanAllowed := by
  unfold Session.replanAllowed
  rw [kept.runtime, kept.es]

omit [PyFloat R] in
theorem SameButPolicy.decisionBracket {session next : Session R α π ω}
    (kept : SameButPolicy session next) (decision : Decision) :
    next.decisionBracket decision = session.decisionBracket decision := by
  cases decision with
  | replan =>
    unfold Session.decisionBracket
    rw [kept.replanAllowed]
  | _ => rfl

variable (interpreter) in
/-- **What a call does to the record.** -/
theorem sessionStep_moves (session : Session R α π ω) (call : SessionCall R) :
    RecordMoves session.es.C (sessionStep interpreter session call).es.C
      (callBracket (session, call)) := by
  cases call with
  | act decision => exact act_moves interpreter session decision
  | registerModule contract =>
    unfold sessionStep registerModule
    dsimp only
    split <;> rfl
  | resume =>
    unfold sessionStep resume
    dsimp only
    split_ifs <;> rfl
  | step timestamp =>
    have kept := session.decide_keeps (session.observe timestamp)
    have record : (session.decide (session.observe timestamp)).2.es.C = session.es.C :=
      congrArg ExecutionState.C kept.es
    apply step_rule interpreter (P := fun next => RecordMoves session.es.C next.es.C
      (callBracket (session, .step timestamp)))
    · intro raised decided
      unfold callBracket
      dsimp only
      rw [decided]
      exact record
    · intro decision decided
      have moved := act_moves interpreter (session.decide (session.observe timestamp)).2 decision
      rw [kept.decisionBracket, record] at moved
      unfold callBracket
      dsimp only
      rw [decided]
      exact moved
    · intro next decision moved
      rw [settle_es]
      exact moved

/-! ### Rollback -/

/-- The checkpoint is on top when it has been taken. -/
theorem TakesCheckpoint.savedAt {session start : Session R α π ω}
    (taken : TakesCheckpoint interpreter session start) :
    savedAt 0 start.es.C = some session.es.toDict := by
  cases taken with
  | alone =>
    obtain ⟨record, checkpoint, taken, latest, snapshot⟩ := session.takeCheckpoint_eq
    rw [taken, Session.savedAt, latest, Option.map_some, snapshot]
  | replan allowed =>
    obtain ⟨record, checkpoint, taken, latest, snapshot⟩ := session.checkpointed_eq
    rw [executeReplan_record allowed, taken, Session.savedAt, latest, Option.map_some, snapshot]

/-- **Nested calls leave the checkpoint on top.** -/
theorem savedAt_of_nested {start : Session R α π ω} {calls : List (SessionCall R)}
    (nested : Nested interpreter start calls) {snapshot : Snapshot R α (List (Checkpoint R α))}
    (saved : savedAt 0 start.es.C = some snapshot) :
    savedAt 0 (run (sessionStep interpreter) start calls).es.C = some snapshot := by
  refine run_nesting (P := fun depth session => savedAt depth session.es.C = some snapshot)
    ?_ ?_ ?_ saved nested
  · intro depth session call opens before
    have moved := sessionStep_moves interpreter session call
    rw [opens] at moved
    exact (savedAt_opens moved depth).trans before
  · intro depth session call closes before
    have moved := sessionStep_moves interpreter session call
    rw [closes] at moved
    exact savedAt_closes moved before
  · intro depth session call neither before
    have moved := sessionStep_moves interpreter session call
    rw [neither] at moved
    have same : (sessionStep interpreter session call).es.C = session.es.C := moved
    rw [same]
    exact before

/-- A rollback restores the state on top, with a remaining budget of 1.0. -/
theorem rollback_of_savedAt {session : Session R α π ω} {saved : ExecutionState R α}
    (top : savedAt 0 session.es.C = some saved.toDict) :
    session.rollbackToCheckpoint.2.es = { saved with budgetRemaining := 1.0 } := by
  obtain ⟨checkpoint, latest, snapshot⟩ := Option.map_eq_some_iff.mp top
  rw [session.rollbackToCheckpoint_eq, latest]
  show ExecutionState.fromDict checkpoint.esSnapshot = _
  rw [snapshot]
  rfl

/-- The restored state is the saved one when the snapshot is one of it. -/
theorem sameButRecord_fromDict_iff {saved : ExecutionState R α}
    {snapshot : Snapshot R α (List (Checkpoint R α))} :
    SameButRecord saved (.fromDict snapshot) ↔ SnapshotOf saved snapshot := by
  obtain ⟨stepIndex, executionId, rngState, W, M, C, H, G, budget⟩ := saved
  constructor
  · intro same
    obtain ⟨rfl, rfl, rfl, rfl, rfl, -, rfl, rfl, rfl⟩ := ExecutionState.mk.inj same
    exact ⟨rfl, rfl⟩
  · rintro ⟨components, rfl⟩
    obtain ⟨rfl, rfl, -, rfl, rfl, rfl, rfl, rfl, -⟩ := Snapshot.mk.inj components
    rfl

theorem restoresExactly_iff_latestIs {saved : ExecutionState R α} {session : Session R α π ω} :
    RestoresExactly saved session ↔ LatestIs saved session.es := by
  unfold RestoresExactly LatestIs
  rw [session.rollbackToCheckpoint_eq]
  cases latestCheckpoint session.es.C with
  | none => exact Iff.rfl
  | some checkpoint => exact sameButRecord_fromDict_iff

/-- **When a rollback restores the state of a checkpoint**: with nested calls in between, when its
remaining budget was 1.0; with any calls, when the latest checkpoint is one of that state. -/
theorem restoresExactly_iff (interpreter : Interpreter α) (session start : Session R α π ω)
    (taken : TakesCheckpoint interpreter session start) (calls : List (SessionCall R)) :
    let later := run (sessionStep interpreter) start calls
    (Nested interpreter start calls →
        (RestoresExactly session.es later ↔ session.es.budgetRemaining = 1.0)) ∧
      (RestoresExactly session.es later ↔ LatestIs session.es later.es) := by
  intro later
  refine ⟨fun nested => ?_, restoresExactly_iff_latestIs⟩
  unfold RestoresExactly SameButRecord
  rw [rollback_of_savedAt (savedAt_of_nested nested taken.savedAt)]
  constructor
  · intro same
    exact (congrArg ExecutionState.budgetRemaining same).symm
  · intro funded
    rw [← funded]

end Session

/-! ### A budget that is not restored -/

/-- `Runtime()` starts with a budget of 100.0, which the rollback replaces by 1.0. -/
theorem budget_not_restored :
    ¬ Session.RestoresExactly (Sample.fresh.initiate Sample.interpreter "task" 0 "execution").2.es
      (Sample.fresh.initiate Sample.interpreter "task" 0 "execution").2.takeCheckpoint.2 := by
  intro restored
  have budget := congrArg ExecutionState.budgetRemaining restored
  revert budget
  decide +kernel

/-- `Runtime(initial_budget=1.0)` with one module. -/
def Sample.funded : Session ℚ Unit (RulePolicy ℚ) Unit :=
  ({ Sample.fresh with runtime.costBudget := ⟨1, 0⟩ }.initiate Sample.interpreter "task" 0
    "execution").2

/-- A state with a remaining budget of 1.0 comes back, after a step and a replan that is rolled
back. -/
theorem budget_of_one_restored :
    Sample.funded.es.budgetRemaining = 1 ∧
      Session.RestoresExactly Sample.funded.es (run (sessionStep Sample.interpreter)
        Sample.funded.takeCheckpoint.2 [.step 0, .act .replan, .act .rollback]) := by
  have funded : Sample.funded.es.budgetRemaining = 1 := by decide +kernel
  have nested : Session.Nested Sample.interpreter Sample.funded.takeCheckpoint.2
      [.step 0, .act .replan, .act .rollback] := by
    unfold Session.Nested
    decide +kernel
  have restores := Session.restoresExactly_iff Sample.interpreter Sample.funded _ .alone
    [.step 0, .act .replan, .act .rollback]
  refine ⟨funded, (restores.1 nested).mpr ?_⟩
  rw [funded]
  decide +kernel

end Dnc.Runtime
