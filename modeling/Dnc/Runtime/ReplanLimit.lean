/-
**How often a run replans.**

`decide` asks the cost forecaster before it looks at the number of replans: where the forecaster
warns, the decision is REPLAN however many there were (`decide_at_limit`). `_execute_replan` then
does nothing, so the number of replans that are carried out is bounded, but the number of decisions
is not, and the run does not end.

`ExecutionState.Every` carries the scheduler through rollbacks: a session that decides has one, and
every decision to replan below the limit counts (`counting_loopStep`). `bounded_iff` is the exact
condition under which a run stays within the limit.
-/

import Dnc.Runtime.Lineage

namespace Dnc.Runtime

open PyLib Logic

section Costs

variable {R : Type} [PyFloat R]

/-- `CostForecaster.record_step`. -/
def CostForecaster.recordStep (forecaster : CostForecaster R) (cost : R) : CostForecaster R :=
  let stepCosts := forecaster.stepCosts ++ [cost]
  { forecaster with stepCosts := if stepCosts.length > 100 then stepCosts.tail else stepCosts }

/-- `CostForecaster.set_replan_threshold`. -/
def CostForecaster.setReplanThreshold (forecaster : CostForecaster R) (fraction : R) :
    CostForecaster R :=
  { forecaster with replanThreshold := fraction }

/-- `CostBudget.charge`, on the budget of the execution. -/
def CostBudget.charge (budget : CostBudget R) (cost : R) : CostBudget R :=
  { budget with consumed := budget.consumed + cost }

end Costs

/-- What happens to a session along a run of `Runtime.step`: between the steps costs are recorded
and charged, the threshold is set, modules are registered, and a paused run is resumed. -/
inductive LoopCall (R : Type) where
  | step (timestamp : R)
  | recordStep (cost : R)
  | charge (cost : R)
  | setReplanThreshold (fraction : R)
  | registerModule (contract : ModuleContract R)
  | resume

namespace Session

variable {R α π ω : Type} [PyFloat R]

/-- The session after a call, whether it returns or raises. -/
def loopStep (interpreter : Interpreter α) (session : Session R α π ω) :
    LoopCall R → Session R α π ω
  | .step timestamp => (session.step interpreter timestamp).2
  | .recordStep cost =>
    { session with runtime.costForecaster := session.runtime.costForecaster.recordStep cost }
  | .charge cost => { session with runtime.costBudget := session.runtime.costBudget.charge cost }
  | .setReplanThreshold fraction =>
    { session with
      runtime.costForecaster := session.runtime.costForecaster.setReplanThreshold fraction }
  | .registerModule contract => (session.registerModule contract).2
  | .resume => session.resume

/-- What the next step decides. -/
def decision (session : Session R α π ω) (timestamp : R) : Except Raised Decision :=
  (session.decide (session.observe timestamp)).1

/-- The call is a step that decides to replan. -/
def Replans (entry : Session R α π ω × LoopCall R) : Prop :=
  ∃ timestamp, entry.2 = .step timestamp ∧ entry.1.decision timestamp = .ok .replan

instance : DecidablePred (Replans (R := R) (α := α) (π := π) (ω := ω)) := fun entry =>
  match called : entry.2 with
  | .step timestamp => decidable_of_iff (entry.1.decision timestamp = .ok .replan) (by
      constructor
      · exact fun replans => ⟨timestamp, called, replans⟩
      · rintro ⟨other, same, replans⟩
        cases called.symm.trans same
        exact replans)
  | .recordStep _ | .charge _ | .setReplanThreshold _ | .registerModule _ | .resume =>
    isFalse fun ⟨_, same, _⟩ => nomatch called.symm.trans same

/-- The limit has been reached. -/
def AtLimit (session : Session R α π ω) : Prop :=
  session.runtime.config.maxReplansPerExecution ≤ session.runtime.replanCount

instance (session : Session R α π ω) : Decidable session.AtLimit :=
  inferInstanceAs (Decidable (_ ≤ _))

/-- How many steps of a run decide to replan. -/
def replans (interpreter : Interpreter α) (start : Session R α π ω) (calls : List (LoopCall R)) :
    Nat := (trace (loopStep interpreter) start calls).countP fun entry => Replans entry

/-- **Bounded replanning**: no more steps of a run decide to replan than the configuration allows,
and after so many the next step decides to terminate. -/
structure Bounded (interpreter : Interpreter α) (start : Session R α π ω)
    (calls : List (LoopCall R)) : Prop where
  limit : replans interpreter start calls ≤ start.runtime.config.maxReplansPerExecution
  terminates : ∀ before timestamp after, calls = before ++ .step timestamp :: after →
    start.runtime.config.maxReplansPerExecution ≤ replans interpreter start before →
      (run (loopStep interpreter) start before).decision timestamp = .ok .terminate

/-- A step in a running session at its limit, while the forecaster warns of exhaustion. -/
def WarnedAtLimit (entry : Session R α π ω × LoopCall R) : Prop :=
  (∃ timestamp, entry.2 = .step timestamp) ∧ entry.1.runtime.state = .running ∧ entry.1.AtLimit ∧
    entry.1.runtime.costForecaster.shouldTriggerReplan entry.1.runtime.costBudget = true

/-! ### Decisions -/

/-- **At the limit** the forecaster still has its way. -/
theorem decide_at_limit {session : Session R α π ω} (atLimit : session.AtLimit) (timestamp : R) :
    session.decision timestamp =
      if session.runtime.state = .running ∧
        session.runtime.costForecaster.shouldTriggerReplan session.runtime.costBudget = true then
        .ok .replan
      else .ok .terminate := by
  unfold AtLimit at atLimit
  unfold decision decide
  by_cases running : session.runtime.state = .running
  · rw [if_neg (not_not.mpr running)]
    dsimp only
    by_cases warned :
        session.runtime.costForecaster.shouldTriggerReplan session.runtime.costBudget = true
    · rw [if_pos warned, if_pos ⟨running, warned⟩]
    · rw [if_neg warned, if_pos atLimit, if_neg fun both => warned both.2]
  · rw [if_pos running, if_neg fun both => running both.1]

/-! ### What is counted -/

variable {interpreter : Interpreter α} {session start : Session R α π ω}

variable (interpreter) in
omit [PyFloat R] in
theorem installGraph_replanCount (session : Session R α π ω) (gOld gNew : ExecutionGraph R) :
    (installGraph interpreter session gOld gNew).2.runtime.replanCount = session.runtime.replanCount ∧
      (installGraph interpreter session gOld gNew).2.runtime.config = session.runtime.config ∧
      (installGraph interpreter session gOld gNew).2.runtime.criticalSection =
        session.runtime.criticalSection := by
  unfold installGraph
  dsimp only
  split
  · exact ⟨rfl, rfl, rfl⟩
  · split <;> exact ⟨rfl, rfl, rfl⟩

/-- A counter, and the settings around it. -/
structure Counts (session next : Session R α π ω) (more : Nat) : Prop where
  replanCount : next.runtime.replanCount = session.runtime.replanCount + more
  config : next.runtime.config = session.runtime.config
  criticalSection : next.runtime.criticalSection = session.runtime.criticalSection

theorem counts_decide (session : Session R α π ω) (observation : Observation R) :
    Counts session (session.decide observation).2 0 := by
  have kept := session.decide_keeps observation
  constructor
  · rw [kept.runtime]
    rfl
  · rw [kept.runtime]
  · rw [kept.runtime]

variable (interpreter) in
theorem counts_act (session : Session R α π ω) {decision : Decision} (other : decision ≠ .replan) :
    Counts session (act interpreter session decision).2 0 := by
  cases decision with
  | terminate => exact ⟨rfl, rfl, rfl⟩
  | idle => exact ⟨rfl, rfl, rfl⟩
  | pause => exact ⟨rfl, rfl, rfl⟩
  | replan => exact absurd rfl other
  | proceed =>
    have kept := (act_proceed_keeps interpreter session).runtime
    exact ⟨congrArg Runtime.replanCount kept, congrArg Runtime.config kept,
      congrArg Runtime.criticalSection kept⟩
  | rollback =>
    show Counts session session.rollbackToCheckpoint.2 0
    rw [session.rollbackToCheckpoint_eq]
    exact ⟨rfl, rfl, rfl⟩

omit [PyFloat R] in
theorem counts_checkpointed (session : Session R α π ω) : Counts session session.checkpointed 1 := by
  obtain ⟨record, checkpoint, taken, -, -⟩ := session.checkpointed_eq
  rw [taken]
  exact ⟨rfl, rfl, rfl⟩

variable (interpreter) in
/-- A replan counts, whatever becomes of it, unless a guard stops it. -/
theorem counts_executeReplan (session : Session R α π ω) :
    Counts session (executeReplan interpreter session).2 session.replanAllowed.toNat := by
  apply executeReplan_rule interpreter
    (P := fun next => Counts session next session.replanAllowed.toNat)
  · intro blocked
    rw [blocked]
    exact ⟨rfl, rfl, rfl⟩
  · intro allowed
    rw [allowed]
    exact session.counts_checkpointed
  · intro allowed gOld gNew _
    rw [allowed]
    have counted := session.counts_checkpointed
    obtain ⟨count, config, critical⟩ :=
      installGraph_replanCount interpreter session.checkpointed gOld gNew
    exact ⟨count.trans counted.replanCount, config.trans counted.config,
      critical.trans counted.criticalSection⟩

/-- **A session that counts its replans**: outside critical sections, not beyond its limit, and with
a scheduler in the state and its checkpoints as long as it can decide to replan. -/
structure Counting (session : Session R α π ω) : Prop where
  uncritical : session.runtime.criticalSection = false
  within : session.runtime.replanCount ≤ session.runtime.config.maxReplansPerExecution
  scheduled : session.runtime.state ∈ [RuntimeState.running, .idle] →
    session.es.Every fun _ G => G.isSome = true

omit [PyFloat R] in
/-- The guards let a replan through below the limit. -/
theorem Counting.replanAllowed_iff (counting : session.Counting)
    (running : session.runtime.state = .running) :
    session.replanAllowed = true ↔ ¬ session.AtLimit := by
  have scheduled := (counting.scheduled (by rw [running]; exact List.mem_cons_self)).here
  unfold replanAllowed AtLimit
  rw [counting.uncritical, scheduled]
  simp

/-! ### One call -/

omit [PyFloat R] in
theorem Counts.trans {second third : Session R α π ω} {more : Nat} (first : Counts session second 0)
    (later : Counts second third more) : Counts session third more where
  replanCount := later.replanCount.trans (congrArg (· + more) first.replanCount)
  config := later.config.trans first.config
  criticalSection := later.criticalSection.trans first.criticalSection

omit [PyFloat R] in
/-- At most one more, and only below the limit. -/
theorem Counts.within {next : Session R α π ω} {more : Nat} (counts : Counts session next more)
    (counting : session.Counting) (below : session.AtLimit → more = 0) (one : more ≤ 1) :
    (next.runtime.replanCount : Int) ≤ next.runtime.config.maxReplansPerExecution := by
  have within := counting.within
  unfold AtLimit at below
  rw [counts.config, counts.replanCount]
  by_cases atLimit :
      session.runtime.config.maxReplansPerExecution ≤ session.runtime.replanCount
  · rw [below atLimit]
    exact within
  · omega

/-- A session that does not run decides to terminate, and nothing else. -/
theorem step_stopped (stopped : session.runtime.state ≠ .running) (timestamp : R) :
    session.decision timestamp = .ok .terminate ∧
      (session.step interpreter timestamp).2 =
        { session with runtime.state := .terminated } := by
  have decided : session.decide (session.observe timestamp) = (.ok .terminate, session) := by
    unfold decide
    rw [if_pos stopped]
  refine ⟨congrArg Prod.fst decided, ?_⟩
  unfold step
  rw [decided]
  rfl

omit [PyFloat R] in
theorem installGraph_scheduled (scheduled : session.es.G.isSome = true)
    (gOld gNew : ExecutionGraph R) :
    (installGraph interpreter session gOld gNew).2.es.G.isSome = true := by
  unfold installGraph
  dsimp only
  split
  · exact scheduled
  · split <;> rfl

variable (interpreter) in
theorem act_scheduled (every : session.es.Every fun _ G => G.isSome = true) (decision : Decision) :
    (act interpreter session decision).2.es.Every fun _ G => G.isSome = true := by
  refine act_every interpreter every ?_ (fun gOld gNew _ _ => ?_) decision
  · rw [(act_proceed_keeps interpreter session).G]
    exact every.here
  · exact installGraph_scheduled (checkpointed_every every).here gOld gNew

/-- What a step adds to the count. -/
def added (session : Session R α π ω) (timestamp : R) : Nat :=
  if session.decision timestamp = .ok .replan ∧ ¬ session.AtLimit then 1 else 0

/-- The decision alone leaves the counting as it is. -/
theorem Counting.decide (counting : session.Counting) (running : session.runtime.state = .running)
    (timestamp : R) : (session.decide (session.observe timestamp)).2.Counting := by
  have kept := session.decide_keeps (session.observe timestamp)
  have counts := session.counts_decide (session.observe timestamp)
  refine ⟨counts.criticalSection.trans counting.uncritical,
    counts.within counting (fun _ => rfl) (Nat.zero_le 1), fun _ => ?_⟩
  rw [kept.es]
  exact counting.scheduled (by rw [running]; exact List.mem_cons_self)

/-- Behind a decision to replan, the guards let through what the step is to count. -/
theorem replanAllowed_decided (counting : session.Counting)
    (running : session.runtime.state = .running) {timestamp : R}
    (decided : session.decision timestamp = .ok .replan) :
    (session.decide (session.observe timestamp)).2.replanAllowed.toNat = session.added timestamp := by
  have counts := session.counts_decide (session.observe timestamp)
  have stillRunning : (session.decide (session.observe timestamp)).2.runtime.state = .running := by
    rw [(session.decide_keeps (session.observe timestamp)).runtime]
    exact running
  have guards := (counting.decide running timestamp).replanAllowed_iff stillRunning
  have limits : (session.decide (session.observe timestamp)).2.AtLimit ↔ session.AtLimit := by
    unfold AtLimit
    rw [counts.config, counts.replanCount]
    rfl
  rw [limits] at guards
  unfold added
  by_cases atLimit : session.AtLimit
  · rw [if_neg fun both => both.2 atLimit,
      Bool.eq_false_of_not_eq_true fun through => guards.mp through atLimit]
    rfl
  · rw [if_pos ⟨decided, atLimit⟩, guards.mpr atLimit]
    rfl

/-- **A step** counts a decision to replan below the limit, and keeps what the counting needs. -/
theorem counting_step (counting : session.Counting) (timestamp : R) :
    (session.step interpreter timestamp).2.Counting ∧
      Counts session (session.step interpreter timestamp).2 (session.added timestamp) := by
  by_cases running : session.runtime.state = .running
  · let after := (session.decide (session.observe timestamp)).2
    have counts : Counts session after 0 := session.counts_decide (session.observe timestamp)
    have every : after.es.Every fun _ G => G.isSome = true := by
      rw [(session.decide_keeps (session.observe timestamp)).es]
      exact counting.scheduled (by rw [running]; exact List.mem_cons_self)
    have below : session.AtLimit → session.added timestamp = 0 := fun atLimit =>
      if_neg fun both => both.2 atLimit
    have one : session.added timestamp ≤ 1 := by
      unfold added
      split_ifs <;> omega
    -- what is left whether the step raises or not
    have left : Counts session (session.step interpreter timestamp).2 (session.added timestamp) ∧
        (session.step interpreter timestamp).2.es.Every fun _ G => G.isSome = true := by
      apply step_rule interpreter (P := fun next =>
        Counts session next (session.added timestamp) ∧
          next.es.Every fun _ G => G.isSome = true)
      · intro raised failed
        have none : session.added timestamp = 0 := if_neg fun both => by
          cases failed.symm.trans both.1
        rw [none]
        exact ⟨counts, every⟩
      · intro decision decided
        refine ⟨?_, act_scheduled interpreter every decision⟩
        by_cases replan : decision = .replan
        · subst replan
          rw [← replanAllowed_decided counting running decided]
          exact counts.trans (counts_executeReplan interpreter after)
        · have none : session.added timestamp = 0 := if_neg fun both =>
            replan (Except.ok.inj (decided.symm.trans both.1))
          rw [none]
          exact counts.trans (counts_act interpreter after replan)
      · rintro next decision ⟨counted, every⟩
        have same : Counts session (next.settle decision) (session.added timestamp) := by
          cases decision <;>
            exact ⟨counted.replanCount, counted.config, counted.criticalSection⟩
        refine ⟨same, ?_⟩
        cases decision <;> exact every
    refine ⟨⟨left.1.criticalSection.trans counting.uncritical,
      left.1.within counting below one, fun _ => left.2⟩, left.1⟩
  · obtain ⟨decided, ends⟩ := @step_stopped R α π ω _ interpreter session running timestamp
    have none : session.added timestamp = 0 := if_neg fun both => by
      cases decided.symm.trans both.1
    rw [ends, none]
    refine ⟨⟨counting.uncritical, counting.within, fun live => ?_⟩, ⟨rfl, rfl, rfl⟩⟩
    simp at live

/-- What a call adds to the count. -/
def adds (entry : Session R α π ω × LoopCall R) : Nat :=
  if Replans entry ∧ ¬ entry.1.AtLimit then 1 else 0

theorem adds_step (session : Session R α π ω) (timestamp : R) :
    adds (session, .step timestamp) = session.added timestamp := by
  unfold adds added
  refine if_congr (and_congr_left fun _ => ⟨?_, fun replans => ⟨timestamp, rfl, replans⟩⟩) rfl rfl
  rintro ⟨other, same, replans⟩
  cases same
  exact replans

theorem adds_other {call : LoopCall R} (other : ∀ timestamp, call ≠ .step timestamp) :
    adds (session, call) = 0 :=
  if_neg fun both => by
    obtain ⟨timestamp, same, -⟩ := both.1
    exact other timestamp same

/-- **A call counts the decision to replan that it makes below the limit.** -/
theorem counting_loopStep (counting : session.Counting) (call : LoopCall R) :
    (session.loopStep interpreter call).Counting ∧
      Counts session (session.loopStep interpreter call) (adds (session, call)) := by
  cases call with
  | step timestamp =>
    rw [adds_step]
    exact counting_step counting timestamp
  | registerModule contract =>
    rw [adds_other nofun]
    unfold loopStep registerModule
    dsimp only
    split <;> exact ⟨⟨counting.uncritical, counting.within, counting.scheduled⟩, ⟨rfl, rfl, rfl⟩⟩
  | resume =>
    rw [adds_other nofun]
    unfold loopStep resume
    dsimp only
    split_ifs with paused
    · refine ⟨⟨counting.uncritical, counting.within, fun _ => counting.scheduled ?_⟩, ⟨rfl, rfl, rfl⟩⟩
      rw [paused]
      exact List.mem_cons_of_mem _ List.mem_cons_self
    · exact ⟨counting, ⟨rfl, rfl, rfl⟩⟩
  | recordStep | charge | setReplanThreshold =>
    rw [adds_other nofun]
    exact ⟨⟨counting.uncritical, counting.within, counting.scheduled⟩, ⟨rfl, rfl, rfl⟩⟩

/-! ### Runs -/

theorem replans_append (calls : List (LoopCall R)) (call : LoopCall R) :
    replans interpreter start (calls ++ [call]) = replans interpreter start calls +
      if Replans (run (loopStep interpreter) start calls, call) then 1 else 0 := by
  unfold replans
  rw [trace_append, List.countP_append, trace_cons, trace_nil, List.countP_singleton]
  simp only [decide_eq_true_eq]

/-- **What a run has counted**: no more than the decisions to replan, and all of them as long as the
forecaster has not warned at the limit. -/
theorem counted_run (counting : start.Counting) (calls : List (LoopCall R)) :
    let session := run (loopStep interpreter) start calls
    session.Counting ∧ session.runtime.config = start.runtime.config ∧
      session.runtime.replanCount ≤ start.runtime.replanCount + replans interpreter start calls ∧
        ((∀ entry ∈ trace (loopStep interpreter) start calls, ¬ WarnedAtLimit entry) →
          session.runtime.replanCount =
            start.runtime.replanCount + replans interpreter start calls) := by
  induction calls using List.reverseRecOn with
  | nil => exact ⟨counting, rfl, le_rfl, fun _ => rfl⟩
  | append_singleton calls call ih =>
    obtain ⟨counts, config, less, whole⟩ := ih
    dsimp only
    rw [run_append, run_cons, run_nil, replans_append, trace_append, trace_cons, trace_nil]
    generalize run (loopStep interpreter) start calls = session at counts config less whole ⊢
    obtain ⟨next, moved⟩ := @counting_loopStep R α π ω _ interpreter session counts call
    refine ⟨next, moved.config.trans config, ?_, fun silent => ?_⟩
    · rw [moved.replanCount]
      unfold adds
      split_ifs with first second
      · omega
      · exact absurd first.1 second
      · omega
      · omega
    · have before := whole fun entry member => silent entry (List.mem_append_left _ member)
      have here : ¬ WarnedAtLimit (session, call) := silent _ (by simp)
      have all : (if Replans (session, call) then 1 else 0) = adds (session, call) := by
        refine if_congr ?_ rfl rfl
        refine (and_iff_left_of_imp ?_).symm
        rintro ⟨timestamp, same, replan⟩ atLimit
        rw [decide_at_limit atLimit] at replan
        split_ifs at replan with warned
        · exact here ⟨⟨timestamp, same⟩, warned.1, atLimit, warned.2⟩
        · cases replan
      rw [moved.replanCount, before, all, Nat.add_assoc]

/-- **When replanning is bounded**, from a session that has counted nothing yet. -/
theorem bounded_iff_of_counting (counting : start.Counting) (none : start.runtime.replanCount = 0)
    (calls : List (LoopCall R)) :
    Bounded interpreter start calls ↔
      ∀ entry ∈ trace (loopStep interpreter) start calls, ¬ WarnedAtLimit entry := by
  constructor
  · rintro bounded entry member ⟨⟨timestamp, called⟩, running, atLimit, warned⟩
    obtain ⟨before, after, split, state⟩ := mem_trace _ member
    obtain ⟨-, config, less, -⟩ := @counted_run R α π ω _ interpreter start counting before
    rw [called] at split
    rw [← state] at config less
    have reached : start.runtime.config.maxReplansPerExecution ≤ replans interpreter start before := by
      unfold AtLimit at atLimit
      rw [config] at atLimit
      rw [none, Nat.zero_add] at less
      omega
    have ends := bounded.terminates before timestamp after split reached
    rw [← state, decide_at_limit atLimit, if_pos ⟨running, warned⟩] at ends
    cases ends
  · intro silent
    constructor
    · obtain ⟨counts, config, -, all⟩ := @counted_run R α π ω _ interpreter start counting calls
      have within := counts.within
      rw [all silent, none, Nat.zero_add, config] at within
      exact within
    · rintro before timestamp after rfl reached
      have earlier : ∀ entry ∈ trace (loopStep interpreter) start before, ¬ WarnedAtLimit entry :=
        fun entry member => silent entry (by
          rw [trace_append]
          exact List.mem_append_left _ member)
      obtain ⟨-, config, -, all⟩ := @counted_run R α π ω _ interpreter start counting before
      have atLimit : (run (loopStep interpreter) start before).AtLimit := by
        unfold AtLimit
        rw [config, all earlier, none, Nat.zero_add]
        exact reached
      have here : ¬ WarnedAtLimit (run (loopStep interpreter) start before,
          LoopCall.step timestamp) := silent _ (by
        rw [trace_append]
        exact List.mem_append_right _ List.mem_cons_self)
      rw [decide_at_limit atLimit, if_neg]
      exact fun both => here ⟨⟨timestamp, rfl⟩, both.1, atLimit, both.2⟩

/-- A start that returns has a scheduler, unless planning has failed. -/
theorem counting_initiate {fresh : Session R α π ω} {taskDescription executionId : String}
    {seed : Int} (unused : fresh.runtime.replanCount = 0)
    (uncritical : fresh.runtime.criticalSection = false)
    (started : initiate interpreter fresh taskDescription seed executionId = (.ok (), start)) :
    start.Counting ∧ start.runtime.replanCount = 0 := by
  have positive := fresh.runtime.config.valid.1
  have within : (fresh.runtime.replanCount : Int) ≤ fresh.runtime.config.maxReplansPerExecution := by
    omega
  unfold initiate at started
  dsimp only at started
  split at started
  · cases started
  · cases started
    exact ⟨⟨uncritical, within, fun live => by simp at live⟩, unused⟩
  · split at started
    · cases started
    · split at started
      · cases started
      · split at started
        · cases started
        · cases started
          exact ⟨⟨uncritical, within, fun _ => ⟨rfl, nofun⟩⟩, unused⟩

/-- **When replanning is bounded.** In every run from a start that returns, whatever costs are
recorded and whatever the policy decides: no more steps decide to replan than
`MAX_REPLANS_PER_EXECUTION`, and after so many the next one terminates, exactly when no step of the
run finds the session running at its limit while the forecaster warns. -/
theorem bounded_iff (interpreter : Interpreter α) {fresh : Session R α π ω}
    {taskDescription executionId : String} {seed : Int} (unused : fresh.runtime.replanCount = 0)
    (uncritical : fresh.runtime.criticalSection = false)
    (started : initiate interpreter fresh taskDescription seed executionId = (.ok (), start))
    (calls : List (LoopCall R)) :
    Bounded interpreter start calls ↔
      ∀ entry ∈ trace (loopStep interpreter) start calls, ¬ WarnedAtLimit entry := by
  obtain ⟨counting, none⟩ := counting_initiate unused uncritical started
  exact bounded_iff_of_counting counting none calls

end Session

/-! ### A fourth replan -/

namespace Sample

/-- A started run of one module. -/
def started : Session ℚ Unit (RulePolicy ℚ) Unit :=
  (fresh.initiate interpreter "task" 0 "execution").2

/-- A step that costs the whole budget is recorded, and the loop goes on. -/
def costly : List (LoopCall ℚ) := .recordStep 100 :: List.replicate 4 (.step 0)

theorem initiate_fresh : fresh.initiate interpreter "task" 0 "execution" = (.ok (), started) := by
  have returned : (fresh.initiate interpreter "task" 0 "execution").1 = .ok () := by decide +kernel
  exact Prod.ext returned rfl

end Sample

/-- Without recorded costs the one module of the plan is dispatched by nobody, and the run stays
within its limit. -/
theorem bounded_without_costs :
    Session.Bounded Sample.interpreter Sample.started (List.replicate 4 (.step 0)) ↔
      ∀ entry ∈ trace (Session.loopStep Sample.interpreter) Sample.started
        (List.replicate 4 (.step 0)), ¬ Session.WarnedAtLimit entry :=
  Session.bounded_iff Sample.interpreter rfl rfl Sample.initiate_fresh _

/-- After one costly step every step decides to replan, the fourth time beyond the limit of three. -/
theorem replans_without_bound : ¬ Session.Bounded Sample.interpreter Sample.started Sample.costly := by
  intro bounded
  have four : Session.replans Sample.interpreter Sample.started Sample.costly = 4 := by
    decide +kernel
  have limit : Sample.started.runtime.config.maxReplansPerExecution = 3 := by decide +kernel
  have within := bounded.limit
  rw [four, limit] at within
  revert within
  decide

end Dnc.Runtime
