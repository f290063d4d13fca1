/-
**What an identical replay says.**

A replay is identical when no decision that it compares differs. It compares the records up to
`max_steps` and up to the first TERMINATE (`examined`), and it compares decisions only: the module
sequence that it collects is not held against the recorded invocations.

* `replayFrom_of_derives`, `replayFrom_of_not_derives`: the loop finds a deviation, or raises,
  exactly where the runtime derives another decision for an examined record.
* `replaySound_iff`: an identical replay says what it should about the whole trace exactly when
  nothing of the trace lies outside of what is compared.
-/

import Dnc.Execution.ReplayEngine
import Dnc.Runtime.Replan

namespace Dnc.Runtime

open PyLib

namespace ReplayEngine

variable {R α π ω : Type} [PyFloat R] {interpreter : Interpreter α} {env : ReplayEnv R}
  {config : ReplayConfig}

/-! ### The statement -/

/-- What the runtime decides for a record, and what it dispatches then. -/
def derive (interpreter : Interpreter α) (env : ReplayEnv R) (config : ReplayConfig) (index : Nat)
    (session : Session R α π ω) (record : ExecutionRecord α) :
    Except Raised (Decision × List ModuleInstanceID) × Session R α π ω :=
  match session.decide (observationOf env config index record) with
  | (.error raised, session) => (.error raised, session)
  | (.ok fresh, session) =>
    match session.act interpreter fresh with
    | (.error raised, session) => (.error raised, session)
    | (.ok dispatched, session) =>
      (.ok (fresh, dispatched),
        if fresh = .terminate then { session with runtime.state := .terminated } else session)

/-- The runtime derives the recorded decisions, and dispatches that pass the check. -/
def Derives (interpreter : Interpreter α) (env : ReplayEnv R) (config : ReplayConfig)
    (check : ExecutionRecord α → List ModuleInstanceID → Prop) :
    Nat → Session R α π ω → List (ExecutionRecord α) → Prop
  | _, _, [] => True
  | index, session, record :: rest => ∃ fresh dispatched next,
      derive interpreter env config index session record = (.ok (fresh, dispatched), next) ∧
        fresh.name = record.decision ∧ check record dispatched ∧
          Derives interpreter env config check (index + 1) next rest

/-- The check of decisions only. -/
def anyDispatch (_ : ExecutionRecord α) (_ : List ModuleInstanceID) : Prop := True

/-- What is dispatched are the recorded invocations, in their order. -/
def InvokesAs (uuidText : Uuid → String) (record : ExecutionRecord α)
    (dispatched : List ModuleInstanceID) : Prop :=
  record.moduleInvocations.map (fun invocation =>
      (invocation.moduleInstanceId, invocation.moduleType)) =
    dispatched.map fun node => (uuidText node.uuid, node.typeId)

/-- The records up to the first that decides TERMINATE. -/
def upToTermination : List (ExecutionRecord α) → List (ExecutionRecord α)
  | [] => []
  | record :: rest =>
    if record.decision = "TERMINATE" then [record] else record :: upToTermination rest

/-- The records that a replay compares. -/
def examined (config : ReplayConfig) (trace : ExecutionTrace α) : List (ExecutionRecord α) :=
  upToTermination (trace.executionRecord.take (stepBound config trace.executionRecord.length))

/-- The modules of the recorded invocations. -/
def recordedModules (records : List (ExecutionRecord α)) : List String :=
  records.flatMap fun record => record.moduleInvocations.map ModuleInvocationRecord.moduleType

/-- What an identical replay should say about the trace. -/
structure Vouches (interpreter : Interpreter α) (env : ReplayEnv R) (config : ReplayConfig)
    (uuidText : Uuid → String) (trace : ExecutionTrace α) (session : Session R α π ω)
    (result : ReplayResult) : Prop where
  steps : result.replayedSteps = trace.executionRecord.length
  decisions : result.stepResults.map ReplayStepResult.replayDecision =
    trace.executionRecord.map ExecutionRecord.decision
  modules : result.replayedModuleSequence = recordedModules trace.executionRecord
  derives : Derives interpreter env config (InvokesAs uuidText) 0 session trace.executionRecord

/-- An identical replay on the session vouches for the trace. -/
def ReplaySound (interpreter : Interpreter α) (env : ReplayEnv R) (config : ReplayConfig)
    (uuidText : Uuid → String) (trace : ExecutionTrace α) (responseMap : Dict String (Value α))
    (session : Session R α π ω) : Prop :=
  ∀ result last, replay interpreter env config trace responseMap (some session) =
      (.ok result, last) →
    result.isIdentical = true →
      Vouches interpreter env config uuidText trace
        (bindResponses session (responsesOf trace responseMap)) result

/-- The checks before the loop refuse the replay. -/
def Refused (config : ReplayConfig) (trace : ExecutionTrace α)
    (responses : Dict String (Value α)) : Prop :=
  verifyTraceIntegrity trace = false ∨
    (config.useRecordedProviderResponses = true ∧ responses.length = 0) ∨
      ∃ required, config.requiredGrade = some required ∧
        PyEnum.rank (achievedGrade config responses) < PyEnum.rank required

/-! ### One record -/

/-- A runtime that does not end the run is not in its TERMINATED state. -/
theorem derive_running {index : Nat} {session next : Session R α π ω} {record : ExecutionRecord α}
    {fresh : Decision} {dispatched : List ModuleInstanceID}
    (derived : derive interpreter env config index session record = (.ok (fresh, dispatched), next))
    (goesOn : fresh ≠ .terminate) : next.runtime.state = .running := by
  have kept := session.decide_keeps (observationOf env config index record)
  unfold derive at derived
  cases deciding : session.decide (observationOf env config index record) with
  | mk decision after =>
    rw [deciding] at derived kept
    cases decision with
    | error raised => cases derived
    | ok decided =>
      have acted := Session.act_state interpreter after decided
      dsimp only at derived
      cases acting : after.act interpreter decided with
      | mk answer last =>
        rw [acting] at derived acted
        cases answer with
        | error raised => cases derived
        | ok nodes =>
          obtain ⟨same, rfl⟩ := Prod.mk.inj derived
          obtain ⟨rfl, rfl⟩ := Prod.mk.inj (Except.ok.inj same)
          rw [if_neg goesOn, acted, kept.runtime]
          exact Session.running_of_decide (congrArg Prod.fst deciding) goesOn

/-- The lists after a record whose decision is derived. -/
def accept (replayed : Replayed) (index : Nat) (record : ExecutionRecord α)
    (dispatched : List ModuleInstanceID) : Replayed where
  stepResults := replayed.stepResults ++ [⟨index, true, none, record.decision, record.decision⟩]
  deviations := replayed.deviations
  moduleSequence := replayed.moduleSequence ++ dispatched.map ModuleInstanceID.typeId

theorem compare_same (replayed : Replayed) (index : Nat) (decision : String) :
    compare replayed index decision decision = { replayed with
      stepResults := replayed.stepResults ++ [⟨index, true, none, decision, decision⟩] } := by
  unfold compare
  simp only [beq_self_eq_true, if_true]

theorem compare_other (replayed : Replayed) (index : Nat) {recorded fresh : String}
    (differs : fresh ≠ recorded) : (compare replayed index recorded fresh).deviations ≠ [] := by
  unfold compare
  have unmatched : (fresh == recorded) = false := beq_eq_false_iff_ne.mpr differs
  simp [unmatched]

section Loop

variable {bound index : Nat} {session next : Session R α π ω} {record : ExecutionRecord α}

/-- **A record whose decision is derived.** -/
theorem replayFrom_of_derive (inside : index < bound) {fresh : Decision}
    {dispatched : List ModuleInstanceID}
    (derived : derive interpreter env config index session record = (.ok (fresh, dispatched), next))
    (same : fresh.name = record.decision) (replayed : Replayed)
    (rest : List (ExecutionRecord α)) :
    replayFrom interpreter env config bound index session replayed (record :: rest) =
      if record.decision = "TERMINATE" then (.ok (accept replayed index record dispatched), next)
      else replayFrom interpreter env config bound (index + 1) next
        (accept replayed index record dispatched) rest := by
  have running := derive_running derived
  unfold derive at derived
  rw [replayFrom, if_neg (not_le.mpr inside)]
  cases deciding : session.decide (observationOf env config index record) with
  | mk decision after =>
    rw [deciding] at derived
    cases decision with
    | error raised => cases derived
    | ok decided =>
      dsimp only at derived ⊢
      cases acting : after.act interpreter decided with
      | mk answer last =>
        rw [acting] at derived
        cases answer with
        | error raised => cases derived
        | ok nodes =>
          obtain ⟨equal, rfl⟩ := Prod.mk.inj derived
          obtain ⟨rfl, rfl⟩ := Prod.mk.inj (Except.ok.inj equal)
          rw [same, compare_same, if_neg fun both => both.1 rfl]
          dsimp only
          by_cases ends : decided = .terminate
          · have named : record.decision = "TERMINATE" := by
              rw [← same, ends]
              rfl
            rw [if_pos ends, if_pos named, if_pos named]
            rfl
          · have unnamed : record.decision ≠ "TERMINATE" := by
              intro named
              exact ends (Decision.name_injective (same.trans named))
            have goesOn := running ends
            rw [if_neg ends] at goesOn
            rw [if_neg ends, if_neg unnamed, if_neg unnamed, goesOn, if_neg (by decide)]
            rfl

/-- What the loop has done with a record when it returns. -/
theorem replayFrom_eq_ok (inside : index < bound) {replayed after : Replayed}
    {rest : List (ExecutionRecord α)} {last : Session R α π ω}
    (ran : replayFrom interpreter env config bound index session replayed (record :: rest) =
      (.ok after, last)) :
    (∃ fresh : Decision, fresh.name ≠ record.decision ∧
        after = compare replayed index record.decision fresh.name) ∨
      ∃ fresh dispatched next,
        derive interpreter env config index session record = (.ok (fresh, dispatched), next) ∧
        (fresh = .terminate ∧
            after.deviations = (compare replayed index record.decision fresh.name).deviations ∨
          ∃ acted, acted.deviations = (compare replayed index record.decision fresh.name).deviations ∧
            replayFrom interpreter env config bound (index + 1) next acted rest =
              (.ok after, last)) := by
  rw [replayFrom, if_neg (not_le.mpr inside)] at ran
  cases deciding : session.decide (observationOf env config index record) with
  | mk decision decided =>
    rw [deciding] at ran
    cases decision with
    | error raised => cases ran
    | ok fresh =>
      dsimp only at ran
      by_cases stops : fresh.name ≠ record.decision ∧ config.stopOnDeviation
      · rw [if_pos stops] at ran
        obtain ⟨same, -⟩ := Prod.mk.inj ran
        exact Or.inl ⟨fresh, stops.1, (Except.ok.inj same).symm⟩
      · rw [if_neg stops] at ran
        cases acting : decided.act interpreter fresh with
        | mk answer acted =>
          rw [acting] at ran
          cases answer with
          | error raised => cases ran
          | ok dispatched =>
            have derived : derive interpreter env config index session record =
                (.ok (fresh, dispatched), if fresh = .terminate then
                  { acted with runtime.state := .terminated } else acted) := by
              unfold derive
              rw [deciding]
              dsimp only
              rw [acting]
            refine Or.inr ⟨fresh, dispatched, _, derived, ?_⟩
            dsimp only at ran
            by_cases ends : fresh = .terminate
            · have named : fresh.name = "TERMINATE" := by
                rw [ends]
                rfl
              rw [if_pos named, if_pos rfl] at ran
              obtain ⟨same, -⟩ := Prod.mk.inj ran
              exact Or.inl ⟨ends, (congrArg Replayed.deviations (Except.ok.inj same)).symm⟩
            · have unnamed : fresh.name ≠ "TERMINATE" := fun named =>
                ends (Decision.name_injective named)
              have running := derive_running derived ends
              rw [if_neg ends] at running
              rw [if_neg unnamed, running, if_neg (by decide)] at ran
              rw [if_neg ends]
              exact Or.inr ⟨{ compare replayed index record.decision fresh.name with
                moduleSequence :=
                  (compare replayed index record.decision fresh.name).moduleSequence ++
                    dispatched.map ModuleInstanceID.typeId }, rfl, ran⟩

theorem compare_deviations {replayed : Replayed} (deviates : replayed.deviations ≠ [])
    (index : Nat) (recorded fresh : String) :
    (compare replayed index recorded fresh).deviations ≠ [] := by
  by_cases same : fresh = recorded
  · rw [same, compare_same]
    exact deviates
  · exact compare_other replayed index same

/-- Deviations stay. -/
theorem deviations_stay (records : List (ExecutionRecord α)) {replayed after : Replayed}
    {last : Session R α π ω}
    (ran : replayFrom interpreter env config bound index session replayed records =
      (.ok after, last))
    (deviates : replayed.deviations ≠ []) : after.deviations ≠ [] := by
  induction records generalizing index session replayed with
  | nil =>
    obtain ⟨same, -⟩ := Prod.mk.inj ran
    exact Except.ok.inj same ▸ deviates
  | cons record rest ih =>
    by_cases inside : index < bound
    · rcases replayFrom_eq_ok inside ran with
        ⟨fresh, -, rfl⟩ | ⟨fresh, dispatched, next, -, ⟨-, same⟩ | ⟨acted, same, later⟩⟩
      · exact compare_deviations deviates index record.decision fresh.name
      · rw [same]
        exact compare_deviations deviates index record.decision fresh.name
      · apply ih later
        rw [same]
        exact compare_deviations deviates index record.decision fresh.name
    · rw [replayFrom, if_pos (not_lt.mp inside)] at ran
      obtain ⟨same, -⟩ := Prod.mk.inj ran
      exact Except.ok.inj same ▸ deviates

/-- The records that the loop compares, from an index on. -/
def examinedFrom (bound index : Nat) (records : List (ExecutionRecord α)) :
    List (ExecutionRecord α) :=
  upToTermination (records.take (bound - index))

omit [PyFloat R] in
theorem examinedFrom_cons (inside : index < bound) (record : ExecutionRecord α)
    (rest : List (ExecutionRecord α)) :
    examinedFrom bound index (record :: rest) =
      if record.decision = "TERMINATE" then [record]
      else record :: examinedFrom bound (index + 1) rest := by
  have left : bound - index = bound - (index + 1) + 1 := by omega
  rw [examinedFrom, left, List.take_succ_cons, upToTermination]
  rfl

omit [PyFloat R] in
theorem examinedFrom_outside (outside : bound ≤ index) (records : List (ExecutionRecord α)) :
    examinedFrom bound index records = [] := by
  rw [examinedFrom, Nat.sub_eq_zero_of_le outside, List.take_zero, upToTermination]

/-- **Where a decision is not derived, the loop raises or finds a deviation.** -/
theorem replayFrom_of_not_derives (records : List (ExecutionRecord α)) {replayed after : Replayed}
    {last : Session R α π ω}
    (other : ¬ Derives interpreter env config anyDispatch index session
      (examinedFrom bound index records))
    (ran : replayFrom interpreter env config bound index session replayed records =
      (.ok after, last)) :
    after.deviations ≠ [] := by
  induction records generalizing index session replayed with
  | nil =>
    refine absurd ?_ other
    rw [examinedFrom, List.take_nil, upToTermination]
    exact trivial
  | cons record rest ih =>
    by_cases inside : index < bound
    · rw [examinedFrom_cons inside] at other
      rcases replayFrom_eq_ok inside ran with
        ⟨fresh, differs, rfl⟩ |
          ⟨fresh, dispatched, next, derived, ⟨ends, same⟩ | ⟨acted, same, later⟩⟩
      · exact compare_other replayed index differs
      · rw [same]
        apply compare_other
        intro named
        have terminates : record.decision = "TERMINATE" := by
          rw [← named, ends]
          rfl
        rw [if_pos terminates] at other
        exact other ⟨fresh, dispatched, next, derived, named, trivial, trivial⟩
      · by_cases named : fresh.name = record.decision
        · refine ih (fun rest => other ?_) later
          split_ifs
          · exact ⟨fresh, dispatched, next, derived, named, trivial, trivial⟩
          · exact ⟨fresh, dispatched, next, derived, named, trivial, rest⟩
        · apply deviations_stay _ later
          rw [same]
          exact compare_other replayed index named
    · refine absurd ?_ other
      rw [examinedFrom_outside (not_lt.mp inside)]
      exact trivial

/-- The lists after records whose decisions are derived. -/
structure Extends (replayed after : Replayed) (records : List (ExecutionRecord α)) : Prop where
  deviations : after.deviations = replayed.deviations
  results : after.stepResults.map (fun result => (result.matched, result.replayDecision)) =
    replayed.stepResults.map (fun result => (result.matched, result.replayDecision)) ++
      records.map fun record => (true, record.decision)

omit [PyFloat R] in
theorem Extends.nil (replayed : Replayed) :
    Extends replayed replayed ([] : List (ExecutionRecord α)) :=
  ⟨rfl, (List.append_nil _).symm⟩

theorem extends_accept (replayed : Replayed) (index : Nat) (record : ExecutionRecord α)
    (dispatched : List ModuleInstanceID) :
    Extends replayed (accept replayed index record dispatched) [record] :=
  ⟨rfl, List.map_append⟩

theorem Extends.append {replayed middle after : Replayed} {first second : List (ExecutionRecord α)}
    (left : Extends replayed middle first) (right : Extends middle after second) :
    Extends replayed after (first ++ second) where
  deviations := right.deviations.trans left.deviations
  results := by rw [right.results, left.results, List.map_append, List.append_assoc]

/-- The modules of what is dispatched as recorded. -/
theorem InvokesAs.modules {uuidText : Uuid → String} {dispatched : List ModuleInstanceID}
    (invokes : InvokesAs uuidText record dispatched) :
    dispatched.map ModuleInstanceID.typeId =
      record.moduleInvocations.map ModuleInvocationRecord.moduleType := by
  have types := congrArg (List.map Prod.snd) invokes
  rw [List.map_map, List.map_map] at types
  exact types.symm

/-- **Where the decisions are derived, the loop returns without a deviation**; where the invocations
are, it collects their modules. -/
theorem replayFrom_of_derives {check : ExecutionRecord α → List ModuleInstanceID → Prop}
    (records : List (ExecutionRecord α)) (replayed : Replayed)
    (derives : Derives interpreter env config check index session
      (examinedFrom bound index records)) :
    ∃ after last, replayFrom interpreter env config bound index session replayed records =
        (.ok after, last) ∧
      Extends replayed after (examinedFrom bound index records) ∧
      ∀ uuidText, (∀ record dispatched, check record dispatched →
          InvokesAs uuidText record dispatched) →
        after.moduleSequence =
          replayed.moduleSequence ++ recordedModules (examinedFrom bound index records) := by
  induction records generalizing index session replayed with
  | nil =>
    have none : examinedFrom bound index ([] : List (ExecutionRecord α)) = [] := by
      rw [examinedFrom, List.take_nil, upToTermination]
    rw [none]
    exact ⟨replayed, session, rfl, Extends.nil replayed, fun _ _ => (List.append_nil _).symm⟩
  | cons record rest ih =>
    by_cases inside : index < bound
    · rw [examinedFrom_cons inside] at derives ⊢
      have start : ∃ fresh dispatched next,
          derive interpreter env config index session record = (.ok (fresh, dispatched), next) ∧
            fresh.name = record.decision ∧ check record dispatched ∧
            (record.decision ≠ "TERMINATE" → Derives interpreter env config check (index + 1) next
              (examinedFrom bound (index + 1) rest)) := by
        by_cases terminates : record.decision = "TERMINATE"
        · rw [if_pos terminates] at derives
          obtain ⟨fresh, dispatched, next, derived, named, checked, -⟩ := derives
          exact ⟨fresh, dispatched, next, derived, named, checked, absurd terminates⟩
        · rw [if_neg terminates] at derives
          obtain ⟨fresh, dispatched, next, derived, named, checked, later⟩ := derives
          exact ⟨fresh, dispatched, next, derived, named, checked, fun _ => later⟩
      obtain ⟨fresh, dispatched, next, derived, named, checked, later⟩ := start
      rw [replayFrom_of_derive inside derived named]
      have first := extends_accept replayed index record dispatched
      by_cases terminates : record.decision = "TERMINATE"
      · rw [if_pos terminates, if_pos terminates]
        refine ⟨_, next, rfl, first, fun uuidText invokes => ?_⟩
        rw [accept, (invokes record dispatched checked).modules, recordedModules,
          List.flatMap_singleton]
      · rw [if_neg terminates, if_neg terminates]
        obtain ⟨after, last, ran, second, modules⟩ :=
          ih (accept replayed index record dispatched) (later terminates)
        refine ⟨after, last, ran, first.append second, fun uuidText invokes => ?_⟩
        rw [modules uuidText invokes, accept, (invokes record dispatched checked).modules,
          List.append_assoc, recordedModules, recordedModules, List.flatMap_cons]
    · rw [examinedFrom_outside (not_lt.mp inside), replayFrom, if_pos (not_lt.mp inside)]
      exact ⟨replayed, session, rfl, Extends.nil replayed, fun _ _ => (List.append_nil _).symm⟩

end Loop

/-! ### The whole replay -/

section Replay

variable {trace : ExecutionTrace α} {responseMap : Dict String (Value α)}
  {session : Session R α π ω}

omit [PyFloat R] in
theorem checkReplay_ok_iff {responses : Dict String (Value α)} :
    checkReplay config trace responses = .ok () ↔ ¬ Refused config trace responses := by
  unfold checkReplay Refused
  by_cases complete : verifyTraceIntegrity trace = false
  · rw [if_pos complete]
    exact iff_of_false (fun same => nomatch same) fun accepted => accepted (Or.inl complete)
  rw [if_neg complete]
  by_cases lacking : config.useRecordedProviderResponses = true ∧ responses.length = 0
  · rw [if_pos lacking]
    exact iff_of_false (fun same => nomatch same) fun accepted =>
      accepted (Or.inr (Or.inl lacking))
  rw [if_neg lacking]
  show requireGrade config (achievedGrade config responses) = .ok () ↔ _
  unfold requireGrade
  cases required : config.requiredGrade with
  | none => simp [complete, lacking]
  | some grade =>
    dsimp only
    by_cases below : PyEnum.rank (achievedGrade config responses) < PyEnum.rank grade
    · rw [if_pos below]
      exact iff_of_false (fun same => nomatch same) fun accepted =>
        accepted (Or.inr (Or.inr ⟨grade, rfl, below⟩))
    · rw [if_neg below]
      refine iff_of_true rfl ?_
      rintro (incomplete | without | ⟨other, same, tooLow⟩)
      · exact complete incomplete
      · exact lacking without
      · exact below (Option.some.inj same ▸ tooLow)

variable (interpreter env) in
theorem replay_of_refused (refused : Refused config trace (responsesOf trace responseMap)) :
    ∃ raised, replay interpreter env config trace responseMap (some session) =
      (.error raised, some session) := by
  unfold replay
  cases checked : checkReplay config trace (responsesOf trace responseMap) with
  | error raised => exact ⟨raised, by dsimp only; rw [checked]⟩
  | ok _ => exact absurd refused (checkReplay_ok_iff.mp checked)

/-- What a replay that is not refused returns. -/
theorem replay_eq_ok (accepted : ¬ Refused config trace (responsesOf trace responseMap))
    {result : ReplayResult} {last : Option (Session R α π ω)} :
    replay interpreter env config trace responseMap (some session) = (.ok result, last) →
      ∃ replayed final, replayFrom interpreter env config
          (stepBound config trace.executionRecord.length) 0
          (bindResponses session (responsesOf trace responseMap)) {} trace.executionRecord =
            (.ok replayed, final) ∧
        result.replayedSteps = replayed.stepResults.length ∧
        result.stepResults = replayed.stepResults ∧
        result.deviations = replayed.deviations ∧
        result.replayedModuleSequence = replayed.moduleSequence ∧
        (result.isIdentical = true ↔
          (∀ step ∈ replayed.stepResults, step.matched = true) ∧ replayed.deviations = []) := by
  intro returned
  unfold replay at returned
  dsimp only at returned
  rw [checkReplay_ok_iff.mpr accepted] at returned
  dsimp only at returned
  cases ran : replayFrom interpreter env config (stepBound config trace.executionRecord.length) 0
      (bindResponses session (responsesOf trace responseMap)) {} trace.executionRecord with
  | mk answer final =>
    rw [ran] at returned
    cases answer with
    | error raised => cases returned
    | ok replayed =>
      obtain ⟨same, -⟩ := Prod.mk.inj returned
      obtain rfl := Except.ok.inj same
      refine ⟨replayed, final, rfl, rfl, rfl, rfl, rfl, ?_⟩
      unfold ReplayResult.isIdentical
      simp

theorem replay_returns (accepted : ¬ Refused config trace (responsesOf trace responseMap))
    {replayed : Replayed} {final : Session R α π ω}
    (ran : replayFrom interpreter env config (stepBound config trace.executionRecord.length) 0
      (bindResponses session (responsesOf trace responseMap)) {} trace.executionRecord =
        (.ok replayed, final)) :
    ∃ result, replay interpreter env config trace responseMap (some session) =
      (.ok result, some final) := by
  unfold replay
  dsimp only
  rw [checkReplay_ok_iff.mpr accepted]
  dsimp only
  rw [ran]
  exact ⟨_, rfl⟩

theorem upToTermination_initial (records : List (ExecutionRecord α)) :
    upToTermination records <+: records := by
  induction records with
  | nil => exact List.prefix_rfl
  | cons record rest ih =>
    unfold upToTermination
    split_ifs
    · exact (List.prefix_cons_inj record).mpr List.nil_prefix
    · exact (List.prefix_cons_inj record).mpr ih

theorem examined_initial (config : ReplayConfig) (trace : ExecutionTrace α) :
    examined config trace <+: trace.executionRecord :=
  (upToTermination_initial _).trans <| List.take_prefix _ _

/-- Every step that is compared is matched where the lists extend the empty ones. -/
theorem Extends.matched {after : Replayed} {records : List (ExecutionRecord α)}
    (extended : Extends {} after records) :
    (∀ step ∈ after.stepResults, step.matched = true) ∧
      after.stepResults.map ReplayStepResult.replayDecision =
        records.map ExecutionRecord.decision := by
  have results : after.stepResults.map (fun result => (result.matched, result.replayDecision)) =
      records.map fun record => (true, record.decision) := extended.results
  constructor
  · intro step member
    have listed := List.mem_map_of_mem (f := fun result : ReplayStepResult =>
      (result.matched, result.replayDecision)) member
    rw [results] at listed
    obtain ⟨record, -, same⟩ := List.mem_map.mp listed
    exact (congrArg Prod.fst same).symm
  · have decisions := congrArg (List.map Prod.snd) results
    rw [List.map_map, List.map_map] at decisions
    exact decisions

/-- **When an identical replay vouches for the trace.** -/
theorem replaySound_iff (interpreter : Interpreter α) (env : ReplayEnv R) (config : ReplayConfig)
    (uuidText : Uuid → String) (trace : ExecutionTrace α) (responseMap : Dict String (Value α))
    (session : Session R α π ω) :
    ReplaySound interpreter env config uuidText trace responseMap session ↔
      Refused config trace (responsesOf trace responseMap) ∨
        ¬ Derives interpreter env config anyDispatch 0
          (bindResponses session (responsesOf trace responseMap)) (examined config trace) ∨
        examined config trace = trace.executionRecord ∧
          Derives interpreter env config (InvokesAs uuidText) 0
            (bindResponses session (responsesOf trace responseMap)) trace.executionRecord := by
  constructor
  · intro sound
    rw [or_iff_not_imp_left, or_iff_not_imp_left]
    intro accepted derives
    have derives : Derives interpreter env config anyDispatch 0
        (bindResponses session (responsesOf trace responseMap))
        (examinedFrom (stepBound config trace.executionRecord.length) 0 trace.executionRecord) :=
      not_not.mp derives
    obtain ⟨replayed, final, ran, compared, -⟩ :=
      replayFrom_of_derives trace.executionRecord {} derives
    obtain ⟨result, returned⟩ := replay_returns accepted ran
    obtain ⟨other, last, again, steps, -, -, -, identical⟩ := replay_eq_ok accepted returned
    obtain ⟨same, -⟩ := Prod.mk.inj (ran.symm.trans again)
    obtain rfl := Except.ok.inj same
    have vouches := sound result _ returned (identical.mpr ⟨compared.matched.1, compared.deviations⟩)
    refine ⟨(examined_initial config trace).eq_of_length ?_, vouches.derives⟩
    have lengths := congrArg List.length compared.matched.2
    rw [List.length_map, List.length_map] at lengths
    exact lengths.symm.trans (steps.symm.trans vouches.steps)
  · intro condition result last returned identical
    by_cases refused : Refused config trace (responsesOf trace responseMap)
    · obtain ⟨raised, failed⟩ := replay_of_refused interpreter env refused
      rw [failed] at returned
      cases returned
    obtain ⟨replayed, final, ran, steps, results, -, modules, isIdentical⟩ :=
      replay_eq_ok refused returned
    rcases condition with isRefused | other | ⟨whole, derives⟩
    · exact absurd isRefused refused
    · exact absurd (isIdentical.mp identical).2 (replayFrom_of_not_derives _ other ran)
    · have bounded : examinedFrom (stepBound config trace.executionRecord.length) 0
          trace.executionRecord = trace.executionRecord := whole
      obtain ⟨after, again, reran, compared, collected⟩ :=
        replayFrom_of_derives trace.executionRecord {} (bounded.symm ▸ derives)
      obtain ⟨same, -⟩ := Prod.mk.inj (ran.symm.trans reran)
      obtain rfl := Except.ok.inj same
      rw [bounded] at compared collected
      have decisions := compared.matched.2
      refine ⟨?_, ?_, ?_, derives⟩
      · have lengths := congrArg List.length decisions
        rw [List.length_map, List.length_map] at lengths
        rw [steps, lengths]
      · rw [results, decisions]
      · rw [modules, collected uuidText fun _ _ invokes => invokes]
        rfl

end Replay

end ReplayEngine

/-! ### An invocation that is not replayed -/

/-- A run of the module `A`, in which an invocation of `B` has been added. -/
def Sample.altered : ExecutionTrace Unit where
  traceId := "trace"
  executionRecord := [
    ⟨0, ⟨[], "0.0"⟩, "CONTINUE",
      [⟨"a", "A", some (.proper ())⟩, ⟨"b", "B", some (.proper ())⟩]⟩,
    ⟨1, ⟨[], "0.0"⟩, "TERMINATE", []⟩]
  terminationReason := some .terminateDecision

/-- The replay invokes `A` only, and is reported identical. -/
theorem altered_replay_identical :
    ¬ ReplayEngine.ReplaySound Sample.interpreter ⟨fun _ => none, fun _ => (0 : ℚ)⟩ {}
      (fun _ => "a") Sample.altered ∅
      (Sample.fresh.initiate Sample.interpreter "task" 0 "execution").2 := by
  intro sound
  have identical : (ReplayEngine.replay Sample.interpreter ⟨fun _ => none, fun _ => (0 : ℚ)⟩ {}
      Sample.altered ∅ (some (Sample.fresh.initiate Sample.interpreter "task" 0
        "execution").2)).1.map (fun result =>
          (result.isIdentical, result.replayedModuleSequence)) = .ok (true, ["A"]) := by
    decide +kernel
  cases returned : ReplayEngine.replay Sample.interpreter ⟨fun _ => none, fun _ => (0 : ℚ)⟩ {}
      Sample.altered ∅ (some (Sample.fresh.initiate Sample.interpreter "task" 0
        "execution").2) with
  | mk answer last =>
    rw [returned] at identical
    cases answer with
    | error raised => cases identical
    | ok result =>
      obtain ⟨isIdentical, modules⟩ := Prod.mk.inj (Except.ok.inj identical)
      have recorded := (sound result last returned isIdentical).modules
      rw [modules] at recorded
      revert recorded
      decide

end Dnc.Runtime
