/-
**Recorded outputs in a replay.**

`Runtime.step` appends a record of each iteration to the trace, with the output that every dispatched
node has then. A replay answers by module: `_recorded_response_map` folds all invocations of the
trace into one dictionary from module types to outputs, the last one written staying.

* `recorded_run`: in a recorded trace, every invocation has its output recorded.
* `recordedResponseMap_of_mem`, `mem_of_recordedResponseMap`: what the dictionary has for a type is
  the recorded output of some invocation of the type.
* `dispatchesBy_of_replaying`, `boundBy_act`: a replay binds to a node what the dictionary has for its
  type.
* `replaysOutputs_iff`: so every invocation is replayed with its own output exactly when invocations
  of one module type have one output.

The texts of UUIDs and timestamps are parameters. What happens between two iterations is any change of
the session: a new dispatch function, a buffer completed from outside, a registration.
-/

import Dnc.Execution.ReplayEngine
import Dnc.Logic.Run
import Dnc.Logic.Sequence
import Dnc.Runtime.Dispatches
import Dnc.Runtime.Replan

namespace Dnc.Runtime

open PyLib Logic ReplayEngine

section Recording

variable {R α π ω : Type}

/-! ### The trace -/

/-- The invocation that is recorded of a dispatched node. -/
def invocationOf (uuidText : Uuid → String) (memory : WorkingMemory α) (node : ModuleInstanceID) :
    Except Raised (ModuleInvocationRecord α) :=
  match Dict.get? memory node with
  | none => .error (.notInWorkingMemory node)
  | some buffer => .ok ⟨uuidText node.uuid, node.typeId, some buffer.output⟩

/-- A runtime with the trace that it records. -/
structure Recorder (R α π ω : Type) where
  session : Session R α π ω
  trace : ExecutionTrace α

/-- `Runtime._record_trace_iteration`, after an iteration on the given observation. -/
def Recorder.recordTraceIteration (recorder : Recorder R α π ω) (uuidText : Uuid → String)
    (timestampText : R → String) (observation : Observation R) (stepBefore : Nat)
    (iteration : Session.Iteration) : Except Raised Unit × Recorder R α π ω :=
  match iteration.dispatched.mapM (invocationOf uuidText recorder.session.es.W) with
  | .error raised => (.error raised, recorder)
  | .ok invocations =>
    let record : ExecutionRecord α :=
      ⟨stepBefore, ⟨observation.signals, timestampText observation.timestamp⟩,
        iteration.decision.name, invocations⟩
    (.ok (), { recorder with trace := { recorder.trace with
      executionRecord := recorder.trace.executionRecord ++ [record]
      terminationReason :=
        if iteration.decision = .terminate ∧ recorder.trace.terminationReason = none then
          some .terminateDecision
        else recorder.trace.terminationReason } })

/-- An iteration, or what happens between two of them. -/
inductive RecorderCall (R α π ω : Type) where
  | step (timestamp : R)
  | between (change : Session R α π ω → Session R α π ω)

variable [PyFloat R] (interpreter : Interpreter α) (uuidText : Uuid → String)
  (timestampText : R → String)

/-- `Runtime.step` with the trace enabled, or a change of the session. -/
def recorderStep (recorder : Recorder R α π ω) : RecorderCall R α π ω → Recorder R α π ω
  | .between change => { recorder with session := change recorder.session }
  | .step timestamp =>
    let observation := recorder.session.observe timestamp
    let stepBefore := recorder.session.es.stepIndex
    match recorder.session.step interpreter timestamp with
    | (.error _, session) => { recorder with session := session }
    | (.ok iteration, session) =>
      ({ recorder with session := session }.recordTraceIteration uuidText timestampText observation
        stepBefore iteration).2

/-- The trace that a run records, from a session on. -/
def recordedTrace (traceId : String) (start : Session R α π ω)
    (calls : List (RecorderCall R α π ω)) : ExecutionTrace α :=
  (run (recorderStep interpreter uuidText timestampText) ⟨start, ⟨traceId, [], none⟩⟩ calls).trace

/-- The invocations of a trace. -/
def invocations (trace : ExecutionTrace α) : List (ModuleInvocationRecord α) :=
  trace.executionRecord.flatMap ExecutionRecord.moduleInvocations

/-- Every invocation has its output recorded. -/
def OutputsRecorded (trace : ExecutionTrace α) : Prop :=
  ∀ invocation ∈ invocations trace, ∃ output, invocation.recordedOutput = some output

variable {interpreter uuidText timestampText}

omit [PyFloat R] in
theorem outputsRecorded_recordTraceIteration {recorder : Recorder R α π ω}
    (outputs : OutputsRecorded recorder.trace) (observation : Observation R) (stepBefore : Nat)
    (iteration : Session.Iteration) :
    OutputsRecorded (recorder.recordTraceIteration uuidText timestampText observation stepBefore
      iteration).2.trace := by
  unfold Recorder.recordTraceIteration
  cases made : iteration.dispatched.mapM (invocationOf uuidText recorder.session.es.W) with
  | error raised => exact outputs
  | ok added =>
    intro invocation member
    unfold invocations at member
    dsimp only at member
    rw [List.flatMap_append, List.mem_append, List.flatMap_singleton] at member
    rcases member with earlier | here
    · exact outputs invocation earlier
    · obtain ⟨node, -, found⟩ := exists_of_mem_mapM made here
      unfold invocationOf at found
      split at found
      · cases found
      · cases found
        exact ⟨_, rfl⟩

variable (interpreter uuidText timestampText) in
/-- **In a recorded trace, every invocation has its output recorded.** -/
theorem recorded_run (traceId : String) (start : Session R α π ω)
    (calls : List (RecorderCall R α π ω)) :
    OutputsRecorded (recordedTrace interpreter uuidText timestampText traceId start calls) := by
  refine run_invariant (P := fun recorder : Recorder R α π ω => OutputsRecorded recorder.trace)
    (fun recorder call outputs => ?_) ?_ calls
  · cases call with
    | between change => exact outputs
    | step timestamp =>
      unfold recorderStep
      dsimp only
      cases recorder.session.step interpreter timestamp with
      | mk answer session =>
        cases answer with
        | error raised => exact outputs
        | ok iteration =>
          have same : OutputsRecorded (⟨session, recorder.trace⟩ : Recorder R α π ω).trace := outputs
          exact outputsRecorded_recordTraceIteration same _ _ iteration
  · intro invocation member
    cases member

/-! ### The dictionary of responses -/

/-- The dictionary after some invocations. -/
def respondTo (responses : Dict String (Value α)) (invocation : ModuleInvocationRecord α) :
    Dict String (Value α) :=
  match invocation.recordedOutput with
  | some output => responses.set invocation.moduleType output
  | none => responses

theorem recordedResponseMap_eq (trace : ExecutionTrace α) :
    recordedResponseMap trace = (invocations trace).foldl respondTo ∅ := rfl

/-- What the dictionary has for a type was recorded of an invocation of the type. -/
theorem mem_of_recordedResponseMap {trace : ExecutionTrace α} {moduleType : String}
    {output : Value α} (found : (recordedResponseMap trace).get? moduleType = some output) :
    ∃ invocation ∈ invocations trace,
      invocation.moduleType = moduleType ∧ invocation.recordedOutput = some output := by
  rw [recordedResponseMap_eq] at found
  generalize invocations trace = all at found ⊢
  induction all using List.reverseRecOn with
  | nil => cases found
  | append_singleton earlier last ih =>
    have before : (earlier.foldl respondTo ∅).get? moduleType = some output →
        ∃ invocation ∈ earlier ++ [last],
          invocation.moduleType = moduleType ∧ invocation.recordedOutput = some output := by
      intro there
      obtain ⟨invocation, member, same⟩ := ih there
      exact ⟨invocation, List.mem_append_left _ member, same⟩
    rw [List.foldl_append, List.foldl_cons, List.foldl_nil, respondTo] at found
    split at found
    · rename_i recorded written
      rw [Dict.get?_set] at found
      split at found
      · rename_i here
        exact ⟨last, List.mem_append_right _ List.mem_cons_self, here.symm, written.trans found⟩
      · exact before found
    · exact before found

/-- For the type of a recorded invocation, the dictionary has something. -/
theorem recordedResponseMap_of_mem {trace : ExecutionTrace α}
    {invocation : ModuleInvocationRecord α} (member : invocation ∈ invocations trace)
    {output : Value α} (recorded : invocation.recordedOutput = some output) :
    ∃ response, (recordedResponseMap trace).get? invocation.moduleType = some response := by
  rw [recordedResponseMap_eq]
  generalize invocations trace = all at member ⊢
  induction all using List.reverseRecOn with
  | nil => cases member
  | append_singleton earlier last ih =>
    rw [List.foldl_append, List.foldl_cons, List.foldl_nil]
    rcases List.mem_append.mp member with before | here
    · obtain ⟨response, found⟩ := ih before
      unfold respondTo
      split
      · rw [Dict.get?_set]
        split
        · exact ⟨_, rfl⟩
        · exact ⟨response, found⟩
      · exact ⟨response, found⟩
    · rw [← List.mem_singleton.mp here, respondTo, recorded]
      exact ⟨output, Dict.get?_set_self _ _ _⟩

/-! ### A replay -/

variable (interpreter) in
/-- A session that a replay of the trace passes through, whatever it decides. -/
inductive Replaying (trace : ExecutionTrace α) : Session R α π ω → Prop
  | bound (session : Session R α π ω) :
      Replaying trace (bindResponses session (responsesOf trace ∅))
  | decided {session : Session R α π ω} (observation : Observation R) :
      Replaying trace session → Replaying trace (session.decide observation).2
  | acted {session : Session R α π ω} (decision : Decision) :
      Replaying trace session → Replaying trace (session.act interpreter decision).2
  | terminated {session : Session R α π ω} :
      Replaying trace session → Replaying trace { session with runtime.state := .terminated }

/-- A replay dispatches by the recorded responses throughout. -/
theorem dispatchesBy_of_replaying {trace : ExecutionTrace α} {session : Session R α π ω}
    (replaying : Replaying interpreter trace session) :
    session.DispatchesBy (respond (recordedResponseMap trace)) := by
  induction replaying with
  | bound session => exact ⟨rfl, rfl⟩
  | decided observation _ ih => exact (Session.sameWorld_decide _ observation).dispatchesBy ih
  | acted decision _ ih => exact (Session.called_act interpreter ih decision).devMode
  | terminated _ ih => exact ⟨ih.mode, ih.function⟩

/-- The nodes have the outputs that the dictionary has for their types. -/
def BoundBy (responses : Dict String (Value α)) (session : Session R α π ω)
    (nodes : List ModuleInstanceID) : Prop :=
  ∀ node ∈ nodes, ∃ buffer, Dict.get? session.es.W node = some buffer ∧
    responses.get? node.typeId = some buffer.output

omit [PyFloat R] in
/-- One more node has its output. -/
theorem BoundBy.store {responses : Dict String (Value α)} {session last : Session R α π ω}
    {done : List ModuleInstanceID} {node : ModuleInstanceID} {output : Value α}
    (bound : BoundBy responses session done)
    (response : responses.get? node.typeId = some output)
    (stored : session.storeResult node output = (.ok (), last)) :
    BoundBy responses last (done ++ [node]) := by
  unfold Session.storeResult at stored
  split at stored
  · cases stored
  · rename_i buffer found
    dsimp only at stored
    split at stored
    · cases stored
    · obtain ⟨-, rfl⟩ := Prod.mk.inj stored
      intro other member
      show ∃ buffer, Dict.get? (Dict.set _ _ _) other = some buffer ∧ _
      by_cases same : other = node
      · refine ⟨.completed buffer.input output, ?_, ?_⟩
        · rw [same, Dict.get?_set_self]
        · rw [same]
          exact response
      · rcases List.mem_append.mp member with earlier | here
        · obtain ⟨old, there, recorded⟩ := bound other earlier
          exact ⟨old, by rw [Dict.get?_set_of_ne _ same]; exact there, recorded⟩
        · exact absurd (List.mem_singleton.mp here) same

omit [PyFloat R] in
/-- **The loop over the runnable nodes binds the responses.** -/
theorem boundBy_dispatchAll {responses : Dict String (Value α)} {session last : Session R α π ω}
    {done nodes dispatched : List ModuleInstanceID}
    (devMode : session.DispatchesBy (respond responses)) (bound : BoundBy responses session done)
    (ran : session.dispatchAll interpreter done nodes = (.ok dispatched, last)) :
    BoundBy responses last dispatched := by
  induction nodes generalizing session done with
  | nil =>
    obtain ⟨same, rfl⟩ := Prod.mk.inj ran
    obtain rfl := Except.ok.inj same
    exact bound
  | cons node rest ih =>
    rw [Session.dispatchAll] at ran
    split at ran
    · obtain ⟨same, rfl⟩ := Prod.mk.inj ran
      obtain rfl := Except.ok.inj same
      exact bound
    · unfold Session.dispatchResult at ran
      rw [devMode.mode, devMode.function] at ran
      unfold respond at ran
      dsimp only at ran
      cases response : responses.get? node.typeId with
      | none =>
        rw [response] at ran
        cases ran
      | some output =>
        rw [response] at ran
        dsimp only [Except.map] at ran
        have kept := (Session.storeResult_keeps { session with world := session.world } node
          output).runtime
        cases stored : session.storeResult node output with
        | mk answer after =>
          rw [stored] at ran kept
          cases answer with
          | error raised => cases ran
          | ok _ =>
            have stillDevMode : after.DispatchesBy (respond responses) :=
              ⟨(congrArg Runtime.providerMode kept).trans devMode.mode,
                (congrArg Runtime.moduleDispatchFn kept).trans devMode.function⟩
            exact ih stillDevMode (bound.store response stored) ran

/-- What is dispatched when a decision is to go on has the response for its type. -/
theorem boundBy_act {responses : Dict String (Value α)} {session last : Session R α π ω}
    {dispatched : List ModuleInstanceID} (devMode : session.DispatchesBy (respond responses))
    (acted : session.act interpreter .proceed = (.ok dispatched, last)) :
    BoundBy responses last dispatched := by
  have none : ∀ any : Session R α π ω, BoundBy responses any [] := by
    intro any node member
    cases member
  unfold Session.act at acted
  cases scheduled : session.es.G with
  | none =>
    rw [scheduled] at acted
    obtain ⟨same, rfl⟩ := Prod.mk.inj acted
    obtain rfl := Except.ok.inj same
    exact none _
  | some sched =>
    rw [scheduled] at acted
    dsimp only at acted
    cases runnable : sched.getRunnable session.es.W with
    | error raised =>
      rw [runnable] at acted
      cases acted
    | ok nodes =>
      rw [runnable] at acted
      exact boundBy_dispatchAll devMode (none session) acted

/-! ### Recorded outputs -/

variable (R π ω interpreter) in
/-- The responses have, for the module of every invocation, the output that was recorded of it; and
where a replay dispatches a node, that is its output. -/
structure ReplaysOutputs (trace : ExecutionTrace α) : Prop where
  responses : ∀ invocation ∈ invocations trace, ∃ output,
    invocation.recordedOutput = some output ∧
      (recordedResponseMap trace).get? invocation.moduleType = some output
  binds : ∀ session : Session R α π ω, Replaying interpreter trace session → ∀ dispatched last,
    session.act interpreter .proceed = (.ok dispatched, last) → ∀ node ∈ dispatched,
      ∀ invocation ∈ invocations trace, invocation.moduleType = node.typeId →
        ∃ buffer, Dict.get? last.es.W node = some buffer ∧
          invocation.recordedOutput = some buffer.output

/-- Invocations of one module type have one output. -/
def OneOutputPerType (trace : ExecutionTrace α) : Prop :=
  ∀ first ∈ invocations trace, ∀ second ∈ invocations trace,
    first.moduleType = second.moduleType → first.recordedOutput = second.recordedOutput

/-- **A recorded trace replays the outputs of its invocations exactly when invocations of one module
type have one output.** -/
theorem replaysOutputs_iff (interpreter : Interpreter α) (uuidText : Uuid → String)
    (timestampText : R → String) (traceId : String) (start : Session R α π ω)
    (calls : List (RecorderCall R α π ω)) :
    ReplaysOutputs R π ω interpreter
        (recordedTrace interpreter uuidText timestampText traceId start calls) ↔
      OneOutputPerType (recordedTrace interpreter uuidText timestampText traceId start calls) := by
  have outputs := recorded_run interpreter uuidText timestampText traceId start calls
  constructor
  · intro replays first memberFirst second memberSecond same
    obtain ⟨output, recorded, found⟩ := replays.responses first memberFirst
    obtain ⟨other, also, there⟩ := replays.responses second memberSecond
    rw [same, there] at found
    rw [recorded, also, found]
  · intro one
    have responses : ∀ invocation ∈ invocations
        (recordedTrace interpreter uuidText timestampText traceId start calls), ∃ output,
          invocation.recordedOutput = some output ∧
            (recordedResponseMap (recordedTrace interpreter uuidText timestampText traceId start
              calls)).get? invocation.moduleType = some output := by
      intro invocation member
      obtain ⟨output, recorded⟩ := outputs invocation member
      obtain ⟨response, found⟩ := recordedResponseMap_of_mem member recorded
      obtain ⟨other, listed, type, written⟩ := mem_of_recordedResponseMap found
      refine ⟨response, ?_, found⟩
      rw [one invocation member other listed type.symm, written]
    refine ⟨responses, fun session replaying dispatched last acted node member => ?_⟩
    obtain ⟨buffer, there, bound⟩ :=
      boundBy_act (dispatchesBy_of_replaying replaying) acted node member
    intro invocation listed type
    obtain ⟨output, recorded, found⟩ := responses invocation listed
    rw [type, bound] at found
    exact ⟨buffer, there, recorded.trans found.symm⟩

end Recording

/-! ### Two instances of a module -/

namespace Sample

/-- Texts are lower case, and sets are iterated in the order of their lists. -/
def numbers : Interpreter Nat where
  str := fun _ => ""
  lower := id
  setOrder := id
  setOrder_perm := List.Perm.refl

/-- A runtime with one module, whose calls are counted. -/
def counting : Session ℚ Nat (RulePolicy ℚ) Nat where
  runtime := { Runtime.new ⟨3, 50, default_replans_valid⟩ 100 rulePolicy (.new 3) with
    registry := ⟨.ofItems [(⟨"A", "v1"⟩, { module "A" "v1" 1 with capabilities := {"alpha"} })]⟩
    moduleDispatchFn := some fun world _ => (.ok (.proper world), world + 1) }
  es := .new "execution"
  world := 0

/-- The trace of a plan with two instances of the module. -/
def countedTwice : ExecutionTrace Nat :=
  recordedTrace numbers (fun _ => "") (fun _ => "") "trace"
    (counting.initiate numbers "alpha alpha" 0 "execution").2 [.step 0, .step 0]

end Sample

/-- **Both instances are replayed with the output of the second.** -/
theorem instances_share_response :
    ¬ ReplaysOutputs ℚ (RulePolicy ℚ) Nat Sample.numbers Sample.countedTwice := by
  intro replays
  have recorded : (invocations Sample.countedTwice).map (fun invocation =>
      (invocation.moduleType, invocation.recordedOutput)) =
        [("A", some (.proper 0)), ("A", some (.proper 1))] := by
    decide +kernel
  have response : (recordedResponseMap Sample.countedTwice).get? "A" = some (.proper 1) := by
    decide +kernel
  have listed : ("A", some (Value.proper 0)) ∈ (invocations Sample.countedTwice).map
      fun invocation => (invocation.moduleType, invocation.recordedOutput) := by
    rw [recorded]
    exact List.mem_cons_self
  obtain ⟨invocation, member, same⟩ := List.mem_map.mp listed
  obtain ⟨type, first⟩ := Prod.mk.inj same
  obtain ⟨output, written, found⟩ := replays.responses invocation member
  rw [type, response] at found
  rw [first, ← found] at written
  cases written

end Dnc.Runtime
