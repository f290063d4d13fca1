/-
**A provider that keeps failing is left alone, or not.**

The breaker of an adapter opens at the failure that reaches its threshold, and a call that finds it
open does not reach the provider before the recovery time has passed since (`starts_rested`). But it
is asked once for each call, ahead of the first attempt, so the retries of the call go on; it forgets
the failures it has counted when it recovers, whatever the next attempt brings; and it is not told of
a failure that a cancellation hides.

* `attempts_rest_iff`: the attempts of one call.
* `execute_rests_iff`: one call, under what the breaker keeps of the invocations so far (`Accounted`).
* `providerRests_iff`: the provider rests along a run exactly when no retry comes too early and no
  call does that finds a breaker without the failures.
-/

import Dnc.Capabilities.Adapters
import Dnc.Logic.Run
import Dnc.Logic.Streak

namespace Dnc.Capabilities

open PyLib Logic

/-! ### The breaker -/

namespace CircuitBreaker

/-- The number of failures at which a breaker opens: it opens at failures only. -/
def failureLimit (breaker : CircuitBreaker) : Nat := max 1 breaker.failureThreshold.toNat

/-- The recovery time in nanoseconds. -/
def recoveryNs (breaker : CircuitBreaker) : Int := breaker.recoveryTimeoutMs * 1000000

variable {breaker : CircuitBreaker} {nowNs : Int}

theorem failureLimit_le_iff {count : Nat} :
    breaker.failureLimit ≤ count ↔ 0 < count ∧ breaker.failureThreshold ≤ count := by
  unfold failureLimit
  omega

/-- What does not change: the threshold and the recovery time. -/
def SameSettings (first second : CircuitBreaker) : Prop :=
  first.failureLimit = second.failureLimit ∧ first.recoveryNs = second.recoveryNs

theorem sameSettings_allow : SameSettings (breaker.allow nowNs).2 breaker := by
  unfold allow
  split
  · exact ⟨rfl, rfl⟩
  · split <;> exact ⟨rfl, rfl⟩

theorem sameSettings_recordFailure : SameSettings (breaker.recordFailure nowNs) breaker := by
  unfold recordFailure
  dsimp only
  split <;> exact ⟨rfl, rfl⟩

/-- **A failure opens the breaker once there are enough.** -/
theorem openedAtNs_recordFailure
    (enough : breaker.failureLimit ≤ (breaker.recordFailure nowNs).consecutiveFailures) :
    (breaker.recordFailure nowNs).openedAtNs = some nowNs := by
  have counted : (breaker.recordFailure nowNs).consecutiveFailures =
      breaker.consecutiveFailures + 1 := by
    unfold recordFailure
    dsimp only
    split <;> rfl
  rw [counted, failureLimit_le_iff] at enough
  unfold recordFailure
  dsimp only
  rw [if_pos enough.2]

/-- A breaker that allows a call while it is open has waited for the recovery time. -/
theorem rested_of_allow {opened : Int} (found : breaker.openedAtNs = some opened)
    (allowed : (breaker.allow nowNs).1 = true) : opened + breaker.recoveryNs ≤ nowNs := by
  unfold allow at allowed
  rw [found] at allowed
  dsimp only at allowed
  split at allowed
  · rename_i waited
    unfold recoveryNs
    omega
  · cases allowed

/-- Afterwards it is closed, with its count, or has started to count anew. -/
theorem allow_cases : (breaker.allow nowNs).2 = breaker ∨
    (breaker.allow nowNs).2.consecutiveFailures = 0 := by
  unfold allow
  split
  · exact Or.inl rfl
  · split
    · exact Or.inr rfl
    · exact Or.inl rfl

end CircuitBreaker

section Runs

variable {R : Type} [PyFloat R]

/-! ### The law -/

/-- **The provider rests** for the recovery time of a breaker after as many failures in a row as
open it. -/
def ProviderRests (breaker : CircuitBreaker) (invocations : List Invocation) : Prop :=
  ∀ before failures last next after, invocations = before ++ (failures ++ last :: next :: after) →
    (∀ invocation ∈ failures ++ [last], invocation.failed = true) →
    breaker.failureThreshold ≤ (failures ++ [last]).length →
      last.endedNs + breaker.recoveryNs ≤ next.startedNs

/-- The same, as a law about histories. -/
abbrev Rested (breaker : CircuitBreaker) (invocations : List Invocation) : Prop :=
  Rests Invocation.failed Invocation.startedNs Invocation.endedNs breaker.failureLimit
    breaker.recoveryNs invocations

theorem providerRests_iff_rested {breaker : CircuitBreaker} {invocations : List Invocation} :
    ProviderRests breaker invocations ↔ Rested breaker invocations := by
  have enough : ∀ (failures : List Invocation) (last : Invocation),
      breaker.failureLimit ≤ (failures ++ [last]).length ↔
        breaker.failureThreshold ≤ (failures ++ [last]).length := fun failures last => by
    rw [CircuitBreaker.failureLimit_le_iff, and_iff_right (by simp)]
  constructor
  · rintro rests before next after rfl failures last ⟨earlier, rfl⟩ failed long
    exact rests earlier failures last next after (by simp) failed ((enough failures last).mp long)
  · rintro rests before failures last next after rfl failed long
    refine rests (before ++ (failures ++ [last])) next after (by simp) failures last
      (List.suffix_append _ _) failed ((enough failures last).mpr long)

/-! ### The attempts of a call -/

/-- The attempt fails in a way that `execute` retries: the provider is invoked, and raises or answers
with an error while nobody cancels. -/
def Attempt.Retried (request : ProviderRequest) (attempt : Attempt) : Prop :=
  attempt.cancelledBefore = none ∧
    match executeWithTimeout request.timeoutMs attempt with
    | .error _ => True
    | .ok none => False
    | .ok (some result) => attempt.cancelledAfter = none ∧ result.error.isSome = true

/-- **What one attempt that reaches the provider does** to the state. -/
structure Attempted (state : AdapterState R) (attempt : Attempt) (invocation : Invocation)
    (next : AdapterState R) : Prop where
  invocations : next.invocations = state.invocations ++ [invocation]
  started : invocation.startedNs = state.nowNs + attempt.waitNs
  ended : invocation.endedNs = invocation.startedNs + attempt.tookNs
  now : next.nowNs = invocation.endedNs
  limiter : next.adapter.rateLimiter = state.adapter.rateLimiter
  breaker : invocation.counted = true ∧
      next.adapter.breaker = state.adapter.breaker.recordFailure invocation.endedNs ∨
    invocation.counted = false ∧ (next.adapter.breaker = state.adapter.breaker ∨
      next.adapter.breaker = state.adapter.breaker.recordSuccess)

namespace AdapterState

variable {state : AdapterState R} {call : ExecuteCall} {capability : ExecutionCapability}
  {remaining attempts : Nat} {lastError : String}

theorem attemptFrom_cancelled {reason : String}
    (cancelled : (call.attempt attempts).cancelledBefore = some reason) :
    (attemptFrom call capability (remaining + 1) attempts lastError state).2 = state := by
  rw [attemptFrom]
  simp only [cancelled]

variable (state call attempts) in
/-- The state in which the provider has answered, before anything is noted. -/
def answered : AdapterState R :=
  (state.wait (call.attempt attempts).waitNs).wait (call.attempt attempts).tookNs

variable (state call capability attempts) in
/-- The invocation that an attempt makes. -/
def invocationOf (counted : Bool) : Invocation := {
  capability
  input := call.request.input
  config := ProviderAdapter.config call.request
  startedNs := (state.wait (call.attempt attempts).waitNs).nowNs
  endedNs := (state.answered call attempts).nowNs
  failed := (failureOf call.request (call.attempt attempts)).isSome
  counted }

variable (state call capability attempts) in
/-- Where the breaker is told of a failure. -/
theorem attempted_counted :
    Attempted state (call.attempt attempts) (state.invocationOf call capability attempts true)
      ((state.answered call attempts).invoked
        (state.invocationOf call capability attempts true)).recordFailure :=
  ⟨rfl, rfl, rfl, rfl, rfl, Or.inl ⟨rfl, rfl⟩⟩

variable (state call capability attempts) in
/-- Where it is told nothing. -/
theorem attempted_hidden :
    Attempted state (call.attempt attempts) (state.invocationOf call capability attempts false)
      ((state.answered call attempts).invoked
        (state.invocationOf call capability attempts false)) :=
  ⟨rfl, rfl, rfl, rfl, rfl, Or.inr ⟨rfl, Or.inl rfl⟩⟩

variable (state call capability attempts) in
/-- Where it is told of a success. -/
theorem attempted_succeeded :
    Attempted state (call.attempt attempts) (state.invocationOf call capability attempts false)
      (((state.answered call attempts).invoked
          (state.invocationOf call capability attempts false)).withBreaker
        ((state.answered call attempts).invoked
          (state.invocationOf call capability attempts false)).adapter.breaker.recordSuccess) :=
  ⟨rfl, rfl, rfl, rfl, rfl, Or.inr ⟨rfl, Or.inr rfl⟩⟩

/-- An attempt that nobody cancels invokes the provider, and then is retried or the last one. -/
theorem attemptFrom_succ (uncancelled : (call.attempt attempts).cancelledBefore = none) :
    ∃ invocation next, Attempted state (call.attempt attempts) invocation next ∧
      ((¬ (call.attempt attempts).Retried call.request ∧
          (attemptFrom call capability (remaining + 1) attempts lastError state).2 = next) ∨
        (call.attempt attempts).Retried call.request ∧ invocation.failed = true ∧
          invocation.counted = true ∧ ∃ error,
            (attemptFrom call capability (remaining + 1) attempts lastError state).2 =
              (attemptFrom call capability remaining (attempts + 1) error next).2) := by
  have recorded := state.attempted_counted call capability attempts
  have hidden := state.attempted_hidden call capability attempts
  have succeeded := state.attempted_succeeded call capability attempts
  rw [attemptFrom]
  simp only [uncancelled]
  generalize outcome : executeWithTimeout call.request.timeoutMs (call.attempt attempts) = answer
  cases answer with
  | error message =>
    refine ⟨_, _, recorded, Or.inr ⟨⟨uncancelled, ?_⟩, ?_, rfl, _, rfl⟩⟩
    · rw [outcome]
      trivial
    · simp [invocationOf, failureOf, outcome]
  | ok answer =>
    cases answer with
    | none =>
      refine ⟨_, _, recorded, Or.inl ⟨fun retried => ?_, rfl⟩⟩
      have impossible := retried.2
      rw [outcome] at impossible
      exact impossible
    | some result =>
      dsimp only
      cases cancelled : (call.attempt attempts).cancelledAfter with
      | some reason =>
        refine ⟨_, _, hidden, Or.inl ⟨fun retried => ?_, rfl⟩⟩
        have impossible := retried.2
        rw [outcome] at impossible
        cases cancelled.symm.trans impossible.1
      | none =>
        dsimp only
        cases failed : result.error with
        | some error =>
          refine ⟨_, _, recorded, Or.inr ⟨⟨uncancelled, ?_⟩, ?_, rfl, _, rfl⟩⟩
          · rw [outcome]
            exact ⟨cancelled, by rw [failed]; rfl⟩
          · simp [invocationOf, failureOf, outcome, failed]
        | none =>
          have unretried : ¬ (call.attempt attempts).Retried call.request := fun retried => by
            have impossible := retried.2
            rw [outcome] at impossible
            cases (congrArg Option.isSome failed).symm.trans impossible.2
          dsimp only
          cases validateStructuredOutput result.output call.request.responseSchema with
          | error raised =>
            exact ⟨_, _, hidden, Or.inl ⟨unretried, rfl⟩⟩
          | ok error =>
            cases error with
            | some error =>
              exact ⟨_, _, recorded, Or.inl ⟨unretried, rfl⟩⟩
            | none =>
              exact ⟨_, _, succeeded, Or.inl ⟨unretried, rfl⟩⟩

/-- **What every attempt keeps**, the attempts of a call keep. -/
theorem attemptFrom_keeps {Keeps : AdapterState R → Prop}
    (attempted : ∀ {before attempt invocation after}, Keeps before →
      Attempted before attempt invocation after → Keeps after) (kept : Keeps state) :
    Keeps (attemptFrom call capability remaining attempts lastError state).2 := by
  induction remaining generalizing attempts lastError state with
  | zero =>
    rw [attemptFrom]
    exact kept
  | succ remaining ih =>
    cases cancelled : (call.attempt attempts).cancelledBefore with
    | some reason =>
      rw [attemptFrom_cancelled cancelled]
      exact kept
    | none =>
      obtain ⟨invocation, next, once, ends⟩ :=
        @attemptFrom_succ R _ state call capability remaining attempts lastError cancelled
      rcases ends with ⟨-, result⟩ | ⟨-, -, -, error, result⟩
      · rw [result]
        exact attempted kept once
      · rw [result]
        exact ih (attempted kept once)

/-- The attempts numbered from `attempts` on, as far as they are made, come no earlier than the
recovery time of a breaker where at least `failures` and those retried make up a streak. -/
def PatientFrom (breaker : CircuitBreaker) (call : ExecuteCall) (attempts remaining failures : Nat) :
    Prop :=
  ∀ number < remaining, (∀ earlier < number,
      (call.attempt (attempts + earlier)).Retried call.request) →
    (call.attempt (attempts + number)).cancelledBefore = none →
      breaker.failureLimit ≤ failures + number →
        breaker.recoveryNs ≤ (call.attempt (attempts + number)).waitNs

/-- The first of the attempts, and then the others. -/
theorem patientFrom_succ {breaker : CircuitBreaker} {failures : Nat}
    (uncancelled : (call.attempt attempts).cancelledBefore = none) :
    PatientFrom breaker call attempts (remaining + 1) failures ↔
      (breaker.failureLimit ≤ failures → breaker.recoveryNs ≤ (call.attempt attempts).waitNs) ∧
        ((call.attempt attempts).Retried call.request →
          PatientFrom breaker call (attempts + 1) remaining (failures + 1)) := by
  unfold PatientFrom
  constructor
  · intro patient
    refine ⟨fun long => patient 0 (Nat.zero_lt_succ _) nofun uncancelled long, ?_⟩
    intro retried number below earlier here long
    have shifted : attempts + 1 + number = attempts + (number + 1) := by omega
    rw [shifted] at here ⊢
    refine patient (number + 1) (Nat.succ_lt_succ below) (fun other before => ?_) here (by omega)
    cases other with
    | zero => exact retried
    | succ other =>
      have reached := earlier other (Nat.lt_of_succ_lt_succ before)
      have same : attempts + 1 + other = attempts + (other + 1) := by omega
      rwa [same] at reached
  · rintro ⟨first, later⟩ number below earlier here long
    cases number with
    | zero => exact first long
    | succ number =>
      have shifted : attempts + (number + 1) = attempts + 1 + number := by omega
      rw [shifted] at here ⊢
      refine later (earlier 0 (Nat.succ_pos _)) number (Nat.lt_of_succ_lt_succ below)
        (fun other before => ?_) here (by omega)
      have same : attempts + 1 + other = attempts + (other + 1) := by omega
      rw [same]
      exact earlier (other + 1) (Nat.succ_lt_succ before)

/-- Nothing follows an attempt that is cancelled. -/
theorem patientFrom_cancelled {breaker : CircuitBreaker} {failures : Nat} {reason : String}
    (cancelled : (call.attempt attempts).cancelledBefore = some reason) :
    PatientFrom breaker call attempts (remaining + 1) failures := by
  intro number _ earlier here _
  cases number with
  | zero => cases cancelled.symm.trans here
  | succ number => cases cancelled.symm.trans (earlier 0 (Nat.succ_pos _)).1

theorem failureLimit_pos (breaker : CircuitBreaker) : 0 < breaker.failureLimit :=
  (CircuitBreaker.failureLimit_le_iff.mp le_rfl).1

/-- **The attempts of one call**, after one that failed just now. -/
theorem attempts_rest_iff (breaker : CircuitBreaker) {last : Invocation}
    (found : state.invocations.getLast? = some last) (now : last.endedNs = state.nowNs) :
    Rested breaker (attemptFrom call capability remaining attempts lastError state).2.invocations ↔
      Rested breaker state.invocations ∧
        PatientFrom breaker call attempts remaining (streak Invocation.failed state.invocations) := by
  induction remaining generalizing attempts lastError state last with
  | zero =>
    rw [attemptFrom]
    exact (and_iff_left fun _ below => absurd below (Nat.not_lt_zero _)).symm
  | succ remaining ih =>
    cases cancelled : (call.attempt attempts).cancelledBefore with
    | some reason =>
      rw [attemptFrom_cancelled cancelled]
      exact (and_iff_left (patientFrom_cancelled cancelled)).symm
    | none =>
      rw [patientFrom_succ cancelled]
      obtain ⟨invocation, next, attempted, ends⟩ :=
        @attemptFrom_succ R _ state call capability remaining attempts lastError cancelled
      -- the law of the invocation that this attempt adds
      have here : Rested breaker next.invocations ↔ Rested breaker state.invocations ∧
          (breaker.failureLimit ≤ streak Invocation.failed state.invocations →
            breaker.recoveryNs ≤ (call.attempt attempts).waitNs) := by
        obtain ⟨before, split⟩ := List.getLast?_eq_some_iff.mp found
        rw [attempted.invocations, Rested, rests_append_singleton, split,
          restsBefore_append_iff (failureLimit_pos breaker), attempted.started, now]
        refine and_congr_right fun _ => imp_congr_right fun _ => ?_
        omega
      rcases ends with ⟨unretried, result⟩ | ⟨retried, failed, -, error, result⟩
      · rw [result, here, and_iff_left (a := _ → _) fun retried => absurd retried unretried]
      · have last : next.invocations.getLast? = some invocation := by
          rw [attempted.invocations, List.getLast?_concat]
        have longer : streak Invocation.failed next.invocations =
            streak Invocation.failed state.invocations + 1 := by
          rw [attempted.invocations, streak_append_failed failed]
        rw [result, ih last attempted.now.symm, here, longer, and_assoc]
        refine and_congr_right fun _ => and_congr_right fun _ => ?_
        exact ⟨fun patient _ => patient, fun patient => patient retried⟩

/-! ### What the breaker keeps -/

/-- **What a breaker with these settings keeps of the invocations**: none of them ends later than
now, and where it has counted enough failures and the last of the invocations is one of them, it is
open since then. -/
structure Accounted (settings : CircuitBreaker) (state : AdapterState R) : Prop where
  same : CircuitBreaker.SameSettings state.adapter.breaker settings
  past : ∀ last, state.invocations.getLast? = some last → last.endedNs ≤ state.nowNs
  opened : ∀ last, state.invocations.getLast? = some last → last.counted = true →
    settings.failureLimit ≤ state.adapter.breaker.consecutiveFailures →
      state.adapter.breaker.openedAtNs = some last.endedNs

variable {settings : CircuitBreaker} {next : AdapterState R}

theorem Accounted.attempted {attempt : Attempt} {invocation : Invocation}
    (accounted : Accounted settings state) (attempted : Attempted state attempt invocation next) :
    Accounted settings next := by
  have last : ∀ other, next.invocations.getLast? = some other → invocation = other :=
    fun other found => by
      rw [attempted.invocations, List.getLast?_concat] at found
      exact Option.some.inj found
  refine ⟨?_, fun other found => ?_, fun other found counted enough => ?_⟩
  · rcases attempted.breaker with ⟨-, same⟩ | ⟨-, same | same⟩
    · rw [same]
      have kept := @CircuitBreaker.sameSettings_recordFailure state.adapter.breaker invocation.endedNs
      exact ⟨kept.1.trans accounted.same.1, kept.2.trans accounted.same.2⟩
    · rw [same]
      exact accounted.same
    · rw [same]
      exact accounted.same
  · rw [← last other found, attempted.now]
  · rw [← last other found] at counted ⊢
    rcases attempted.breaker with ⟨-, same⟩ | ⟨uncounted, -⟩
    · rw [same] at enough ⊢
      refine CircuitBreaker.openedAtNs_recordFailure ?_
      rw [accounted.same.1]
      exact enough
    · cases uncounted.symm.trans counted

/-- **What the checks ahead of the attempts do** to the state. -/
structure Checked (state : AdapterState R) (call : ExecuteCall) (admitted : Bool)
    (next : AdapterState R) : Prop where
  invocations : next.invocations = state.invocations
  later : state.nowNs ≤ next.nowNs
  breaker : next.adapter.breaker = state.adapter.breaker ∨
    next.adapter.breaker = (state.adapter.breaker.allow (state.nowNs + call.idleNs)).2
  now : admitted = true → next.nowNs = state.nowNs + call.idleNs + call.acquireNs
  allowed : admitted = true → (state.adapter.breaker.allow (state.nowNs + call.idleNs)).1 = true

theorem prepare_checked (state : AdapterState R) (call : ExecuteCall) :
    Checked state call (state.prepare call).1.isOk (state.prepare call).2 := by
  unfold prepare
  dsimp only
  cases state.adapter.featureError call.request with
  | some message => exact ⟨rfl, le_rfl, Or.inl rfl, nofun, nofun⟩
  | none =>
    cases call.cancelled with
    | some reason => exact ⟨rfl, le_rfl, Or.inl rfl, nofun, nofun⟩
    | none =>
      have idle : state.nowNs ≤ state.nowNs + call.idleNs := by omega
      have both : state.nowNs ≤ state.nowNs + call.idleNs + call.acquireNs := by omega
      dsimp only
      split
      · rename_i allowed
        split
        · split
          · exact ⟨rfl, both, Or.inr rfl, nofun, nofun⟩
          · split
            · exact ⟨rfl, both, Or.inr rfl, fun _ => rfl, fun _ => allowed⟩
            · exact ⟨rfl, both, Or.inr rfl, nofun, nofun⟩
        · exact ⟨rfl, both, Or.inr rfl, nofun, nofun⟩
      · exact ⟨rfl, idle, Or.inr rfl, nofun, nofun⟩

theorem Accounted.prepare (accounted : Accounted settings state) (call : ExecuteCall) :
    Accounted settings (state.prepare call).2 := by
  have checked := prepare_checked state call
  refine ⟨?_, fun last found => ?_, fun last found counted enough => ?_⟩
  · rcases checked.breaker with same | same
    · rw [same]
      exact accounted.same
    · rw [same]
      have kept := @CircuitBreaker.sameSettings_allow state.adapter.breaker
        (state.nowNs + call.idleNs)
      exact ⟨kept.1.trans accounted.same.1, kept.2.trans accounted.same.2⟩
  · rw [checked.invocations] at found
    exact (accounted.past last found).trans checked.later
  · rw [checked.invocations] at found
    have unchanged : (state.prepare call).2.adapter.breaker = state.adapter.breaker := by
      rcases checked.breaker with same | same
      · exact same
      · rw [same] at enough ⊢
        refine CircuitBreaker.allow_cases.resolve_right fun reset => ?_
        rw [reset] at enough
        exact absurd enough (Nat.not_le_of_lt (failureLimit_pos settings))
    rw [unchanged] at enough ⊢
    exact accounted.opened last found counted enough

/-! ### A call -/

/-- One call, for what it leaves. -/
def step (state : AdapterState R) (call : ExecuteCall) : AdapterState R := (state.execute call).2

/-- **What every attempt keeps**, a call keeps that kept it until the first one. -/
theorem step_keeps {Keeps : AdapterState R → Prop} {state : AdapterState R} {call : ExecuteCall}
    (attempted : ∀ {before attempt invocation after}, Keeps before →
      Attempted before attempt invocation after → Keeps after)
    (prepared : Keeps (state.prepare call).2) : Keeps (state.step call) := by
  unfold step execute
  generalize state.prepare call = outcome at prepared ⊢
  obtain ⟨response | capability, checked⟩ := outcome
  · exact prepared
  · exact attemptFrom_keeps attempted prepared

/-- When the first attempt of a call would invoke the provider. -/
def startsAt (state : AdapterState R) (call : ExecuteCall) : Int :=
  state.nowNs + call.idleNs + call.acquireNs + (call.attempt 0).waitNs

/-- **No retry comes too early**, once the failures of a streak are enough. -/
def NoEarlyRetry (settings : CircuitBreaker) (state : AdapterState R) (call : ExecuteCall) : Prop :=
  (state.prepare call).1.isOk = true → (call.attempt 0).Retried call.request →
    PatientFrom settings call 1 call.request.maxRetries.toNat
      (streak Invocation.failed state.invocations + 1)

/-- **No call comes too early** after a streak of enough failures that the breaker has not all
counted: it has recovered in the meantime, or a cancellation has hidden them. -/
def NoEarlyCall (settings : CircuitBreaker) (state : AdapterState R) (call : ExecuteCall) : Prop :=
  (state.prepare call).1.isOk = true → (call.attempt 0).cancelledBefore = none →
    ∀ last, state.invocations.getLast? = some last →
      settings.failureLimit ≤ streak Invocation.failed state.invocations →
      last.counted = false ∨ state.adapter.breaker.consecutiveFailures < settings.failureLimit →
        last.endedNs + settings.recoveryNs ≤ state.startsAt call

/-- **A call that finds its breaker open starts rested**: the first attempt of a call is early only
after failures that the breaker has not counted. -/
theorem starts_rested (accounted : Accounted settings state)
    (admitted : (state.prepare call).1.isOk = true) {last : Invocation}
    (found : state.invocations.getLast? = some last) (counted : last.counted = true)
    (enough : settings.failureLimit ≤ state.adapter.breaker.consecutiveFailures) :
    last.endedNs + settings.recoveryNs ≤ state.startsAt call := by
  have opened := accounted.opened last found counted enough
  have rested := CircuitBreaker.rested_of_allow opened ((prepare_checked state call).allowed admitted)
  rw [accounted.same.2] at rested
  unfold startsAt
  omega

/-- The law of the first invocation of a call. -/
theorem first_rests_iff (accounted : Accounted settings state)
    (admitted : (state.prepare call).1.isOk = true)
    (uncancelled : (call.attempt 0).cancelledBefore = none) {invocation : Invocation}
    (started : invocation.startedNs = state.startsAt call) :
    RestsBefore Invocation.failed Invocation.startedNs Invocation.endedNs settings.failureLimit
        settings.recoveryNs state.invocations invocation ↔ NoEarlyCall settings state call := by
  unfold NoEarlyCall
  rw [forall_prop_of_true admitted, forall_prop_of_true uncancelled]
  rcases List.eq_nil_or_concat state.invocations with none | ⟨before, last, split⟩
  · rw [none]
    exact iff_of_true restsBefore_nil nofun
  · rw [List.concat_eq_append] at split
    have found : state.invocations.getLast? = some last := by rw [split, List.getLast?_concat]
    rw [split, restsBefore_append_iff (failureLimit_pos settings), started, ← split]
    constructor
    · intro rests other same long _
      cases found.symm.trans same
      exact rests long
    · intro patient long
      by_cases counted : last.counted = true ∧
          settings.failureLimit ≤ state.adapter.breaker.consecutiveFailures
      · exact starts_rested accounted admitted found counted.1 counted.2
      · refine patient last found long ?_
        rw [not_and_or, Bool.not_eq_true, Nat.not_le] at counted
        exact counted

theorem accounted_step (accounted : Accounted settings state) (call : ExecuteCall) :
    Accounted settings (state.step call) :=
  step_keeps Accounted.attempted (accounted.prepare call)

/-- **One call.** -/
theorem execute_rests_iff (accounted : Accounted settings state) (call : ExecuteCall) :
    Rested settings (state.step call).invocations ↔ Rested settings state.invocations ∧
      NoEarlyCall settings state call ∧ NoEarlyRetry settings state call := by
  have checked := prepare_checked state call
  cases outcome : state.prepare call with
  | mk result next =>
    rw [outcome] at checked
    cases result with
    | error response =>
      have refused : (state.prepare call).1.isOk = false := by rw [outcome]; rfl
      have left : state.step call = next := by rw [step, execute, outcome]
      rw [left, checked.invocations]
      refine (and_iff_left ⟨fun admitted => ?_, fun admitted => ?_⟩).symm
      · cases refused.symm.trans admitted
      · cases refused.symm.trans admitted
    | ok capability =>
      have admitted : (state.prepare call).1.isOk = true := by rw [outcome]; rfl
      have left : state.step call = (attemptFrom call capability (call.request.maxRetries.toNat + 1)
          0 "provider execution failed" next).2 := by rw [step, execute, outcome]
      rw [left]
      cases cancelled : (call.attempt 0).cancelledBefore with
      | some reason =>
        rw [attemptFrom_cancelled cancelled, checked.invocations]
        refine (and_iff_left ⟨fun _ uncancelled => ?_, fun _ retried => ?_⟩).symm
        · cases cancelled.symm.trans uncancelled
        · cases cancelled.symm.trans retried.1
      | none =>
        obtain ⟨invocation, after, attempted, ends⟩ :=
          @attemptFrom_succ R _ next call capability call.request.maxRetries.toNat 0
            "provider execution failed" cancelled
        have started : invocation.startedNs = state.startsAt call := by
          rw [attempted.started, checked.now rfl, startsAt]
        have here : Rested settings after.invocations ↔
            Rested settings state.invocations ∧ NoEarlyCall settings state call := by
          rw [attempted.invocations, Rested, rests_append_singleton, checked.invocations,
            first_rests_iff accounted admitted cancelled started]
        rcases ends with ⟨unretried, result⟩ | ⟨retried, failed, -, error, result⟩
        · rw [result, here, ← and_assoc]
          exact (and_iff_left fun _ retried => absurd retried unretried).symm
        · have last : after.invocations.getLast? = some invocation := by
            rw [attempted.invocations, List.getLast?_concat]
          have longer : streak Invocation.failed after.invocations =
              streak Invocation.failed state.invocations + 1 := by
            rw [attempted.invocations, streak_append_failed failed, checked.invocations]
          rw [result, attempts_rest_iff settings last attempted.now.symm, here, longer, and_assoc]
          refine and_congr_right fun _ => and_congr_right fun _ => ?_
          exact ⟨fun patient _ _ => patient, fun patient => patient admitted retried⟩

/-! ### Runs -/

/-- An adapter with a new breaker, before its first call. -/
def opened (supports : ExecutionCapability → Bool) (card : AdapterCard R)
    (failureThreshold recoveryTimeoutMs : Int) (rateLimiter : Option RateLimiter) (nowNs : Int) :
    AdapterState R where
  adapter := { supports, card, breaker := { failureThreshold, recoveryTimeoutMs }, rateLimiter }
  nowNs

end AdapterState

open AdapterState in
/-- **When the provider rests.** In every run of calls on an adapter with a new breaker, whatever
the requests, the cancellations, the times and the answers: the provider rests after as many failures
in a row as open the breaker exactly when no retry comes too early, and no call does that finds a
breaker without the failures. -/
theorem providerRests_iff (supports : ExecutionCapability → Bool) (card : AdapterCard R)
    (failureThreshold recoveryTimeoutMs : Int) (rateLimiter : Option RateLimiter) (nowNs : Int)
    (calls : List ExecuteCall) :
    let start := opened supports card failureThreshold recoveryTimeoutMs rateLimiter nowNs
    ProviderRests start.adapter.breaker (run step start calls).invocations ↔
      ∀ entry ∈ trace step start calls,
        NoEarlyCall start.adapter.breaker entry.1 entry.2 ∧
          NoEarlyRetry start.adapter.breaker entry.1 entry.2 := by
  intro start
  have accounted : Accounted start.adapter.breaker start := ⟨⟨rfl, rfl⟩, nofun, nofun⟩
  have along := run_iff_of_step_under
    (Q := fun state : AdapterState R => Rested start.adapter.breaker state.invocations)
    (C := fun entry => NoEarlyCall start.adapter.breaker entry.1 entry.2 ∧
      NoEarlyRetry start.adapter.breaker entry.1 entry.2)
    (fun _ call accounted => accounted_step accounted call)
    (fun _ call accounted => execute_rests_iff accounted call) accounted calls
  rw [providerRests_iff_rested, along]
  exact and_iff_right rests_nil

end Runs

/-! ### A fourth attempt -/

namespace Sample

/-- A card without features. -/
def card : AdapterCard Rat where
  capabilityId := "capability"
  name := "reasoning"
  providerId := "provider"
  providerVersion := "1"
  modelId := "model"
  supportedActions := {.reason}
  riskLimit := .low
  valid := by decide +kernel

/-- A request with three retries, of a provider that raises at once whenever it is asked. -/
def failing : ExecuteCall where
  request := {
    requestId := "request"
    actionType := .reason
    input := .str "input"
    maxRetries := 3
    valid := by decide }
  attempt _ := { answer := .error "unavailable" }

/-- What such a provider is asked. -/
def failedInvocation : Invocation where
  capability := .reasoning
  input := .str "input"
  config := []
  startedNs := 0
  endedNs := 0
  failed := true
  counted := true

end Sample

/-- The third failure opens the breaker, and the call invokes the provider a fourth time. -/
theorem retried_while_open : ¬ ∀ (supports : ExecutionCapability → Bool) (card : AdapterCard Rat)
    (failureThreshold recoveryTimeoutMs : Int) (rateLimiter : Option RateLimiter) (nowNs : Int)
    (calls : List ExecuteCall),
    let start := AdapterState.opened supports card failureThreshold recoveryTimeoutMs rateLimiter nowNs
    ProviderRests start.adapter.breaker (run AdapterState.step start calls).invocations := by
  intro always
  have rests := always (fun _ => true) Sample.card 3 30000 none 0 [Sample.failing]
  have four : (run AdapterState.step (AdapterState.opened (fun _ => true) Sample.card 3 30000 none 0)
      [Sample.failing]).invocations = List.replicate 4 Sample.failedInvocation := rfl
  have early := rests [] (List.replicate 2 Sample.failedInvocation) Sample.failedInvocation
    Sample.failedInvocation [] four (by decide) (by decide)
  revert early
  decide

end Dnc.Capabilities
