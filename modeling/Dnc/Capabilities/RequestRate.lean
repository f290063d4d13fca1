/-
**How often a provider is asked, in any minute.**

The rate limiter of an adapter counts the calls of a window, which it starts anew at the first call
after a minute, and is asked once for each call. So it counts neither the retries of a call, nor what
the provider was asked in the last minute before the window.

* `attempts_atMost_iff`: the attempts of one call.
* `execute_atMost_iff`: one call; a call that the limiter lets through is within the limit where the
  limiter has counted what is recent (`counted_lt_of_acquired`).
* `ratesProvider_iff`: the provider is asked at most as often as the limiter says, in any minute of a
  run, exactly when no retry and no call exceeds the limit that finds recent invocations the limiter
  has not counted.
-/

import Dnc.Capabilities.ProviderRest
import Dnc.Logic.Window

namespace Dnc.Capabilities

open PyLib Logic

/-- A minute, in nanoseconds. -/
def minuteNs : Int := 60000000000

/-- **In any minute the provider is invoked at most so many times.** -/
def WithinRate (requestsPerMinute : Int) (invocations : List Invocation) : Prop :=
  AtMost requestsPerMinute.toNat minuteNs (invocations.map Invocation.startedNs)

namespace RateLimiter

/-- The requests that a call at a reading of the clock is counted with. -/
def counted (limiter : RateLimiter) (nowNs : Int) : Int :=
  if minuteNs ≤ nowNs - limiter.windowStartedNs then 0 else limiter.requests

variable {limiter : RateLimiter} {nowNs : Int}

theorem requestsPerMinute_acquire :
    (limiter.acquire nowNs).2.requestsPerMinute = limiter.requestsPerMinute := by
  unfold acquire
  dsimp only
  split_ifs <;> rfl

/-- A limiter lets a call through while it has counted fewer than its limit. -/
theorem counted_lt_of_acquired (acquired : (limiter.acquire nowNs).1 = true) :
    0 < limiter.requestsPerMinute ∧ limiter.counted nowNs < limiter.requestsPerMinute := by
  unfold acquire at acquired
  unfold counted minuteNs
  dsimp only at acquired
  split_ifs at acquired ⊢ <;> simp_all

end RateLimiter

section Attempts

/-- When the attempt comes that has this number behind the first one, if all before it are made. -/
def attemptStart (call : ExecuteCall) : Nat → Int → Nat → Int
  | first, nowNs, 0 => nowNs + (call.attempt first).waitNs
  | first, nowNs, number + 1 =>
    attemptStart call (first + 1)
      (nowNs + (call.attempt first).waitNs + (call.attempt first).tookNs) number

/-- **The attempts from the first on fit**: each that is made finds fewer than `limit` invocations
in the last minute, among those at the times so far and at its predecessors'. -/
def AttemptsFit (limit : Nat) (call : ExecuteCall) (first remaining : Nat) (nowNs : Int)
    (times : List Int) : Prop :=
  ∀ number < remaining, (∀ earlier < number,
      (call.attempt (first + earlier)).Retried call.request) →
    (call.attempt (first + number)).cancelledBefore = none →
      recent minuteNs (times ++ (List.range number).map (attemptStart call first nowNs))
        (attemptStart call first nowNs number) < limit

variable {limit : Nat} {call : ExecuteCall} {first remaining : Nat} {nowNs : Int}
  {times : List Int}

/-- The first of the attempts, and then the others. -/
theorem attemptsFit_succ (uncancelled : (call.attempt first).cancelledBefore = none) :
    AttemptsFit limit call first (remaining + 1) nowNs times ↔
      recent minuteNs times (nowNs + (call.attempt first).waitNs) < limit ∧
        ((call.attempt first).Retried call.request →
          AttemptsFit limit call (first + 1) remaining
            (nowNs + (call.attempt first).waitNs + (call.attempt first).tookNs)
            (times ++ [nowNs + (call.attempt first).waitNs])) := by
  have shifted (number : Nat) : first + 1 + number = first + (number + 1) := by omega
  -- the times of an attempt after the first, seen from the first
  have starts (number : Nat) :
      times ++ (List.range (number + 1)).map (attemptStart call first nowNs) =
        times ++ [nowNs + (call.attempt first).waitNs] ++ (List.range number).map
          (attemptStart call (first + 1)
            (nowNs + (call.attempt first).waitNs + (call.attempt first).tookNs)) := by
    rw [List.range_succ_eq_map, List.map_cons, List.map_map, List.append_assoc]
    rfl
  unfold AttemptsFit
  constructor
  · intro fits
    constructor
    · have here := fits 0 (Nat.zero_lt_succ _) nofun uncancelled
      rwa [List.range_zero, List.map_nil, List.append_nil] at here
    · intro retried number below earlier here
      rw [shifted] at here
      have later := fits (number + 1) (Nat.succ_lt_succ below) (fun other before => ?_) here
      · rwa [starts] at later
      · cases other with
        | zero => exact retried
        | succ other =>
          have reached := earlier other (Nat.lt_of_succ_lt_succ before)
          rwa [shifted] at reached
  · rintro ⟨here, later⟩ number below earlier reached
    cases number with
    | zero =>
      rw [List.range_zero, List.map_nil, List.append_nil]
      exact here
    | succ number =>
      rw [starts]
      refine later (earlier 0 (Nat.succ_pos _)) number (Nat.lt_of_succ_lt_succ below)
        (fun other before => ?_) (by rwa [shifted])
      rw [shifted]
      exact earlier (other + 1) (Nat.succ_lt_succ before)

/-- Nothing follows an attempt that is cancelled. -/
theorem attemptsFit_cancelled {reason : String}
    (cancelled : (call.attempt first).cancelledBefore = some reason) :
    AttemptsFit limit call first remaining nowNs times := by
  intro number _ earlier here
  cases number with
  | zero => cases cancelled.symm.trans here
  | succ number => cases cancelled.symm.trans (earlier 0 (Nat.succ_pos _)).1

end Attempts

section Runs

variable {R : Type} [PyFloat R]

namespace AdapterState

/-- When the provider was invoked. -/
def startTimes (state : AdapterState R) : List Int := state.invocations.map Invocation.startedNs

/-- No invocation started later than now. -/
def Past (state : AdapterState R) : Prop := ∀ time ∈ state.startTimes, time ≤ state.nowNs

variable {state next : AdapterState R} {call : ExecuteCall} {capability : ExecutionCapability}
  {remaining attempts limit : Nat} {lastError : String} {attempt : Attempt}
  {invocation : Invocation}

theorem startTimes_attempted (attempted : Attempted state attempt invocation next) :
    next.startTimes = state.startTimes ++ [state.nowNs + attempt.waitNs] := by
  rw [startTimes, attempted.invocations, List.map_append, List.map_singleton, attempted.started]
  rfl

theorem nowNs_attempted (attempted : Attempted state attempt invocation next) :
    next.nowNs = state.nowNs + attempt.waitNs + attempt.tookNs := by
  rw [attempted.now, attempted.ended, attempted.started]

theorem Past.attempted (past : state.Past) (attempted : Attempted state attempt invocation next) :
    next.Past := by
  intro time member
  rw [startTimes_attempted attempted] at member
  rw [nowNs_attempted attempted]
  rcases List.mem_append.mp member with earlier | last
  · have before := past time earlier
    omega
  · rw [List.mem_singleton.mp last]
    omega

/-- One more invocation, some time from now. -/
theorem atMost_attempted_iff (past : state.Past)
    (attempted : Attempted state attempt invocation next) :
    AtMost limit minuteNs next.startTimes ↔ AtMost limit minuteNs state.startTimes ∧
      recent minuteNs state.startTimes (state.nowNs + attempt.waitNs) < limit := by
  rw [startTimes_attempted attempted]
  refine atMost_append_iff (by decide) fun time member => ?_
  have before := past time member
  omega

/-- **The attempts of one call.** -/
theorem attempts_atMost_iff (past : state.Past) :
    AtMost limit minuteNs
        (attemptFrom call capability remaining attempts lastError state).2.startTimes ↔
      AtMost limit minuteNs state.startTimes ∧
        AttemptsFit limit call attempts remaining state.nowNs state.startTimes := by
  induction remaining generalizing attempts lastError state with
  | zero =>
    rw [attemptFrom]
    exact (and_iff_left fun _ below => absurd below (Nat.not_lt_zero _)).symm
  | succ remaining ih =>
    cases cancelled : (call.attempt attempts).cancelledBefore with
    | some reason =>
      rw [attemptFrom_cancelled cancelled]
      exact (and_iff_left (attemptsFit_cancelled cancelled)).symm
    | none =>
      rw [attemptsFit_succ cancelled, ← and_assoc]
      obtain ⟨invocation, next, attempted, ends⟩ :=
        @attemptFrom_succ R _ state call capability remaining attempts lastError cancelled
      have here := @atMost_attempted_iff R _ state next limit _ _ past attempted
      rcases ends with ⟨unretried, result⟩ | ⟨retried, -, -, error, result⟩
      · rw [result, here]
        exact (and_iff_left fun retried => absurd retried unretried).symm
      · rw [result, ih (past.attempted attempted), here, startTimes_attempted attempted,
          nowNs_attempted attempted, forall_prop_of_true retried]

/-! ### A call -/

/-- **What a state of a run keeps**: the invocations are past, and the limiter has its limit. -/
structure Limited (requestsPerMinute : Int) (state : AdapterState R) : Prop where
  past : state.Past
  limiter : ∃ limiter, state.adapter.rateLimiter = some limiter ∧
    limiter.requestsPerMinute = requestsPerMinute

/-- The limiter after the checks ahead of the attempts, and that it has let the call through. -/
theorem prepare_limiter {limiter : RateLimiter}
    (found : state.adapter.rateLimiter = some limiter) (call : ExecuteCall) :
    (∃ after, (state.prepare call).2.adapter.rateLimiter = some after ∧
      after.requestsPerMinute = limiter.requestsPerMinute) ∧
    ((state.prepare call).1.isOk = true →
      (limiter.acquire (state.nowNs + call.idleNs + call.acquireNs)).1 = true) := by
  have asked (nowNs : Int) : acquire state.adapter.rateLimiter nowNs =
      ((limiter.acquire nowNs).1, some (limiter.acquire nowNs).2) := by rw [found]; rfl
  have kept (nowNs : Int) : ∃ after, (acquire state.adapter.rateLimiter nowNs).2 = some after ∧
      after.requestsPerMinute = limiter.requestsPerMinute := by
    rw [asked]
    exact ⟨_, rfl, RateLimiter.requestsPerMinute_acquire⟩
  have granted {nowNs : Int} (acquired : (acquire state.adapter.rateLimiter nowNs).1 = true) :
      (limiter.acquire nowNs).1 = true := by
    rwa [asked] at acquired
  have same : ∃ after, state.adapter.rateLimiter = some after ∧
      after.requestsPerMinute = limiter.requestsPerMinute := ⟨limiter, found, rfl⟩
  unfold prepare
  dsimp only
  cases state.adapter.featureError call.request with
  | some message => exact ⟨same, nofun⟩
  | none =>
    cases call.cancelled with
    | some reason => exact ⟨same, nofun⟩
    | none =>
      dsimp only
      split
      · split
        · rename_i acquired
          split
          · exact ⟨kept _, nofun⟩
          · split
            · exact ⟨kept _, fun _ => granted acquired⟩
            · exact ⟨kept _, nofun⟩
        · exact ⟨kept _, nofun⟩
      · exact ⟨same, nofun⟩

/-- **No retry exceeds the limit**: of the attempts behind the first, which the limiter does not
count, each that is made finds fewer invocations in the last minute. -/
def NoUncountedRetry (requestsPerMinute : Int) (state : AdapterState R) (call : ExecuteCall) : Prop :=
  (state.prepare call).1.isOk = true → (call.attempt 0).Retried call.request →
    AttemptsFit requestsPerMinute.toNat call 1 call.request.maxRetries.toNat
      (state.startsAt call + (call.attempt 0).tookNs)
      (state.startTimes ++ [state.startsAt call])

/-- **No call exceeds the limit** where more invocations are recent than the limiter counts in its
window: retries, and those from before the window. -/
def NoUncountedCall (requestsPerMinute : Int) (state : AdapterState R) (call : ExecuteCall) : Prop :=
  (state.prepare call).1.isOk = true → (call.attempt 0).cancelledBefore = none →
    ∀ limiter, state.adapter.rateLimiter = some limiter →
      limiter.counted (state.nowNs + call.idleNs + call.acquireNs) <
        recent minuteNs state.startTimes (state.startsAt call) →
      recent minuteNs state.startTimes (state.startsAt call) < requestsPerMinute.toNat

variable {requestsPerMinute : Int}

/-- Where the limiter has counted what is recent, a call that it lets through is within the limit. -/
theorem recent_lt_iff (limited : Limited requestsPerMinute state)
    (admitted : (state.prepare call).1.isOk = true)
    (uncancelled : (call.attempt 0).cancelledBefore = none) :
    recent minuteNs state.startTimes (state.startsAt call) < requestsPerMinute.toNat ↔
      NoUncountedCall requestsPerMinute state call := by
  obtain ⟨limiter, found, limit⟩ := limited.limiter
  have counted := RateLimiter.counted_lt_of_acquired ((prepare_limiter found call).2 admitted)
  rw [limit] at counted
  constructor
  · exact fun few _ _ _ _ _ => few
  · intro counts
    by_cases uncounted : limiter.counted (state.nowNs + call.idleNs + call.acquireNs) <
        recent minuteNs state.startTimes (state.startsAt call)
    · exact counts admitted uncancelled limiter found uncounted
    · omega

theorem Limited.prepare (limited : Limited requestsPerMinute state) (call : ExecuteCall) :
    Limited requestsPerMinute (state.prepare call).2 := by
  obtain ⟨limiter, found, limit⟩ := limited.limiter
  obtain ⟨⟨after, kept, same⟩, -⟩ := prepare_limiter found call
  have checked := prepare_checked state call
  refine ⟨fun time member => ?_, after, kept, same.trans limit⟩
  rw [startTimes, checked.invocations] at member
  exact (limited.past time member).trans checked.later

theorem Limited.attempted (limited : Limited requestsPerMinute state)
    (attempted : Attempted state attempt invocation next) : Limited requestsPerMinute next := by
  refine ⟨limited.past.attempted attempted, ?_⟩
  rw [attempted.limiter]
  exact limited.limiter

theorem limited_step (limited : Limited requestsPerMinute state) (call : ExecuteCall) :
    Limited requestsPerMinute (state.step call) :=
  step_keeps Limited.attempted (limited.prepare call)

/-- **One call.** -/
theorem execute_atMost_iff (limited : Limited requestsPerMinute state) (call : ExecuteCall) :
    AtMost requestsPerMinute.toNat minuteNs (state.step call).startTimes ↔
      AtMost requestsPerMinute.toNat minuteNs state.startTimes ∧
        NoUncountedCall requestsPerMinute state call ∧
          NoUncountedRetry requestsPerMinute state call := by
  have checked := prepare_checked state call
  have prepared := limited.prepare call
  cases outcome : state.prepare call with
  | mk result next =>
    rw [outcome] at checked prepared
    have same : next.startTimes = state.startTimes := by rw [startTimes, checked.invocations]; rfl
    cases result with
    | error response =>
      have refused : (state.prepare call).1.isOk = false := by rw [outcome]; rfl
      have left : state.step call = next := by rw [step, execute, outcome]
      rw [left, same]
      refine (and_iff_left ⟨fun admitted => ?_, fun admitted => ?_⟩).symm
      · cases refused.symm.trans admitted
      · cases refused.symm.trans admitted
    | ok capability =>
      have admitted : (state.prepare call).1.isOk = true := by rw [outcome]; rfl
      have left : state.step call = (AdapterState.attemptFrom call capability
          (call.request.maxRetries.toNat + 1) 0 "provider execution failed" next).2 := by
        rw [step, execute, outcome]
      have now : next.nowNs + (call.attempt 0).waitNs = state.startsAt call := by
        rw [checked.now rfl, startsAt]
      rw [left, attempts_atMost_iff prepared.past, same]
      refine and_congr_right fun _ => ?_
      cases cancelled : (call.attempt 0).cancelledBefore with
      | some reason =>
        refine iff_of_true (attemptsFit_cancelled cancelled) ⟨fun _ uncancelled => ?_,
          fun _ retried => ?_⟩
        · cases cancelled.symm.trans uncancelled
        · cases cancelled.symm.trans retried.1
      | none =>
        rw [attemptsFit_succ cancelled, now, recent_lt_iff limited admitted cancelled,
          NoUncountedRetry, forall_prop_of_true admitted]

end AdapterState

open AdapterState in
/-- **When a provider is asked within the rate.** In every run of calls on an adapter with a new rate
limiter, whatever the requests, the cancellations, the times and the answers: the provider is invoked
at most as often as the limiter says, in any minute, exactly when no retry and no call exceeds the
limit that finds recent invocations the limiter has not counted. -/
theorem ratesProvider_iff (supports : ExecutionCapability → Bool) (card : AdapterCard R)
    (failureThreshold recoveryTimeoutMs requestsPerMinute windowStartedNs nowNs : Int)
    (calls : List ExecuteCall) :
    let start := opened supports card failureThreshold recoveryTimeoutMs
      (some { requestsPerMinute, windowStartedNs }) nowNs
    WithinRate requestsPerMinute (run step start calls).invocations ↔
      ∀ entry ∈ trace step start calls,
        NoUncountedCall requestsPerMinute entry.1 entry.2 ∧
          NoUncountedRetry requestsPerMinute entry.1 entry.2 := by
  intro start
  have limited : Limited requestsPerMinute start := ⟨nofun, _, rfl, rfl⟩
  have along := run_iff_of_step_under
    (Q := fun state : AdapterState R =>
      AtMost requestsPerMinute.toNat minuteNs state.startTimes)
    (C := fun entry => NoUncountedCall requestsPerMinute entry.1 entry.2 ∧
      NoUncountedRetry requestsPerMinute entry.1 entry.2)
    (fun _ call limited => limited_step limited call)
    (fun _ call limited => execute_atMost_iff limited call) limited calls
  exact along.trans (and_iff_right atMost_nil)

end Runs

/-! ### A retry that is not counted -/

/-- One call a minute is allowed, and one call asks the provider four times at once. -/
theorem retried_over_rate : ¬ ∀ (supports : ExecutionCapability → Bool) (card : AdapterCard Rat)
    (failureThreshold recoveryTimeoutMs requestsPerMinute windowStartedNs nowNs : Int)
    (calls : List ExecuteCall),
    WithinRate requestsPerMinute (run AdapterState.step
      (AdapterState.opened supports card failureThreshold recoveryTimeoutMs
        (some { requestsPerMinute, windowStartedNs }) nowNs) calls).invocations := by
  intro always
  have within := always (fun _ => true) Sample.card 3 30000 1 0 0 [Sample.failing] 0
  revert within
  decide +kernel

end Dnc.Capabilities
