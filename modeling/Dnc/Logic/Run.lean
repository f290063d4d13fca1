/-
**Runs of a state machine.**

A machine is a total step function; a call that fails is a step too. `run` is the state after a list
of calls and `trace` lists every call with the state that it finds. A state is reachable when a run
leads to it, so a Q about the end of every run is a Q about every reachable state.

The rules:

* `run_invariant`: what every step keeps, every run keeps; the steps may be restricted to the
  entries of the trace (`run_invariant_of_trace`).
* `run_along`: the same for an invariant that also speaks of the calls made so far, and
  `run_observes` for one that speaks of what they have shown.
* `run_remembers`: what one call of the run established and no later call undoes holds at the end.
* `trace_law_iff`: a law of steps that amounts to a condition on them, under an invariant that the
  condition keeps, holds along a run exactly when the condition does.
* `forall_reached_iff`: a property of every state passed through, call by call;
  `run_iff_of_step`: a property that a step keeps exactly under a condition on it.
* `trace_pairwise`: where a measure never falls, and rises at the marked calls, it orders the
  marked calls strictly.
* `stored_iff`: what a run finds in one slot of the state was put there by a call that found the slot
  empty, and has been through the calls behind it. `written_iff`: where calls overwrite the slot, it
  has what the last call that wrote it has written.
* `run_filter_related`: calls that a relation of states does not see can be left out.
* `foldlM_related`: two partial runs over the same calls that agree step by step agree as a whole;
  `foldlM_invariant` and `foldlM_through` are the rules for one partial run.

A step of a loop either goes on to a next state or leaves off with a result. `whileWithin` runs at
most the given number of steps and returns nothing where they are not enough, so that a loop ends
where some number of them is. `whileWithin_eq` is the rule of total correctness: a measure that
every step lowers bounds the steps, and what no step changes is the result.
-/

import Mathlib.Data.List.Basic
import Mathlib.Data.List.Induction
import Mathlib.Order.Defs.PartialOrder
import Mathlib.Tactic.TypeStar

namespace Logic

section Run

variable {σ α : Type} (step : σ → α → σ)

/-- The state after the calls. -/
def run (start : σ) (calls : List α) : σ := calls.foldl step start

/-- The calls, each with the state it finds. -/
def trace : σ → List α → List (σ × α)
  | _, [] => []
  | start, call :: rest => (start, call) :: trace (step start call) rest

@[simp] theorem run_nil (start : σ) : run step start [] = start := rfl

@[simp] theorem run_cons (start : σ) (call : α) (rest : List α) :
    run step start (call :: rest) = run step (step start call) rest := rfl

theorem run_append (start : σ) (first second : List α) :
    run step start (first ++ second) = run step (run step start first) second :=
  List.foldl_append

@[simp] theorem trace_nil (start : σ) : trace step start ([] : List α) = [] := rfl

@[simp] theorem trace_cons (start : σ) (call : α) (rest : List α) :
    trace step start (call :: rest) = (start, call) :: trace step (step start call) rest := rfl

theorem length_trace (start : σ) (calls : List α) :
    (trace step start calls).length = calls.length := by
  induction calls generalizing start with
  | nil => rfl
  | cons call rest ih => rw [trace_cons, List.length_cons, List.length_cons, ih]

theorem trace_append (start : σ) (first second : List α) :
    trace step start (first ++ second) =
      trace step start first ++ trace step (run step start first) second := by
  induction first generalizing start with
  | nil => rfl
  | cons call rest ih =>
    show (start, call) :: trace step (step start call) (rest ++ second) = _
    rw [ih]
    rfl

/-- An entry of the trace splits the run at its call. -/
theorem mem_trace {start : σ} {calls : List α} {entry : σ × α}
    (member : entry ∈ trace step start calls) :
    ∃ before after, calls = before ++ entry.2 :: after ∧ entry.1 = run step start before := by
  induction calls generalizing start with
  | nil => exact absurd member List.not_mem_nil
  | cons call rest ih =>
    rw [trace_cons] at member
    rcases List.mem_cons.mp member with here | later
    · rw [here]
      exact ⟨[], rest, rfl, rfl⟩
    · obtain ⟨before, after, split, state⟩ := ih later
      refine ⟨call :: before, after, ?_, state⟩
      rw [split]
      rfl

variable {step}

theorem run_invariant_of_trace {P : σ → Prop} {start : σ} {calls : List α} (holds : P start)
    (kept : ∀ entry ∈ trace step start calls, P entry.1 → P (step entry.1 entry.2)) :
    P (run step start calls) := by
  induction calls generalizing start with
  | nil => exact holds
  | cons call rest ih =>
    refine ih (kept (start, call) List.mem_cons_self holds) fun entry member => ?_
    exact kept entry (List.mem_cons_of_mem _ member)

theorem run_invariant {P : σ → Prop} (kept : ∀ state call, P state → P (step state call))
    {start : σ} (holds : P start) (calls : List α) : P (run step start calls) :=
  run_invariant_of_trace holds fun entry _ => kept entry.1 entry.2

/-- An invariant of the state and of the calls that led to it. -/
theorem run_along {P : List α → σ → Prop} {start : σ} (holds : P [] start)
    (kept : ∀ before call, P before (run step start before) →
      P (before ++ [call]) (step (run step start before) call)) (calls : List α) :
    P calls (run step start calls) := by
  induction calls using List.reverseRecOn with
  | nil => exact holds
  | append_singleton before call ih =>
    rw [run_append]
    exact kept before call ih

/-- A stretch of a run is a run, from the state it starts in. -/
theorem mem_trace_middle {start : σ} {before after rest : List α} {entry : σ × α}
    (member : entry ∈ trace step (run step start before) after) :
    entry ∈ trace step start (before ++ after ++ rest) := by
  rw [trace_append, trace_append]
  exact List.mem_append_left _ (List.mem_append_right _ member)

/-- **Laws of steps and their conditions.** Where, under an invariant, the law of a step amounts to
a condition that keeps the invariant, the law holds at every step of a run exactly when the
condition does. -/
theorem trace_law_iff {P : σ → Prop} {L C : σ × α → Prop} {start : σ} {calls : List α}
    (holds : P start) (kept : ∀ state call, P state → C (state, call) → P (step state call))
    (law : ∀ state call, P state → (L (state, call) ↔ C (state, call))) :
    (∀ entry ∈ trace step start calls, L entry) ↔ ∀ entry ∈ trace step start calls, C entry := by
  induction calls generalizing start with
  | nil => exact ⟨fun _ _ member => absurd member List.not_mem_nil,
      fun _ _ member => absurd member List.not_mem_nil⟩
  | cons call rest ih =>
    rw [trace_cons, List.forall_mem_cons, List.forall_mem_cons, law start call holds]
    exact and_congr_right fun condition => ih (kept start call holds condition)

/-- A property of every state that a run passes through is one of its first state and of the state
after each call. -/
theorem forall_reached_iff {P : σ → Prop} {start : σ} {calls : List α} :
    (∀ before after, calls = before ++ after → P (run step start before)) ↔
      P start ∧ ∀ entry ∈ trace step start calls, P (step entry.1 entry.2) := by
  constructor
  · intro reached
    refine ⟨reached [] calls rfl, fun entry member => ?_⟩
    obtain ⟨before, after, split, state⟩ := mem_trace step member
    have here := reached (before ++ [entry.2]) after (by rw [split, List.append_assoc]; rfl)
    rwa [run_append, ← state] at here
  · rintro ⟨first, later⟩ before after rfl
    rcases List.eq_nil_or_concat before with rfl | ⟨earlier, call, rfl⟩
    · exact first
    · have listed : (run step start earlier, call) ∈
          trace step start (earlier.concat call ++ after) := by
        rw [List.concat_eq_append, List.append_assoc, trace_append]
        exact List.mem_append_right _ List.mem_cons_self
      have here := later _ listed
      rw [List.concat_eq_append, run_append]
      exact here

/-- A property that a step keeps exactly under a condition, as long as an invariant holds, is there
at the end of a run exactly when it is there at the start and every step meets the condition. -/
theorem run_iff_of_step_under {P Q : σ → Prop} {C : σ × α → Prop}
    (invariant : ∀ state call, P state → P (step state call))
    (kept : ∀ state call, P state → (Q (step state call) ↔ Q state ∧ C (state, call))) {start : σ}
    (holds : P start) (calls : List α) :
    Q (run step start calls) ↔ Q start ∧ ∀ entry ∈ trace step start calls, C entry := by
  induction calls generalizing start with
  | nil => exact ⟨fun holds => ⟨holds, fun _ member => absurd member List.not_mem_nil⟩, And.left⟩
  | cons call rest ih =>
    rw [run_cons, ih (invariant start call holds), kept start call holds, trace_cons,
      List.forall_mem_cons, and_assoc]

/-- A property that a step keeps exactly under a condition holds at the end of a run exactly when it
holds at the start and every step meets the condition. -/
theorem run_iff_of_step {P : σ → Prop} {C : σ × α → Prop}
    (kept : ∀ state call, P (step state call) ↔ P state ∧ C (state, call)) (start : σ)
    (calls : List α) :
    P (run step start calls) ↔ P start ∧ ∀ entry ∈ trace step start calls, C entry :=
  run_iff_of_step_under (P := fun _ => True) (fun _ _ _ => trivial)
    (fun state call _ => kept state call) trivial calls

/-- An invariant of the state and of the observations made so far. -/
theorem run_observes {β : Type} {P : σ → List β → Prop} {f : σ × α → Option β} {start : σ}
    {calls : List α} {seen : List β} (holds : P start seen)
    (kept : ∀ entry ∈ trace step start calls, ∀ seen, P entry.1 seen →
      P (step entry.1 entry.2) (seen ++ (f entry).toList)) :
    P (run step start calls) (seen ++ (trace step start calls).filterMap f) := by
  induction calls generalizing start seen with
  | nil =>
    rw [trace_nil, List.filterMap_nil, List.append_nil]
    exact holds
  | cons call rest ih =>
    have next := kept (start, call) List.mem_cons_self seen holds
    have last := ih next fun entry member => kept entry (List.mem_cons_of_mem _ member)
    rw [List.append_assoc] at last
    have split : (trace step start (call :: rest)).filterMap f =
        (f (start, call)).toList ++ (trace step (step start call) rest).filterMap f := by
      rw [trace_cons]
      cases seenHere : f (start, call) with
      | none => exact List.filterMap_cons_none seenHere
      | some value => exact List.filterMap_cons_some seenHere
    rw [split]
    exact last

/-- **What a call established and no later call undoes holds at the end.** -/
theorem run_remembers {P Q : σ → Prop} {start : σ} {calls : List α} {entry : σ × α}
    (member : entry ∈ trace step start calls) (holds : P start)
    (kept : ∀ state call, P state → P (step state call))
    (established : P entry.1 → Q (step entry.1 entry.2))
    (remembered : ∀ state call, P state → Q state → Q (step state call)) :
    Q (run step start calls) := by
  obtain ⟨before, after, split, state⟩ := mem_trace step member
  have here : P entry.1 := state ▸ run_invariant kept holds before
  have both : P (run step (step entry.1 entry.2) after) ∧
      Q (run step (step entry.1 entry.2) after) :=
    run_invariant (P := fun state => P state ∧ Q state)
      (fun state call both => ⟨kept state call both.1, remembered state call both.1 both.2⟩)
      ⟨kept _ _ here, established here⟩ after
  rw [split, run_append, run_cons, ← state]
  exact both.2

/-- **A measure that never falls, and rises at the marked calls, orders them strictly.** -/
theorem trace_pairwise {β : Type} [Preorder β] {m : σ → β} {marked : σ × α → Prop}
    [DecidablePred marked] {start : σ} {calls : List α}
    (grows : ∀ entry ∈ trace step start calls, m entry.1 ≤ m (step entry.1 entry.2))
    (advances : ∀ entry ∈ trace step start calls, marked entry →
      m entry.1 < m (step entry.1 entry.2)) :
    ((trace step start calls).filter fun entry => marked entry).Pairwise fun first second =>
      m first.1 < m second.1 := by
  induction calls generalizing start with
  | nil => exact List.Pairwise.nil
  | cons call rest ih =>
    have tail := @ih (step start call)
      (fun entry member => grows entry (List.mem_cons_of_mem _ member))
      (fun entry member => advances entry (List.mem_cons_of_mem _ member))
    rw [trace_cons]
    by_cases here : marked (start, call)
    · rw [List.filter_cons_of_pos (by simpa using here)]
      refine List.pairwise_cons.mpr ⟨fun entry later => ?_, tail⟩
      have first : m start < m (step start call) :=
        advances (start, call) List.mem_cons_self here
      obtain ⟨before, after, split, state⟩ := mem_trace step (List.mem_of_mem_filter later)
      have between : m (step start call) ≤ m entry.1 := by
        rw [state]
        refine run_invariant_of_trace (P := fun other => m (step start call) ≤ m other)
          le_rfl fun other member below => le_trans below (grows other ?_)
        rw [trace_cons, split, trace_append]
        exact List.mem_cons_of_mem _ (List.mem_append_left _ member)
      exact lt_of_lt_of_le first between
    · rw [List.filter_cons_of_neg (by simpa using here)]
      exact tail

end Run

section Partial

variable {σ τ α : Type} {ε : Type}

/-- **Agreement step by step is agreement as a whole**: both runs return, at related states, or
both fail. -/
theorem foldlM_related {R : σ → τ → Prop} {first : σ → α → Except ε σ}
    {second : τ → α → Option τ}
    (forward : ∀ state other call next, R state other → first state call = .ok next →
      ∃ after, second other call = some after ∧ R next after)
    (fails : ∀ state other call error, R state other → first state call = .error error →
      second other call = none)
    (calls : List α) {start : σ} {other : τ} (initial : R start other) :
    (∃ last after, calls.foldlM first start = .ok last ∧ calls.foldlM second other = some after ∧
        R last after) ∨
      (∃ error, calls.foldlM first start = .error error) ∧ calls.foldlM second other = none := by
  induction calls generalizing start other with
  | nil => exact Or.inl ⟨start, other, rfl, rfl, initial⟩
  | cons call rest ih =>
    rw [List.foldlM_cons, List.foldlM_cons]
    cases stepped : first start call with
    | error error =>
      rw [fails start other call error initial stepped]
      exact Or.inr ⟨⟨error, rfl⟩, rfl⟩
    | ok next =>
      obtain ⟨after, same, later⟩ := forward start other call next initial stepped
      rw [same]
      exact ih later

/-- What every step of a partial run keeps, the run keeps. -/
theorem foldlM_invariant {P : σ → Prop} {step : σ → α → Option σ}
    (kept : ∀ state call next, P state → step state call = some next → P next)
    {calls : List α} {start last : σ} (holds : P start)
    (ran : calls.foldlM step start = some last) : P last := by
  induction calls generalizing start with
  | nil =>
    obtain rfl : start = last := Option.some.inj ran
    exact holds
  | cons call rest ih =>
    rw [List.foldlM_cons, Option.bind_eq_bind, Option.bind_eq_some_iff] at ran
    obtain ⟨next, stepped, later⟩ := ran
    exact ih (kept start call next holds stepped) later

/-- A partial run passes through every one of its calls. -/
theorem foldlM_through {step : σ → α → Option σ} {calls : List α} {start last : σ} {call : α}
    (member : call ∈ calls) (ran : calls.foldlM step start = some last) :
    ∃ before after middle next, calls = before ++ call :: after ∧
      before.foldlM step start = some middle ∧ step middle call = some next ∧
      after.foldlM step next = some last := by
  obtain ⟨before, after, rfl⟩ := List.append_of_mem member
  rw [List.foldlM_append, Option.bind_eq_bind, Option.bind_eq_some_iff] at ran
  obtain ⟨middle, first, rest⟩ := ran
  rw [List.foldlM_cons, Option.bind_eq_bind, Option.bind_eq_some_iff] at rest
  obtain ⟨next, stepped, later⟩ := rest
  exact ⟨before, after, middle, next, rfl, first, stepped, later⟩

end Partial

section Slots

variable {σ α ν : Type}

/-- **One slot of a state.** Where it is empty a call may fill it, and where it is filled a call may
change it or empty it, whatever the rest of the state is. -/
structure Slot (step : σ → α → σ) (read : σ → Option ν) (born : σ → α → Option ν)
    (next : ν → α → Option ν) : Prop where
  empty : ∀ state call, read state = none → read (step state call) = born state call
  filled : ∀ state call value, read state = some value → read (step state call) = next value call

variable {step : σ → α → σ} {read : σ → Option ν} {born : σ → α → Option ν}
  {next : ν → α → Option ν}

/-- **The origin of what is stored**: the last call that filled the slot, and the calls since. -/
theorem stored_iff (slot : Slot step read born next) (start : σ) (fresh : read start = none)
    {calls : List α} {value : ν} :
    read (run step start calls) = some value ↔
      ∃ before call after first, calls = before ++ call :: after ∧
        read (run step start before) = none ∧
        born (run step start before) call = some first ∧ after.foldlM next first = some value := by
  induction calls using List.reverseRecOn generalizing value with
  | nil =>
    rw [run_nil, fresh]
    constructor
    · intro stored
      cases stored
    · rintro ⟨before, call, after, first, split, -⟩
      exact absurd split.symm (by simp)
  | append_singleton earlier last ih =>
    have grown : read (run step start (earlier ++ [last])) =
        read (step (run step start earlier) last) := by rw [run_append]; rfl
    rw [grown]
    constructor
    · intro stored
      cases found : read (run step start earlier) with
      | none =>
        rw [slot.empty _ last found] at stored
        exact ⟨earlier, last, [], value, rfl, found, stored, rfl⟩
      | some old =>
        obtain ⟨before, call, after, first, rfl, empty, birth, passed⟩ := ih.mp found
        rw [slot.filled _ last old found] at stored
        refine ⟨before, call, after ++ [last], first, ?_, empty, birth, ?_⟩
        · rw [List.append_assoc, List.cons_append]
        · rw [List.foldlM_append, passed, Option.bind_eq_bind, Option.bind_some,
            List.foldlM_cons, stored]
          rfl
    · rintro ⟨before, call, after, first, split, empty, birth, passed⟩
      rcases List.eq_nil_or_concat after with rfl | ⟨middle, final, rfl⟩
      · obtain ⟨rfl, rfl⟩ : earlier = before ∧ last = call := by
          simpa using List.append_inj' split rfl
        obtain rfl := Option.some.inj passed
        rw [slot.empty _ last empty, birth]
      · rw [List.concat_eq_append] at split passed
        rw [← List.cons_append, ← List.append_assoc] at split
        obtain ⟨rfl, same⟩ := List.append_inj' split rfl
        obtain rfl : last = final := by simpa using same
        rw [List.foldlM_append, Option.bind_eq_bind, Option.bind_eq_some_iff] at passed
        obtain ⟨old, through, final⟩ := passed
        have found := ih.mpr ⟨before, call, middle, first, rfl, empty, birth, through⟩
        rw [slot.filled _ last old found]
        simpa using final

/-- **The last write**: what is read of the state was written by a call behind which none has
written. -/
theorem written_iff (read : σ → Option ν) {write : σ → α → Option ν}
    (writes : ∀ state call, read (step state call) = (write state call).or (read state))
    (start : σ) (fresh : read start = none) {calls : List α} {value : ν} :
    read (run step start calls) = some value ↔
      ∃ before call after, calls = before ++ call :: after ∧
        write (run step start before) call = some value ∧
        ∀ entry ∈ trace step (run step start (before ++ [call])) after,
          write entry.1 entry.2 = none := by
  induction calls using List.reverseRecOn generalizing value with
  | nil =>
    rw [run_nil, fresh]
    constructor
    · intro stored
      cases stored
    · rintro ⟨before, call, after, split, -⟩
      exact absurd split.symm (by simp)
  | append_singleton earlier last ih =>
    have grown : read (run step start (earlier ++ [last])) =
        (write (run step start earlier) last).or (read (run step start earlier)) := by
      rw [run_append]
      exact writes _ last
    rw [grown]
    constructor
    · intro stored
      cases wrote : write (run step start earlier) last with
      | some new =>
        rw [wrote] at stored
        exact ⟨earlier, last, [], rfl, wrote.trans stored, fun entry member =>
          absurd member List.not_mem_nil⟩
      | none =>
        rw [wrote, Option.none_or] at stored
        obtain ⟨before, call, after, rfl, written, silent⟩ := ih.mp stored
        refine ⟨before, call, after ++ [last], ?_, written, fun entry member => ?_⟩
        · rw [List.append_assoc, List.cons_append]
        · rw [trace_append, List.mem_append] at member
          rcases member with earlier | final
          · exact silent entry earlier
          · obtain rfl := List.mem_singleton.mp final
            rw [← run_append, List.append_assoc, List.singleton_append]
            exact wrote
    · rintro ⟨before, call, after, split, written, silent⟩
      rcases List.eq_nil_or_concat after with rfl | ⟨middle, final, rfl⟩
      · obtain ⟨rfl, rfl⟩ : earlier = before ∧ last = call := by
          simpa using List.append_inj' split rfl
        rw [written, Option.some_or]
      · rw [List.concat_eq_append] at split silent
        rw [← List.cons_append, ← List.append_assoc] at split
        obtain ⟨rfl, same⟩ := List.append_inj' split rfl
        obtain rfl : last = final := by simpa using same
        rw [trace_append] at silent
        have quiet := silent _ (List.mem_append_right _ List.mem_cons_self)
        rw [← run_append, List.append_assoc, List.singleton_append] at quiet
        have stored := ih.mpr ⟨before, call, middle, rfl, written, fun entry member =>
          silent entry (List.mem_append_left _ member)⟩
        dsimp only at quiet
        rw [quiet, Option.none_or, stored]

/-- **Calls that nothing sees can be left out**: a relation that the calls seen keep on both sides,
and the others on the left, relates a run to the run of the calls seen. -/
theorem run_filter_related {R : σ → σ → Prop} {seen : α → Bool}
    (both : ∀ left right call,
      seen call = true → R left right → R (step left call) (step right call))
    (left : ∀ state other call, seen call = false → R state other → R (step state call) other)
    {first second : σ} (initial : R first second) (calls : List α) :
    R (run step first calls) (run step second (calls.filter seen)) := by
  induction calls generalizing first second with
  | nil => exact initial
  | cons call rest ih =>
    cases visible : seen call with
    | false =>
      rw [List.filter_cons_of_neg (by simp [visible])]
      exact ih (left first second call visible initial)
    | true =>
      rw [List.filter_cons_of_pos visible]
      exact ih (both first second call visible initial)

end Slots

section While

variable {σ ρ : Type*}

/-- The result of a loop, if it leaves off within the given number of steps. -/
def whileWithin (step : σ → σ ⊕ ρ) : ℕ → σ → Option ρ
  | 0, _ => none
  | rounds + 1, state =>
    match step state with
    | .inl next => whileWithin step rounds next
    | .inr result => some result

/-- **A loop ends with what its steps keep.** -/
theorem whileWithin_eq {step : σ → σ ⊕ ρ} (measure : σ → ℕ) (result : σ → ρ)
    (stops : ∀ state found, step state = .inr found → found = result state)
    (goesOn : ∀ state next, step state = .inl next →
      measure next < measure state ∧ result next = result state)
    {rounds : ℕ} {state : σ} (enough : measure state < rounds) :
    whileWithin step rounds state = some (result state) := by
  induction rounds generalizing state with
  | zero => exact absurd enough (Nat.not_lt_zero _)
  | succ rounds ih =>
    rw [whileWithin]
    cases taken : step state with
    | inl next =>
      obtain ⟨lower, same⟩ := goesOn state next taken
      rw [← same]
      exact ih (Nat.lt_of_lt_of_le lower (Nat.le_of_lt_succ enough))
    | inr found => rw [stops state found taken]

end While

end Logic
