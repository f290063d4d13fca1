/-
**Brackets along a run.**

Some calls of a machine open a bracket and some close the last one that is open. `nesting` counts
the open brackets, and has no answer where a call closes one that was opened before the calls. A
property of the state and of the number of open brackets that every call keeps holds along the run
(`run_nesting`).
-/

import Dnc.Logic.Run

namespace Logic

inductive Bracket where
  | opens | closes | neither
deriving DecidableEq

/-- The brackets open after these, where so many are open before. -/
def nesting : Nat → List Bracket → Option Nat
  | depth, [] => some depth
  | depth, .opens :: rest => nesting (depth + 1) rest
  | 0, .closes :: _ => none
  | depth + 1, .closes :: rest => nesting depth rest
  | depth, .neither :: rest => nesting depth rest

section Run

variable {σ α : Type} {step : σ → α → σ} {bracket : σ × α → Bracket} {P : Nat → σ → Prop}

/-- **A property of the open brackets and the state.** -/
theorem run_nesting
    (opened : ∀ depth state call, bracket (state, call) = .opens → P depth state →
      P (depth + 1) (step state call))
    (closed : ∀ depth state call, bracket (state, call) = .closes → P (depth + 1) state →
      P depth (step state call))
    (kept : ∀ depth state call, bracket (state, call) = .neither → P depth state →
      P depth (step state call))
    {depth last : Nat} {start : σ} (holds : P depth start) {calls : List α}
    (nested : nesting depth ((trace step start calls).map bracket) = some last) :
    P last (run step start calls) := by
  induction calls generalizing depth start with
  | nil =>
    obtain rfl := Option.some.inj nested
    exact holds
  | cons call rest ih =>
    rw [trace_cons, List.map_cons] at nested
    cases marked : bracket (start, call) with
    | opens =>
      rw [marked] at nested
      exact ih (opened depth start call marked holds) nested
    | closes =>
      rw [marked] at nested
      cases depth with
      | zero => cases nested
      | succ depth => exact ih (closed depth start call marked holds) nested
    | neither =>
      rw [marked] at nested
      have later : nesting depth ((trace step (step start call) rest).map bracket) = some last := by
        cases depth <;> exact nested
      exact ih (kept depth start call marked holds) later

end Run

end Logic
