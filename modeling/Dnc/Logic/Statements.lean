/-
**Statements one after the other.**

A call changes a state statement by statement, and a statement that raises leaves what those before
it did. `block` runs statements and gives the state they leave, whether one raises or not.

`block_append_ok` is sequencing, `block_total` the rule for statements that never raise, and
`block_of_raises` says what is left where one does. `commit` is the statement that replaces a part
of the state by a reloaded value, if there is one.
-/

import Dnc.Logic.Sequence

namespace Logic

variable {σ ε α : Type}

/-- Statements run until one raises: what is raised, and the state left. -/
def block : List (σ → Except ε σ) → σ → Except ε Unit × σ
  | [], state => (.ok (), state)
  | statement :: rest, state =>
    match statement state with
    | .error error => (.error error, state)
    | .ok next => block rest next

/-- The statement that assigns to the state. -/
def assign (update : σ → σ) (state : σ) : Except ε σ := .ok (update state)

/-- The statement that puts a reloaded value in its place, if a value is given. -/
def commit (put : α → σ → σ) (reload : α → Except ε α) (given : Option α) (state : σ) :
    Except ε σ :=
  match given with
  | none => .ok state
  | some value => do return put (← reload value) state

theorem block_cons_ok {statement : σ → Except ε σ} {rest : List (σ → Except ε σ)} {state next : σ}
    (ran : statement state = .ok next) : block (statement :: rest) state = block rest next := by
  rw [block, ran]

theorem block_append_ok {first second : List (σ → Except ε σ)} {state middle : σ}
    (ran : block first state = (.ok (), middle)) :
    block (first ++ second) state = block second middle := by
  induction first generalizing state with
  | nil =>
    cases ran
    rfl
  | cons statement rest ih =>
    rw [block] at ran
    rw [List.cons_append, block]
    cases here : statement state with
    | error error =>
      rw [here] at ran
      cases ran
    | ok next =>
      rw [here] at ran
      exact ih ran

/-- **What is left where a statement raises**: the state the statements before it made. -/
theorem block_of_raises {before rest : List (σ → Except ε σ)} {statement : σ → Except ε σ}
    {state middle : σ} {error : ε} (ran : block before state = (.ok (), middle))
    (raises : statement middle = .error error) :
    block (before ++ statement :: rest) state = (.error error, middle) := by
  rw [block_append_ok ran, block, raises]

/-- Statements that never raise go through. -/
theorem block_total {statements : List (σ → Except ε σ)}
    (total : ∀ statement ∈ statements, ∀ state, ∃ next, statement state = .ok next) (state : σ) :
    ∃ last, block statements state = (.ok (), last) := by
  induction statements generalizing state with
  | nil => exact ⟨state, rfl⟩
  | cons statement rest ih =>
    obtain ⟨next, ran⟩ := total statement List.mem_cons_self state
    rw [block_cons_ok ran]
    exact ih (fun other member => total other (List.mem_cons_of_mem _ member)) next

theorem commit_some {put : α → σ → σ} {reload : α → Except ε α} {value reloaded : α}
    (ran : reload value = .ok reloaded) (state : σ) :
    commit put reload (some value) state = .ok (put reloaded state) := by
  rw [commit, ran]
  rfl

theorem commit_total {put : α → σ → σ} {reload : α → Except ε α} {given : Option α}
    (total : ∀ value ∈ given, ∃ reloaded, reload value = .ok reloaded) (state : σ) :
    ∃ next, commit put reload given state = .ok next := by
  cases given with
  | none => exact ⟨state, rfl⟩
  | some value =>
    obtain ⟨reloaded, ran⟩ := total value rfl
    exact ⟨_, commit_some ran state⟩

end Logic
