/-
**What a partial computation raises.**

`OnlyRaises P result`: where the computation fails, its error satisfies `P`. A computation put
together from parts raises what the parts raise: one rule for each way to put parts together. The
rule for two steps (`bind`) asks of the second step only what it raises behind a first one that
succeeds (`bind_of_ok`). `OnlyFinds` is the same for chains of checks, and `KeepsOnError` says of a
call that returns the next state beside its result that it has changed nothing where it raises.
-/

import Dnc.Logic.Sequence

namespace Logic

variable {ε α β σ : Type} {P Q : ε → Prop}

/-- An error of the computation satisfies `P`. -/
def OnlyRaises (P : ε → Prop) (result : Except ε α) : Prop := ∀ error, result = .error error → P error

namespace OnlyRaises

theorem ok (value : α) : OnlyRaises P (.ok value : Except ε α) := fun _ failed => nomatch failed

theorem error {failure : ε} (holds : P failure) : OnlyRaises P (.error failure : Except ε α) := by
  rintro _ ⟨⟩
  exact holds

/-- The second step runs behind a first one that has succeeded. -/
theorem bind_of_ok {first : Except ε α} {next : α → Except ε β} (raises : OnlyRaises P first)
    (later : ∀ value, first = .ok value → OnlyRaises P (next value)) :
    OnlyRaises P (first >>= next) := by
  cases first with
  | error failure =>
    rintro _ ⟨⟩
    exact raises failure rfl
  | ok value => exact later value rfl

theorem bind {first : Except ε α} {next : α → Except ε β} (raises : OnlyRaises P first)
    (later : ∀ value, OnlyRaises P (next value)) : OnlyRaises P (first >>= next) :=
  raises.bind_of_ok fun value _ => later value

/-- Where the second step raises nothing else, it is the first one that matters. -/
theorem bind_iff {first : Except ε α} {next : α → Except ε β}
    (later : ∀ value, OnlyRaises P (next value)) :
    OnlyRaises P (first >>= next) ↔ OnlyRaises P first := by
  constructor
  · rintro raises failure rfl
    exact raises failure rfl
  · exact fun raises => raises.bind later

theorem map {result : Except ε α} (raises : OnlyRaises P result) (f : α → β) :
    OnlyRaises P (result.map f) := by
  cases result with
  | error failure =>
    rintro _ ⟨⟩
    exact raises failure rfl
  | ok value => exact OnlyRaises.ok (f value)

theorem ite {condition : Prop} [Decidable condition] {first second : Except ε α}
    (left : condition → OnlyRaises P first) (right : ¬ condition → OnlyRaises P second) :
    OnlyRaises P (if condition then first else second) := by
  by_cases holds : condition
  · rw [if_pos holds]
    exact left holds
  · rw [if_neg holds]
    exact right holds

theorem bind_iff_and {first : Except ε α} {next : α → Except ε β} :
    OnlyRaises P (first >>= next) ↔
      OnlyRaises P first ∧ ∀ value, first = .ok value → OnlyRaises P (next value) := by
  constructor
  · intro raises
    constructor
    · rintro failure rfl
      exact raises failure rfl
    · rintro value rfl
      exact raises
  · exact fun both => both.1.bind_of_ok both.2

theorem ite_iff {condition : Prop} [Decidable condition] {first second : Except ε α} :
    OnlyRaises P (if condition then first else second) ↔
      (condition → OnlyRaises P first) ∧ (¬ condition → OnlyRaises P second) := by
  by_cases holds : condition
  · rw [if_pos holds, forall_prop_of_true holds, forall_prop_of_false (not_not.mpr holds), and_true]
  · rw [if_neg holds, forall_prop_of_false holds, forall_prop_of_true holds, true_and]

/-- A check before a computation. -/
theorem guard {condition : Prop} [Decidable condition] {failure : ε} {rest : Except ε α}
    (holds : P failure) (raises : OnlyRaises P rest) :
    OnlyRaises P (if condition then .error failure else rest) :=
  ite (fun _ => error holds) fun _ => raises

theorem forM {items : List α} {check : α → Except ε Unit}
    (each : ∀ item ∈ items, OnlyRaises P (check item)) : OnlyRaises P (items.forM check) := by
  induction items with
  | nil => exact OnlyRaises.ok ()
  | cons item rest ih =>
    show OnlyRaises P (check item >>= fun _ => rest.forM check)
    exact (each item List.mem_cons_self).bind fun _ =>
      ih fun other member => each other (List.mem_cons_of_mem _ member)

theorem mapM {items : List α} {f : α → Except ε β}
    (each : ∀ item ∈ items, OnlyRaises P (f item)) : OnlyRaises P (items.mapM f) := by
  induction items with
  | nil => exact OnlyRaises.ok []
  | cons item rest ih =>
    rw [List.mapM_cons]
    refine (each item List.mem_cons_self).bind fun _ => ?_
    exact (ih fun other member => each other (List.mem_cons_of_mem _ member)).bind fun _ =>
      OnlyRaises.ok _

theorem foldlM {step : σ → α → Except ε σ} {items : List α}
    (each : ∀ state, ∀ item ∈ items, OnlyRaises P (step state item)) (start : σ) :
    OnlyRaises P (items.foldlM step start) := by
  induction items generalizing start with
  | nil => exact OnlyRaises.ok start
  | cons item rest ih =>
    rw [List.foldlM_cons]
    exact (each start item List.mem_cons_self).bind fun next =>
      ih (fun state other member => each state other (List.mem_cons_of_mem _ member)) next

end OnlyRaises

/-- What a chain of checks finds satisfies `P`. -/
def OnlyFinds (P : ε → Prop) (found : Option ε) : Prop := ∀ error, found = some error → P error

namespace OnlyFinds

theorem none : OnlyFinds P (Option.none : Option ε) := fun _ found => nomatch found

/-- The first check, and those behind it. -/
theorem check {fault : Prop} [Decidable fault] {failure : ε} {rest : Option ε} (holds : P failure)
    (later : OnlyFinds P rest) : OnlyFinds P (if fault then some failure else rest) := by
  intro error found
  by_cases applies : fault
  · rw [if_pos applies] at found
    exact Option.some.inj found ▸ holds
  · rw [if_neg applies] at found
    exact later error found

theorem ite {condition : Prop} [Decidable condition] {first second : Option ε}
    (left : OnlyFinds P first) (right : OnlyFinds P second) :
    OnlyFinds P (if condition then first else second) := by
  by_cases holds : condition
  · rw [if_pos holds]
    exact left
  · rw [if_neg holds]
    exact right

end OnlyFinds

/-- Where the call on the state raises, it leaves the state as it was. -/
def KeepsOnError (state : σ) (outcome : σ × Except ε α) : Prop :=
  ∀ error, outcome.2 = .error error → outcome.1 = state

namespace KeepsOnError

variable {state : σ}

theorem returned (next : σ) (value : α) :
    KeepsOnError state (next, (.ok value : Except ε α)) := fun _ failed => nomatch failed

theorem refused (result : Except ε α) : KeepsOnError state (state, result) := fun _ _ => rfl

theorem error_iff {next : σ} {failure : ε} :
    KeepsOnError state (next, (.error failure : Except ε α)) ↔ next = state :=
  ⟨fun keeps => keeps failure rfl, fun same _ _ => same⟩

/-- A check before a call. -/
theorem guard {condition : Prop} [Decidable condition] {outcome : σ × Except ε α} {failure : ε}
    (keeps : KeepsOnError state outcome) :
    KeepsOnError state (if condition then (state, .error failure) else outcome) := by
  by_cases holds : condition
  · rw [if_pos holds]
    exact refused _
  · rw [if_neg holds]
    exact keeps

end KeepsOnError

end Logic
