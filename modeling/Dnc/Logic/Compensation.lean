/-
**Undoing a run by recorded inverses.**

Every step of a run records an inverse; undoing performs the inverses, last recorded first. An
inverse need not restore a state exactly, and it is performed on a state that earlier undoing made,
which need not be the very state the step left. What an inverse has to do is therefore stated up
to an agreement `same` (`Undoes`): from every state that agrees with the one after the step, it
succeeds and makes a state that agrees with the one before.

`Chain.undoAll` is the rule: if every inverse of a run undoes its step, undoing the whole run
succeeds and makes a state that agrees with the first.
-/

import Mathlib.Data.List.Basic

namespace Logic

section Compensation

variable {σ ι ε : Type} (undo : σ → ι → Except ε σ) (same : σ → σ → Prop)

/-- The inverses performed, last recorded first. -/
def undoAll (inverses : List ι) (state : σ) : Except ε σ := inverses.reverse.foldlM undo state

/-- The inverse leads back from the state after a step to the state before. -/
def Undoes (inverse : ι) (before after : σ) : Prop :=
  ∀ state, same after state → ∃ restored, undo state inverse = .ok restored ∧ same before restored

/-- A run whose recorded inverses undo its steps. -/
inductive Chain : σ → List ι → σ → Prop
  | nil (state : σ) : Chain state [] state
  | cons {before after last : σ} {inverse : ι} {rest : List ι}
      (undoes : Undoes undo same inverse before after) (later : Chain after rest last) :
      Chain before (inverse :: rest) last

variable {undo same}

theorem undoAll_cons (inverse : ι) (rest : List ι) (state : σ) :
    undoAll undo (inverse :: rest) state =
      undoAll undo rest state >>= fun middle => undo middle inverse := by
  unfold undoAll
  rw [List.reverse_cons, List.foldlM_append]
  refine bind_congr fun middle => ?_
  rw [List.foldlM_cons]
  cases undo middle inverse <;> rfl

/-- **Undoing a run restores its first state**, up to agreement. -/
theorem Chain.undoAll {start last : σ} {inverses : List ι}
    (chain : Chain undo same start inverses last) {state : σ} (agrees : same last state) :
    ∃ restored, Logic.undoAll undo inverses state = .ok restored ∧ same start restored := by
  induction chain with
  | nil _ => exact ⟨state, rfl, agrees⟩
  | cons undoes later ih =>
    obtain ⟨middle, rest, middleAgrees⟩ := ih agrees
    obtain ⟨restored, first, restoredAgrees⟩ := undoes middle middleAgrees
    refine ⟨restored, ?_, restoredAgrees⟩
    rw [undoAll_cons, rest]
    exact first

end Compensation

end Logic
