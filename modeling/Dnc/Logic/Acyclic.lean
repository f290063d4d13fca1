/-
**Cycles and cores.**

A core of a relation is a nonempty set of which every member is related to a member. A finite core
contains a cycle (`Core.exists_cycle`), and every cycle lies in a core (`core_of_cycle`): an
algorithm that removes elements that are related to nothing left gets stuck in a core, and only
there.
-/

import Mathlib.Data.Fintype.Card
import Mathlib.Data.Set.Finite.Basic
import Mathlib.Logic.Relation
import Mathlib.Order.WellFounded

namespace Logic

open Relation

section Core

variable {α : Type} {r : α → α → Prop} {S : Set α}

structure Core (r : α → α → Prop) (S : Set α) : Prop where
  nonempty : S.Nonempty
  next : ∀ x ∈ S, ∃ y ∈ S, r x y

/-- **A finite core contains a cycle.** -/
theorem Core.exists_cycle (core : Core r S) (finite : S.Finite) : ∃ x ∈ S, TransGen r x x := by
  by_contra none
  push Not at none
  have : Finite S := finite
  let above : S → S → Prop := fun x y => TransGen r y.1 x.1
  have trans : IsTrans S above := ⟨fun _ _ _ first second => second.trans first⟩
  have irrefl : Std.Irrefl above := ⟨fun x loop => none x.1 x.2 loop⟩
  have wellFounded : WellFounded above := Finite.wellFounded_of_trans_of_irrefl above
  obtain ⟨start, member⟩ := core.nonempty
  obtain ⟨last, -, isLast⟩ := wellFounded.has_min Set.univ ⟨⟨start, member⟩, Set.mem_univ _⟩
  obtain ⟨next, isMember, edge⟩ := core.next last.1 last.2
  exact isLast ⟨next, isMember⟩ (Set.mem_univ _) (TransGen.single edge)

/-- The elements of a cycle. -/
theorem core_of_cycle {x : α} (cycle : TransGen r x x) :
    Core r {y | TransGen r x y ∧ TransGen r y x} := by
  refine ⟨⟨x, cycle, cycle⟩, ?_⟩
  rintro y ⟨toY, fromY⟩
  obtain ⟨z, edge, back⟩ := TransGen.head'_iff.mp fromY
  refine ⟨z, ⟨toY.tail edge, ?_⟩, edge⟩
  rcases reflTransGen_iff_eq_or_transGen.mp back with rfl | path
  · exact cycle
  · exact path

end Core

end Logic
