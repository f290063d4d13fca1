/-
**Saturation under rules.**

A rule `(conclusion, triggers)` adds its conclusion to a set that holds one of its triggers. A loop
that applies all rules in turn, pass after pass, until a pass adds nothing, computes the elements
from which the initial set can be reached (`mem_saturate`): an element `Fires` towards each trigger
of a rule that concludes it.

The number of passes is bounded by the number of rules: every pass but the last adds the conclusion
of some rule for good (`unmet_pass_lt`), so the loop leaves off at a pass that adds nothing
(`saturate_stops`). What it computes is the least set that holds the initial one and is closed under
the rules (`isLeast_saturate`).

`reach_of_source` says what new edges out of one element do to reachability: a path that uses
one of them goes to that element first and leaves it over a new edge last.
-/

import Mathlib.Data.Finset.Insert
import Mathlib.Logic.Relation
import Mathlib.Order.Bounds.Basic

namespace Logic

open Relation

section Rules

variable {α : Type}

/-- A rule concludes `x`, and `y` is one of its triggers. -/
def Fires (rules : List (α × List α)) (x y : α) : Prop := ∃ rule ∈ rules, rule.1 = x ∧ y ∈ rule.2

variable [DecidableEq α]

/-- One rule, once. -/
def applyRule (known : Finset α) (rule : α × List α) : Finset α :=
  if rule.1 ∉ known ∧ ∃ trigger ∈ rule.2, trigger ∈ known then insert rule.1 known else known

/-- Every rule, once and in turn. -/
def pass (rules : List (α × List α)) (known : Finset α) : Finset α := rules.foldl applyRule known

/-- Rounds until one changes nothing, at most the given number of them. -/
def untilStable (round : Finset α → Finset α) : Nat → Finset α → Finset α
  | 0, known => known
  | rounds + 1, known =>
    let next := round known
    if next = known then known else untilStable round rounds next

/-- Passes until one adds nothing. -/
def saturate (rules : List (α × List α)) : Nat → Finset α → Finset α := untilStable (pass rules)

theorem saturate_succ (rules : List (α × List α)) (rounds : Nat) (known : Finset α) :
    saturate rules (rounds + 1) known =
      if pass rules known = known then known else saturate rules rounds (pass rules known) := rfl

theorem subset_applyRule (known : Finset α) (rule : α × List α) : known ⊆ applyRule known rule := by
  unfold applyRule
  by_cases fires : rule.1 ∉ known ∧ ∃ trigger ∈ rule.2, trigger ∈ known
  · rw [if_pos fires]
    exact Finset.subset_insert _ _
  · rw [if_neg fires]

theorem pass_append (first second : List (α × List α)) (known : Finset α) :
    pass (first ++ second) known = pass second (pass first known) :=
  List.foldl_append

theorem subset_pass (rules : List (α × List α)) (known : Finset α) : known ⊆ pass rules known := by
  induction rules generalizing known with
  | nil => exact Finset.Subset.refl known
  | cons rule rest ih => exact (subset_applyRule known rule).trans (ih _)

/-- What a pass adds is the conclusion of a rule with a trigger that the pass ends with. -/
theorem pass_mem {rules : List (α × List α)} {known : Finset α} {x : α}
    (member : x ∈ pass rules known) :
    x ∈ known ∨ ∃ rule ∈ rules, rule.1 = x := by
  induction rules generalizing known with
  | nil => exact Or.inl member
  | cons rule rest ih =>
    rcases ih member with early | ⟨other, listed, concludes⟩
    · unfold applyRule at early
      split_ifs at early with fires
      · rcases Finset.mem_insert.mp early with new | old
        · exact Or.inr ⟨rule, List.mem_cons_self, new.symm⟩
        · exact Or.inl old
      · exact Or.inl early
    · exact Or.inr ⟨other, List.mem_cons_of_mem _ listed, concludes⟩

/-- A pass adds only what reaches the set it starts from. -/
theorem pass_reaches {rules : List (α × List α)} {known : Finset α} {start : Finset α}
    {rest : List (α × List α)} (listed : ∀ rule ∈ rest, rule ∈ rules)
    (sound : ∀ x ∈ known, ∃ y ∈ start, ReflTransGen (Fires rules) x y) :
    ∀ x ∈ pass rest known, ∃ y ∈ start, ReflTransGen (Fires rules) x y := by
  induction rest generalizing known with
  | nil => exact sound
  | cons rule later ih =>
    refine ih (fun other member => listed other (List.mem_cons_of_mem _ member)) fun x member => ?_
    unfold applyRule at member
    split_ifs at member with fires
    · rcases Finset.mem_insert.mp member with new | old
      · obtain ⟨-, trigger, isTrigger, present⟩ := fires
        obtain ⟨y, inStart, path⟩ := sound trigger present
        refine ⟨y, inStart, ReflTransGen.head ⟨rule, listed rule List.mem_cons_self, ?_, isTrigger⟩ path⟩
        exact new.symm
      · exact sound x old
    · exact sound x member

/-- A pass that adds nothing leaves a closed set. -/
theorem closed_of_pass_eq {rules : List (α × List α)} {known : Finset α}
    (same : pass rules known = known) {x y : α} (fires : Fires rules x y) (present : y ∈ known) :
    x ∈ known := by
  obtain ⟨rule, listed, rfl, isTrigger⟩ := fires
  obtain ⟨before, after, rfl⟩ := List.append_of_mem listed
  rw [pass_append] at same
  -- the pass up to the rule has added nothing either
  have untouched : pass before known = known :=
    Finset.Subset.antisymm
      ((subset_pass _ _).trans same.subset) (subset_pass before known)
  rw [untouched] at same
  have added : applyRule known rule ⊆ known := (subset_pass after _).trans same.subset
  by_contra absent
  refine absent (added ?_)
  unfold applyRule
  rw [if_pos ⟨absent, y, isTrigger, present⟩]
  exact Finset.mem_insert_self _ _

/-- The rules whose conclusion is not known yet. -/
def unmet (rules : List (α × List α)) (known : Finset α) : Nat :=
  rules.countP fun rule => rule.1 ∉ known

theorem unmet_pass_lt {rules : List (α × List α)} {known : Finset α}
    (grows : pass rules known ≠ known) : unmet rules (pass rules known) < unmet rules known := by
  have more : ∃ x ∈ pass rules known, x ∉ known := by
    by_contra none
    push Not at none
    exact grows (Finset.Subset.antisymm none (subset_pass rules known))
  obtain ⟨x, added, isNew⟩ := more
  rcases pass_mem added with old | ⟨rule, listed, rfl⟩
  · exact absurd old isNew
  have keeps := subset_pass rules known
  generalize pass rules known = next at added keeps ⊢
  have fewer : ∀ part : List (α × List α),
      part.countP (fun other => other.1 ∉ next) ≤ part.countP fun other => other.1 ∉ known :=
    fun part => List.countP_mono_left fun other _ absent => by
      simp only [decide_not, Bool.not_eq_true', decide_eq_false_iff_not] at absent ⊢
      exact fun present => absent (keeps present)
  obtain ⟨before, after, rfl⟩ := List.append_of_mem listed
  have first := fewer before
  have last := fewer after
  unfold unmet
  rw [List.countP_append, List.countP_append, List.countP_cons_of_neg (by simpa using added),
    List.countP_cons_of_pos (by simpa using isNew)]
  omega

/-- **The loop leaves off at a pass that adds nothing.** -/
theorem saturate_stops {rules : List (α × List α)} {rounds : Nat} {known : Finset α}
    (enough : unmet rules known ≤ rounds) :
    ∃ taken ≤ rounds, (pass rules)^[taken] known = saturate rules rounds known ∧
      pass rules (saturate rules rounds known) = saturate rules rounds known := by
  induction rounds generalizing known with
  | zero =>
    refine ⟨0, Nat.le_refl 0, rfl, ?_⟩
    by_contra grows
    have fewer : unmet rules (pass rules known) < unmet rules known := unmet_pass_lt grows
    omega
  | succ rounds ih =>
    rw [saturate_succ]
    by_cases same : pass rules known = known
    · rw [if_pos same]
      exact ⟨0, Nat.zero_le _, rfl, same⟩
    · rw [if_neg same]
      have fewer := unmet_pass_lt same
      have left : unmet rules (pass rules known) ≤ rounds := by omega
      obtain ⟨taken, bound, reached, stable⟩ := ih left
      refine ⟨taken + 1, Nat.succ_le_succ bound, ?_, stable⟩
      rw [Function.iterate_succ_apply, reached]

/-- **The loop ends in a closed set.** -/
theorem closed_saturate {rules : List (α × List α)} {rounds : Nat} {known : Finset α}
    (enough : unmet rules known ≤ rounds) {x y : α} (fires : Fires rules x y)
    (present : y ∈ saturate rules rounds known) : x ∈ saturate rules rounds known := by
  obtain ⟨taken, -, -, stable⟩ := saturate_stops enough
  exact closed_of_pass_eq stable fires present

theorem subset_saturate (rules : List (α × List α)) (rounds : Nat) (known : Finset α) :
    known ⊆ saturate rules rounds known := by
  induction rounds generalizing known with
  | zero => exact Finset.Subset.refl known
  | succ rounds ih =>
    rw [saturate_succ]
    by_cases same : pass rules known = known
    · rw [if_pos same]
    · rw [if_neg same]
      exact (subset_pass rules known).trans (ih _)

theorem saturate_reaches {rules : List (α × List α)} {rounds : Nat} {known start : Finset α}
    (sound : ∀ x ∈ known, ∃ y ∈ start, ReflTransGen (Fires rules) x y) :
    ∀ x ∈ saturate rules rounds known, ∃ y ∈ start, ReflTransGen (Fires rules) x y := by
  induction rounds generalizing known with
  | zero => exact sound
  | succ rounds ih =>
    rw [saturate_succ]
    by_cases same : pass rules known = known
    · rw [if_pos same]
      exact sound
    · rw [if_neg same]
      exact ih (pass_reaches (fun _ listed => listed) sound)

/-- **The saturated set is what reaches the initial one.** -/
theorem mem_saturate {rules : List (α × List α)} {rounds : Nat} {start : Finset α}
    (enough : rules.length ≤ rounds) {x : α} :
    x ∈ saturate rules rounds start ↔ ∃ y ∈ start, ReflTransGen (Fires rules) x y := by
  constructor
  · exact saturate_reaches (fun y present => ⟨y, present, ReflTransGen.refl⟩) x
  · rintro ⟨y, present, path⟩
    have bound : unmet rules start ≤ rounds := List.countP_le_length.trans enough
    induction path using ReflTransGen.head_induction_on with
    | refl => exact subset_saturate rules rounds start present
    | head fires _ ih => exact closed_saturate bound fires ih

omit [DecidableEq α] in
/-- What reaches a set is the least set around it that is closed under the relation. -/
theorem isLeast_reaches (r : α → α → Prop) (start : Set α) :
    IsLeast {set : Set α | start ⊆ set ∧ ∀ x y, r x y → y ∈ set → x ∈ set}
      {x | ∃ y ∈ start, ReflTransGen r x y} := by
  refine ⟨⟨fun x present => ⟨x, present, ReflTransGen.refl⟩, ?_⟩, ?_⟩
  · rintro x y edge ⟨z, present, path⟩
    exact ⟨z, present, path.head edge⟩
  · rintro set ⟨holds, closed⟩ x ⟨y, present, path⟩
    induction path using ReflTransGen.head_induction_on with
    | refl => exact holds present
    | head edge _ ih => exact closed _ _ edge ih

/-- **The saturated set is the least one that holds the initial one and is closed.** -/
theorem isLeast_saturate {rules : List (α × List α)} {rounds : Nat} (start : Finset α)
    (enough : rules.length ≤ rounds) :
    IsLeast {set : Set α | ↑start ⊆ set ∧ ∀ x y, Fires rules x y → y ∈ set → x ∈ set}
      ↑(saturate rules rounds start) := by
  have same : (↑(saturate rules rounds start) : Set α) =
      {x | ∃ y ∈ (↑start : Set α), ReflTransGen (Fires rules) x y} := by
    ext x
    exact mem_saturate enough
  rw [same]
  exact isLeast_reaches (Fires rules) ↑start

end Rules

/-! ### New edges out of one element -/

section Source

variable {α : Type} {r s : α → α → Prop} {source : α} {targets : List α}

/-- **Paths over new edges out of one element.** -/
theorem reach_of_source (edges : ∀ x y, s x y ↔ r x y ∨ (x = source ∧ y ∈ targets)) (x y : α) :
    TransGen s x y ↔ TransGen r x y ∨
      (ReflTransGen r x source ∧ ∃ target ∈ targets, ReflTransGen r target y) := by
  have keeps : ∀ {a b}, ReflTransGen r a b → ReflTransGen s a b := fun path =>
    ReflTransGen.mono (fun a b edge => (edges a b).mpr (Or.inl edge)) _ _ path
  constructor
  · intro path
    induction path with
    | single edge =>
      rcases (edges _ _).mp edge with old | ⟨rfl, isTarget⟩
      · exact Or.inl (TransGen.single old)
      · exact Or.inr ⟨ReflTransGen.refl, _, isTarget, ReflTransGen.refl⟩
    | tail before edge ih =>
      rcases (edges _ _).mp edge with old | ⟨rfl, isTarget⟩
      · rcases ih with through | ⟨toSource, target, listed, fromTarget⟩
        · exact Or.inl (through.tail old)
        · exact Or.inr ⟨toSource, target, listed, fromTarget.tail old⟩
      · rcases ih with through | ⟨toSource, -⟩
        · exact Or.inr ⟨through.to_reflTransGen, _, isTarget, ReflTransGen.refl⟩
        · exact Or.inr ⟨toSource, _, isTarget, ReflTransGen.refl⟩
  · rintro (old | ⟨toSource, target, listed, fromTarget⟩)
    · exact TransGen.mono (fun a b edge => (edges a b).mpr (Or.inl edge)) _ _ old
    · exact (TransGen.tail' (keeps toSource) ((edges _ _).mpr (Or.inr ⟨rfl, listed⟩))).trans_left
        (keeps fromTarget)

end Source

end Logic
