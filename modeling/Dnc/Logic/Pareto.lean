/-
**Two filters of a list of alternatives, and a choice from one.**

* `undominated`: those that nothing in the list dominates. A strict order leaves one of a nonempty
  list (`undominated_ne_nil`), and being better along some of finitely many objectives and worse
  along none is a strict order (`exceeds_irrefl`, `exceeds_trans`).
* `keepFirst`: first come, first kept. What clashes with something kept before it is dropped, whether
  or not what was kept is of any use (`mem_keepFirst_iff`).
* `firstBest`: the first of the highest value, of what is eligible and above a floor
  (`firstBest_eq_some_iff`).
-/

import Mathlib.Data.List.Infix
import Mathlib.Order.Lattice

namespace Logic

/-! ### Dominance -/

section Dominance

variable {α : Type} (dominates : α → α → Prop) [DecidableRel dominates]

/-- The elements that no element of the list dominates. -/
def undominated (items : List α) : List α :=
  items.filter fun item => decide (∀ other ∈ items, ¬ dominates other item)

variable {dominates}

theorem mem_undominated {items : List α} {item : α} :
    item ∈ undominated dominates items ↔
      item ∈ items ∧ ∀ other ∈ items, ¬ dominates other item := by
  rw [undominated, List.mem_filter, decide_eq_true_eq]

/-- **A strict order leaves something undominated.** -/
theorem undominated_ne_nil (irrefl : ∀ x, ¬ dominates x x)
    (trans : ∀ x y z, dominates x y → dominates y z → dominates x z) {items : List α}
    (nonempty : items ≠ []) : undominated dominates items ≠ [] := by
  have top : ∃ item ∈ items, ∀ other ∈ items, ¬ dominates other item := by
    induction items with
    | nil => exact absurd rfl nonempty
    | cons first rest ih =>
      by_cases alone : rest = []
      · refine ⟨first, List.mem_cons_self, fun other member => ?_⟩
        rw [alone, List.mem_singleton] at member
        exact member ▸ irrefl first
      · obtain ⟨best, listed, isBest⟩ := ih alone
        by_cases beaten : dominates first best
        · -- what beats the first beats the best of the rest
          refine ⟨first, List.mem_cons_self, fun other member above => ?_⟩
          rcases List.mem_cons.mp member with rfl | later
          · exact irrefl other above
          · exact isBest other later (trans _ _ _ above beaten)
        · refine ⟨best, List.mem_cons_of_mem _ listed, fun other member => ?_⟩
          rcases List.mem_cons.mp member with rfl | later
          · exact beaten
          · exact isBest other later
  obtain ⟨best, listed, isBest⟩ := top
  exact List.ne_nil_of_mem (mem_undominated.mpr ⟨listed, isBest⟩)

/-- The same elements in another order: the same front, in that order. -/
theorem undominated_perm {items others : List α} (perm : items.Perm others) :
    (undominated dominates items).Perm (undominated dominates others) := by
  have same : ∀ item, (∀ other ∈ items, ¬ dominates other item) ↔
      ∀ other ∈ others, ¬ dominates other item :=
    fun item => forall_congr' fun other => by rw [perm.mem_iff]
  unfold undominated
  simp only [same]
  exact perm.filter _

end Dominance

/-! ### Objectives -/

section Objectives

variable {R : Type} [LinearOrder R]

/-- No worse along any objective, and better along some. -/
def exceeds (left right : List R) : Bool :=
  (left.zip right).all (fun pair => decide (pair.2 ≤ pair.1)) &&
    (left.zip right).any fun pair => decide (pair.2 < pair.1)

theorem exceeds_iff {left right : List R} : exceeds left right = true ↔
    (∀ pair ∈ left.zip right, pair.2 ≤ pair.1) ∧ ∃ pair ∈ left.zip right, pair.2 < pair.1 := by
  simp only [exceeds, Bool.and_eq_true, List.all_eq_true, List.any_eq_true, decide_eq_true_eq]

theorem exceeds_irrefl (values : List R) : ¬ exceeds values values = true := by
  rw [exceeds_iff]
  rintro ⟨-, pair, member, better⟩
  obtain ⟨index, here⟩ := List.mem_iff_getElem?.mp member
  rw [List.getElem?_zip_eq_some] at here
  have same : pair.1 = pair.2 := Option.some.inj (here.1.symm.trans here.2)
  exact absurd better (same ▸ lt_irrefl _)

/-- **Being better is transitive** for as many objectives. -/
theorem exceeds_trans {first second third : List R} (sameLength : first.length = second.length)
    (upper : exceeds first second = true) (lower : exceeds second third = true) :
    exceeds first third = true := by
  rw [exceeds_iff] at upper lower ⊢
  have paired : ∀ {left right : List R} {index : Nat} {x y : R}, left[index]? = some x →
      right[index]? = some y → (x, y) ∈ left.zip right := fun isLeft isRight =>
    List.mem_iff_getElem?.mpr ⟨_, List.getElem?_zip_eq_some.mpr ⟨isLeft, isRight⟩⟩
  constructor
  · rintro ⟨x, z⟩ member
    obtain ⟨index, here⟩ := List.mem_iff_getElem?.mp member
    rw [List.getElem?_zip_eq_some] at here
    obtain ⟨inside, -⟩ := List.getElem?_eq_some_iff.mp here.1
    have isSecond := List.getElem?_eq_getElem (sameLength ▸ inside : index < second.length)
    exact (lower.1 _ (paired isSecond here.2)).trans (upper.1 _ (paired here.1 isSecond))
  · obtain ⟨⟨y, z⟩, member, better⟩ := lower.2
    obtain ⟨index, here⟩ := List.mem_iff_getElem?.mp member
    rw [List.getElem?_zip_eq_some] at here
    obtain ⟨inside, -⟩ := List.getElem?_eq_some_iff.mp here.1
    have isFirst := List.getElem?_eq_getElem (sameLength ▸ inside : index < first.length)
    exact ⟨_, paired isFirst here.2, better.trans_le (upper.1 _ (paired isFirst here.1))⟩

end Objectives

/-! ### First come, first kept -/

section KeepFirst

variable {α : Type} (clash : α → α → Prop) [DecidableRel clash]

/-- One element more: it is kept unless it clashes with one that was kept. -/
def keepNext (kept : List α) (item : α) : List α :=
  if ∃ earlier ∈ kept, clash earlier item then kept else kept ++ [item]

/-- The elements that clash with none that was kept before them. -/
def keepFirst (items : List α) : List α := items.foldl (keepNext clash) []

variable {clash} {items : List α} {item : α}

theorem keepFirst_append_singleton :
    keepFirst clash (items ++ [item]) = keepNext clash (keepFirst clash items) item := by
  rw [keepFirst, List.foldl_append]
  rfl

/-- **Kept is what clashes with nothing that was kept before it.** -/
theorem mem_keepFirst_iff : item ∈ keepFirst clash items ↔
    ∃ early late, items = early ++ item :: late ∧
      ∀ kept ∈ keepFirst clash early, ¬ clash kept item := by
  induction items using List.reverseRecOn with
  | nil =>
    refine iff_of_false List.not_mem_nil ?_
    rintro ⟨early, late, split, -⟩
    exact List.append_ne_nil_of_right_ne_nil _ (List.cons_ne_nil _ _) split.symm
  | append_singleton earlier last ih =>
    rw [keepFirst_append_singleton, keepNext]
    constructor
    · intro member
      by_cases clashes : ∃ other ∈ keepFirst clash earlier, clash other last
      · rw [if_pos clashes] at member
        obtain ⟨early, late, rfl, free⟩ := ih.mp member
        exact ⟨early, late ++ [last], by rw [List.append_assoc]; rfl, free⟩
      · rw [if_neg clashes, List.mem_append, List.mem_singleton] at member
        rcases member with old | rfl
        · obtain ⟨early, late, rfl, free⟩ := ih.mp old
          exact ⟨early, late ++ [last], by rw [List.append_assoc]; rfl, free⟩
        · exact ⟨earlier, [], rfl, fun kept member clashing => clashes ⟨kept, member, clashing⟩⟩
    · rintro ⟨early, late, split, free⟩
      have grows : ∀ other ∈ keepFirst clash earlier, other ∈
          (if ∃ other ∈ keepFirst clash earlier, clash other last then keepFirst clash earlier
            else keepFirst clash earlier ++ [last]) := by
        intro other member
        split_ifs
        · exact member
        · exact List.mem_append_left _ member
      rcases List.eq_nil_or_concat' late with rfl | ⟨before, final, rfl⟩
      · obtain ⟨rfl, ends⟩ := List.append_inj' split rfl
        obtain rfl : last = item := (List.cons.inj ends).1
        rw [if_neg]
        · exact List.mem_append_right _ (List.mem_singleton_self _)
        · rintro ⟨kept, member, clashing⟩
          exact free kept member clashing
      · rw [← List.cons_append, ← List.append_assoc] at split
        obtain ⟨rfl, -⟩ := List.append_inj' split rfl
        exact grows item (ih.mpr ⟨early, before, rfl, free⟩)

/-- What is kept is of the list. -/
theorem mem_of_mem_keepFirst (member : item ∈ keepFirst clash items) : item ∈ items := by
  obtain ⟨early, late, rfl, -⟩ := mem_keepFirst_iff.mp member
  exact List.mem_append_right _ List.mem_cons_self

/-- Where nothing clashes, everything is kept. -/
theorem keepFirst_of_pairwise (apart : items.Pairwise fun first second => ¬ clash first second) :
    keepFirst clash items = items := by
  induction items using List.reverseRecOn with
  | nil => rfl
  | append_singleton earlier last ih =>
    rw [List.pairwise_append] at apart
    rw [keepFirst_append_singleton, ih apart.1, keepNext, if_neg]
    rintro ⟨kept, member, clashing⟩
    exact apart.2.2 kept member last (List.mem_singleton_self last) clashing

end KeepFirst

/-! ### The first of the highest value -/

section FirstBest

variable {α R : Type} [LinearOrder R] {eligible : α → Prop} {value : α → R} {items : List α}

/-- The first with the highest value among the eligible elements. -/
def FirstBest (eligible : α → Prop) (value : α → R) (items : List α) (item : α) : Prop :=
  ∃ early late, items = early ++ item :: late ∧ eligible item ∧
    (∀ other ∈ early, eligible other → value other < value item) ∧
    ∀ other ∈ late, eligible other → value other ≤ value item

namespace FirstBest

variable {item other : α}

theorem mem (best : FirstBest eligible value items item) : item ∈ items := by
  obtain ⟨early, late, rfl, -⟩ := best
  exact List.mem_append_right _ List.mem_cons_self

theorem isEligible (best : FirstBest eligible value items item) : eligible item := by
  obtain ⟨_, _, -, isEligible, -⟩ := best
  exact isEligible

theorem highest (best : FirstBest eligible value items item) (member : other ∈ items)
    (isEligible : eligible other) : value other ≤ value item := by
  obtain ⟨early, late, rfl, -, less, most⟩ := best
  rcases List.mem_append.mp member with before | rest
  · exact (less other before isEligible).le
  · rcases List.mem_cons.mp rest with rfl | after
    · exact le_refl _
    · exact most other after isEligible

/-- One element is the first of the highest value. -/
theorem unique (isFirst : FirstBest eligible value items item)
    (isSecond : FirstBest eligible value items other) : item = other := by
  have above := isFirst.highest isSecond.mem isSecond.isEligible
  have below := isSecond.highest isFirst.mem isFirst.isEligible
  obtain ⟨early, late, split, eligibleFirst, less, -⟩ := isFirst
  obtain ⟨early', late', split', eligibleSecond, less', -⟩ := isSecond
  -- whichever comes later would have the higher value
  rcases List.append_eq_append_iff.mp (split.symm.trans split') with
    ⟨between, longer, rest⟩ | ⟨between, longer, rest⟩
  · cases between with
    | nil => exact (List.cons.inj rest).1
    | cons head tail =>
      obtain ⟨rfl, -⟩ := List.cons.inj rest
      exact absurd (less' item (by simp [longer]) eligibleFirst) (not_lt.mpr above)
  · cases between with
    | nil => exact (List.cons.inj rest).1.symm
    | cons head tail =>
      obtain ⟨rfl, -⟩ := List.cons.inj rest
      exact absurd (less other (by simp [longer]) eligibleSecond) (not_lt.mpr below)

/-- An eligible element that is below the best, or level with it, changes nothing behind it. -/
theorem append_lower (best : FirstBest eligible value items item)
    (lower : eligible other → value other ≤ value item) :
    FirstBest eligible value (items ++ [other]) item := by
  obtain ⟨early, late, rfl, isEligible, less, most⟩ := best
  refine ⟨early, late ++ [other], by simp, isEligible, less, fun next member serves => ?_⟩
  rcases List.mem_append.mp member with before | last
  · exact most next before serves
  · rw [List.mem_singleton.mp last] at serves ⊢
    exact lower serves

/-- An eligible element above all before it is the best. -/
theorem append_higher (isEligible : eligible item)
    (higher : ∀ other ∈ items, eligible other → value other < value item) :
    FirstBest eligible value (items ++ [item]) item :=
  ⟨items, [], rfl, isEligible, higher, fun _ member => nomatch member⟩

end FirstBest

variable (eligible value) [DecidablePred eligible]

/-- One comparison: what is eligible and better takes the place of the best so far. -/
def keepBetter (best : Option α × R) (item : α) : Option α × R :=
  if eligible item ∧ best.2 < value item then (some item, value item) else best

/-- The first of the highest value among what is eligible and above the floor. -/
def firstBest (floor : R) (items : List α) : Option α :=
  (items.foldl (keepBetter eligible value) (none, floor)).1

/-- What is held behind some comparisons: the floor as long as nothing was taken, and then the
first of the highest value. -/
theorem foldl_keepBetter (floor : R) (items : List α) :
    (items.foldl (keepBetter eligible value) (none, floor) = (none, floor) ∧
      ∀ item ∈ items, ¬ (eligible item ∧ floor < value item)) ∨
    ∃ item, items.foldl (keepBetter eligible value) (none, floor) = (some item, value item) ∧
      FirstBest (fun item => eligible item ∧ floor < value item) value items item := by
  induction items using List.reverseRecOn with
  | nil => exact .inl ⟨rfl, fun _ member => nomatch member⟩
  | append_singleton earlier last ih =>
    rw [List.foldl_append]
    rcases ih with ⟨held, nobody⟩ | ⟨item, held, best⟩
    · rw [held]
      show (keepBetter eligible value (none, floor) last = _ ∧ _) ∨
        ∃ item, keepBetter eligible value (none, floor) last = _ ∧ _
      unfold keepBetter
      by_cases better : eligible last ∧ floor < value last
      · rw [if_pos better]
        exact .inr ⟨last, rfl, FirstBest.append_higher better fun other member serves =>
          absurd serves (nobody other member)⟩
      · rw [if_neg better]
        refine .inl ⟨rfl, fun other member => ?_⟩
        rcases List.mem_append.mp member with before | here
        · exact nobody other before
        · exact List.mem_singleton.mp here ▸ better
    · rw [held]
      show (keepBetter eligible value (some item, value item) last = _ ∧ _) ∨
        ∃ other, keepBetter eligible value (some item, value item) last = _ ∧ _
      unfold keepBetter
      by_cases better : eligible last ∧ value item < value last
      · rw [if_pos better]
        exact .inr ⟨last, rfl, FirstBest.append_higher
          ⟨better.1, best.isEligible.2.trans better.2⟩
          fun other member serves => (best.highest member serves).trans_lt better.2⟩
      · rw [if_neg better]
        exact .inr ⟨item, rfl, best.append_lower fun serves =>
          not_lt.mp fun above => better ⟨serves.1, above⟩⟩

variable {eligible value} {floor : R}

/-- **What is chosen is the first of the highest value.** -/
theorem firstBest_eq_some_iff {item : α} : firstBest eligible value floor items = some item ↔
    FirstBest (fun item => eligible item ∧ floor < value item) value items item := by
  unfold firstBest
  rcases foldl_keepBetter eligible value floor items with
    ⟨held, nobody⟩ | ⟨chosen, held, best⟩
  · rw [held]
    exact iff_of_false nofun fun best => nobody item best.mem best.isEligible
  · rw [held]
    constructor
    · rintro ⟨⟩
      exact best
    · exact fun other => congrArg some (best.unique other)

end FirstBest

end Logic
