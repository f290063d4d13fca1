/-
**Streaks of failures and the rest after them.**

A history lists the uses of a service with the times at which they start and end, and whether they
failed. `streak` is the number of failures it ends with. `Rests threshold rest history` says that
after `threshold` failures in a row the next use starts no earlier than `rest` after the last of
them has ended.

`rests_append_singleton` reads the law use by use, and `restsBefore_append_iff` reads it off the streak.
-/

import Mathlib.Data.List.DropRight
import Mathlib.Data.List.Infix

namespace Logic

section Streak

variable {α : Type} (failed : α → Bool)

/-- The number of failures that a history ends with. -/
def streak (history : List α) : Nat := (history.rtakeWhile failed).length

variable {failed} {history : List α} {last : α}

@[simp] theorem streak_nil : streak failed [] = 0 := by
  rw [streak, List.rtakeWhile_nil, List.length_nil]

theorem streak_append_failed (fails : failed last = true) :
    streak failed (history ++ [last]) = streak failed history + 1 := by
  rw [streak, List.rtakeWhile_concat_pos _ _ _ fails, List.length_append, List.length_singleton,
    streak]

/-- A history that ends with failures has at least as long a streak. -/
theorem le_streak_of_suffix {failures : List α} (suffix : failures <:+ history)
    (all : ∀ use ∈ failures, failed use = true) : failures.length ≤ streak failed history := by
  obtain ⟨before, rfl⟩ := suffix
  induction failures using List.reverseRecOn with
  | nil => exact Nat.zero_le _
  | append_singleton earlier last ih =>
    have others : ∀ use ∈ earlier, failed use = true :=
      fun use member => all use (List.mem_append_left _ member)
    have fails : failed last = true := all last (by simp)
    rw [← List.append_assoc, streak_append_failed fails, List.length_append]
    exact Nat.succ_le_succ (ih others)

end Streak

section Rests

variable {α τ : Type} [LE τ] [Add τ] (failed : α → Bool) (started ended : α → τ)
  (threshold : Nat) (rest : τ)

/-- After `threshold` failures at the end of a history, a use that follows starts no earlier than
`rest` after the last of them. -/
def RestsBefore (before : List α) (next : α) : Prop :=
  ∀ failures last, (failures ++ [last]) <:+ before →
    (∀ use ∈ failures ++ [last], failed use = true) →
    threshold ≤ (failures ++ [last]).length → ended last + rest ≤ started next

/-- **Rest after failures.** -/
def Rests (history : List α) : Prop :=
  ∀ before next after, history = before ++ next :: after →
    RestsBefore failed started ended threshold rest before next

variable {failed started ended threshold rest} {history before : List α} {next last : α}

theorem rests_nil : Rests failed started ended threshold rest [] :=
  fun _ _ _ split => nomatch List.append_eq_nil_iff.mp split.symm

/-- The law of a history with one use more. -/
theorem rests_append_singleton :
    Rests failed started ended threshold rest (history ++ [next]) ↔
      Rests failed started ended threshold rest history ∧
        RestsBefore failed started ended threshold rest history next := by
  constructor
  · intro rests
    refine ⟨fun before other after split => ?_, rests history next [] rfl⟩
    exact rests before other (after ++ [next]) (by rw [split, List.append_assoc]; rfl)
  · rintro ⟨earlier, here⟩ before other after split
    rcases List.eq_nil_or_concat after with rfl | ⟨between, final, rfl⟩
    · obtain ⟨rfl, same⟩ := List.append_inj' split rfl
      cases same
      exact here
    · rw [List.concat_eq_append] at split
      have shorter : history = before ++ other :: between := by
        have split : history ++ [next] = (before ++ other :: between) ++ [final] := by
          rw [split, List.append_assoc]
          rfl
        exact (List.append_inj' split rfl).1
      exact earlier before other between shorter

/-- Before the first use there is nothing to rest from. -/
theorem restsBefore_nil : RestsBefore failed started ended threshold rest [] next :=
  fun failures last suffix _ _ => absurd (List.suffix_nil.mp suffix) (by simp)

theorem eq_last_of_suffix {failures : List α} {final : α}
    (suffix : (failures ++ [final]) <:+ (before ++ [last])) : final = last := by
  obtain ⟨earlier, joined⟩ := suffix
  rw [← List.append_assoc] at joined
  exact List.singleton_inj.mp (List.append_inj' joined rfl).2

/-- **The law read off the streak.** -/
theorem restsBefore_append_iff (positive : 0 < threshold) :
    RestsBefore failed started ended threshold rest (before ++ [last]) next ↔
      (threshold ≤ streak failed (before ++ [last]) → ended last + rest ≤ started next) := by
  constructor
  · intro rests long
    have suffix := List.rtakeWhile_suffix failed (before ++ [last])
    rcases List.eq_nil_or_concat ((before ++ [last]).rtakeWhile failed) with none | ⟨others, final, all⟩
    · rw [streak, none, List.length_nil] at long
      exact absurd long (Nat.not_le_of_lt positive)
    · rw [List.concat_eq_append] at all
      have fails : ∀ use ∈ others ++ [final], failed use = true := fun use member => by
        rw [← all] at member
        exact List.mem_rtakeWhile_imp member
      rw [streak, all] at long
      rw [all] at suffix
      rw [← eq_last_of_suffix suffix]
      exact rests others final suffix fails long
  · intro rests failures final suffix all long
    rw [eq_last_of_suffix suffix]
    exact rests (long.trans (le_streak_of_suffix suffix all))

end Rests

end Logic
