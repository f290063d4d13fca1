/-
**Windows on a growing log.**

`List.rtake w log` is the last `w` entries of a log. A buffer that appends what arrives, and drops
its first entry where that makes it longer than `w`, holds the last `w` entries of all that has
arrived (`rtake_concat`). Where these are distinct they are the `w` most recent distinct entries of
the log (`rtake_dedup`), and an entry stays among them until `w` others have arrived behind it
(`mem_rtake_of_few`).

Where the entries are times, in their order, a window is an interval. `AtMost limit width times` is
that no interval of the width holds more than `limit` of them, wherever it starts, and `recent`
counts the times that an interval that ends now holds. One more time keeps the bound where fewer
than `limit` are recent (`atMost_append_iff`), so a bound over all intervals is a condition on every
time as it comes.
-/

import Mathlib.Data.Finset.Card
import Mathlib.Data.List.DropRight

namespace Logic

section Window

variable {α : Type} {w : Nat} {log early late : List α} {entry : α}

theorem length_rtake (w : Nat) (log : List α) : (log.rtake w).length = min w log.length := by
  rw [List.rtake, List.length_drop]
  omega

theorem rtake_suffix (w : Nat) (log : List α) : log.rtake w <:+ log := List.drop_suffix _ _

/-- A short log is all in the window. -/
theorem rtake_of_length_le (short : log.length ≤ w) : log.rtake w = log := by
  rw [List.rtake, Nat.sub_eq_zero_of_le short, List.drop_zero]

theorem rtake_of_suffix (suffix : late <:+ log) : log.rtake late.length = late :=
  (List.suffix_iff_eq_drop.mp suffix).symm

/-- **Append, and drop the first where there are too many.** -/
theorem rtake_concat (w : Nat) (log : List α) (entry : α) :
    (log ++ [entry]).rtake w =
      if w < (log.rtake w).length + 1 then (log.rtake w ++ [entry]).tail
      else log.rtake w ++ [entry] := by
  have longer : (log ++ [entry]).length = log.length + 1 := by
    rw [List.length_append, List.length_singleton]
  rw [length_rtake]
  by_cases full : w ≤ log.length
  · have drops : (log ++ [entry]).length - w = (log.length - w) + 1 := by omega
    rw [if_pos (by omega), List.rtake, List.rtake, drops, ← List.drop_append_of_le_length
      (by omega), List.tail_drop]
  · rw [if_neg (by omega), rtake_of_length_le (by omega), rtake_of_length_le (by omega)]

variable [DecidableEq α]

/-- **Distinct last entries are the most recent distinct ones.** -/
theorem rtake_dedup (distinct : (log.rtake w).Nodup) : log.dedup.rtake w = log.rtake w := by
  by_cases full : w ≤ log.length
  · have width : (log.rtake w).length = w := by
      rw [length_rtake, Nat.min_eq_left full]
    have parts : log = log.take (log.length - w) ++ log.rtake w :=
      (List.take_append_drop (log.length - w) log).symm
    have suffix : log.rtake w <:+ log.dedup := by
      have split := congrArg List.dedup parts
      rw [List.dedup_append, distinct.dedup] at split
      rw [split]
      exact List.suffix_union_right _ _
    have last := rtake_of_suffix suffix
    rwa [width] at last
  · have short : log.length ≤ w := by omega
    rw [rtake_of_length_le short] at distinct ⊢
    rw [distinct.dedup, rtake_of_length_le short]

/-- **An entry stays in the window until `w` others have arrived behind it.** -/
theorem mem_rtake_of_few (distinct : (log.rtake w).Nodup) (split : log = early ++ entry :: late)
    (few : (late.toFinset.erase entry).card < w) : entry ∈ log.rtake w := by
  have behind : late <:+ log := ⟨early ++ [entry], by rw [split, List.append_assoc]; rfl⟩
  have total : log.length = early.length + (late.length + 1) := by
    rw [split, List.length_append, List.length_cons]
  by_cases narrow : w ≤ late.length
  · -- the window lies behind the entry, and is too wide for the others
    by_contra absent
    have inside : log.rtake w <:+ late := by
      refine List.suffix_of_suffix_length_le (rtake_suffix w log) behind ?_
      rw [length_rtake]
      omega
    have others : (log.rtake w).toFinset ⊆ late.toFinset.erase entry := by
      intro other member
      rw [List.mem_toFinset] at member
      rw [Finset.mem_erase, List.mem_toFinset]
      exact ⟨fun same => absent (same ▸ member), inside.subset member⟩
    have many := Finset.card_le_card others
    rw [List.toFinset_card_of_nodup distinct, length_rtake] at many
    omega
  · have window : entry :: late <:+ log.rtake w := by
      refine List.suffix_of_suffix_length_le ⟨early, split.symm⟩ (rtake_suffix w log) ?_
      rw [length_rtake, List.length_cons]
      omega
    exact window.subset List.mem_cons_self

end Window

section Throttle

variable (limit : Nat) (width : Int)

/-- How many of the times fall into the interval of the width that starts at `first`. -/
def within (first : Int) (times : List Int) : Nat :=
  (times.filter fun time => first ≤ time ∧ time < first + width).length

/-- No interval of the width holds more than `limit` of the times. -/
def AtMost (times : List Int) : Prop := ∀ first, within width first times ≤ limit

/-- How many of the times, none of them later than now, fall into the interval that ends now. -/
def recent (times : List Int) (now : Int) : Nat :=
  (times.filter fun time => now - width < time).length

variable {limit width} {times : List Int} {now : Int}

theorem atMost_nil : AtMost limit width [] := fun _ => Nat.zero_le _

/-- The interval that ends now is one of them. -/
theorem within_append_recent (positive : 0 < width) (past : ∀ time ∈ times, time ≤ now) :
    within width (now - width + 1) (times ++ [now]) = recent width times now + 1 := by
  have last : now - width + 1 ≤ now ∧ now < now - width + 1 + width := by omega
  have same : ∀ time ∈ times, decide (now - width + 1 ≤ time ∧ time < now - width + 1 + width) =
      decide (now - width < time) := by
    intro time member
    have := past time member
    exact decide_eq_decide.mpr (by omega)
  rw [within, recent, List.filter_append, List.length_append, List.filter_congr same,
    List.filter_cons_of_pos (by simpa using last)]
  rfl

/-- An interval that holds now holds recent times only. -/
theorem within_le_recent {first : Int} (holds : now < first + width) :
    within width first times ≤ recent width times now := by
  refine (List.monotone_filter_right times fun time inside => ?_).length_le
  simp only [decide_eq_true_eq] at inside ⊢
  omega

/-- **One more time** keeps the bound where fewer are recent. -/
theorem atMost_append_iff (positive : 0 < width) (past : ∀ time ∈ times, time ≤ now) :
    AtMost limit width (times ++ [now]) ↔
      AtMost limit width times ∧ recent width times now < limit := by
  constructor
  · intro bounded
    constructor
    · intro first
      refine Nat.le_trans ?_ (bounded first)
      rw [within, within, List.filter_append, List.length_append]
      exact Nat.le_add_right _ _
    · have here := bounded (now - width + 1)
      rwa [within_append_recent positive past] at here
  · rintro ⟨bounded, few⟩ first
    rw [within, List.filter_append, List.length_append]
    by_cases holds : first ≤ now ∧ now < first + width
    · have below : within width first times ≤ recent width times now := within_le_recent holds.2
      rw [List.filter_cons_of_pos (by simpa using holds)]
      exact Nat.succ_le_of_lt (Nat.lt_of_le_of_lt below few)
    · rw [List.filter_cons_of_neg (by simpa using holds)]
      exact bounded first

end Throttle

end Logic
