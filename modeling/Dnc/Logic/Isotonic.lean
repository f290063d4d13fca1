/-
**Isotonic regression.**

Observations are scores with labels, in the order of the scores. A run of them is `Pooled` where it
falls: wherever it is split, the first part has the greater mean. Pooled runs whose means rise
(`Pooling`) are what pooling adjacent violators ends with.

* `Pooled.append`: a pooled run and one of smaller mean behind it are one pooled run.
* `Pooling.not_pulled` and `Pooling.exists_boundary`: the runs are split exactly where no run of
  observations that ends there has a greater mean than one that starts there.
* `PooledRuns.optimal`: a function of the score that is the mean of its run at every observation has
  the least squared error of all monotone ones; a best function satisfies the variational inequality
  (`inner_nonneg_of_optimal`).
* `Pooling.isotonicFit_iff`: the step function of the runs is the regression exactly where equal
  scores are pulled together.
-/

import Dnc.Logic.Averages
import Mathlib.Data.Prod.Lex
import Mathlib.Order.Monotone.Basic
import Mathlib.Tactic.LinearCombination

namespace Logic.Isotonic

/-! ### Means -/

section Means

variable {S : Type}

/-- The mean label. -/
def mean (run : List (S × ℚ)) : ℚ := average (run.map Prod.snd)

/-- By how much the labels exceed a value, all together. -/
def excess (value : ℚ) (run : List (S × ℚ)) : ℚ := (run.map fun item => item.2 - value).sum

@[simp] theorem excess_nil (value : ℚ) : excess value ([] : List (S × ℚ)) = 0 := rfl

@[simp] theorem excess_append (value : ℚ) (first second : List (S × ℚ)) :
    excess value (first ++ second) = excess value first + excess value second := by
  rw [excess, List.map_append, List.sum_append]
  rfl

theorem excess_eq (value : ℚ) (run : List (S × ℚ)) :
    excess value run = (run.map Prod.snd).sum - value * run.length := by
  induction run with
  | nil => simp
  | cons item rest ih =>
    have step : excess value (item :: rest) = item.2 - value + excess value rest := List.sum_cons
    rw [step, ih, List.map_cons, List.sum_cons, List.length_cons]
    push_cast
    ring

variable {run : List (S × ℚ)} {value : ℚ}

theorem length_pos_cast (some : run ≠ []) : (0 : ℚ) < (run.map Prod.snd).length := by
  rw [List.length_map]
  exact Nat.cast_pos.mpr (List.length_pos_of_ne_nil some)

theorem mean_le_iff (some : run ≠ []) : mean run ≤ value ↔ excess value run ≤ 0 := by
  rw [mean, average, div_le_iff₀ (length_pos_cast some), excess_eq, List.length_map, sub_nonpos]

theorem le_mean_iff (some : run ≠ []) : value ≤ mean run ↔ 0 ≤ excess value run := by
  rw [mean, average, le_div_iff₀ (length_pos_cast some), excess_eq, List.length_map, sub_nonneg]

theorem mean_lt_iff (some : run ≠ []) : mean run < value ↔ excess value run < 0 := by
  rw [← not_le, le_mean_iff some, not_le]

theorem lt_mean_iff (some : run ≠ []) : value < mean run ↔ 0 < excess value run := by
  rw [← not_le, mean_le_iff some, not_le]

/-- The labels of a run do not exceed their mean, all together. -/
theorem excess_mean (run : List (S × ℚ)) : excess (mean run) run = 0 := by
  rcases eq_or_ne run [] with rfl | some
  · rfl
  · exact le_antisymm ((mean_le_iff some).mp le_rfl) ((le_mean_iff some).mp le_rfl)

/-! ### Pooled runs -/

/-- **A run that falls** wherever it is split. -/
def Pooled (run : List (S × ℚ)) : Prop :=
  ∀ left right, run = left ++ right → left ≠ [] → right ≠ [] → mean right < mean left

theorem pooled_singleton (item : S × ℚ) : Pooled [item] := by
  intro left right split someLeft someRight
  have lengths := congrArg List.length split
  rw [List.length_append, List.length_singleton] at lengths
  have first := List.length_pos_of_ne_nil someLeft
  have second := List.length_pos_of_ne_nil someRight
  omega

variable {left right : List (S × ℚ)}

/-- What a pooled run ends with has at most its mean. -/
theorem Pooled.suffix_le (pooled : Pooled (left ++ right)) (some : right ≠ []) :
    mean right ≤ mean (left ++ right) := by
  have whole : left ++ right ≠ [] := List.append_ne_nil_of_right_ne_nil left some
  rw [le_mean_iff whole, excess_append, excess_mean, add_zero]
  rcases eq_or_ne left [] with rfl | someLeft
  · exact le_rfl
  · exact ((lt_mean_iff someLeft).mp (pooled left right rfl someLeft some)).le

theorem Pooled.suffix_lt (pooled : Pooled (left ++ right)) (someLeft : left ≠ [])
    (someRight : right ≠ []) : mean right < mean (left ++ right) := by
  have whole : left ++ right ≠ [] := List.append_ne_nil_of_right_ne_nil left someRight
  rw [lt_mean_iff whole, excess_append, excess_mean, add_zero]
  exact (lt_mean_iff someLeft).mp (pooled left right rfl someLeft someRight)

/-- What a pooled run starts with has at least its mean. -/
theorem Pooled.le_initial (pooled : Pooled (left ++ right)) (some : left ≠ []) :
    mean (left ++ right) ≤ mean left := by
  have whole : left ++ right ≠ [] := List.append_ne_nil_of_left_ne_nil some right
  rw [mean_le_iff whole, excess_append, excess_mean, zero_add]
  rcases eq_or_ne right [] with rfl | someRight
  · exact le_rfl
  · exact ((mean_lt_iff someRight).mp (pooled left right rfl some someRight)).le

/-- **Two pooled runs of which the second has the smaller mean are one.** -/
theorem Pooled.append {first second : List (S × ℚ)} (pooledFirst : Pooled first)
    (pooledSecond : Pooled second) (someFirst : first ≠ []) (someSecond : second ≠ [])
    (falls : mean second < mean first) : Pooled (first ++ second) := by
  intro left right split someLeft someRight
  rcases List.append_eq_append_iff.mp split with ⟨middle, rfl, rfl⟩ | ⟨middle, rfl, rfl⟩
  · -- the split is in the second run, or before it
    have below : mean right < mean first := (pooledSecond.suffix_le someRight).trans_lt falls
    rw [lt_mean_iff someLeft, excess_append]
    have above := (lt_mean_iff someFirst).mp below
    rcases eq_or_ne middle [] with rfl | someMiddle
    · rwa [excess_nil, add_zero]
    · have also := (lt_mean_iff someMiddle).mp (pooledSecond middle right rfl someMiddle someRight)
      exact add_pos above also
  · have below : mean second < mean left := falls.trans_le (pooledFirst.le_initial someLeft)
    rw [mean_lt_iff someRight, excess_append]
    have under := (mean_lt_iff someSecond).mp below
    rcases eq_or_ne middle [] with rfl | someMiddle
    · rwa [excess_nil, zero_add]
    · have also := (mean_lt_iff someMiddle).mp (pooledFirst left middle rfl someLeft someMiddle)
      exact add_neg also under

end Means

/-! ### Pooling -/

section Pooling

variable {S : Type}

/-- The observations in pooled runs. -/
structure PooledRuns (observations : List (S × ℚ)) (runs : List (List (S × ℚ))) : Prop where
  whole : runs.flatten = observations
  some : ∀ run ∈ runs, run ≠ []
  pooled : ∀ run ∈ runs, Pooled run

/-- The means rise. -/
def Ordered (runs : List (List (S × ℚ))) : Prop :=
  runs.Pairwise fun first second => mean first ≤ mean second

/-- **Pooled runs whose means rise.** -/
structure Pooling (observations : List (S × ℚ)) (runs : List (List (S × ℚ))) : Prop
    extends PooledRuns observations runs where
  ordered : Ordered runs

/-- Some run that ends where the second part starts has a greater mean than one that starts there.
-/
def Pulled (before after : List (S × ℚ)) : Prop :=
  ∃ left right, left ≠ [] ∧ right ≠ [] ∧ left <:+ before ∧ right <+: after ∧ mean right < mean left

/-- The same, but the mean may be as great. -/
def Touching (before after : List (S × ℚ)) : Prop :=
  ∃ left right, left ≠ [] ∧ right ≠ [] ∧ left <:+ before ∧ right <+: after ∧ mean right ≤ mean left

theorem Pulled.touching {before after : List (S × ℚ)} (pulled : Pulled before after) :
    Touching before after := by
  obtain ⟨left, right, someLeft, someRight, isSuffix, isPrefix, below⟩ := pulled
  exact ⟨left, right, someLeft, someRight, isSuffix, isPrefix, below.le⟩

variable {runs : List (List (S × ℚ))} {value : ℚ}

/-- What comes last in pooled runs of small mean has a small mean. -/
theorem excess_suffix_nonpos (pooled : ∀ run ∈ runs, Pooled run)
    (small : ∀ run ∈ runs, mean run ≤ value) {before right : List (S × ℚ)}
    (split : runs.flatten = before ++ right) : excess value right ≤ 0 := by
  induction runs generalizing before right with
  | nil =>
    obtain ⟨-, rfl⟩ := List.append_eq_nil_iff.mp split.symm
    exact le_rfl
  | cons run rest ih =>
    rw [List.forall_mem_cons] at pooled small
    have tail : ∀ before right, rest.flatten = before ++ right → excess value right ≤ 0 :=
      fun before right => ih pooled.2 small.2
    rw [List.flatten_cons] at split
    rcases List.append_eq_append_iff.mp split with ⟨middle, rfl, behind⟩ | ⟨middle, rfl, rfl⟩
    · exact tail _ _ behind
    · rw [excess_append]
      refine add_nonpos ?_ (tail [] _ (List.nil_append _).symm)
      rcases eq_or_ne middle [] with rfl | some
      · exact le_rfl
      · exact (mean_le_iff some).mp ((pooled.1.suffix_le some).trans small.1)

/-- What comes first in pooled runs of great mean has a great mean. -/
theorem excess_prefix_nonneg (pooled : ∀ run ∈ runs, Pooled run)
    (great : ∀ run ∈ runs, value ≤ mean run) {left after : List (S × ℚ)}
    (split : runs.flatten = left ++ after) : 0 ≤ excess value left := by
  induction runs generalizing left after with
  | nil =>
    obtain ⟨rfl, -⟩ := List.append_eq_nil_iff.mp split.symm
    exact le_rfl
  | cons run rest ih =>
    rw [List.forall_mem_cons] at pooled great
    have whole : 0 ≤ excess value run := by
      rcases eq_or_ne run [] with rfl | some
      · exact le_rfl
      · exact (le_mean_iff some).mp great.1
    rw [List.flatten_cons] at split
    rcases List.append_eq_append_iff.mp split with ⟨middle, rfl, behind⟩ | ⟨middle, rfl, rfl⟩
    · rw [excess_append]
      exact add_nonneg whole (ih pooled.2 great.2 behind)
    · rcases eq_or_ne left [] with rfl | some
      · exact le_rfl
      · exact (le_mean_iff some).mp (great.1.trans (pooled.1.le_initial some))

section Merge

variable {observations : List (S × ℚ)} {first last : List (List (S × ℚ))}
  {left right : List (S × ℚ)}

/-- **Merging two neighbours of which the first has the greater mean** leaves pooled runs. -/
theorem PooledRuns.merge (pooled : PooledRuns observations (first ++ left :: right :: last))
    (falls : mean right < mean left) :
    PooledRuns observations (first ++ (left ++ right) :: last) := by
  have someLeft := pooled.some left (by simp)
  have someRight := pooled.some right (by simp)
  have merged := (pooled.pooled left (by simp)).append (pooled.pooled right (by simp)) someLeft
    someRight falls
  refine ⟨by simpa using pooled.whole, fun run member => ?_, fun run member => ?_⟩
  · rcases List.mem_append.mp member with early | later
    · exact pooled.some run (List.mem_append_left _ early)
    rcases List.mem_cons.mp later with rfl | later
    · exact List.append_ne_nil_of_left_ne_nil someLeft right
    · exact pooled.some run (by simp [later])
  · rcases List.mem_append.mp member with early | later
    · exact pooled.pooled run (List.mem_append_left _ early)
    rcases List.mem_cons.mp later with rfl | later
    · exact merged
    · exact pooled.pooled run (by simp [later])

theorem Ordered.advance (ordered : Ordered (first ++ [left])) (rises : mean left ≤ mean right) :
    Ordered (first ++ [left] ++ [right]) := by
  refine List.pairwise_append.mpr ⟨ordered, List.pairwise_singleton _ _, ?_⟩
  intro run member other isRight
  rw [List.mem_singleton.mp isRight]
  rcases List.mem_append.mp member with early | isLeft
  · exact ((List.pairwise_append.mp ordered).2.2 run early left List.mem_cons_self).trans rises
  · rwa [List.mem_singleton.mp isLeft]

/-- After a merge the runs are in order up to one step back. -/
theorem Ordered.back {merged : List (S × ℚ)} (ordered : Ordered (first ++ [left])) :
    Ordered ((first ++ merged :: last).take (first.length - 1 + 1)) := by
  have before : Ordered first := (List.pairwise_append.mp ordered).1
  cases first with
  | nil => exact List.pairwise_singleton _ _
  | cons head rest =>
    have whole : (head :: rest).length - 1 + 1 = (head :: rest).length := rfl
    rw [whole, List.take_left]
    exact before

/-- Two neighbours in a list. -/
theorem exists_neighbours {α : Type} {items : List α} {index : ℕ} (behind : index + 1 < items.length) :
    ∃ first left right last, items = first ++ left :: right :: last ∧ first.length = index := by
  have here : index < items.length := Nat.lt_of_succ_lt behind
  refine ⟨items.take index, items[index], items[index + 1], items.drop (index + 1 + 1), ?_,
    List.length_take_of_le here.le⟩
  rw [← List.drop_eq_getElem_cons behind, ← List.drop_eq_getElem_cons here, List.take_append_drop]

end Merge

section Boundary

variable {observations : List (S × ℚ)} {first second : List (List (S × ℚ))}
  {before after : List (S × ℚ)}

/-- Every run of observations that ends with a pooled run has at most its mean. -/
theorem Pooling.mean_le_last {last : List (S × ℚ)}
    (pooling : Pooling observations (first ++ last :: second)) {left : List (S × ℚ)}
    (some : left ≠ []) (isSuffix : left <:+ (first ++ [last]).flatten) : mean left ≤ mean last := by
  have parts := pooling.ordered
  rw [Ordered, List.append_cons, List.pairwise_append, List.pairwise_append] at parts
  obtain ⟨before, split⟩ := isSuffix
  refine (mean_le_iff some).mpr (excess_suffix_nonpos ?_ ?_ split.symm)
  · intro run member
    refine pooling.pooled run ?_
    rw [List.append_cons]
    exact List.mem_append_left _ member
  · intro run member
    rcases List.mem_append.mp member with early | isLast
    · exact parts.1.2.2 run early last List.mem_cons_self
    · rw [List.mem_singleton.mp isLast]

/-- Every run of observations that starts with a pooled run has at least its mean. -/
theorem Pooling.head_le_mean {head : List (S × ℚ)}
    (pooling : Pooling observations (first ++ head :: second)) {right : List (S × ℚ)}
    (some : right ≠ []) (isPrefix : right <+: (head :: second).flatten) : mean head ≤ mean right := by
  have parts := pooling.ordered
  rw [Ordered, List.pairwise_append, List.pairwise_cons] at parts
  obtain ⟨after, split⟩ := isPrefix
  refine (le_mean_iff some).mpr (excess_prefix_nonneg ?_ ?_ split.symm)
  · exact fun run member => pooling.pooled run (List.mem_append_right _ member)
  · exact List.forall_mem_cons.mpr ⟨le_rfl, parts.2.1.1⟩

/-- **Between two pooled runs nothing is pulled together.** -/
theorem Pooling.not_pulled (pooling : Pooling observations (first ++ second)) :
    ¬ Pulled first.flatten second.flatten := by
  rintro ⟨left, right, someLeft, someRight, isSuffix, isPrefix, below⟩
  rcases List.eq_nil_or_concat first with rfl | ⟨earlier, last, rfl⟩
  · exact someLeft (List.suffix_nil.mp isSuffix)
  cases second with
  | nil => exact someRight (List.prefix_nil.mp isPrefix)
  | cons head later =>
    rw [List.concat_eq_append] at pooling isSuffix
    have rises := (List.pairwise_append.mp pooling.ordered).2.2 last
      (List.mem_append_right _ List.mem_cons_self) head List.mem_cons_self
    have atLast : Pooling observations (earlier ++ last :: head :: later) := by
      rwa [List.append_assoc] at pooling
    have lower := atLast.mean_le_last someLeft isSuffix
    have upper := pooling.head_le_mean someRight isPrefix
    exact absurd (lower.trans (rises.trans upper)) (not_le.mpr below)

/-- **Where nothing is pulled together a run ends.** -/
theorem Pooling.exists_boundary (pooling : Pooling observations runs)
    (split : observations = before ++ after) (apart : ¬ Pulled before after) :
    ∃ first second, runs = first ++ second ∧ first.flatten = before ∧ second.flatten = after := by
  have whole := pooling.whole.trans split
  rcases List.flatten_eq_append_iff.mp whole with
    ⟨first, second, parts, isBefore, isAfter⟩ |
      ⟨first, left, item, right, second, parts, isBefore, isAfter⟩
  · exact ⟨first, second, parts, isBefore.symm, isAfter.symm⟩
  · rcases eq_or_ne left [] with rfl | some
    · rw [List.nil_append] at parts
      rw [List.append_nil] at isBefore
      exact ⟨first, (item :: right) :: second, parts, isBefore.symm, isAfter.symm⟩
    · have run := pooling.pooled (left ++ item :: right)
        (parts ▸ List.mem_append_right _ List.mem_cons_self)
      refine absurd ⟨left, item :: right, some, List.cons_ne_nil _ _, ?_, ?_,
        run left (item :: right) rfl some (List.cons_ne_nil _ _)⟩ apart
      · exact isBefore ▸ List.suffix_append _ _
      · exact isAfter ▸ List.prefix_append _ _

end Boundary

end Pooling

/-! ### The squared error -/

section SquaredError

variable {S : Type}

/-- The sum of the squared errors to the labels. -/
def squaredError (f : S → ℚ) (observations : List (S × ℚ)) : ℚ :=
  (observations.map fun item => (f item.1 - item.2) ^ 2).sum

/-- What the error of a function has in the direction of another. -/
def inner (g f : S → ℚ) (observations : List (S × ℚ)) : ℚ :=
  (observations.map fun item => (g item.1 - f item.1) * (f item.1 - item.2)).sum

theorem squaredError_cons (f : S → ℚ) (item : S × ℚ) (rest : List (S × ℚ)) :
    squaredError f (item :: rest) = (f item.1 - item.2) ^ 2 + squaredError f rest := List.sum_cons

theorem inner_cons (g f : S → ℚ) (item : S × ℚ) (rest : List (S × ℚ)) :
    inner g f (item :: rest) = (g item.1 - f item.1) * (f item.1 - item.2) + inner g f rest :=
  List.sum_cons

theorem inner_append (g f : S → ℚ) (first second : List (S × ℚ)) :
    inner g f (first ++ second) = inner g f first + inner g f second := by
  rw [inner, List.map_append, List.sum_append]
  rfl

/-- Only what the functions are at the observations matters. -/
theorem inner_congr {g f g' f' : S → ℚ} {observations : List (S × ℚ)}
    (sameG : ∀ item ∈ observations, g item.1 = g' item.1)
    (sameF : ∀ item ∈ observations, f item.1 = f' item.1) :
    inner g f observations = inner g' f' observations :=
  congrArg List.sum (List.map_congr_left fun item member => by
    rw [sameG item member, sameF item member])

theorem squaredError_perm {f : S → ℚ} {first second : List (S × ℚ)} (perm : first.Perm second) :
    squaredError f first = squaredError f second := (perm.map _).sum_eq

/-- The error along the way from one function to another. -/
theorem squaredError_between (f g : S → ℚ) (share : ℚ) (observations : List (S × ℚ)) :
    squaredError (fun score => f score + share * (g score - f score)) observations =
      squaredError f observations + 2 * share * inner g f observations +
        share ^ 2 * squaredError (fun score => g score - f score)
          (observations.map fun item => (item.1, 0)) := by
  induction observations with
  | nil => simp [squaredError, inner]
  | cons item rest ih =>
    rw [squaredError_cons, ih, squaredError_cons, inner_cons, List.map_cons, squaredError_cons]
    ring

theorem squaredError_nonneg (f : S → ℚ) (observations : List (S × ℚ)) :
    0 ≤ squaredError f observations := by
  refine List.sum_nonneg fun square member => ?_
  obtain ⟨item, -, rfl⟩ := List.mem_map.mp member
  exact sq_nonneg _

variable [LinearOrder S]

/-- Nothing monotone has a smaller squared error. -/
def Optimal (f : S → ℚ) (observations : List (S × ℚ)) : Prop :=
  ∀ g, Monotone g → squaredError f observations ≤ squaredError g observations

variable {f : S → ℚ} {observations : List (S × ℚ)}

/-- A function from which no monotone one leads to a smaller error is optimal. -/
theorem optimal_of_inner_nonneg (nonneg : ∀ g, Monotone g → 0 ≤ inner g f observations) :
    Optimal f observations := by
  intro g rises
  have along := squaredError_between f g 1 observations
  have endpoint : (fun score => f score + 1 * (g score - f score)) = g := by
    funext score
    ring
  have ascends := nonneg g rises
  have square := squaredError_nonneg (fun score => g score - f score)
    (observations.map fun item => (item.1, 0))
  rw [endpoint] at along
  linarith

/-- **The variational inequality**: no monotone function leads to a smaller error. -/
theorem inner_nonneg_of_optimal (optimal : Optimal f observations) (risesF : Monotone f) {g : S → ℚ}
    (risesG : Monotone g) : 0 ≤ inner g f observations := by
  by_contra negative
  rw [not_le] at negative
  let slope := inner g f observations
  let square := squaredError (fun score => g score - f score)
    (observations.map fun item => (item.1, 0))
  have nonneg : 0 ≤ square := squaredError_nonneg _ _
  -- a step so small that the square does not matter
  let share := -slope / (square - slope)
  have wide : 0 < square - slope := by linarith
  have positive : 0 < share := div_pos (neg_pos.mpr negative) wide
  have least : share ≤ 1 := (div_le_one wide).mpr (by linarith)
  have rises : Monotone fun score => f score + share * (g score - f score) := by
    intro low high below
    have first := mul_le_mul_of_nonneg_left (risesF below) (sub_nonneg.mpr least)
    have second := mul_le_mul_of_nonneg_left (risesG below) positive.le
    linarith
  have better := optimal _ rises
  rw [squaredError_between] at better
  have chosen : share * (square - slope) = -slope := div_mul_cancel₀ _ wide.ne'
  have descent : 2 * share * slope + share ^ 2 * square < 0 := by
    have factored : 2 * share * slope + share ^ 2 * square = share * (slope * (1 + share)) := by
      linear_combination share * chosen
    rw [factored]
    exact mul_neg_of_pos_of_neg positive (mul_neg_of_neg_of_pos negative (by linarith))
  linarith

/-! ### Pooled runs are best -/

/-- **Along a run that falls, a function that rises gains nothing** (summation by parts). -/
theorem weighted_nonneg {g : S → ℚ} (rises : Monotone g) {value : ℚ} {run : List (S × ℚ)}
    (sorted : run.Pairwise fun first second => first.1 ≤ second.1)
    (falls : ∀ left right, run = left ++ right → excess value right ≤ 0) (least : ℚ)
    (above : ∀ item ∈ run, least ≤ g item.1) :
    least * -excess value run ≤ (run.map fun item => g item.1 * (value - item.2)).sum := by
  induction run generalizing least with
  | nil => simp
  | cons item rest ih =>
    rw [List.pairwise_cons] at sorted
    have whole := falls [] (item :: rest) rfl
    have later := ih sorted.2
      (fun left right split => falls (item :: left) right (congrArg (item :: ·) split))
      (g item.1) fun other member => rises (sorted.1 other member)
    have step : excess value (item :: rest) = item.2 - value + excess value rest := List.sum_cons
    rw [List.map_cons, List.sum_cons]
    calc least * -excess value (item :: rest)
        ≤ g item.1 * -excess value (item :: rest) :=
          mul_le_mul_of_nonneg_right (above item List.mem_cons_self) (neg_nonneg.mpr whole)
      _ = g item.1 * (value - item.2) + g item.1 * -excess value rest := by
          rw [step]
          ring
      _ ≤ _ := add_le_add_right later _

omit [LinearOrder S] in
theorem inner_const (g : S → ℚ) (value : ℚ) (run : List (S × ℚ)) :
    inner g (fun _ => value) run =
      (run.map fun item => g item.1 * (value - item.2)).sum + value * excess value run := by
  induction run with
  | nil => simp [inner]
  | cons item rest ih =>
    have step : excess value (item :: rest) = item.2 - value + excess value rest := List.sum_cons
    rw [inner_cons, ih, List.map_cons, List.sum_cons, step]
    ring

/-- **A pooled run is best approximated by its mean.** -/
theorem Pooled.inner_nonneg {run : List (S × ℚ)} (pooled : Pooled run)
    (sorted : run.Pairwise fun first second => first.1 ≤ second.1) {g : S → ℚ} (rises : Monotone g) :
    0 ≤ inner g (fun _ => mean run) run := by
  cases run with
  | nil => exact le_rfl
  | cons item rest =>
    have falls : ∀ left right, item :: rest = left ++ right →
        excess (mean (item :: rest)) right ≤ 0 := by
      intro left right split
      rcases eq_or_ne right [] with rfl | some
      · exact le_rfl
      · rw [split] at pooled ⊢
        exact (mean_le_iff some).mp (pooled.suffix_le some)
    have weighted := weighted_nonneg rises sorted falls (g item.1) fun other member => by
      rcases List.mem_cons.mp member with rfl | later
      · exact le_rfl
      · exact rises ((List.pairwise_cons.mp sorted).1 other later)
    rw [inner_const, excess_mean, mul_zero, add_zero]
    rwa [excess_mean, neg_zero, mul_zero] at weighted

/-- **A function that is the mean of every run is optimal.** -/
theorem PooledRuns.optimal {runs : List (List (S × ℚ))} (pooling : PooledRuns observations runs)
    (sorted : observations.Pairwise fun first second => first.1 ≤ second.1)
    (means : ∀ run ∈ runs, ∀ item ∈ run, f item.1 = mean run) : Optimal f observations := by
  refine optimal_of_inner_nonneg fun g rises => ?_
  rw [← pooling.whole] at sorted ⊢
  have pooled := pooling.pooled
  clear pooling
  induction runs with
  | nil => exact le_rfl
  | cons run rest ih =>
    rw [List.forall_mem_cons] at means pooled
    rw [List.flatten_cons] at sorted ⊢
    have parts := List.pairwise_append.mp sorted
    have same : inner g f run = inner g (fun _ => mean run) run :=
      inner_congr (fun _ _ => rfl) means.1
    rw [inner_append, same]
    exact add_nonneg (pooled.1.inner_nonneg parts.1 rises) (ih parts.2.1 means.2 pooled.2)

end SquaredError

/-! ### The step function -/

section StepFunction

variable {S : Type} [LinearOrder S]

/-- The value of the first block with a threshold that is not below the score; of the last one, if
there is no such. -/
def stepFunction : List (S × ℚ) → S → ℚ
  | [], _ => 0
  | block :: rest, score =>
    if score ≤ block.1 ∨ rest.isEmpty then block.2 else stepFunction rest score

variable {blocks : List (S × ℚ)} {score : S}

theorem stepFunction_cons_of_le {block : S × ℚ} (rest : List (S × ℚ)) (within : score ≤ block.1) :
    stepFunction (block :: rest) score = block.2 := if_pos (Or.inl within)

theorem stepFunction_cons_of_lt {block : S × ℚ} {rest : List (S × ℚ)} (beyond : block.1 < score)
    (some : rest ≠ []) : stepFunction (block :: rest) score = stepFunction rest score := by
  refine if_neg fun either => ?_
  rcases either with within | empty
  · exact absurd beyond (not_lt.mpr within)
  · exact some (List.isEmpty_iff.mp empty)

theorem stepFunction_mem (score : S) (some : blocks ≠ []) :
    stepFunction blocks score ∈ blocks.map Prod.snd := by
  induction blocks with
  | nil => exact absurd rfl some
  | cons block rest ih =>
    rw [stepFunction, List.map_cons]
    split_ifs with here
    · exact List.mem_cons_self
    · rw [not_or, List.isEmpty_iff] at here
      exact List.mem_cons_of_mem _ (ih here.2)

theorem stepFunction_monotone (ordered : blocks.Pairwise fun first second => first.2 ≤ second.2) :
    Monotone (stepFunction blocks) := by
  induction blocks with
  | nil => exact fun _ _ _ => le_rfl
  | cons block rest ih =>
    rw [List.pairwise_cons] at ordered
    intro low high below
    rw [stepFunction, stepFunction]
    split_ifs with first second second
    · exact le_rfl
    · rw [not_or, List.isEmpty_iff] at second
      obtain ⟨later, isLater, same⟩ := List.mem_map.mp (stepFunction_mem high second.2)
      rw [← same]
      exact ordered.1 later isLater
    · rw [not_or] at first
      rcases second with within | empty
      · exact absurd (below.trans within) first.1
      · exact absurd empty first.2
    · exact ih ordered.2 below

theorem stepFunction_append {first second : List (S × ℚ)} (beyond : ∀ block ∈ first, block.1 < score)
    (some : second ≠ []) : stepFunction (first ++ second) score = stepFunction second score := by
  induction first with
  | nil => rfl
  | cons block rest ih =>
    rw [List.forall_mem_cons] at beyond
    rw [List.cons_append, stepFunction_cons_of_lt beyond.1 (List.append_ne_nil_of_right_ne_nil _ some),
      ih beyond.2]

variable [Inhabited S]

/-- The last score of a run. -/
def threshold (run : List (S × ℚ)) : S := (run.getLastD default).1

/-- What a run becomes: its threshold and its mean. -/
def block (run : List (S × ℚ)) : S × ℚ := (threshold run, mean run)

omit [LinearOrder S] in
theorem threshold_append {left right : List (S × ℚ)} (some : right ≠ []) :
    threshold (left ++ right) = threshold right := by
  obtain ⟨first, last, rfl⟩ := (List.eq_nil_or_concat right).resolve_left some
  rw [threshold, threshold, List.concat_eq_append, ← List.append_assoc, List.getLastD_concat,
    List.getLastD_concat]

theorem le_threshold {run : List (S × ℚ)}
    (sorted : run.Pairwise fun first second => first.1 ≤ second.1) {item : S × ℚ}
    (member : item ∈ run) : item.1 ≤ threshold run := by
  rcases List.eq_nil_or_concat run with rfl | ⟨first, last, rfl⟩
  · cases member
  · rw [List.concat_eq_append] at *
    rw [threshold, List.getLastD_concat]
    rcases List.mem_append.mp member with early | isLast
    · exact (List.pairwise_append.mp sorted).2.2 item early last List.mem_cons_self
    · rw [List.mem_singleton.mp isLast]

omit [LinearOrder S] in
theorem exists_threshold {run : List (S × ℚ)} (some : run ≠ []) :
    ∃ last ∈ run, last.1 = threshold run ∧ run.getLast? = Option.some last := by
  obtain ⟨first, last, rfl⟩ := (List.eq_nil_or_concat run).resolve_left some
  rw [List.concat_eq_append]
  refine ⟨last, List.mem_append_right _ List.mem_cons_self, ?_, List.getLast?_concat⟩
  rw [threshold, List.getLastD_concat]

/-- The second run starts with the score that the first ends with. -/
def Tied (first second : List (S × ℚ)) : Prop := ∃ item ∈ second.head?, item.1 = threshold first

/-- **The step function is the mean of every run** where the thresholds rise and tied runs have one
mean. -/
theorem stepFunction_eq_mean {runs : List (List (S × ℚ))}
    (sorted : runs.flatten.Pairwise fun first second => first.1 ≤ second.1)
    (some : ∀ run ∈ runs, run ≠ [])
    (rising : runs.Pairwise fun first second => threshold first < threshold second)
    (level : runs.IsChain fun first second => Tied first second → mean first = mean second) :
    ∀ run ∈ runs, ∀ item ∈ run, stepFunction (runs.map block) item.1 = mean run := by
  induction runs with
  | nil => exact List.forall_mem_nil _
  | cons run rest ih =>
    rw [List.flatten_cons, List.pairwise_append] at sorted
    rw [List.forall_mem_cons] at some
    rw [List.pairwise_cons] at rising
    obtain ⟨sortedRun, sortedRest, across⟩ := sorted
    refine List.forall_mem_cons.mpr ⟨fun item member => ?_, fun later isLater item member => ?_⟩
    · exact stepFunction_cons_of_le _ (le_threshold sortedRun member)
    · have also := ih sortedRest some.2 rising.2 level.tail later isLater item member
      obtain ⟨last, isLast, lastScore, -⟩ := exists_threshold some.1
      have above : threshold run ≤ item.1 :=
        lastScore ▸ across last isLast item (List.mem_flatten_of_mem isLater member)
      rcases above.lt_or_eq with beyond | same
      · have beyond : (block run).1 < item.1 := beyond
        rw [List.map_cons, stepFunction_cons_of_lt beyond, also]
        exact fun empty => List.ne_nil_of_mem isLater (List.map_eq_nil_iff.mp empty)
      · have within : item.1 ≤ (block run).1 := same.ge
        rw [List.map_cons, stepFunction_cons_of_le _ within]
        -- only the next run can start with the score that this one ends with
        cases rest with
        | nil => cases isLater
        | cons next further =>
          rw [List.flatten_cons, List.pairwise_append] at sortedRest
          rw [List.forall_mem_cons] at some
          rcases List.mem_cons.mp isLater with rfl | isFurther
          · refine (List.isChain_cons_cons.mp level).1 ?_
            cases later with
            | nil => cases member
            | cons head tail =>
              have from' : threshold run ≤ head.1 :=
                lastScore ▸ across last isLast head (List.mem_append_left _ List.mem_cons_self)
              refine ⟨head, rfl, le_antisymm ?_ from'⟩
              rcases List.mem_cons.mp member with rfl | isTail
              · exact same.ge
              · exact ((List.pairwise_cons.mp sortedRest.1).1 item isTail).trans same.ge
          · obtain ⟨ending, isEnding, endingScore, -⟩ := exists_threshold some.2.1
            have behind :=
              sortedRest.2.2 ending isEnding item (List.mem_flatten_of_mem isFurther member)
            rw [endingScore, ← same] at behind
            exact absurd (rising.1 next List.mem_cons_self) (not_lt.mpr behind)

end StepFunction

/-! ### The regression -/

section Regression

variable {S : Type} [LinearOrder S]

/-- **The isotonic regression**: thresholds that rise strictly, values that rise, and a step
function of least squared error. -/
structure IsotonicFit (blocks observations : List (S × ℚ)) : Prop where
  thresholds : blocks.Pairwise fun first second => first.1 < second.1
  values : blocks.Pairwise fun first second => first.2 ≤ second.2
  optimal : Optimal (stepFunction blocks) observations

/-- **Equal scores are pulled together**: where an observation has the score of the one before it, a
run that ends before it has at least the mean of one that starts with it, and it does not stay
alone. -/
def TiesPooled (observations : List (S × ℚ)) : Prop :=
  ∀ before item after, observations = before ++ item :: after →
    (∃ previous ∈ before.getLast?, previous.1 = item.1) →
    Touching before (item :: after) ∧
      (Pulled before (item :: after) ∨ Pulled (before ++ [item]) after)

/-- The order of the observations does not matter. -/
theorem IsotonicFit.perm {blocks observations others : List (S × ℚ)}
    (fit : IsotonicFit blocks observations) (perm : observations.Perm others) :
    IsotonicFit blocks others := by
  refine ⟨fit.thresholds, fit.values, fun g rises => ?_⟩
  rw [← squaredError_perm perm, ← squaredError_perm perm]
  exact fit.optimal g rises

/-- Scores that differ pairwise are not tied. -/
theorem tiesPooled_of_strict {observations : List (S × ℚ)}
    (strict : observations.Pairwise fun first second => first.1 < second.1) :
    TiesPooled observations := by
  rintro before item after rfl ⟨previous, last, tied⟩
  have less := (List.pairwise_append.mp strict).2.2 previous (List.mem_of_getLast? last) item
    List.mem_cons_self
  exact absurd tied less.ne

section Shift

variable {f g : S → ℚ} {run : List (S × ℚ)}

omit [LinearOrder S] in
theorem inner_eq_zero (same : ∀ item ∈ run, g item.1 = f item.1) : inner g f run = 0 := by
  refine List.sum_eq_zero fun term member => ?_
  obtain ⟨item, isItem, rfl⟩ := List.mem_map.mp member
  rw [same item isItem, sub_self, zero_mul]

omit [LinearOrder S] in
theorem inner_shift {value shift : ℚ} (shifted : ∀ item ∈ run, g item.1 = f item.1 - shift)
    (constant : ∀ item ∈ run, f item.1 = value) : inner g f run = shift * excess value run := by
  induction run with
  | nil => rw [excess_nil, mul_zero]; rfl
  | cons item rest ih =>
    rw [List.forall_mem_cons] at shifted constant
    have step : excess value (item :: rest) = item.2 - value + excess value rest := List.sum_cons
    rw [inner_cons, ih shifted.2 constant.2, shifted.1, constant.1, step]
    ring

omit [LinearOrder S] in
theorem inner_flatten_eq_zero {runs : List (List (S × ℚ))}
    (zero : ∀ run ∈ runs, inner g f run = 0) : inner g f runs.flatten = 0 := by
  induction runs with
  | nil => rfl
  | cons run rest ih =>
    rw [List.forall_mem_cons] at zero
    rw [List.flatten_cons, inner_append, zero.1, ih zero.2, add_zero]

/-- A function may be lowered behind a jump. -/
theorem lowered_monotone (rises : Monotone f) (bound : S) (shift : ℚ)
    (jump : ∀ low high, low ≤ bound → bound < high → f low ≤ f high - shift) :
    Monotone fun score => if bound < score then f score - shift else f score := by
  intro low high below
  dsimp only
  split_ifs with first second second
  · exact sub_le_sub_right (rises below) shift
  · exact absurd (first.trans_le below) second
  · exact jump low high (not_lt.mp first) second
  · exact rises below

theorem fst_le_of_toLex_le {first second : S × ℚ} (ordered : toLex first ≤ toLex second) :
    first.1 ≤ second.1 := by
  rcases Prod.Lex.toLex_le_toLex.mp ordered with less | ⟨same, -⟩
  · exact less.le
  · exact same.le

theorem exists_split_at (bound : S)
    (sorted : run.Pairwise fun first second => first.1 ≤ second.1) :
    ∃ left right, run = left ++ right ∧ (∀ item ∈ left, item.1 ≤ bound) ∧
      ∀ item ∈ right, bound < item.1 := by
  induction run with
  | nil => exact ⟨[], [], rfl, List.forall_mem_nil _, List.forall_mem_nil _⟩
  | cons item rest ih =>
    rw [List.pairwise_cons] at sorted
    by_cases within : item.1 ≤ bound
    · obtain ⟨left, right, split, below, beyond⟩ := ih sorted.2
      exact ⟨item :: left, right, congrArg (item :: ·) split, List.forall_mem_cons.mpr ⟨within, below⟩,
        beyond⟩
    · have beyond := not_le.mp within
      refine ⟨[], item :: rest, rfl, List.forall_mem_nil _, List.forall_mem_cons.mpr ⟨beyond, ?_⟩⟩
      exact fun other member => beyond.trans_le (sorted.1 other member)

end Shift

variable [Inhabited S] {observations : List (S × ℚ)} {runs : List (List (S × ℚ))}

theorem stepFunction_blocks_append {first second : List (List (S × ℚ))} {score : S}
    (beyond : ∀ run ∈ first, threshold run < score) (some : second ≠ []) :
    stepFunction ((first ++ second).map block) score = stepFunction (second.map block) score := by
  rw [List.map_append]
  exact stepFunction_append (List.forall_mem_map.mpr beyond)
    fun empty => some (List.map_eq_nil_iff.mp empty)

/-- **Between tied runs of an optimal step function the mean does not jump.** Otherwise everything
behind the tie could be lowered: the tied part of the second run is above its mean, so the rest is
below it. -/
theorem Pooling.not_jump {first later : List (List (S × ℚ))} {run next : List (S × ℚ)}
    (pooling : Pooling observations (first ++ run :: next :: later))
    (sorted : observations.Pairwise fun first second => first.1 ≤ second.1)
    (rising : (first ++ run :: next :: later).Pairwise fun first second =>
      threshold first < threshold second)
    (optimal : Optimal (stepFunction ((first ++ run :: next :: later).map block)) observations)
    (level : (next :: later).IsChain fun first second => Tied first second → mean first = mean second)
    (tied : Tied run next) : mean run = mean next := by
  have someRun : run ≠ [] := pooling.some run (by simp)
  have someNext : next ≠ [] := pooling.some next (by simp)
  have values := pooling.ordered
  have stepRises : Monotone (stepFunction ((first ++ run :: next :: later).map block)) :=
    stepFunction_monotone (List.pairwise_map.mpr values)
  rw [Ordered, List.append_cons, List.pairwise_append, List.pairwise_append] at values
  have orders := rising
  rw [List.append_cons, List.pairwise_append, List.pairwise_append] at orders
  -- the observations before and behind the tie
  have whole := pooling.whole
  rw [List.append_cons, List.flatten_append] at whole
  rw [← whole, List.pairwise_append] at sorted
  have start : threshold (first ++ [run]).flatten = threshold run := by
    rw [List.flatten_append, List.flatten_singleton, threshold_append someRun]
  have before : ∀ item ∈ (first ++ [run]).flatten, item.1 ≤ threshold run := fun item member =>
    start ▸ le_threshold sorted.1 member
  have sortedNext := (List.pairwise_append.mp (List.flatten_cons ▸ sorted.2.1))
  have further : ∀ other ∈ later, ∀ item ∈ other, threshold run < item.1 := by
    intro other isLater item member
    obtain ⟨last, isLast, lastScore, -⟩ := exists_threshold someNext
    have above := sortedNext.2.2 last isLast item (List.mem_flatten_of_mem isLater member)
    rw [lastScore] at above
    exact (orders.2.2 run (by simp) next List.mem_cons_self).trans_le above
  -- the step function before and behind it
  have atTie : stepFunction ((first ++ run :: next :: later).map block) (threshold run) =
      mean run := by
    rw [stepFunction_blocks_append (fun other member => orders.1.2.2 other member run (by simp))
      (List.cons_ne_nil _ _), List.map_cons]
    exact stepFunction_cons_of_le _ le_rfl
  have behind : ∀ score, threshold run < score →
      stepFunction ((first ++ run :: next :: later).map block) score =
        stepFunction ((next :: later).map block) score := by
    intro score beyond
    rw [List.append_cons]
    refine stepFunction_blocks_append (fun other member => ?_) (List.cons_ne_nil _ _)
    rcases List.mem_append.mp member with early | isRun
    · exact (orders.1.2.2 other early run (by simp)).trans beyond
    · rwa [List.mem_singleton.mp isRun]
  have means := stepFunction_eq_mean sorted.2.1
    (fun other member => pooling.some other
      (List.mem_append_right _ (List.mem_cons_of_mem _ member))) orders.2.1 level
  have least : ∀ score, threshold run < score →
      mean next ≤ stepFunction ((first ++ run :: next :: later).map block) score := by
    intro score beyond
    rw [behind score beyond]
    have someBlocks : (next :: later).map block ≠ [] := List.cons_ne_nil _ _
    obtain ⟨_, isBlock, same⟩ := List.mem_map.mp (stepFunction_mem score someBlocks)
    obtain ⟨other, isOther, rfl⟩ := List.mem_map.mp isBlock
    rw [← same]
    rcases List.mem_cons.mp isOther with rfl | isLater
    · exact le_rfl
    · exact (List.pairwise_cons.mp values.2.1).1 other isLater
  by_contra different
  have jump : 0 < mean next - mean run := by
    have up := values.2.2 run (by simp) next List.mem_cons_self
    exact sub_pos.mpr (lt_of_le_of_ne up different)
  have lowered := inner_nonneg_of_optimal optimal stepRises
    (lowered_monotone stepRises (threshold run) (mean next - mean run) fun low high within beyond => by
      have small := stepRises within
      have great := least high beyond
      rw [atTie] at small
      linarith)
  -- the tied part of the second run, and the rest of it
  obtain ⟨left, right, split, within, beyond⟩ := exists_split_at (threshold run) sortedNext.1
  have someLeft : left ≠ [] := by
    rintro rfl
    obtain ⟨head, isHead, headScore⟩ := tied
    rw [List.nil_append] at split
    exact absurd headScore (beyond head (split ▸ List.mem_of_mem_head? isHead)).ne'
  have someRight : right ≠ [] := by
    rintro rfl
    obtain ⟨last, isLast, lastScore, -⟩ := exists_threshold someNext
    rw [List.append_nil] at split
    have rises := orders.2.2 run (by simp) next List.mem_cons_self
    exact absurd (lastScore ▸ within last (split ▸ isLast)) (not_le.mpr rises)
  have falls : excess (mean next) right < 0 := by
    have pooledNext := pooling.pooled next (by simp)
    rw [split] at pooledNext ⊢
    exact (mean_lt_iff someRight).mp (pooledNext.suffix_lt someLeft someRight)
  -- lowering what is behind the tie changes the error by the rest of the second run alone
  let f := stepFunction ((first ++ run :: next :: later).map block)
  let g := fun score => if threshold run < score then f score - (mean next - mean run) else f score
  have unchanged : inner g f (first ++ [run]).flatten = 0 :=
    inner_eq_zero fun item member => if_neg (not_lt.mpr (before item member))
  have tiedPart : inner g f left = 0 :=
    inner_eq_zero fun item member => if_neg (not_lt.mpr (within item member))
  have untied : inner g f right = (mean next - mean run) * excess (mean next) right :=
    inner_shift (fun item member => if_pos (beyond item member)) fun item member =>
      (behind item.1 (beyond item member)).trans
        (means next List.mem_cons_self item (split ▸ List.mem_append_right _ member))
  have rest : inner g f later.flatten = 0 := by
    refine inner_flatten_eq_zero fun other isLater => ?_
    have shifted : inner g f other = (mean next - mean run) * excess (mean other) other :=
      inner_shift (fun item member => if_pos (further other isLater item member))
        fun item member => (behind item.1 (further other isLater item member)).trans
          (means other (List.mem_cons_of_mem _ isLater) item member)
    rw [shifted, excess_mean, mul_zero]
  have inNext : inner g f next = inner g f left + inner g f right :=
    (congrArg _ split).trans (inner_append g f left right)
  rw [← whole, inner_append, List.flatten_cons, inner_append] at lowered
  have negative := mul_neg_of_pos_of_neg jump falls
  linarith

/-- **The means of the runs of an optimal step function jump at no tie.** -/
theorem Pooling.level_of_optimal (pooling : Pooling observations runs)
    (sorted : observations.Pairwise fun first second => first.1 ≤ second.1)
    (rising : runs.Pairwise fun first second => threshold first < threshold second)
    (optimal : Optimal (stepFunction (runs.map block)) observations) :
    runs.IsChain fun first second => Tied first second → mean first = mean second := by
  have behind : ∀ second first, runs = first ++ second →
      second.IsChain fun first second => Tied first second → mean first = mean second := by
    intro second
    induction second with
    | nil => exact fun _ _ => .nil
    | cons run rest ih =>
      intro first split
      cases rest with
      | nil => exact .singleton _
      | cons next later =>
        have level := ih (first ++ [run]) (by rw [split, List.append_cons])
        subst split
        exact List.isChain_cons_cons.mpr
          ⟨pooling.not_jump sorted rising optimal level, level⟩
  exact behind runs [] rfl

section Ties

variable {first later : List (List (S × ℚ))} {run : List (S × ℚ)} {head : S × ℚ}
  {tail : List (S × ℚ)}

omit [LinearOrder S] in
theorem threshold_of_getLast? {item : S × ℚ} (last : item ∈ run.getLast?) :
    threshold run = item.1 := by
  rw [threshold, List.getLastD_eq_getLast?, last]
  rfl

omit [LinearOrder S] in
/-- At a tie between two runs the observations are pulled together behind the first of the second
run. -/
theorem Pooling.pulled_of_tied
    (pooling : Pooling observations (first ++ run :: (head :: tail) :: later))
    (ties : TiesPooled observations) (tied : head.1 = threshold run) :
    mean run = mean (head :: tail) ∧
      Pulled ((first ++ [run]).flatten ++ [head]) (tail ++ later.flatten) := by
  have someRun : run ≠ [] := pooling.some run (by simp)
  obtain ⟨last, isLast, lastScore, atEnd⟩ := exists_threshold someRun
  have split : observations = (first ++ [run]).flatten ++ head :: (tail ++ later.flatten) := by
    rw [← pooling.whole]
    simp
  have ending : last ∈ ((first ++ [run]).flatten).getLast? := by
    rw [List.flatten_append, List.flatten_singleton, List.getLast?_append, atEnd]
    rfl
  obtain ⟨touching, together⟩ :=
    ties _ head _ split ⟨last, ending, lastScore.trans tied.symm⟩
  have boundary := pooling
  rw [List.append_cons] at boundary
  refine ⟨le_antisymm ?_ ?_, together.resolve_left boundary.not_pulled⟩
  · exact (List.pairwise_append.mp boundary.ordered).2.2 run (by simp) _ List.mem_cons_self
  · obtain ⟨left, right, someLeft, someRight, isSuffix, isPrefix, below⟩ := touching
    exact (boundary.head_le_mean someRight isPrefix).trans
      (below.trans (pooling.mean_le_last someLeft isSuffix))

/-- Where equal scores are pulled together, a run does not end with the score that the next one ends
with. -/
theorem Pooling.threshold_lt (pooling : Pooling observations (first ++ run :: (head :: tail) :: later))
    (sorted : observations.Pairwise fun first second => toLex first ≤ toLex second)
    (ties : TiesPooled observations) : threshold run < threshold (head :: tail) := by
  have someRun : run ≠ [] := pooling.some run (by simp)
  have whole := pooling.whole
  rw [List.append_cons, List.flatten_append, List.flatten_cons] at whole
  rw [← whole, List.pairwise_append, List.pairwise_append] at sorted
  obtain ⟨-, ⟨sortedNext, -, -⟩, across⟩ := sorted
  obtain ⟨last, isLast, lastScore, -⟩ := exists_threshold someRun
  have start : threshold run ≤ head.1 := by
    have ordered := across last (List.mem_flatten_of_mem (by simp) isLast) head (by simp)
    exact lastScore ▸ fst_le_of_toLex_le ordered
  have scores : (head :: tail).Pairwise fun first second => first.1 ≤ second.1 :=
    sortedNext.imp fst_le_of_toLex_le
  have within := le_threshold scores List.mem_cons_self
  refine lt_of_not_ge fun reached => ?_
  have tied : head.1 = threshold run := le_antisymm (within.trans reached) start
  obtain ⟨-, together⟩ := pooling.pulled_of_tied ties tied
  rcases eq_or_ne tail [] with rfl | some
  · have boundary := pooling
    rw [List.append_cons, List.append_cons] at boundary
    refine boundary.not_pulled ?_
    rwa [List.flatten_append, List.flatten_singleton]
  · -- all of the run has one score, so its labels rise
    have falls := pooling.pooled (head :: tail) (by simp) [head] tail rfl (List.cons_ne_nil _ _) some
    refine absurd falls (not_lt.mpr ((le_mean_iff some).mpr ?_))
    refine List.sum_nonneg fun term member => ?_
    obtain ⟨item, isItem, rfl⟩ := List.mem_map.mp member
    have same : head.1 = item.1 := le_antisymm ((List.pairwise_cons.mp scores).1 item isItem)
      (((le_threshold scores (List.mem_cons_of_mem _ isItem)).trans reached).trans start)
    have single : mean [head] = head.2 := by
      rw [mean, average, List.map_singleton, List.sum_singleton, List.length_singleton, Nat.cast_one,
        div_one]
    rw [single, sub_nonneg]
    rcases Prod.Lex.toLex_le_toLex.mp ((List.pairwise_cons.mp sortedNext).1 item isItem) with
      less | ⟨-, rises⟩
    · exact absurd same less.ne
    · exact rises

end Ties

/-- **The runs give the isotonic regression exactly where equal scores are pulled together.** -/
theorem Pooling.isotonicFit_iff (pooling : Pooling observations runs)
    (sorted : observations.Pairwise fun first second => toLex first ≤ toLex second) :
    IsotonicFit (runs.map block) observations ↔ TiesPooled observations := by
  have scores : observations.Pairwise fun first second => first.1 ≤ second.1 :=
    sorted.imp fst_le_of_toLex_le
  constructor
  · intro fit before item after split ⟨previous, isPrevious, tied⟩
    have rising := List.pairwise_map.mp fit.thresholds
    have level := pooling.level_of_optimal scores rising fit.optimal
    by_cases pulled : Pulled before (item :: after)
    · exact ⟨pulled.touching, Or.inl pulled⟩
    obtain ⟨first, second, rfl, isBefore, isAfter⟩ := pooling.exists_boundary split pulled
    -- the runs on the two sides of the tie
    have someBefore : before ≠ [] := by
      rintro rfl
      cases isPrevious
    obtain ⟨earlier, run, rfl⟩ := (List.eq_nil_or_concat first).resolve_left fun empty =>
      someBefore (by rw [← isBefore, empty, List.flatten_nil])
    rw [List.concat_eq_append] at *
    obtain ⟨next, later, rfl⟩ := List.exists_cons_of_ne_nil fun empty : second = [] => by
      rw [empty] at isAfter
      cases isAfter
    have someRun : run ≠ [] := pooling.some run (by simp)
    obtain ⟨head, tail, rfl⟩ := List.exists_cons_of_ne_nil (pooling.some next (by simp))
    obtain ⟨rfl, -⟩ := List.cons.inj isAfter
    have ending : threshold run = head.1 := by
      rw [← tied, ← threshold_of_getLast? isPrevious, ← isBefore, List.flatten_append,
        List.flatten_singleton, threshold_append someRun]
    have same : mean run = mean (head :: tail) := by
      rw [List.append_assoc] at level
      exact (List.isChain_append_cons_cons.mp level).2.1 ⟨head, rfl, ending.symm⟩
    refine ⟨⟨run, head :: tail, someRun, List.cons_ne_nil _ _, ?_, ?_, same.ge⟩, Or.inr ?_⟩
    · rw [← isBefore, List.flatten_append, List.flatten_singleton]
      exact List.suffix_append _ _
    · rw [← isAfter, List.flatten_cons]
      exact List.prefix_append _ _
    · by_contra apart
      have splitBehind : observations = (before ++ [head]) ++ after := by
        rw [split, List.append_cons]
      obtain ⟨third, fourth, also, isThird, -⟩ := pooling.exists_boundary splitBehind apart
      rcases List.append_eq_append_iff.mp also with ⟨middle, rfl, rest⟩ | ⟨middle, longer, -⟩
      · -- the second run would be a single observation, with the threshold of the first
        rw [List.flatten_append, isBefore] at isThird
        have single : middle.flatten = [head] := List.append_cancel_left isThird
        cases middle with
        | nil => cases single
        | cons alone others =>
          obtain ⟨rfl, -⟩ := List.cons.inj rest
          rw [List.flatten_cons, List.cons_append] at single
          obtain ⟨rfl, -⟩ := List.append_eq_nil_iff.mp (List.cons.inj single).2
          have rises := (List.pairwise_append.mp rising).2.2 run (by simp) [head] List.mem_cons_self
          exact absurd ending rises.ne
      · have lengths := congrArg (List.length ∘ List.flatten) longer
        simp only [Function.comp_apply, List.flatten_append, List.length_append, isThird] at lengths
        rw [← List.length_append, ← List.flatten_append, isBefore, List.length_singleton] at lengths
        omega
  · intro ties
    have split : ∀ ⦃run next first later⦄, runs = first ++ run :: next :: later →
        ∃ head tail, next = head :: tail ∧
          Pooling observations (first ++ run :: (head :: tail) :: later) := by
      rintro run next first later rfl
      obtain ⟨head, tail, rfl⟩ := List.exists_cons_of_ne_nil (pooling.some next (by simp))
      exact ⟨head, tail, rfl, pooling⟩
    have rising : runs.Pairwise fun first second => threshold first < threshold second := by
      have : IsTrans (List (S × ℚ)) fun first second => threshold first < threshold second :=
        ⟨fun _ _ _ => lt_trans⟩
      refine List.isChain_iff_pairwise.mp
        (List.isChain_iff_forall_rel_of_append_cons_cons.mpr fun run next first later parts => ?_)
      obtain ⟨head, tail, rfl, here⟩ := split parts
      exact here.threshold_lt sorted ties
    have level : runs.IsChain fun first second => Tied first second → mean first = mean second := by
      refine List.isChain_iff_forall_rel_of_append_cons_cons.mpr fun run next first later parts => ?_
      obtain ⟨head, tail, rfl, here⟩ := split parts
      rintro ⟨item, isHead, tied⟩
      obtain rfl := Option.some.inj isHead
      exact (here.pulled_of_tied ties tied).1
    refine ⟨List.pairwise_map.mpr rising, List.pairwise_map.mpr pooling.ordered,
      pooling.toPooledRuns.optimal scores ?_⟩
    exact stepFunction_eq_mean (pooling.whole ▸ scores) pooling.some rising level

end Regression

end Logic.Isotonic
