/-
**Generated updates move towards what was observed, or away from it.**

`dnc.learning.continual.CandidateUpdate.generate`: a batch of learning events becomes an update. A
module entry moves to the value observed last, by at most a part of its size; a cost whose observed
value is far off moves by a part of the difference.

* `generate_modules` and `generate_costs`: what an update holds for a key, by the last observation.
* `clamp_moves`: the rule for modules keeps its bound and its direction unless the bound is
  negative.
* `learnsTowards_iff`: the rule for costs has the sign of its step the wrong way round. So the
  update is as it should be only where another observation that is far off lies on the other side of
  the cost, and far enough.
-/

import Dnc.Learning.KnowledgeBase
import Mathlib.Order.Interval.Set.UnorderedInterval
import Mathlib.Algebra.Order.Field.Rat
import Mathlib.Tactic.Linarith

namespace Dnc.Learning

open PyLib Logic

/-- What `generate` reads of `candidate_update_summary`. -/
structure UpdateSummary where
  plan : Option Json := none
  kbModules : Dict String ℚ := ∅
  kbCosts : Dict String ℚ := ∅

/-- What `generate` reads of a learning event. -/
structure LearningEvent where
  deltaQuality : ℚ
  isNovel : Bool
  candidateUpdateSummary : UpdateSummary

/-- An entry of `KB_plans`: a plan, or the whole summary. -/
inductive PlanEntry where
  | plan (value : Json)
  | summary (value : UpdateSummary)

/-- `candidate_update`. -/
structure GeneratedUpdate where
  kbModules : Dict String ℚ
  kbPlans : Dict String PlanEntry
  kbCosts : Dict String ℚ

/-- The fields of `CandidateUpdate`. -/
structure CandidateUpdateParameters where
  learningRate : ℚ := 1 / 100
  maxUpdateMagnitude : ℚ := 5 / 100
  costErrorThreshold : ℚ := 1 / 10
  learningThreshold : ℚ := 5 / 100

/-- `kb_current.KB_modules.get(key, 0.0)`, and the same for `KB_costs`. -/
def currentValue (kbCurrent : KnowledgeBase ℚ) (field : KbField) (key : String) : ℚ :=
  ((kbCurrent.live field).get? key).getD 0

/-- `cost_error`. -/
def costError (current value : ℚ) : ℚ := if 0 < current then |value - current| / current else 0

namespace CandidateUpdateParameters

variable (parameters : CandidateUpdateParameters) (kbCurrent : KnowledgeBase ℚ)

/-- `current + bounded_delta`. -/
def movedModule (key : String) (value : ℚ) : ℚ :=
  let current := currentValue kbCurrent .kbModules key
  let delta := value - current
  current + max (min delta (parameters.maxUpdateMagnitude * |current|))
    (-parameters.maxUpdateMagnitude * |current|)

/-- The cost that a far-off observation leads to. -/
def movedCost (key : String) (value : ℚ) : ℚ :=
  let current := currentValue kbCurrent .kbCosts key
  current - parameters.learningRate * (value - current)

/-- The observation is far off. -/
def FarOff (item : String × ℚ) : Prop :=
  parameters.costErrorThreshold < costError (currentValue kbCurrent .kbCosts item.1) item.2

instance (item : String × ℚ) : Decidable (parameters.FarOff kbCurrent item) :=
  inferInstanceAs (Decidable (_ < _))

/-- The plans of a batch that is not novel: the last plan there is. -/
def knownPlans (leBatch : List LearningEvent) : Dict String PlanEntry :=
  leBatch.foldl (fun plans le =>
    match le.candidateUpdateSummary.plan with
    | some plan => plans.set "template" (.plan plan)
    | none => plans) ∅

/-- `CandidateUpdate.generate`. -/
def generate (leBatch : List LearningEvent) : Option GeneratedUpdate :=
  match leBatch with
  | [] => none
  | firstLe :: _ =>
    let deltaAgg := (leBatch.map LearningEvent.deltaQuality).sum / leBatch.length
    if |deltaAgg| < parameters.learningThreshold then none
    else some {
      kbPlans :=
        if firstLe.isNovel = false then knownPlans leBatch
        else Dict.set ∅ "novel_template" (.summary firstLe.candidateUpdateSummary)
      kbModules := leBatch.foldl (fun modules le =>
        le.candidateUpdateSummary.kbModules.entries.foldl (fun modules item =>
          modules.set item.1 (parameters.movedModule kbCurrent item.1 item.2)) modules) ∅
      kbCosts := leBatch.foldl (fun costs le =>
        le.candidateUpdateSummary.kbCosts.entries.foldl (fun costs item =>
          if parameters.FarOff kbCurrent item then
            costs.set item.1 (parameters.movedCost kbCurrent item.1 item.2)
          else costs) costs) ∅ }

end CandidateUpdateParameters

/-- The values observed for modules, in order, each with its key. -/
def observedModules (leBatch : List LearningEvent) : List (String × ℚ) :=
  leBatch.flatMap fun le => le.candidateUpdateSummary.kbModules.entries

/-- The costs observed, in order, each with its key. -/
def observedCosts (leBatch : List LearningEvent) : List (String × ℚ) :=
  leBatch.flatMap fun le => le.candidateUpdateSummary.kbCosts.entries

/-- The value that comes last for a key. -/
def lastFor (key : String) (items : List (String × ℚ)) : Option ℚ := items.reverse.lookup key

section Updates

variable (parameters : CandidateUpdateParameters) (leBatch : List LearningEvent)
  (kbCurrent : KnowledgeBase ℚ)

/-- **The law of the update**: an estimate moves towards what was observed. -/
structure LearnsTowards (update : GeneratedUpdate) : Prop where
  bounded : ∀ key value, update.kbModules.get? key = some value →
    |value - currentValue kbCurrent .kbModules key| ≤
      parameters.maxUpdateMagnitude * |currentValue kbCurrent .kbModules key|
  modules : ∀ key value, update.kbModules.get? key = some value →
    ∃ observed, lastFor key (observedModules leBatch) = some observed ∧
      value ∈ Set.uIcc (currentValue kbCurrent .kbModules key) observed
  costs : ∀ key value, update.kbCosts.get? key = some value →
    ∃ observed, (key, observed) ∈ observedCosts leBatch ∧
      parameters.FarOff kbCurrent (key, observed) ∧
      value ∈ Set.uIcc (currentValue kbCurrent .kbCosts key) observed

/-- The bound is one, or there is nothing for it to bound. -/
def BoundsModules : Prop :=
  0 ≤ parameters.maxUpdateMagnitude ∨
    ∀ item ∈ observedModules leBatch, currentValue kbCurrent .kbModules item.1 = 0

/-- Of the far-off costs observed for a key, one lies on the side that the last one is not on, and
by the learning rate as far as that one. -/
def OutweighedCosts : Prop :=
  ∀ key last,
    lastFor key ((observedCosts leBatch).filter fun item => parameters.FarOff kbCurrent item) =
      some last →
    ∃ observed, (key, observed) ∈ observedCosts leBatch ∧
      parameters.FarOff kbCurrent (key, observed) ∧
      parameters.learningRate * (last - currentValue kbCurrent .kbCosts key) *
        (observed - currentValue kbCurrent .kbCosts key) ≤ 0 ∧
      |parameters.learningRate * (last - currentValue kbCurrent .kbCosts key)| ≤
        |observed - currentValue kbCurrent .kbCosts key|

/-! ### What an update holds -/

/-- **The last assignment to a key stays.** -/
theorem get?_foldl_set (items : List (String × ℚ)) (f : String → ℚ → ℚ) (key : String) :
    (items.foldl (fun dict item => dict.set item.1 (f item.1 item.2)) (∅ : Dict String ℚ)).get? key =
      (lastFor key items).map (f key) := by
  induction items using List.reverseRecOn with
  | nil => rfl
  | append_singleton items item ih =>
    rw [List.foldl_append, List.foldl_cons, List.foldl_nil, Dict.get?_set, ih, lastFor, lastFor,
      List.reverse_append, List.reverse_singleton, List.singleton_append, lookup_cons_ite]
    split_ifs with same
    · rw [same, Option.map_some]
    · rfl

theorem mem_of_lastFor {items : List (String × ℚ)} {key : String} {value : ℚ}
    (last : lastFor key items = some value) : (key, value) ∈ items := by
  obtain ⟨before, after, split, -⟩ := List.lookup_eq_some_iff.mp last
  rw [← List.mem_reverse, split]
  exact List.mem_append_right _ List.mem_cons_self

/-- A key that occurs occurs a last time. -/
theorem lastFor_of_mem {items : List (String × ℚ)} {item : String × ℚ} (member : item ∈ items) :
    ∃ value, lastFor item.1 items = some value :=
  Option.isSome_iff_exists.mp (List.lookup_isSome_iff.mpr
    ⟨item, List.mem_reverse.mpr member, beq_self_eq_true item.1⟩)

variable {parameters leBatch kbCurrent} {update : GeneratedUpdate}

theorem generate_modules (generated : parameters.generate kbCurrent leBatch = some update)
    (key : String) : update.kbModules.get? key =
      (lastFor key (observedModules leBatch)).map (parameters.movedModule kbCurrent key) := by
  cases leBatch with
  | nil => cases generated
  | cons first rest =>
    simp only [CandidateUpdateParameters.generate] at generated
    split_ifs at generated with small
    · rw [← Option.some.inj generated, ← get?_foldl_set, observedModules, List.foldl_flatMap]
    · rw [← Option.some.inj generated, ← get?_foldl_set, observedModules, List.foldl_flatMap]

theorem generate_costs (generated : parameters.generate kbCurrent leBatch = some update)
    (key : String) : update.kbCosts.get? key =
      (lastFor key ((observedCosts leBatch).filter fun item => parameters.FarOff kbCurrent item)).map
        (parameters.movedCost kbCurrent key) := by
  have filtered : (observedCosts leBatch).foldl (fun costs item =>
      if parameters.FarOff kbCurrent item then
        costs.set item.1 (parameters.movedCost kbCurrent item.1 item.2)
      else costs) (∅ : Dict String ℚ) =
      ((observedCosts leBatch).filter fun item => parameters.FarOff kbCurrent item).foldl
        (fun costs item => costs.set item.1 (parameters.movedCost kbCurrent item.1 item.2)) ∅ := by
    rw [List.foldl_filter]
    simp only [decide_eq_true_eq]
  rw [← get?_foldl_set, ← filtered, observedCosts, List.foldl_flatMap]
  cases leBatch with
  | nil => cases generated
  | cons first rest =>
    simp only [CandidateUpdateParameters.generate] at generated
    split_ifs at generated with small
    · rw [← Option.some.inj generated]
    · rw [← Option.some.inj generated]

/-! ### The rule for modules -/

/-- A number between zero and another one has its sign and is no further away. -/
theorem mem_uIcc_zero {step total : ℚ} :
    step ∈ Set.uIcc 0 total ↔ 0 ≤ step * total ∧ |step| ≤ |total| := by
  rw [Set.mem_uIcc]
  constructor
  · rintro (⟨positive, below⟩ | ⟨above, negative⟩)
    · exact ⟨mul_nonneg positive (positive.trans below), abs_le_abs_of_nonneg positive below⟩
    · exact ⟨mul_nonneg_of_nonpos_of_nonpos negative (above.trans negative),
        abs_le_abs_of_nonpos negative above⟩
  · rintro ⟨sign, near⟩
    rcases lt_trichotomy total 0 with negative | zero | positive
    · have down : step ≤ 0 := nonpos_of_mul_nonneg_left sign negative
      rw [abs_of_nonpos down, abs_of_neg negative, neg_le_neg_iff] at near
      exact Or.inr ⟨near, down⟩
    · rw [zero, abs_zero] at near
      have still : step = 0 := abs_nonpos_iff.mp near
      exact Or.inl ⟨still.ge, by rw [still, zero]⟩
    · have up : 0 ≤ step := nonneg_of_mul_nonneg_left sign positive
      rw [abs_of_nonneg up, abs_of_pos positive] at near
      exact Or.inl ⟨up, near⟩

/-- The same for numbers counted from another one. -/
theorem add_mem_uIcc {current step observed : ℚ} :
    current + step ∈ Set.uIcc current observed ↔
      0 ≤ step * (observed - current) ∧ |step| ≤ |observed - current| := by
  rw [← mem_uIcc_zero, Set.mem_uIcc, Set.mem_uIcc]
  constructor
  · rintro (⟨above, below⟩ | ⟨below, above⟩)
    · exact Or.inl ⟨by linarith, by linarith⟩
    · exact Or.inr ⟨by linarith, by linarith⟩
  · rintro (⟨above, below⟩ | ⟨below, above⟩)
    · exact Or.inl ⟨by linarith, by linarith⟩
    · exact Or.inr ⟨by linarith, by linarith⟩

/-- **A bounded step** keeps its bound and its direction. -/
theorem clamp_moves (delta : ℚ) {bound : ℚ} (nonnegative : 0 ≤ bound) :
    |max (min delta bound) (-bound)| ≤ bound ∧
      max (min delta bound) (-bound) ∈ Set.uIcc 0 delta := by
  constructor
  · exact abs_le.mpr ⟨le_max_right _ _, max_le (min_le_right _ _) (by linarith)⟩
  · rw [Set.mem_uIcc]
    rcases le_total 0 delta with up | down
    · exact Or.inl ⟨le_max_of_le_left (le_min up nonnegative),
        max_le (min_le_left _ _) (by linarith)⟩
    · rw [min_eq_left (down.trans nonnegative)]
      exact Or.inr ⟨le_max_left _ _, max_le down (by linarith)⟩

theorem movedModule_moves {key : String} {value : ℚ}
    (bounds : 0 ≤ parameters.maxUpdateMagnitude ∨ currentValue kbCurrent .kbModules key = 0) :
    |parameters.movedModule kbCurrent key value - currentValue kbCurrent .kbModules key| ≤
        parameters.maxUpdateMagnitude * |currentValue kbCurrent .kbModules key| ∧
      parameters.movedModule kbCurrent key value ∈
        Set.uIcc (currentValue kbCurrent .kbModules key) value := by
  have nonnegative : 0 ≤ parameters.maxUpdateMagnitude *
      |currentValue kbCurrent .kbModules key| := by
    rcases bounds with bound | zero
    · exact mul_nonneg bound (abs_nonneg _)
    · rw [zero, abs_zero, mul_zero]
  obtain ⟨near, towards⟩ := clamp_moves (value - currentValue kbCurrent .kbModules key) nonnegative
  rw [CandidateUpdateParameters.movedModule, neg_mul, add_sub_cancel_left, add_mem_uIcc,
    ← mem_uIcc_zero]
  exact ⟨near, towards⟩

/-- A negative bound pushes every entry that is not zero out of it. -/
theorem not_bounded_of_negative {key : String} {value : ℚ}
    (negative : parameters.maxUpdateMagnitude < 0)
    (nonzero : currentValue kbCurrent .kbModules key ≠ 0) :
    ¬ |parameters.movedModule kbCurrent key value - currentValue kbCurrent .kbModules key| ≤
        parameters.maxUpdateMagnitude * |currentValue kbCurrent .kbModules key| := by
  have bound : parameters.maxUpdateMagnitude * |currentValue kbCurrent .kbModules key| < 0 :=
    mul_neg_of_neg_of_pos negative (abs_pos.mpr nonzero)
  exact fun near => absurd (bound.trans_le (abs_nonneg _)) (not_lt.mpr near)

/-! ### The rule for costs -/

/-- **Where the cost goes**, against an observation. -/
theorem movedCost_mem_uIcc {key : String} {last observed : ℚ} :
    parameters.movedCost kbCurrent key last ∈
        Set.uIcc (currentValue kbCurrent .kbCosts key) observed ↔
      parameters.learningRate * (last - currentValue kbCurrent .kbCosts key) *
          (observed - currentValue kbCurrent .kbCosts key) ≤ 0 ∧
        |parameters.learningRate * (last - currentValue kbCurrent .kbCosts key)| ≤
          |observed - currentValue kbCurrent .kbCosts key| := by
  rw [CandidateUpdateParameters.movedCost, sub_eq_add_neg, add_mem_uIcc, abs_neg, neg_mul,
    Left.nonneg_neg_iff]

/-- **An update moves towards what was observed exactly where** its bound is one and every far-off
cost is outweighed. -/
theorem learnsTowards_iff (parameters : CandidateUpdateParameters) (leBatch : List LearningEvent)
    (kbCurrent : KnowledgeBase ℚ) (update : GeneratedUpdate)
    (generated : parameters.generate kbCurrent leBatch = some update) :
    LearnsTowards parameters leBatch kbCurrent update ↔
      BoundsModules parameters leBatch kbCurrent ∧
        OutweighedCosts parameters leBatch kbCurrent := by
  have modules := generate_modules generated
  have costs := generate_costs generated
  constructor
  · intro learns
    refine ⟨?_, fun key last isLast => ?_⟩
    · rcases le_or_gt 0 parameters.maxUpdateMagnitude with bound | negative
      · exact Or.inl bound
      · refine Or.inr fun item member => not_not.mp fun nonzero => ?_
        obtain ⟨value, last⟩ := lastFor_of_mem member
        have stored := modules item.1
        rw [last, Option.map_some] at stored
        exact not_bounded_of_negative negative nonzero (learns.bounded _ _ stored)
    · have stored := costs key
      rw [isLast, Option.map_some] at stored
      obtain ⟨observed, member, farOff, between⟩ := learns.costs _ _ stored
      exact ⟨observed, member, farOff, movedCost_mem_uIcc.mp between⟩
  · rintro ⟨bounds, outweighed⟩
    have moves : ∀ key value, update.kbModules.get? key = some value →
        ∃ observed, lastFor key (observedModules leBatch) = some observed ∧
          |value - currentValue kbCurrent .kbModules key| ≤
            parameters.maxUpdateMagnitude * |currentValue kbCurrent .kbModules key| ∧
          value ∈ Set.uIcc (currentValue kbCurrent .kbModules key) observed := by
      intro key value stored
      rw [modules, Option.map_eq_some_iff] at stored
      obtain ⟨observed, last, moved⟩ := stored
      rw [← moved]
      exact ⟨observed, last, movedModule_moves (bounds.imp_right fun zero =>
        zero (key, observed) (mem_of_lastFor last))⟩
    refine ⟨fun key value stored => ?_, fun key value stored => ?_, fun key value stored => ?_⟩
    · obtain ⟨_, _, near, _⟩ := moves key value stored
      exact near
    · obtain ⟨observed, last, _, towards⟩ := moves key value stored
      exact ⟨observed, last, towards⟩
    · rw [costs, Option.map_eq_some_iff] at stored
      obtain ⟨last, isLast, moved⟩ := stored
      obtain ⟨observed, member, farOff, opposite⟩ := outweighed key last isLast
      rw [← moved]
      exact ⟨observed, member, farOff, movedCost_mem_uIcc.mpr opposite⟩

end Updates

namespace Sample

/-- The cost of one module is one. -/
def costsOne : KnowledgeBase ℚ := KnowledgeBase.new.assign .kbCosts "module" 1

/-- An event that saw what it costs. -/
def costsSeen (cost : ℚ) : LearningEvent where
  deltaQuality := 1
  isNovel := false
  candidateUpdateSummary := { kbCosts := Dict.set ∅ "module" cost }

/-- It was seen to cost two. -/
def costsTwo : LearningEvent := costsSeen 2

/-- It was seen to cost a half, then two. -/
def halfAndTwo : List LearningEvent := [costsSeen (1 / 2), costsTwo]

end Sample

/-- The first of the two outweighs the last. -/
theorem halfAndTwo_learnsTowards : ∃ update,
    CandidateUpdateParameters.generate {} Sample.costsOne Sample.halfAndTwo = some update ∧
      LearnsTowards {} Sample.halfAndTwo Sample.costsOne update := by
  have returns : (CandidateUpdateParameters.generate {} Sample.costsOne
      Sample.halfAndTwo).isSome = true := by decide +kernel
  obtain ⟨update, generated⟩ := Option.isSome_iff_exists.mp returns
  refine ⟨update, generated, (learnsTowards_iff {} _ _ update generated).mpr
    ⟨Or.inl (by decide +kernel), fun key last isLast => ?_⟩⟩
  have seen : observedCosts Sample.halfAndTwo = [("module", 1 / 2), ("module", 2)] := by
    decide +kernel
  have listed := List.mem_of_mem_filter (mem_of_lastFor isLast)
  rw [seen, List.mem_pair, Prod.mk.injEq, Prod.mk.injEq] at listed
  obtain ⟨rfl, rfl⟩ | ⟨rfl, rfl⟩ := listed
  · exact ⟨2, by decide +kernel⟩
  · exact ⟨1 / 2, by decide +kernel⟩

/-- **A cost of one that was seen to be two becomes less than one.** -/
theorem costsTwo_moves_away : ¬ ∀ update,
    CandidateUpdateParameters.generate {} Sample.costsOne [Sample.costsTwo] = some update →
      LearnsTowards {} [Sample.costsTwo] Sample.costsOne update := by
  intro law
  have returns : (CandidateUpdateParameters.generate {} Sample.costsOne
      [Sample.costsTwo]).map (fun update => update.kbCosts.get? "module") =
        some (some (99 / 100)) := by decide +kernel
  obtain ⟨update, generated, cost⟩ := Option.map_eq_some_iff.mp returns
  obtain ⟨observed, member, -, between⟩ := (law update generated).costs _ _ cost
  have current : currentValue Sample.costsOne .kbCosts "module" = 1 := by decide +kernel
  have two : observedCosts [Sample.costsTwo] = [("module", 2)] := by decide +kernel
  rw [two, List.mem_singleton, Prod.mk.injEq] at member
  rw [current, member.2, Set.mem_uIcc] at between
  norm_num at between

end Dnc.Learning
