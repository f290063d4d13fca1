/-
**Sorting with comparisons that may raise.**

`less` is `<` on decoded JSON values: numbers by value, strings by their characters, lists (and
tuples) by their first difference; everything else raises. `sortM lt` is a stable sort by a `<`
that may raise. Whether the built-in sort raises does not depend on the comparisons it picks: it
compares every two neighbours of its result.

The result is a permutation (`sortM_perm`). Where no comparison raises, sorting is `sortBy`
(`sortM_eq_sortBy`), and lists of strings compare as such (`less_texts`).
-/

import Dnc.Logic.Sequence
import Dnc.PyLib.Value
import Mathlib.Data.List.Lex

namespace PyLib

open Logic

namespace Json

mutual

/-- `first < second`. -/
def less : Json → Json → Except PyError Bool
  | .str first, .str second => .ok (decide (first < second))
  | .arr first, .arr second => lessItems first second
  | first, second =>
    match first.number?, second.number? with
    | some first, some second => .ok (decide (first < second))
    | _, _ => .error (.typeError (s!"'<' not supported between instances of '{first.typeName}' " ++
        s!"and '{second.typeName}'"))

/-- `first < second` for lists and tuples. -/
def lessItems : List Json → List Json → Except PyError Bool
  | _, [] => .ok false
  | [], _ :: _ => .ok true
  | first :: rest, second :: others =>
    if pyEq first second then lessItems rest others else less first second

end

/-- Tuples of strings compare lexicographically. -/
theorem less_texts (first second : List String) :
    less (.arr (first.map .str)) (.arr (second.map .str)) = .ok (decide (first < second)) := by
  rw [less]
  induction first generalizing second with
  | nil => cases second <;> simp [lessItems]
  | cons text rest ih =>
    cases second with
    | nil => simp [lessItems]
    | cons other others =>
      rw [List.map_cons, List.map_cons, lessItems, ih]
      by_cases same : text = other
      · subst same
        have order : text :: rest < text :: others ↔ rest < others := by
          rw [List.cons_lt_cons_iff]
          simp only [lt_irrefl, true_and, false_or]
        rw [if_pos (pyEq_self _)]
        exact congrArg Except.ok (decide_eq_decide.mpr order.symm)
      · have different : ¬ pyEq (.str text) (.str other) = true := by
          rw [pyEq_str]
          exact fun equal => same (Json.str.inj equal).symm
        have order : text :: rest < other :: others ↔ text < other := by
          rw [List.cons_lt_cons_iff]
          simp only [same, false_and, or_false]
        rw [if_neg different, less]
        exact congrArg Except.ok (decide_eq_decide.mpr order.symm)

end Json

section SortM

variable {ε α κ : Type}

def insertM (lt : α → α → Except ε Bool) (x : α) : List α → Except ε (List α)
  | [] => .ok [x]
  | y :: ys => do
    if ← lt y x then return y :: (← insertM lt x ys) else return x :: y :: ys

/-- A stable sort by a comparison that may raise. -/
def sortM (lt : α → α → Except ε Bool) : List α → Except ε (List α)
  | [] => .ok []
  | x :: xs => do insertM lt x (← sortM lt xs)

theorem insertM_perm {lt : α → α → Except ε Bool} {x : α} {xs inserted : List α}
    (inserts : insertM lt x xs = .ok inserted) : inserted.Perm (x :: xs) := by
  induction xs generalizing inserted with
  | nil =>
    cases inserts
    exact List.Perm.refl _
  | cons y ys ih =>
    unfold insertM at inserts
    obtain ⟨below, -, inserts⟩ := bind_eq_ok.mp inserts
    cases below with
    | true =>
      obtain ⟨rest, later, same⟩ := bind_eq_ok.mp inserts
      cases same
      exact ((ih later).cons y).trans (List.Perm.swap x y ys)
    | false =>
      cases inserts
      exact List.Perm.refl _

/-- What is sorted is a permutation of what was given. -/
theorem sortM_perm {lt : α → α → Except ε Bool} {xs sorted : List α}
    (sorts : sortM lt xs = .ok sorted) : sorted.Perm xs := by
  induction xs generalizing sorted with
  | nil =>
    cases sorts
    exact List.Perm.refl _
  | cons x xs ih =>
    obtain ⟨rest, later, inserts⟩ := bind_eq_ok.mp sorts
    exact (insertM_perm inserts).trans ((ih later).cons x)

variable [LinearOrder κ]

theorem insertM_eq {lt : α → α → Except ε Bool} {key : α → κ} {x : α} {xs : List α}
    (compares : ∀ y ∈ xs, lt y x = .ok (decide (key y < key x))) :
    insertM lt x xs = .ok (xs.orderedInsert (fun first second => key first ≤ key second) x) := by
  induction xs with
  | nil => rfl
  | cons y ys ih =>
    have here := compares y List.mem_cons_self
    have later := ih fun z member => compares z (List.mem_cons_of_mem _ member)
    rw [insertM, here, List.orderedInsert_cons]
    by_cases below : key y < key x
    · rw [if_neg (not_le.mpr below), later]
      simp [below]
      rfl
    · rw [if_pos (not_lt.mp below)]
      simp [below]
      rfl

/-- Where no comparison raises, the sort is the sort by the key. -/
theorem sortM_eq_sortBy {lt : α → α → Except ε Bool} {key : α → κ} {xs : List α}
    (compares : ∀ y ∈ xs, ∀ x ∈ xs, lt y x = .ok (decide (key y < key x))) :
    sortM lt xs = .ok (sortBy key xs) := by
  induction xs with
  | nil => rfl
  | cons x xs ih =>
    have later := ih fun y inRest z alsoInRest =>
      compares y (List.mem_cons_of_mem _ inRest) z (List.mem_cons_of_mem _ alsoInRest)
    have inserted : insertM lt x (sortBy key xs) =
        .ok ((sortBy key xs).orderedInsert (fun first second => key first ≤ key second) x) :=
      insertM_eq fun y member =>
        compares y (List.mem_cons_of_mem _ (mem_sortBy.mp member)) x List.mem_cons_self
    rw [sortM, later]
    exact inserted

end SortM

end PyLib
