/-
**Partial computations in sequence.**

What it means that a sequence of fallible steps succeeds, as rules that read the success backwards:
`bind_eq_ok` for two steps, `forM_eq_ok` for a check of every element of a list, `mapM_eq_ok` for a
list computed element by element, and `foldlM_consumes` for a loop with a state. `check_eq_none` is
the rule for a chain of checks of which the first that applies gives the error, and `guard_eq_ok` for
a check before a computation (`require_eq_ok` for one with nothing behind it).
-/

import Mathlib.Data.List.Forall2

namespace Logic

variable {ε α β : Type}

/-- A chain of checks finds nothing when its first check and those after it find nothing. -/
theorem check_eq_none {fault : Prop} [Decidable fault] {error : ε} {rest : Option ε} :
    (if fault then some error else rest) = none ↔ ¬ fault ∧ rest = none := by
  by_cases applies : fault
  · rw [if_pos applies]
    exact iff_of_false (fun same => nomatch same) fun both => both.1 applies
  · rw [if_neg applies]
    exact (and_iff_right applies).symm

/-- A check before a computation that returns has found nothing. -/
theorem guard_eq_ok {fault : Prop} [Decidable fault] {error : ε} {rest : Except ε α} {result : α} :
    (if fault then .error error else rest) = .ok result ↔ ¬ fault ∧ rest = .ok result := by
  by_cases applies : fault
  · rw [if_pos applies]
    exact iff_of_false (fun same => nomatch same) fun both => both.1 applies
  · rw [if_neg applies]
    exact (and_iff_right applies).symm

/-- A check that comes last. -/
theorem require_eq_ok {holds : Prop} [Decidable holds] {error : ε} :
    (if holds then .ok () else .error error : Except ε Unit) = .ok () ↔ holds := by
  by_cases passes : holds
  · rw [if_pos passes]
    exact iff_of_true rfl passes
  · rw [if_neg passes]
    exact iff_of_false (fun same => nomatch same) passes

theorem bind_eq_ok {first : Except ε α} {next : α → Except ε β} {result : β} :
    (first >>= next) = .ok result ↔ ∃ value, first = .ok value ∧ next value = .ok result := by
  cases first with
  | error error => exact ⟨nofun, fun ⟨_, failed, _⟩ => nomatch failed⟩
  | ok value =>
    constructor
    · exact fun later => ⟨value, rfl, later⟩
    · rintro ⟨other, same, later⟩
      cases same
      exact later

theorem map_eq_ok {first : Except ε α} {f : α → β} {result : β} :
    first.map f = .ok result ↔ ∃ value, first = .ok value ∧ f value = result := by
  cases first with
  | error error => exact ⟨nofun, fun ⟨_, failed, _⟩ => nomatch failed⟩
  | ok value => simp [Except.map]

/-- A check of every element passes where each passes. -/
theorem forM_eq_ok {items : List α} {check : α → Except ε Unit} :
    items.forM check = .ok () ↔ ∀ item ∈ items, check item = .ok () := by
  induction items with
  | nil => exact ⟨nofun, fun _ => rfl⟩
  | cons item rest ih =>
    show (check item >>= fun _ => rest.forM check) = _ ↔ _
    rw [bind_eq_ok, List.forall_mem_cons, ih]
    constructor
    · rintro ⟨_, here, later⟩
      exact ⟨here, later⟩
    · exact fun both => ⟨(), both.1, both.2⟩

/-- A list is computed where each element is. -/
theorem mapM_eq_ok {items : List α} {f : α → Except ε β} {results : List β} :
    items.mapM f = .ok results ↔ List.Forall₂ (fun item result => f item = .ok result) items results := by
  induction items generalizing results with
  | nil =>
    rw [List.mapM_nil, List.forall₂_nil_left_iff]
    exact ⟨fun same => (Except.ok.inj same).symm, fun same => congrArg Except.ok same.symm⟩
  | cons item rest ih =>
    rw [List.mapM_cons, bind_eq_ok, List.forall₂_cons_left_iff]
    constructor
    · rintro ⟨result, here, later⟩
      obtain ⟨others, rests, same⟩ := bind_eq_ok.mp later
      exact ⟨result, others, here, ih.mp rests, (Except.ok.inj same).symm⟩
    · rintro ⟨result, others, here, rests, rfl⟩
      exact ⟨result, here, bind_eq_ok.mpr ⟨others, ih.mpr rests, rfl⟩⟩

/-- What a computed list holds was computed from an element. -/
theorem exists_of_mem_mapM {items : List α} {f : α → Except ε β} {results : List β}
    (made : items.mapM f = .ok results) {result : β} (member : result ∈ results) :
    ∃ item ∈ items, f item = .ok result := by
  have pairs := mapM_eq_ok.mp made
  clear made
  induction pairs with
  | nil => cases member
  | cons here _ ih =>
    rcases List.mem_cons.mp member with rfl | later
    · exact ⟨_, List.mem_cons_self, here⟩
    · obtain ⟨item, listed, same⟩ := ih later
      exact ⟨item, List.mem_cons_of_mem _ listed, same⟩

/-- What each computed element keeps of the element it was computed from, the list keeps. -/
theorem map_eq_of_mapM {γ : Type} {items : List α} {f : α → Except ε β} {results : List β}
    (made : items.mapM f = .ok results) {old : α → γ} {new : β → γ}
    (kept : ∀ item result, f item = .ok result → new result = old item) :
    results.map new = items.map old := by
  have pairs := mapM_eq_ok.mp made
  clear made
  induction pairs with
  | nil => rfl
  | cons here _ ih => rw [List.map_cons, List.map_cons, kept _ _ here, ih]

theorem mapM_total {f : α → Except ε β} {items : List α}
    (each : ∀ item ∈ items, ∃ result, f item = .ok result) :
    ∃ results, items.mapM f = .ok results := by
  induction items with
  | nil => exact ⟨[], rfl⟩
  | cons item rest ih =>
    obtain ⟨result, here⟩ := each item List.mem_cons_self
    obtain ⟨results, later⟩ := ih fun other member => each other (List.mem_cons_of_mem _ member)
    exact ⟨result :: results, by rw [List.mapM_cons, here, later]; rfl⟩

/-- A list is computed back from what each of its elements was turned into. -/
theorem mapM_map_eq_ok {γ : Type} {f : α → β} {read : β → Except ε γ} {back : α → γ}
    {items : List α} (reads : ∀ item ∈ items, read (f item) = .ok (back item)) :
    (items.map f).mapM read = .ok (items.map back) := by
  induction items with
  | nil => rfl
  | cons item rest ih =>
    rw [List.map_cons, List.mapM_cons, reads item List.mem_cons_self,
      ih fun other member => reads other (List.mem_cons_of_mem _ member)]
    rfl

/-- A related list has a partner for every element. -/
theorem forall₂_mem_left {R : α → β → Prop} {xs : List α} {ys : List β}
    (related : List.Forall₂ R xs ys) {x : α} (member : x ∈ xs) : ∃ y ∈ ys, R x y := by
  induction related with
  | nil => exact absurd member List.not_mem_nil
  | cons here _ ih =>
    rcases List.mem_cons.mp member with rfl | later
    · exact ⟨_, List.mem_cons_self, here⟩
    · obtain ⟨y, listed, holds⟩ := ih later
      exact ⟨y, List.mem_cons_of_mem _ listed, holds⟩

theorem forall₂_mem_right {R : α → β → Prop} {xs : List α} {ys : List β}
    (related : List.Forall₂ R xs ys) {y : β} (member : y ∈ ys) : ∃ x ∈ xs, R x y :=
  forall₂_mem_left (R := fun y x => R x y) related.flip member

/-- **A loop that succeeds**: what every step establishes of the items consumed so far, the loop
establishes of all. -/
theorem foldlM_consumes {σ : Type} {f : σ → α → Except ε σ} {P : List α → σ → Prop}
    (kept : ∀ consumed item state next, P consumed state → f state item = .ok next →
      P (consumed ++ [item]) next)
    {items : List α} {start last : σ} (initial : P [] start)
    (ran : items.foldlM f start = .ok last) : P items last := by
  have along : ∀ (rest consumed : List α) (state : σ), P consumed state →
      rest.foldlM f state = .ok last → P (consumed ++ rest) last := by
    intro rest
    induction rest with
    | nil =>
      intro consumed state holds ran
      cases ran
      rw [List.append_nil]
      exact holds
    | cons item rest ih =>
      intro consumed state holds ran
      rw [List.foldlM_cons] at ran
      obtain ⟨next, stepped, later⟩ := bind_eq_ok.mp ran
      have after := ih (consumed ++ [item]) next (kept consumed item state next holds stepped) later
      rw [List.append_assoc] at after
      exact after
  exact along items [] start initial ran

end Logic
