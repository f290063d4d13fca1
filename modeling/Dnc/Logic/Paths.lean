/-
**Paths, read segment by segment.**

A place is the list of the names that lead to it from the top. A segment leads down to a name, or
one level up; at the top, up leads nowhere (`follow`). `walk` follows a path from a place.

* `walk_eq`: wherever it starts, a path first leads some levels up (`ups`) and then down along the
  names that are left of it (`names`).
* `prefix_walk`: a path with no levels up stays below where it starts.
* `leads_prefix_iff`: one course leads, from every place, to where another leads or below exactly if
  its names begin with those of the other, behind as many levels up (`Course.Below`).
* `Route.below_iff`: the same for paths of which some start from the top.
-/

import Mathlib.Data.Fintype.EquivFin
import Mathlib.Data.List.DropRight

namespace Logic

/-- One segment of a path. -/
inductive Segment (α : Type*) where
  | up
  | down (name : α)

section Paths

variable {α : Type*}

/-- Where a segment leads. -/
def follow (place : List α) : Segment α → List α
  | .up => place.dropLast
  | .down name => place ++ [name]

/-- Where a path leads. -/
def walk (place : List α) (path : List (Segment α)) : List α := path.foldl follow place

theorem walk_append (place : List α) (first second : List (Segment α)) :
    walk place (first ++ second) = walk (walk place first) second := List.foldl_append

/-- What a path does, from wherever it starts: levels up, then names. -/
structure Course (α : Type*) where
  ups : Nat := 0
  names : List α := []

/-- One segment more: up takes back a name where there is one, and is a level up where there is
none. -/
def Course.next (course : Course α) : Segment α → Course α
  | .up =>
    if course.names = [] then { course with ups := course.ups + 1 }
    else { course with names := course.names.dropLast }
  | .down name => { course with names := course.names ++ [name] }

/-- The course of a path. -/
def courseOf (path : List (Segment α)) : Course α := path.foldl Course.next {}

/-- Where a course leads. -/
def Course.leads (course : Course α) (place : List α) : List α :=
  place.rdrop course.ups ++ course.names

theorem dropLast_rdrop (place : List α) (levels : Nat) :
    (place.rdrop levels).dropLast = place.rdrop (levels + 1) := by
  simp only [List.rdrop, List.dropLast_eq_take, List.length_take, List.take_take]
  congr 1
  omega

theorem Course.next_leads (course : Course α) (segment : Segment α) (place : List α) :
    (course.next segment).leads place = follow (course.leads place) segment := by
  cases segment with
  | up =>
    by_cases none : course.names = []
    · simp only [Course.next, Course.leads, follow, if_pos none]
      rw [none, List.append_nil, List.append_nil, dropLast_rdrop]
    · simp only [Course.next, Course.leads, follow, if_neg none]
      rw [List.dropLast_append_of_ne_nil none]
  | down name =>
    show place.rdrop course.ups ++ (course.names ++ [name]) = _
    rw [follow, Course.leads, List.append_assoc]

/-- **A path leads some levels up, and then down along the names that are left of it.** -/
theorem walk_eq (place : List α) (path : List (Segment α)) :
    walk place path = (courseOf path).leads place := by
  induction path using List.reverseRecOn with
  | nil =>
    show place = place.rdrop 0 ++ []
    rw [List.rdrop_zero, List.append_nil]
  | append_singleton path last ih =>
    have last_next : courseOf (path ++ [last]) = (courseOf path).next last := List.foldl_append
    rw [walk_append, ih, last_next, Course.next_leads]
    rfl

/-- **A path with no levels up stays below where it starts.** -/
theorem prefix_walk {path : List (Segment α)} (within : (courseOf path).ups = 0)
    (place : List α) : place <+: walk place path := by
  rw [walk_eq, Course.leads, within, List.rdrop_zero]
  exact List.prefix_append _ _

/-- One course and then another: the levels up of the second take back names of the first. -/
def Course.after (first second : Course α) : Course α where
  ups := first.ups + (second.ups - first.names.length)
  names := first.names.rdrop second.ups ++ second.names

theorem Course.after_leads (first second : Course α) (place : List α) :
    (first.after second).leads place = second.leads (first.leads place) := by
  have cut : (place.rdrop first.ups ++ first.names).rdrop second.ups =
      place.rdrop (first.ups + (second.ups - first.names.length)) ++
        first.names.rdrop second.ups := by
    simp only [List.rdrop, List.take_append, List.take_take, List.length_append, List.length_take]
    congr 2 <;> omega
  rw [leads, leads, leads, after, cut, List.append_assoc]

/-- What a course says leads to where another leads or below. -/
def Course.Below (course other : Course α) : Prop :=
  course.ups = other.ups ∧ other.names <+: course.names ∨
    course.ups < other.ups ∧ other.names = []

instance [DecidableEq α] (course other : Course α) : Decidable (course.Below other) :=
  inferInstanceAs (Decidable (_ ∨ _))

theorem exists_fresh [Infinite α] (names : List α) : ∃ name, name ∉ names := by
  classical
  obtain ⟨name, other⟩ := Infinite.exists_notMem_finset names.toFinset
  exact ⟨name, fun inside => other (List.mem_toFinset.mpr inside)⟩

/-- A list does not begin with a name that it lacks. -/
theorem eq_nil_of_prefix_replicate {name : α} {names rest : List α} {levels : Nat}
    (other : name ∉ names) (some : 0 < levels)
    (begins : names <+: List.replicate levels name ++ rest) : names = [] := by
  obtain ⟨fewer, rfl⟩ := Nat.exists_eq_succ_of_ne_zero (Nat.pos_iff_ne_zero.mp some)
  cases names with
  | nil => rfl
  | cons head tail =>
    rw [List.replicate_succ, List.cons_append, List.cons_prefix_cons] at begins
    exact absurd (begins.1 ▸ List.mem_cons_self) other

/-- From far below the top, along levels that all have one name. -/
theorem Course.leads_replicate (course : Course α) (levels : Nat) (name : α) :
    course.leads (List.replicate levels name) =
      List.replicate (levels - course.ups) name ++ course.names := by
  rw [leads, List.rdrop, List.take_replicate, List.length_replicate]
  congr 2
  omega

/-- **One course against another**, from every place. -/
theorem leads_prefix_iff [Infinite α] {course other : Course α} :
    (∀ place, other.leads place <+: course.leads place) ↔ course.Below other := by
  constructor
  · intro below
    obtain ⟨name, fresh⟩ := exists_fresh (other.names ++ course.names)
    rw [List.mem_append, not_or] at fresh
    have there := below (List.replicate (course.ups + other.ups + 1) name)
    rw [Course.leads_replicate, Course.leads_replicate] at there
    have left : course.ups + other.ups + 1 - other.ups = course.ups + 1 := by omega
    have left' : course.ups + other.ups + 1 - course.ups = other.ups + 1 := by omega
    rw [left, left'] at there
    rcases Nat.lt_trichotomy course.ups other.ups with fewer | same | more
    · obtain ⟨levels, more⟩ := Nat.exists_eq_add_of_lt fewer
      have row : List.replicate (other.ups + 1) name =
          List.replicate (course.ups + 1) name ++ List.replicate (levels + 1) name := by
        rw [List.replicate_append_replicate]
        congr 1
        omega
      rw [row, List.append_assoc, List.prefix_append_right_inj] at there
      exact .inr ⟨fewer, eq_nil_of_prefix_replicate fresh.1 (Nat.succ_pos _) there⟩
    · rw [same, List.prefix_append_right_inj] at there
      exact .inl ⟨same, there⟩
    · obtain ⟨levels, more⟩ := Nat.exists_eq_add_of_lt more
      have row : List.replicate (course.ups + 1) name =
          List.replicate (other.ups + 1) name ++ List.replicate (levels + 1) name := by
        rw [List.replicate_append_replicate]
        congr 1
        omega
      rw [row, List.append_assoc, List.prefix_append_right_inj] at there
      have inside : name ∈ course.names :=
        there.subset (List.mem_append_left _ (List.mem_replicate.mpr ⟨by omega, rfl⟩))
      exact absurd inside fresh.2
  · rintro (⟨same, names⟩ | ⟨fewer, none⟩) place
    · rw [Course.leads, Course.leads, same]
      exact (List.prefix_append_right_inj _).mpr names
    · rw [Course.leads, none, List.append_nil, Course.leads, List.rdrop, List.rdrop]
      exact (List.take_prefix_take_left (by omega)).trans (List.prefix_append _ _)

/-- A path that starts from the top or from the place where one is. -/
structure Route (α : Type*) where
  absolute : Bool
  course : Course α

/-- Where a route leads, seen from a directory. -/
def Route.place (route : Route α) (directory : List α) : List α :=
  route.course.leads (if route.absolute then [] else directory)

/-- A route and then a course. -/
def Route.after (route : Route α) (course : Course α) : Route α :=
  { route with course := route.course.after course }

theorem Route.after_place (route : Route α) (course : Course α) (directory : List α) :
    (route.after course).place directory = course.leads (route.place directory) :=
  Course.after_leads _ _ _

/-- What a route says leads to where another leads or below. -/
def Route.Below : Route α → Route α → Prop
  | ⟨true, course⟩, ⟨true, other⟩ => other.names <+: course.names
  | ⟨true, _⟩, ⟨false, _⟩ => False
  | ⟨false, _⟩, ⟨true, other⟩ => other.names = []
  | ⟨false, course⟩, ⟨false, other⟩ => course.Below other

instance [DecidableEq α] : (route other : Route α) → Decidable (route.Below other)
  | ⟨true, course⟩, ⟨true, other⟩ => inferInstanceAs (Decidable (other.names <+: course.names))
  | ⟨true, _⟩, ⟨false, _⟩ => inferInstanceAs (Decidable False)
  | ⟨false, _⟩, ⟨true, other⟩ => inferInstanceAs (Decidable (other.names = []))
  | ⟨false, course⟩, ⟨false, other⟩ => inferInstanceAs (Decidable (course.Below other))

theorem Course.leads_nil (course : Course α) : course.leads [] = course.names := by
  rw [leads, List.rdrop, List.take_nil, List.nil_append]

theorem Route.place_absolute (course : Course α) (directory : List α) :
    Route.place ⟨true, course⟩ directory = course.names :=
  course.leads_nil

theorem Route.place_relative (course : Course α) (directory : List α) :
    Route.place ⟨false, course⟩ directory = course.leads directory := rfl

/-- **One route against another**, seen from every directory. -/
theorem Route.below_iff [Infinite α] {route other : Route α} :
    (∀ directory, other.place directory <+: route.place directory) ↔ route.Below other := by
  obtain ⟨fromTop, course⟩ := route
  obtain ⟨fromTop', other⟩ := other
  cases fromTop <;> cases fromTop' <;> simp only [place_absolute, place_relative]
  case false.false => exact leads_prefix_iff
  case true.true => exact forall_const _
  case false.true =>
    constructor
    · intro below
      obtain ⟨name, fresh⟩ := exists_fresh other.names
      have there := below (List.replicate (course.ups + 1) name)
      rw [Course.leads_replicate, Nat.add_sub_cancel_left] at there
      exact eq_nil_of_prefix_replicate fresh (Nat.succ_pos 0) there
    · intro none directory
      rw [show other.names = [] from none]
      exact List.nil_prefix
  case true.false =>
    refine iff_of_false (fun below => ?_) id
    obtain ⟨name, -⟩ := exists_fresh course.names
    have longer := (below (List.replicate (other.ups + course.names.length + 1) name)).length_le
    rw [Course.leads_replicate, List.length_append, List.length_replicate] at longer
    omega

end Paths

end Logic
