/-
**String enumerations.**

A Python `class E(str, Enum)`: finitely many members in the order of their definition, each with a
string value, no two with the same. `parse` is the constructor call `E(value)`; it accepts exactly
the values of the members.
-/

import Dnc.PyLib.Value

namespace PyLib

/-- A string enumeration. -/
class PyEnum (α : Type) where
  name : String
  members : List α
  value : α → String
  complete : ∀ member, member ∈ members := by
    intro member
    cases member <;> simp
  injective : Function.Injective value := by
    intro first second same
    cases first <;> cases second <;> simp_all

namespace PyEnum

/-- Members with pairwise different values. -/
theorem injective_of_nodup {α : Type} {members : List α} {value : α → String}
    (complete : ∀ member, member ∈ members) (distinct : (members.map value).Nodup) :
    Function.Injective value := fun first second same =>
  List.inj_on_of_nodup_map distinct (complete first) (complete second) same

variable {α : Type} [PyEnum α]

/-- The member with a value. -/
def ofValue? (text : String) : Option α := members.find? fun member => value member == text

/-- `E(value)`. -/
def parse (given : Json) : Except PyError α :=
  match given with
  | .str text =>
    match ofValue? text with
    | some member => .ok member
    | none => .error (.valueError s!"{given.pyRepr} is not a valid {name α}")
  | _ => .error (.valueError s!"{given.pyRepr} is not a valid {name α}")

/-- `str(member)`, in an enumeration whose member names are the values. -/
def display (member : α) : String := s!"{name α}.{value member}"

/-- `list(E).index(member)`. -/
def rank [DecidableEq α] (member : α) : Nat := (members (α := α)).idxOf member

@[simp] theorem ofValue?_value (member : α) : ofValue? (value member) = some member := by
  unfold ofValue?
  cases found : List.find? (fun other : α => value other == value member) members with
  | none =>
    rw [List.find?_eq_none] at found
    exact absurd (beq_self_eq_true _) (found member (complete member))
  | some other =>
    have same := List.find?_some found
    exact congrArg some (injective (by simpa using same))

@[simp] theorem parse_value (member : α) : parse (.str (value member)) = .ok member := by
  simp only [parse, ofValue?_value]

theorem value_of_ofValue? {text : String} {member : α} (found : ofValue? text = some member) :
    value member = text := by
  have same := List.find?_some found
  simpa using same

/-- What the constructor accepts is the value of the member it returns. -/
theorem parse_eq_ok {given : Json} {member : α} (parsed : parse given = .ok member) :
    given = .str (value member) := by
  unfold parse at parsed
  cases given with
  | str text =>
    cases found : (ofValue? text : Option α) with
    | none => simp [found] at parsed
    | some other =>
      simp only [found, Except.ok.injEq] at parsed
      rw [← parsed, value_of_ofValue? found]
  | _ => simp at parsed

end PyEnum

end PyLib
