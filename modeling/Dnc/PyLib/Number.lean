/-
**Floating-point scores.**

The scores and utilities of the program are Python floats. `PyFloat` is what the code does with
them: literals, arithmetic and comparison. Comparison is a linear order, so the values are
floats without a NaN; nothing is asked of the operations, so a result for every `PyFloat` holds
whatever the rounding is.
The rationals are the instance that examples compute in.

Where a NaN passes the checks of the code, its numbers are of a type of `FloatOps`, which has the
same operations. There comparison orders what is at most itself and nothing else, as it does with
floats: what is not at most itself is a NaN. `WithNaN R` adds one to the numbers of `R`. A result
that needs negation to reverse the order asks for `PyNegation`.

`format(value, ".4f")` of a rational is the nearest number with so many digits after the point, and
of two nearest ones the even one (`fixedText`).
-/

import Mathlib.Data.Rat.Cast.Defs
import Mathlib.Algebra.Order.Group.Unbundled.Basic
import Mathlib.Algebra.Order.Ring.Rat

namespace PyLib

/-- Numbers as the program uses its floats. -/
class PyFloat (R : Type) extends LinearOrder R, Neg R, Add R, Sub R, Mul R, Div R, IntCast R,
  OfScientific R

instance : PyFloat Rat where

/-- What the program does with its floats, be they numbers or not: comparison orders what is at
most itself, and nothing else. -/
class FloatOps (R : Type) extends LT R, LE R, Neg R, Add R, Sub R, Mul R, Div R, IntCast R,
    OfScientific R where
  decidableLT : DecidableLT R
  decidableLE : DecidableLE R
  numbers : ∀ {first second : R}, first ≤ second → first ≤ first ∧ second ≤ second
  le_trans : ∀ {first second third : R}, first ≤ second → second ≤ third → first ≤ third
  le_of_lt : ∀ {first second : R}, first < second → first ≤ second
  le_of_not_lt : ∀ {first second : R}, first ≤ first → second ≤ second → ¬ first < second →
    second ≤ first
  not_lt_of_le : ∀ {first second : R}, second ≤ first → ¬ first < second
  scientific_le : ∀ mantissa sign exponent, (OfScientific.ofScientific mantissa sign exponent : R) ≤
    OfScientific.ofScientific mantissa sign exponent
  cast_le : ∀ value : Int, (value : R) ≤ value

section Ops

variable {R : Type}

instance (priority := low) floatLT [FloatOps R] : DecidableLT R := FloatOps.decidableLT

instance (priority := low) floatLE [FloatOps R] : DecidableLE R := FloatOps.decidableLE

/-- The value is no NaN. -/
def IsNumber [FloatOps R] (value : R) : Prop := value ≤ value

/-- **What is not below a limit reaches it exactly if both are numbers.** -/
theorem reaches_iff [FloatOps R] {value limit : R} :
    limit ≤ value ↔ ¬ value < limit ∧ IsNumber value ∧ IsNumber limit := by
  constructor
  · intro reached
    have both := FloatOps.numbers reached
    exact ⟨FloatOps.not_lt_of_le reached, both.2, both.1⟩
  · rintro ⟨above, isValue, isLimit⟩
    exact FloatOps.le_of_not_lt isValue isLimit above

/-- **What is not at most a limit exceeds it exactly if both are numbers.** -/
theorem exceeds_iff [FloatOps R] {value limit : R} :
    limit < value ↔ ¬ value ≤ limit ∧ IsNumber value ∧ IsNumber limit := by
  constructor
  · intro exceeded
    have both := FloatOps.numbers (FloatOps.le_of_lt exceeded)
    exact ⟨fun within => FloatOps.not_lt_of_le within exceeded, both.2, both.1⟩
  · rintro ⟨above, isValue, isLimit⟩
    by_contra within
    exact above (FloatOps.le_of_not_lt isLimit isValue within)

theorem float_lt_irrefl [FloatOps R] (value : R) : ¬ value < value := fun less =>
  FloatOps.not_lt_of_le (FloatOps.le_of_lt less) less

theorem float_lt_of_lt_of_le [FloatOps R] {first second third : R} (lower : first < second)
    (upper : second ≤ third) : first < third := by
  have below := FloatOps.le_trans (FloatOps.le_of_lt lower) upper
  refine exceeds_iff.mpr ⟨fun above => ?_, (FloatOps.numbers below).2, (FloatOps.numbers below).1⟩
  exact FloatOps.not_lt_of_le (FloatOps.le_trans upper above) lower

theorem float_lt_of_le_of_lt [FloatOps R] {first second third : R} (lower : first ≤ second)
    (upper : second < third) : first < third := by
  have below := FloatOps.le_trans lower (FloatOps.le_of_lt upper)
  refine exceeds_iff.mpr ⟨fun above => ?_, (FloatOps.numbers below).2, (FloatOps.numbers below).1⟩
  exact FloatOps.not_lt_of_le (FloatOps.le_trans above lower) upper

/-- `first == second`. A NaN equals nothing. -/
def FloatEq [FloatOps R] (first second : R) : Prop := first ≤ second ∧ second ≤ first

instance [FloatOps R] : DecidableRel (FloatEq (R := R)) :=
  fun first second => inferInstanceAs (Decidable (first ≤ second ∧ second ≤ first))

/-- `max` of two values. -/
def pyMax [FloatOps R] (first second : R) : R := if first < second then second else first

/-- `min` of two values. -/
def pyMin [FloatOps R] (first second : R) : R := if second < first then second else first

instance (priority := low) floatOps [PyFloat R] : FloatOps R where
  decidableLT := inferInstance
  decidableLE := inferInstance
  numbers _ := ⟨le_rfl, le_rfl⟩
  le_trans := le_trans
  le_of_lt := le_of_lt
  le_of_not_lt _ _ := not_lt.mp
  not_lt_of_le := not_lt.mpr
  scientific_le _ _ _ := le_rfl
  cast_le _ := le_rfl

end Ops

/-- A number or NaN. -/
inductive WithNaN (R : Type) where
  | nan
  | number (value : R)
deriving DecidableEq

namespace WithNaN

variable {R : Type}

/-- An operation on numbers; with a NaN it gives NaN. -/
def lift (operation : R → R → R) : WithNaN R → WithNaN R → WithNaN R
  | number first, number second => number (operation first second)
  | _, _ => nan

/-- A comparison of numbers; with a NaN it is false. -/
def Compares (relation : R → R → Prop) : WithNaN R → WithNaN R → Prop
  | number first, number second => relation first second
  | _, _ => False

instance (relation : R → R → Prop) [DecidableRel relation] :
    (first second : WithNaN R) → Decidable (Compares relation first second)
  | number first, number second => inferInstanceAs (Decidable (relation first second))
  | nan, nan | nan, number _ | number _, nan => inferInstanceAs (Decidable False)

theorem Compares.exists {relation : R → R → Prop} {first second : WithNaN R}
    (compares : Compares relation first second) :
    ∃ x y, first = number x ∧ second = number y ∧ relation x y := by
  cases first with
  | nan => cases second <;> exact compares.elim
  | number x =>
    cases second with
    | nan => exact compares.elim
    | number y => exact ⟨x, y, rfl, rfl, compares⟩

instance [PyFloat R] : FloatOps (WithNaN R) where
  lt := Compares (· < ·)
  le := Compares (· ≤ ·)
  neg
    | number value => number (-value)
    | nan => nan
  add := lift (· + ·)
  sub := lift (· - ·)
  mul := lift (· * ·)
  div := lift (· / ·)
  intCast value := number value
  ofScientific mantissa sign exponent := number (OfScientific.ofScientific mantissa sign exponent)
  decidableLT first second := inferInstanceAs (Decidable (Compares (· < ·) first second))
  decidableLE first second := inferInstanceAs (Decidable (Compares (· ≤ ·) first second))
  numbers compares := by
    obtain ⟨x, y, rfl, rfl, -⟩ := Compares.exists compares
    exact ⟨le_refl x, le_refl y⟩
  le_trans lower upper := by
    obtain ⟨x, y, rfl, rfl, below⟩ := Compares.exists lower
    obtain ⟨_, z, same, rfl, above⟩ := Compares.exists upper
    cases same
    exact le_trans below above
  le_of_lt below := by
    obtain ⟨x, y, rfl, rfl, less⟩ := Compares.exists below
    exact le_of_lt less
  le_of_not_lt isFirst isSecond above := by
    obtain ⟨x, -, rfl, -, -⟩ := Compares.exists isFirst
    obtain ⟨y, -, rfl, -, -⟩ := Compares.exists isSecond
    exact not_lt.mp above
  not_lt_of_le reached below := by
    obtain ⟨x, y, rfl, rfl, least⟩ := Compares.exists reached
    exact not_lt.mpr least below
  scientific_le mantissa sign exponent :=
    le_refl (OfScientific.ofScientific mantissa sign exponent : R)
  cast_le value := le_refl (value : R)

end WithNaN

/-- Negation, which never rounds, reverses the order. -/
class PyNegation (R : Type) [FloatOps R] : Prop where
  neg_lt_neg_iff : ∀ first second : R, -first < -second ↔ second < first
  neg_le_neg_iff : ∀ first second : R, -first ≤ -second ↔ second ≤ first

instance : PyNegation (WithNaN ℚ) where
  neg_lt_neg_iff
    | .number _, .number _ => neg_lt_neg_iff (α := ℚ)
    | .nan, .nan | .nan, .number _ | .number _, .nan => Iff.rfl
  neg_le_neg_iff
    | .number _, .number _ => neg_le_neg_iff (α := ℚ)
    | .nan, .nan | .nan, .number _ | .number _, .nan => Iff.rfl

/-- `sum(values)`. -/
def pySum {R : Type} [Add R] [IntCast R] (values : List R) : R := values.foldl (· + ·) ((0 : Int) : R)

/-- The nearest integer to a fraction, and the even one of two. -/
def roundHalfEven (numerator denominator : Nat) : Nat :=
  let quotient := numerator / denominator
  let remainder := numerator % denominator
  if 2 * remainder < denominator then quotient
  else if denominator < 2 * remainder then quotient + 1
  else if quotient % 2 = 0 then quotient
  else quotient + 1

/-- `format(value, f".{digits}f")`. -/
def fixedText (digits : Nat) (value : ℚ) : String :=
  let scaled := roundHalfEven (value.num.natAbs * 10 ^ digits) value.den
  let sign := if value < 0 then "-" else ""
  let fraction := (toString (scaled % 10 ^ digits)).toList.leftpad digits '0'
  sign ++ toString (scaled / 10 ^ digits) ++ "." ++ String.ofList fraction

end PyLib
