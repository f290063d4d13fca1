/-
**JSON values.**

A JSON value as Python's `json` module reads it: numbers are integers or floats, and an object is
the list of its entries in insertion order. A list of entries stands for a dictionary only when its
keys are distinct; `wellFormed` says so at every level.

Python compares dictionaries as maps, so two values that differ in the order of keys only are the
same value: `Same` compares the forms in which `sortKeys` has put every object in key order
(`json.dumps(…, sort_keys=True)` prints that form). `Reorders t` is what a change of key order
may do: it keeps scalars, acts inside arrays and keeps the lookups of objects. The identity and
`sortKeys` are the two instances (`reorders_id`, `reorders_sortKeys`).
-/

import Dnc.PyLib.Dict
import Dnc.PyLib.Sorted
import Mathlib.Algebra.GroupWithZero.Nat
import Mathlib.Data.String.Basic

namespace PyLib

/-- A finite float, by the decimal literal `repr` prints for it. -/
structure FloatLit where
  negative : Bool
  whole : Nat
  fraction : List (Fin 10)
  exponent : Option Int
  isFloat : fraction ≠ [] ∨ exponent ≠ none
deriving DecidableEq

instance neZero_ten : NeZero (10 : ℕ) := ⟨by decide⟩

theorem FloatLit.isFloat_zero : ([0] : List (Fin 10)) ≠ [] ∨ (none : Option Int) ≠ none :=
  Or.inl (List.cons_ne_nil _ _)

/-- A JSON value. -/
inductive Json where
  | null
  | bool (value : Bool)
  | int (value : Int)
  | float (value : FloatLit)
  | str (value : String)
  | arr (items : List Json)
  | obj (fields : List (String × Json))

/-- The entries of a JSON object. -/
abbrev JsonObject := List (String × Json)

/-- What goes through a list item by item is a map. -/
theorem eq_map {α β : Type} {f : List α → List β} {g : α → β} (nil : f [] = [])
    (cons : ∀ x rest, f (x :: rest) = g x :: f rest) (xs : List α) : f xs = xs.map g := by
  induction xs with
  | nil => exact nil
  | cons x rest ih => rw [cons, ih, List.map_cons]

namespace Json

/-! ### Induction -/

section Induction

variable {motive : Json → Prop} (null : motive .null) (bool : ∀ value, motive (.bool value))
  (int : ∀ value, motive (.int value)) (float : ∀ value, motive (.float value))
  (str : ∀ value, motive (.str value))
  (arr : ∀ items, (∀ item ∈ items, motive item) → motive (.arr items))
  (obj : ∀ fields, (∀ field ∈ fields, motive field.2) → motive (.obj fields))

include null bool int float str arr obj

/-- Induction over a JSON value, with the elements of an array and the entries of an object as
members of their lists. -/
@[elab_as_elim] theorem induct (value : Json) : motive value :=
  @Json.rec motive (fun items => ∀ item ∈ items, motive item)
    (fun fields => ∀ field ∈ fields, motive field.2) (fun field => motive field.2)
    null bool int float str arr obj
    (List.forall_mem_nil _) (fun _ _ first rest => List.forall_mem_cons.mpr ⟨first, rest⟩)
    (List.forall_mem_nil _) (fun _ _ first rest => List.forall_mem_cons.mpr ⟨first, rest⟩)
    (fun _ _ => id) value

end Induction

/-! ### Decidable equality -/

mutual

/-- Structural equality. -/
def beq : Json → Json → Bool
  | .null, .null => true
  | .bool first, .bool second => first == second
  | .int first, .int second => first == second
  | .float first, .float second => first == second
  | .str first, .str second => first == second
  | .arr first, .arr second => beqItems first second
  | .obj first, .obj second => beqFields first second
  | _, _ => false

def beqItems : List Json → List Json → Bool
  | [], [] => true
  | first :: rest, second :: others => beq first second && beqItems rest others
  | _, _ => false

def beqFields : List (String × Json) → List (String × Json) → Bool
  | [], [] => true
  | (key, first) :: rest, (name, second) :: others =>
    key == name && beq first second && beqFields rest others
  | _, _ => false

end

theorem beqItems_iff {items : List Json}
    (ih : ∀ item ∈ items, ∀ other, beq item other = true ↔ item = other) :
    ∀ others, beqItems items others = true ↔ items = others := by
  induction items with
  | nil => intro others; cases others <;> simp [beqItems]
  | cons first rest restIh =>
    intro others
    cases others with
    | nil => simp [beqItems]
    | cons second others =>
      rw [beqItems, Bool.and_eq_true, ih first List.mem_cons_self,
        restIh (fun item member => ih item (List.mem_cons_of_mem _ member)), List.cons.injEq]

theorem beqFields_iff {fields : List (String × Json)}
    (ih : ∀ field ∈ fields, ∀ other, beq field.2 other = true ↔ field.2 = other) :
    ∀ others, beqFields fields others = true ↔ fields = others := by
  induction fields with
  | nil => intro others; cases others <;> simp [beqFields]
  | cons first rest restIh =>
    intro others
    cases others with
    | nil => simp [beqFields]
    | cons second others =>
      obtain ⟨key, value⟩ := first
      obtain ⟨name, other⟩ := second
      have head := ih (key, value) List.mem_cons_self other
      have tail := restIh (fun field member => ih field (List.mem_cons_of_mem _ member)) others
      rw [beqFields, Bool.and_eq_true, Bool.and_eq_true, beq_iff_eq, head, tail, List.cons.injEq,
        Prod.mk.injEq]

theorem beq_iff (value : Json) : ∀ other, beq value other = true ↔ value = other := by
  induction value using induct with
  | null => intro other; cases other <;> simp [beq]
  | bool value => intro other; cases other <;> simp [beq]
  | int value => intro other; cases other <;> simp [beq]
  | float value => intro other; cases other <;> simp [beq]
  | str value => intro other; cases other <;> simp [beq]
  | arr items ih => intro other; cases other <;> simp [beq, beqItems_iff ih]
  | obj fields ih => intro other; cases other <;> simp [beq, beqFields_iff ih]

instance : DecidableEq Json := fun value other => decidable_of_iff _ (beq_iff value other)

/-! ### Lookups and well-formedness -/

/-- `value.get(key)`, where `value` is an object. -/
def get? : Json → String → Option Json
  | .obj fields, key => fields.lookup key
  | _, _ => none

@[simp] theorem get?_obj (fields : List (String × Json)) (key : String) :
    (obj fields).get? key = fields.lookup key := rfl

mutual

/-- No object of the value holds a key twice. -/
def wellFormed : Json → Bool
  | .arr items => wellFormedItems items
  | .obj fields => decide (fields.map Prod.fst).Nodup && wellFormedFields fields
  | _ => true

def wellFormedItems : List Json → Bool
  | [] => true
  | item :: rest => wellFormed item && wellFormedItems rest

def wellFormedFields : List (String × Json) → Bool
  | [] => true
  | (_, value) :: rest => wellFormed value && wellFormedFields rest

end

theorem wellFormedItems_iff (items : List Json) :
    wellFormedItems items = true ↔ ∀ item ∈ items, item.wellFormed = true := by
  induction items with
  | nil => simp [wellFormedItems]
  | cons item rest ih => simp [wellFormedItems, ih]

theorem wellFormedFields_iff (fields : List (String × Json)) :
    wellFormedFields fields = true ↔ ∀ field ∈ fields, field.2.wellFormed = true := by
  induction fields with
  | nil => simp [wellFormedFields]
  | cons field rest ih => simp [wellFormedFields, ih]

@[simp] theorem wellFormed_arr (items : List Json) :
    (arr items).wellFormed = true ↔ ∀ item ∈ items, item.wellFormed = true := by
  rw [wellFormed, wellFormedItems_iff]

@[simp] theorem wellFormed_obj (fields : List (String × Json)) :
    (obj fields).wellFormed = true ↔
      (fields.map Prod.fst).Nodup ∧ ∀ field ∈ fields, field.2.wellFormed = true := by
  rw [wellFormed, Bool.and_eq_true, decide_eq_true_eq, wellFormedFields_iff]

/-! ### Key order -/

mutual

/-- The value with every object in key order. -/
def sortKeys : Json → Json
  | .arr items => .arr (sortKeysItems items)
  | .obj fields => .obj (sortBy Prod.fst (sortKeysFields fields))
  | .null => .null
  | .bool value => .bool value
  | .int value => .int value
  | .float value => .float value
  | .str value => .str value

def sortKeysItems : List Json → List Json
  | [] => []
  | item :: rest => sortKeys item :: sortKeysItems rest

def sortKeysFields : List (String × Json) → List (String × Json)
  | [] => []
  | (key, value) :: rest => (key, sortKeys value) :: sortKeysFields rest

end

/-- An entry with its value mapped. -/
def mapEntry (f : Json → Json) (field : String × Json) : String × Json := (field.1, f field.2)

@[simp] theorem mapEntry_fst (f : Json → Json) (field : String × Json) :
    (mapEntry f field).1 = field.1 := rfl

@[simp] theorem mapEntry_snd (f : Json → Json) (field : String × Json) :
    (mapEntry f field).2 = f field.2 := rfl

theorem sortKeysItems_eq (items : List Json) : sortKeysItems items = items.map sortKeys :=
  eq_map rfl (fun _ _ => rfl) items

theorem sortKeysFields_eq (fields : List (String × Json)) :
    sortKeysFields fields = fields.map (mapEntry sortKeys) :=
  eq_map rfl (fun _ _ => rfl) fields

@[simp] theorem sortKeys_arr (items : List Json) :
    sortKeys (.arr items) = .arr (items.map sortKeys) := by
  rw [sortKeys, sortKeysItems_eq]

@[simp] theorem sortKeys_obj (fields : List (String × Json)) :
    sortKeys (.obj fields) = .obj (sortBy Prod.fst (fields.map (mapEntry sortKeys))) := by
  rw [sortKeys, sortKeysFields_eq]

@[simp] theorem sortKeys_null : sortKeys .null = .null := rfl
@[simp] theorem sortKeys_bool (value : Bool) : sortKeys (.bool value) = .bool value := rfl
@[simp] theorem sortKeys_int (value : Int) : sortKeys (.int value) = .int value := rfl
@[simp] theorem sortKeys_float (value : FloatLit) : sortKeys (.float value) = .float value := rfl
@[simp] theorem sortKeys_str (value : String) : sortKeys (.str value) = .str value := rfl

@[simp] theorem sortKeys_sortKeys (value : Json) : sortKeys (sortKeys value) = sortKeys value := by
  induction value using induct with
  | arr items ih =>
    rw [sortKeys_arr, sortKeys_arr, List.map_map]
    exact congrArg arr (List.map_congr_left ih)
  | obj fields ih =>
    have twice : (fields.map (mapEntry sortKeys)).map (mapEntry sortKeys) =
        fields.map (mapEntry sortKeys) := by
      rw [List.map_map]
      exact List.map_congr_left fun field member => Prod.ext rfl (ih field member)
    rw [sortKeys_obj, sortKeys_obj]
    refine congrArg obj ?_
    calc sortBy Prod.fst ((sortBy Prod.fst (fields.map (mapEntry sortKeys))).map (mapEntry sortKeys))
        = (sortBy Prod.fst (sortBy Prod.fst (fields.map (mapEntry sortKeys)))).map
            (mapEntry sortKeys) := sortBy_map _ _ _
      _ = (sortBy Prod.fst (fields.map (mapEntry sortKeys))).map (mapEntry sortKeys) := by
          rw [sortBy_of_pairwise (sortBy_pairwise _ _)]
      _ = sortBy Prod.fst ((fields.map (mapEntry sortKeys)).map (mapEntry sortKeys)) :=
          (sortBy_map Prod.fst (mapEntry sortKeys) _).symm
      _ = sortBy Prod.fst (fields.map (mapEntry sortKeys)) := by rw [twice]
  | _ => simp

theorem keys_sortKeys (fields : List (String × Json)) :
    ((sortBy Prod.fst (fields.map (mapEntry sortKeys))).map Prod.fst).Perm
      (fields.map Prod.fst) := by
  have keys : (fields.map (mapEntry sortKeys)).map Prod.fst = fields.map Prod.fst := by
    rw [List.map_map]
    rfl
  rw [← keys]
  exact (sortBy_perm _ _).map Prod.fst

theorem wellFormed_sortKeys {value : Json} (wellFormed : value.wellFormed = true) :
    value.sortKeys.wellFormed = true := by
  induction value using induct with
  | arr items ih =>
    rw [wellFormed_arr] at wellFormed
    rw [sortKeys_arr, wellFormed_arr]
    intro item member
    obtain ⟨origin, inItems, rfl⟩ := List.mem_map.mp member
    exact ih origin inItems (wellFormed origin inItems)
  | obj fields ih =>
    rw [wellFormed_obj] at wellFormed
    rw [sortKeys_obj, wellFormed_obj]
    refine ⟨(keys_sortKeys fields).nodup_iff.mpr wellFormed.1, fun field member => ?_⟩
    obtain ⟨origin, inFields, rfl⟩ := List.mem_map.mp (mem_sortBy.mp member)
    exact ih origin inFields (wellFormed.2 origin inFields)
  | _ => simpa using wellFormed

/-- The values are equal when key order is ignored. -/
def Same (first second : Json) : Prop := first.sortKeys = second.sortKeys

instance (first second : Json) : Decidable (Same first second) :=
  inferInstanceAs (Decidable (first.sortKeys = second.sortKeys))

theorem Same.refl (value : Json) : Same value value := rfl

/-- Sorting entries by key keeps every lookup: among equal keys the first stays first. -/
theorem lookup_sortBy_fst {α : Type} (fields : List (String × α)) (key : String) :
    (sortBy Prod.fst fields).lookup key = fields.lookup key := by
  have insert : ∀ (entry : String × α) (sorted : List (String × α)),
      (sorted.orderedInsert (fun first second => first.1 ≤ second.1) entry).lookup key =
        (entry :: sorted).lookup key := by
    intro entry sorted
    induction sorted with
    | nil => rfl
    | cons first rest ih =>
      rw [List.orderedInsert_cons]
      by_cases below : entry.1 ≤ first.1
      · rw [if_pos below]
      · rw [if_neg below, lookup_cons_ite, ih, lookup_cons_ite, lookup_cons_ite, lookup_cons_ite]
        split_ifs with atFirst atEntry
        · exact absurd (atEntry.symm.trans atFirst).le below
        all_goals rfl
  induction fields with
  | nil => rfl
  | cons entry rest ih =>
    unfold sortBy at ih ⊢
    rw [List.insertionSort_cons, insert, lookup_cons_ite, lookup_cons_ite, ih]

theorem lookup_map_mapEntry (f : Json → Json) (fields : List (String × Json)) (key : String) :
    (fields.map (mapEntry f)).lookup key = (fields.lookup key).map f := by
  induction fields with
  | nil => rfl
  | cons field rest ih =>
    rw [List.map_cons, lookup_cons_ite, lookup_cons_ite, ih, mapEntry_fst, mapEntry_snd]
    split_ifs <;> rfl

/-- **A change of key order**: scalars stay, arrays are changed inside, objects keep their
lookups and, up to order, their entries. -/
structure Reorders (t : Json → Json) : Prop where
  null : t .null = .null
  bool : ∀ value, t (.bool value) = .bool value
  int : ∀ value, t (.int value) = .int value
  float : ∀ value, t (.float value) = .float value
  str : ∀ value, t (.str value) = .str value
  arr : ∀ items, t (.arr items) = .arr (items.map t)
  obj : ∀ fields, ∃ entries, t (.obj fields) = .obj entries ∧
    entries.Perm (fields.map (mapEntry t)) ∧
    ∀ key, entries.lookup key = (fields.lookup key).map t
  same : ∀ value, Same (t value) value

theorem reorders_id : Reorders id where
  null := rfl
  bool _ := rfl
  int _ := rfl
  float _ := rfl
  str _ := rfl
  arr items := by rw [List.map_id]; rfl
  obj fields := by
    have same : fields.map (mapEntry id) = fields := List.map_id fields
    exact ⟨fields, rfl, by rw [same], fun key => by rw [Option.map_id]; rfl⟩
  same := Same.refl

theorem reorders_sortKeys : Reorders sortKeys where
  null := sortKeys_null
  bool := sortKeys_bool
  int := sortKeys_int
  float := sortKeys_float
  str := sortKeys_str
  arr := sortKeys_arr
  obj fields := ⟨_, sortKeys_obj fields, sortBy_perm _ _, fun key => by
    rw [lookup_sortBy_fst, lookup_map_mapEntry]⟩
  same := sortKeys_sortKeys

end Json

end PyLib
