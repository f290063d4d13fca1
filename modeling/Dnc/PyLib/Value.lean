/-
**JSON values as Python objects.**

What the interpreter does with a decoded JSON value that no type check has looked at: its truth
value, its equality (`1 == True == 1.0`), iteration, hashing, sets and sorting, each with the
exception it raises on a value of the wrong type.

Equality is decided on a normal form (`pyNormal`): numbers by value, objects in key order. It is
therefore an equivalence, and on strings it is equality (`pyEq_str`). A `PySet` holds hashable
elements no two of which are equal; `PySet.sorted` fails on a set whose elements do not compare.
-/

import Dnc.PyLib.Json
import Mathlib.Algebra.Order.Floor.Ring
import Mathlib.Data.Int.Log
import Mathlib.Data.Rat.Floor

namespace PyLib

/-- An exception of the interpreter. -/
inductive PyError where
  | typeError (message : String)
  | valueError (message : String)
  | keyError (key : String)
  | attributeError (message : String)
  | timeoutError (message : String)
  | permissionError (message : String)
  | dncValidationError (message : String)
  | dncPolicyError (message : String)
  | provenanceTamperingViolation (message : String)
  | causalChainBroken (message : String)
  | indexError (message : String)
  | dncExecutionError (message : String)
  | dncCalibrationError (message : String)
  | learningWithoutEvents (message : String)
  | catastrophicForgettingDetected (message : String)
  | driftBoundExceeded (message : String)
  | dncCleanupError (message : String)
  | stopIteration (message : String)
  | zeroDivisionError (message : String)
  | dncVerificationError (message : String)
  | runtimeError (message : String)
deriving DecidableEq, Repr

/-! ### Checked records -/

/-- The constructor call of a record with a check. -/
def construct {α β : Type} (violation : α → Option PyError)
    (build : ∀ data, violation data = none → β) (data : α) : Except PyError β :=
  match valid : violation data with
  | none => .ok (build data valid)
  | some error => .error error

theorem construct_of_valid {α β : Type} {violation : α → Option PyError}
    {build : ∀ data, violation data = none → β} {data : α} (valid : violation data = none) :
    construct violation build data = .ok (build data valid) := by
  unfold construct
  split
  · rfl
  · rename_i error invalid
    rw [valid] at invalid
    cases invalid

theorem construct_eq_ok {α β : Type} {violation : α → Option PyError}
    {build : ∀ data, violation data = none → β} {data : α} {record : β}
    (made : construct violation build data = .ok record) :
    ∃ valid : violation data = none, build data valid = record := by
  unfold construct at made
  split at made
  · rename_i valid
    exact ⟨valid, Except.ok.inj made⟩
  · cases made

theorem construct_of_invalid {α β : Type} {violation : α → Option PyError}
    {build : ∀ data, violation data = none → β} {data : α} {error : PyError}
    (invalid : violation data = some error) : construct violation build data = .error error := by
  unfold construct
  split
  · rename_i valid
    rw [invalid] at valid
    cases valid
  · rename_i other also
    rw [invalid] at also
    rw [Option.some.inj also]

/-! ### Numbers -/

/-- `sys.get_int_max_str_digits()`: a number with more digits is neither read nor shown. -/
def intMaxStrDigits : Nat := 4300

/-- The nearest binary64 number of a rational in range, ties to even. -/
def roundBinary64 (value : ℚ) : ℚ :=
  if value = 0 then 0
  else
    let unit : ℚ := 2 ^ max (Int.log 2 |value| - 52) (-1074)
    let scaled := value / unit
    let rest := scaled - ⌊scaled⌋
    let rounded : ℤ :=
      if rest < 1 / 2 then ⌊scaled⌋
      else if 1 / 2 < rest then ⌊scaled⌋ + 1
      else if ⌊scaled⌋ % 2 = 0 then ⌊scaled⌋ else ⌊scaled⌋ + 1
    rounded * unit

/-- The decimal a literal writes. -/
def FloatLit.decimal (lit : FloatLit) : ℚ :=
  let digits : Nat := lit.fraction.foldl (fun total digit => 10 * total + digit.val) lit.whole
  let magnitude : ℚ := digits / 10 ^ lit.fraction.length * (10 : ℚ) ^ (lit.exponent.getD 0)
  if lit.negative then -magnitude else magnitude

/-- The number a literal denotes. -/
def FloatLit.value (lit : FloatLit) : ℚ := roundBinary64 lit.decimal

namespace Json

/-- The number a value is, `True` and `False` included. -/
def number? : Json → Option ℚ
  | .bool value => some (if value then 1 else 0)
  | .int value => some value
  | .float value => some value.value
  | _ => none

/-- The string a value is. -/
def text? : Json → Option String
  | .str value => some value
  | _ => none

/-- `bool(value)`. -/
def truthy : Json → Bool
  | .null => false
  | .bool value => value
  | .int value => value != 0
  | .float value => value.value != 0
  | .str value => value != ""
  | .arr items => !items.isEmpty
  | .obj fields => !fields.isEmpty

/-- `type(value).__name__`. -/
def typeName : Json → String
  | .null => "NoneType"
  | .bool _ => "bool"
  | .int _ => "int"
  | .float _ => "float"
  | .str _ => "str"
  | .arr _ => "list"
  | .obj _ => "dict"

/-! ### Display -/

/-- The digits of a number, padded with zeros on the left. -/
def padDigits (width number : Nat) : String :=
  let digits := toString number
  String.ofList (List.replicate (width - digits.length) '0') ++ digits

/-- The literal's text. -/
def floatText (lit : FloatLit) : String :=
  let sign := if lit.negative then "-" else ""
  let fraction :=
    if lit.fraction = [] then "" else "." ++ String.join (lit.fraction.map fun d => toString d.val)
  let exponent := match lit.exponent with
    | none => ""
    | some power => (if power < 0 then "e-" else "e+") ++ padDigits 2 power.natAbs
  sign ++ toString lit.whole ++ fraction ++ exponent

/-- `repr(text)`; every character from the space on stands for itself. -/
def textRepr (text : String) : String :=
  let quote := if '\'' ∈ text.toList ∧ '"' ∉ text.toList then '"' else '\''
  let escape (c : Char) : String :=
    if c = '\\' then "\\\\"
    else if c = quote then String.ofList ['\\', c]
    else if c = '\n' then "\\n"
    else if c = '\r' then "\\r"
    else if c = '\t' then "\\t"
    else if c.toNat < 0x20 ∨ c.toNat = 0x7f then
      "\\x" ++ String.ofList [Nat.digitChar (c.toNat / 16), Nat.digitChar (c.toNat % 16)]
    else String.ofList [c]
  String.ofList [quote] ++ String.join (text.toList.map escape) ++ String.ofList [quote]

mutual

/-- `repr(value)`. -/
def pyRepr : Json → String
  | .null => "None"
  | .bool value => if value then "True" else "False"
  | .int value => toString value
  | .float value => floatText value
  | .str value => textRepr value
  | .arr items => "[" ++ ", ".intercalate (pyReprItems items) ++ "]"
  | .obj fields => "\x7b" ++ ", ".intercalate (pyReprFields fields) ++ "\x7d"

def pyReprItems : List Json → List String
  | [] => []
  | item :: rest => pyRepr item :: pyReprItems rest

def pyReprFields : List (String × Json) → List String
  | [] => []
  | (key, value) :: rest => (textRepr key ++ ": " ++ pyRepr value) :: pyReprFields rest

end

mutual

/-- No number in the value has too many digits to be shown. -/
def showable : Json → Bool
  | .int value => decide (value.natAbs < 10 ^ intMaxStrDigits)
  | .arr items => showableItems items
  | .obj fields => showableFields fields
  | _ => true

def showableItems : List Json → Bool
  | [] => true
  | item :: rest => showable item && showableItems rest

def showableFields : List (String × Json) → Bool
  | [] => true
  | (_, value) :: rest => showable value && showableFields rest

end

/-- `repr(value)` in an interpreter that limits the digits of a number. -/
def tryRepr (value : Json) : Except PyError String :=
  if value.showable then .ok value.pyRepr
  else .error (.valueError (s!"Exceeds the limit ({intMaxStrDigits} digits) for integer string " ++
    "conversion; use sys.set_int_max_str_digits() to increase the limit"))

/-- `str(value)`. -/
def pyStr : Json → String
  | .str value => value
  | value => value.pyRepr

example : (Json.arr [.str "it's", .int (-3), .null, .obj [("a", .bool true)]]).pyStr =
    "[\"it's\", -3, None, \x7b'a': True\x7d]" := by decide

end Json

/-- `str(error)`; a key error shows its argument as a literal. -/
def PyError.message : PyError → String
  | .typeError message => message
  | .valueError message => message
  | .keyError key => Json.textRepr key
  | .attributeError message => message
  | .timeoutError message => message
  | .permissionError message => message
  | .dncValidationError message => message
  | .dncPolicyError message => message
  | .provenanceTamperingViolation message => message
  | .causalChainBroken message => message
  | .indexError message => message
  | .dncExecutionError message => message
  | .dncCalibrationError message => message
  | .learningWithoutEvents message => message
  | .catastrophicForgettingDetected message => message
  | .driftBoundExceeded message => message
  | .dncCleanupError message => message
  | .stopIteration message => message
  | .zeroDivisionError message => message
  | .dncVerificationError message => message
  | .runtimeError message => message

/-- `type(error).__name__`. -/
def PyError.typeName : PyError → String
  | .typeError _ => "TypeError"
  | .valueError _ => "ValueError"
  | .keyError _ => "KeyError"
  | .attributeError _ => "AttributeError"
  | .timeoutError _ => "TimeoutError"
  | .permissionError _ => "PermissionError"
  | .dncValidationError _ => "DNCValidationError"
  | .dncPolicyError _ => "DNCPolicyError"
  | .provenanceTamperingViolation _ => "ProvenanceTamperingViolation"
  | .causalChainBroken _ => "CausalChainBroken"
  | .indexError _ => "IndexError"
  | .dncExecutionError _ => "DNCExecutionError"
  | .dncCalibrationError _ => "DNCCalibrationError"
  | .learningWithoutEvents _ => "LearningWithoutEvents"
  | .catastrophicForgettingDetected _ => "CatastrophicForgettingDetected"
  | .driftBoundExceeded _ => "DriftBoundExceeded"
  | .dncCleanupError _ => "DNCCleanupError"
  | .stopIteration _ => "StopIteration"
  | .zeroDivisionError _ => "ZeroDivisionError"
  | .dncVerificationError _ => "DNCVerificationError"
  | .runtimeError _ => "RuntimeError"

namespace Json

/-! ### Equality -/

mutual

/-- The normal form that equal values share: a boolean or an integral float is the integer it
equals, and objects are in key order. -/
def pyNormal : Json → Json
  | .null => .null
  | .bool value => .int (if value then 1 else 0)
  | .int value => .int value
  | .float value => if value.value.den = 1 then .int value.value.num else .float value
  | .str value => .str value
  | .arr items => .arr (pyNormalItems items)
  | .obj fields => .obj (sortBy Prod.fst (pyNormalFields fields))

def pyNormalItems : List Json → List Json
  | [] => []
  | item :: rest => pyNormal item :: pyNormalItems rest

def pyNormalFields : List (String × Json) → List (String × Json)
  | [] => []
  | (key, value) :: rest => (key, pyNormal value) :: pyNormalFields rest

end

/-- `first == second`. -/
def pyEq (first second : Json) : Bool := first.pyNormal == second.pyNormal

@[simp] theorem pyEq_self (value : Json) : pyEq value value = true := by
  simp [pyEq]

theorem pyEq_iff {first second : Json} :
    pyEq first second = true ↔ first.pyNormal = second.pyNormal := by
  simp [pyEq]

@[simp] theorem pyNormal_str (text : String) : pyNormal (.str text) = .str text := by rw [pyNormal]

@[simp] theorem pyNormal_eq_str {value : Json} {text : String} :
    value.pyNormal = .str text ↔ value = .str text := by
  cases value with
  | float lit =>
    rw [pyNormal]
    split_ifs <;> simp
  | _ => simp [pyNormal]

@[simp] theorem pyEq_str {text : String} {value : Json} :
    pyEq (.str text) value = true ↔ value = .str text := by
  rw [pyEq_iff, pyNormal_str, eq_comm, pyNormal_eq_str]

theorem pyNormalItems_eq (items : List Json) : pyNormalItems items = items.map pyNormal :=
  eq_map rfl (fun _ _ => rfl) items

theorem pyNormalFields_eq (fields : List (String × Json)) :
    pyNormalFields fields = fields.map (mapEntry pyNormal) :=
  eq_map rfl (fun _ _ => rfl) fields

/-- Values that differ in the order of keys only are equal. -/
@[simp] theorem pyNormal_sortKeys (value : Json) : value.sortKeys.pyNormal = value.pyNormal := by
  induction value using induct with
  | arr items ih =>
    rw [sortKeys_arr, pyNormal, pyNormal, pyNormalItems_eq, pyNormalItems_eq, List.map_map]
    exact congrArg arr (List.map_congr_left ih)
  | obj fields ih =>
    have entries : (fields.map (mapEntry sortKeys)).map (mapEntry pyNormal) =
        fields.map (mapEntry pyNormal) := by
      rw [List.map_map]
      exact List.map_congr_left fun field member => congrArg (Prod.mk field.1) (ih field member)
    have keys : Prod.fst ∘ mapEntry pyNormal = (Prod.fst : String × Json → String) := rfl
    rw [sortKeys_obj, pyNormal, pyNormal, pyNormalFields_eq, pyNormalFields_eq, ← entries,
      sortBy_map Prod.fst (mapEntry pyNormal) (fields.map _), keys,
      sortBy_map Prod.fst (mapEntry pyNormal), keys, sortBy_of_pairwise (sortBy_pairwise _ _)]
  | _ => rw [sortKeys]

/-! ### Hashing and iteration -/

/-- Lists and dictionaries have no hash. -/
def hashable : Json → Bool
  | .arr _ => false
  | .obj _ => false
  | _ => true

/-- `iter(value)`: the elements of a list, the characters of a string, the keys of a dictionary. -/
def iterate : Json → Except PyError (List Json)
  | .arr items => .ok items
  | .str text => .ok (text.toList.map fun c => .str (String.ofList [c]))
  | .obj fields => .ok (fields.map fun field => .str field.1)
  | value => .error (.typeError s!"'{value.typeName}' object is not iterable")

/-- `value[key]`. -/
def getItem (value : Json) (key : String) : Except PyError Json :=
  match value with
  | .obj fields =>
    match fields.lookup key with
    | some found => .ok found
    | none => .error (.keyError key)
  | .arr _ => .error (.typeError "list indices must be integers or slices, not str")
  | .str _ => .error (.typeError "string indices must be integers, not 'str'")
  | other => .error (.typeError s!"'{other.typeName}' object is not subscriptable")

/-- `value.get(key, default)`. -/
def getD (value : Json) (key : String) (default : Json) : Except PyError Json :=
  match value with
  | .obj fields => .ok ((fields.lookup key).getD default)
  | other => .error (.attributeError s!"'{other.typeName}' object has no attribute 'get'")

end Json

/-! ### Sets -/

/-- A Python set of JSON values: hashable elements, pairwise different. -/
structure PySet where
  elems : List Json
  hashable : ∀ elem ∈ elems, elem.hashable = true
  distinct : (elems.map Json.pyNormal).Nodup

namespace PySet

@[ext] theorem ext_elems {first second : PySet} (same : first.elems = second.elems) :
    first = second := by
  cases first
  cases second
  cases same
  rfl

instance : DecidableEq PySet := fun first second =>
  decidable_of_iff (first.elems = second.elems) ⟨ext_elems, congrArg elems⟩

/-- `set()`. -/
def empty : PySet := ⟨[], by simp, by simp⟩

instance : EmptyCollection PySet := ⟨empty⟩

/-- `value in s`. -/
def contains (set : PySet) (value : Json) : Bool := decide (value.pyNormal ∈ set.elems.map Json.pyNormal)

/-- `s.add(value)`. -/
def add (set : PySet) (value : Json) : Except PyError PySet :=
  if hashed : value.hashable = true then
    if fresh : value.pyNormal ∉ set.elems.map Json.pyNormal then
      .ok ⟨set.elems ++ [value], by
        intro elem member
        rcases List.mem_append.mp member with old | new
        · exact set.hashable elem old
        · rw [List.mem_singleton.mp new]
          exact hashed, by
        rw [List.map_append, List.map_singleton]
        exact List.nodup_append.mpr ⟨set.distinct, List.nodup_singleton _,
          fun first old second new same =>
            fresh (List.mem_singleton.mp new ▸ same ▸ old)⟩⟩
    else .ok set
  else .error (.typeError s!"unhashable type: '{value.typeName}'")

/-- `set(items)`. -/
def ofList (items : List Json) : Except PyError PySet :=
  items.foldlM add ∅

/-- `set(value)`. -/
def ofValue (value : Json) : Except PyError PySet := do
  ofList (← value.iterate)

/-- `sorted(s)`. Strings compare with strings and numbers with numbers; nothing else does. -/
def sorted (set : PySet) : Except PyError (List Json) :=
  if set.elems.all fun elem => elem.text?.isSome then
    .ok (sortBy (fun elem => elem.text?.getD "") set.elems)
  else if set.elems.all fun elem => elem.number?.isSome then
    .ok (sortBy (fun elem => elem.number?.getD 0) set.elems)
  else if set.elems.length ≤ 1 then .ok set.elems
  else .error (.typeError "'<' not supported between instances")

/-- Two sets with the same elements. -/
def Same (first second : PySet) : Prop := first.elems.Perm second.elems

theorem contains_iff {set : PySet} {value : Json} :
    set.contains value = true ↔ value.pyNormal ∈ set.elems.map Json.pyNormal := by
  rw [contains, decide_eq_true_eq]

theorem Same.contains_iff {first second : PySet} (same : Same first second) {value : Json} :
    first.contains value = true ↔ second.contains value = true := by
  rw [PySet.contains_iff, PySet.contains_iff, (same.map Json.pyNormal).mem_iff]

/-- Adding a value adds it, and nothing else. -/
theorem contains_of_add {set extended : PySet} {value : Json} (added : set.add value = .ok extended)
    {other : Json} :
    extended.contains other = true ↔
      set.contains other = true ∨ other.pyNormal = value.pyNormal := by
  rw [contains_iff, contains_iff]
  unfold add at added
  split_ifs at added with hashed present
  · cases added
    refine ⟨Or.inl, fun member => member.elim id fun same => ?_⟩
    rw [same]
    exact present
  · cases added
    rw [List.map_append, List.mem_append, List.map_singleton, List.mem_singleton]

theorem sorted_perm {set : PySet} {items : List Json} (sorted : set.sorted = .ok items) :
    items.Perm set.elems := by
  unfold PySet.sorted at sorted
  split_ifs at sorted with texts numbers short
  · cases sorted
    exact sortBy_perm _ _
  · cases sorted
    exact sortBy_perm _ _
  · cases sorted
    exact List.Perm.refl _

/-- The elements are strings. -/
def Texts (set : PySet) : Prop := ∀ elem ∈ set.elems, ∃ text, elem = .str text

theorem Texts.sorted_eq {set : PySet} (texts : set.Texts) :
    set.sorted = .ok (sortBy (fun elem => elem.text?.getD "") set.elems) := by
  unfold PySet.sorted
  refine if_pos (List.all_eq_true.mpr fun elem member => ?_)
  obtain ⟨text, rfl⟩ := texts elem member
  rfl

/-- No two elements are the same number. Python prints a number in one way, so that two of its
literals are not both in a set. -/
def NumbersDistinct (set : PySet) : Prop := (set.elems.filterMap Json.number?).Nodup

theorem Texts.numbersDistinct {set : PySet} (texts : set.Texts) : set.NumbersDistinct := by
  have none : set.elems.filterMap Json.number? = [] := by
    refine List.filterMap_eq_nil_iff.mpr fun elem member => ?_
    obtain ⟨text, rfl⟩ := texts elem member
    rfl
  unfold NumbersDistinct
  rw [none]
  exact List.nodup_nil

/-- A set is sorted into the same list whatever order its elements are held in. -/
theorem NumbersDistinct.sorted_congr {first second : PySet} (distinct : first.NumbersDistinct)
    (same : Same first second) : first.sorted = second.sorted := by
  have all : ∀ p : Json → Bool, first.elems.all p = second.elems.all p := fun p => by
    rw [Bool.eq_iff_iff, List.all_eq_true, List.all_eq_true]
    exact forall_congr' fun elem => imp_congr_left same.mem_iff
  unfold PySet.sorted
  rw [← all, ← all, ← same.length_eq]
  split_ifs with texts numbers short
  · refine congrArg Except.ok (sortBy_eq_of_perm same fun x inFirst y alsoInFirst keys => ?_)
    obtain ⟨text, isText⟩ := Option.isSome_iff_exists.mp (List.all_eq_true.mp texts x inFirst)
    obtain ⟨other, isOther⟩ := Option.isSome_iff_exists.mp (List.all_eq_true.mp texts y alsoInFirst)
    cases x <;> cases y <;> simp_all [Json.text?]
  · have values : first.elems.filterMap Json.number? =
        first.elems.map fun elem => elem.number?.getD 0 := by
      rw [← List.filterMap_eq_map]
      refine List.filterMap_congr fun elem member => ?_
      obtain ⟨value, isValue⟩ :=
        Option.isSome_iff_exists.mp (List.all_eq_true.mp numbers elem member)
      exact isValue.trans (congrArg some (congrArg (Option.getD · 0) isValue).symm)
    unfold NumbersDistinct at distinct
    rw [values] at distinct
    exact congrArg Except.ok (sortBy_eq_of_perm same fun x inFirst y alsoInFirst =>
      List.inj_on_of_nodup_map distinct inFirst alsoInFirst)
  · refine congrArg Except.ok ?_
    match shape : first.elems with
    | [] => exact (List.perm_nil.mp (shape ▸ same.symm)).symm
    | [elem] => exact (List.perm_singleton.mp (shape ▸ same.symm)).symm
    | _ :: _ :: _ => simp [shape] at short
  · rfl

/-- The elements of a set, in any order, make the set again. -/
theorem ofList_of_distinct {items : List Json} (hashed : ∀ item ∈ items, item.hashable = true)
    (distinct : (items.map Json.pyNormal).Nodup) : ofList items = .ok ⟨items, hashed, distinct⟩ := by
  have extend : ∀ (rest : List Json) (set : PySet) (hashedAll : ∀ item ∈ set.elems ++ rest,
      item.hashable = true) (distinctAll : ((set.elems ++ rest).map Json.pyNormal).Nodup),
      rest.foldlM add set = .ok ⟨set.elems ++ rest, hashedAll, distinctAll⟩ := by
    intro rest
    induction rest with
    | nil =>
      intro set _ _
      exact congrArg Except.ok (ext_elems (List.append_nil _).symm)
    | cons item rest ih =>
      intro set hashedAll distinctAll
      have hashedItem : item.hashable = true := hashedAll item (by simp)
      have fresh : item.pyNormal ∉ set.elems.map Json.pyNormal := by
        rw [List.map_append, List.nodup_append] at distinctAll
        exact fun old => distinctAll.2.2 _ old _ (by simp) rfl
      have assoc : set.elems ++ [item] ++ rest = set.elems ++ item :: rest := by simp
      rw [List.foldlM_cons, add, dif_pos hashedItem, dif_pos fresh]
      refine (ih _ (by simpa using hashedAll) (by simpa using distinctAll)).trans ?_
      exact congrArg Except.ok (ext_elems assoc)
  exact extend items ∅ hashed distinct

theorem ofList_perm {set : PySet} {items : List Json} (perm : items.Perm set.elems) :
    ∃ rebuilt, ofList items = .ok rebuilt ∧ Same rebuilt set := by
  have hashed : ∀ item ∈ items, item.hashable = true := fun item member =>
    set.hashable item (perm.mem_iff.mp member)
  have distinct : (items.map Json.pyNormal).Nodup :=
    ((perm.map Json.pyNormal).nodup_iff).mpr set.distinct
  exact ⟨_, ofList_of_distinct hashed distinct, perm⟩

end PySet

end PyLib
