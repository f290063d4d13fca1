/-
**Python data.**

`PyData` is what the free-form fields of the program's records hold: the values that `json` writes,
with tuples apart from lists and dictionaries keyed by strings, and sets, members of enumerations and
objects with fields. `PyDict` is a dictionary in which no key occurs twice, at any level.

Dictionaries compare as maps: two values are equal when their forms with every dictionary in key
order (`sortKeys`) are. A value that `json.loads` returns is made of lists and dictionaries (`ofJson`).
-/

import Dnc.PyLib.JsonText
import Dnc.PyLib.Value

namespace PyLib

inductive PyData where
  | null
  | bool (value : Bool)
  | int (value : Int)
  | float (value : FloatLit)
  | str (value : String)
  | list (items : List PyData)
  | tuple (items : List PyData)
  | dict (fields : List (String × PyData))
  /-- A `frozenset`, or a `set`. -/
  | set (frozen : Bool) (items : List PyData)
  /-- A member of an `Enum` that is no `str`, by its text. -/
  | member (enum value : String)
  /-- An instance of a dataclass, or `bytes` with the field that `canonical_data` gives them. -/
  | object (className : String) (fields : List (String × PyData))

namespace PyData

/-! ### Induction -/

section Induction

variable {motive : PyData → Prop} (null : motive .null) (bool : ∀ value, motive (.bool value))
  (int : ∀ value, motive (.int value)) (float : ∀ value, motive (.float value))
  (str : ∀ value, motive (.str value))
  (list : ∀ items, (∀ item ∈ items, motive item) → motive (.list items))
  (tuple : ∀ items, (∀ item ∈ items, motive item) → motive (.tuple items))
  (dict : ∀ fields, (∀ field ∈ fields, motive field.2) → motive (.dict fields))
  (set : ∀ frozen items, (∀ item ∈ items, motive item) → motive (.set frozen items))
  (member : ∀ enum value, motive (.member enum value))
  (object : ∀ className fields, (∀ field ∈ fields, motive field.2) →
    motive (.object className fields))

include null bool int float str list tuple dict set member object

/-- Induction over a value, with the elements of a container as members of its list. -/
@[elab_as_elim] theorem induct (value : PyData) : motive value :=
  @PyData.rec motive (fun items => ∀ item ∈ items, motive item)
    (fun fields => ∀ field ∈ fields, motive field.2) (fun field => motive field.2)
    null bool int float str list tuple dict set member object
    (List.forall_mem_nil _) (fun _ _ first rest => List.forall_mem_cons.mpr ⟨first, rest⟩)
    (List.forall_mem_nil _) (fun _ _ first rest => List.forall_mem_cons.mpr ⟨first, rest⟩)
    (fun _ _ => id) value

end Induction

/-- An entry with its value mapped. -/
def mapEntry {α β : Type} (f : α → β) (field : String × α) : String × β := (field.1, f field.2)

/-- `value is None`. -/
def isNone : PyData → Bool
  | .null => true
  | _ => false

/-! ### Well-formed dictionaries -/

mutual

/-- No dictionary of the value holds a key twice. -/
def wellFormed : PyData → Bool
  | .list items => wellFormedItems items
  | .tuple items => wellFormedItems items
  | .dict fields => decide (fields.map Prod.fst).Nodup && wellFormedFields fields
  | .set _ items => wellFormedItems items
  | .object _ fields => decide (fields.map Prod.fst).Nodup && wellFormedFields fields
  | _ => true

def wellFormedItems : List PyData → Bool
  | [] => true
  | item :: rest => wellFormed item && wellFormedItems rest

def wellFormedFields : List (String × PyData) → Bool
  | [] => true
  | (_, value) :: rest => wellFormed value && wellFormedFields rest

end

theorem wellFormedItems_iff (items : List PyData) :
    wellFormedItems items = true ↔ ∀ item ∈ items, item.wellFormed = true := by
  induction items with
  | nil => simp [wellFormedItems]
  | cons item rest ih => simp [wellFormedItems, ih]

theorem wellFormedFields_iff (fields : List (String × PyData)) :
    wellFormedFields fields = true ↔ ∀ field ∈ fields, field.2.wellFormed = true := by
  induction fields with
  | nil => simp [wellFormedFields]
  | cons field rest ih => simp [wellFormedFields, ih]

@[simp] theorem wellFormed_list (items : List PyData) :
    (list items).wellFormed = true ↔ ∀ item ∈ items, item.wellFormed = true :=
  wellFormedItems_iff items

@[simp] theorem wellFormed_tuple (items : List PyData) :
    (tuple items).wellFormed = true ↔ ∀ item ∈ items, item.wellFormed = true :=
  wellFormedItems_iff items

@[simp] theorem wellFormed_dict (fields : List (String × PyData)) :
    (dict fields).wellFormed = true ↔
      (fields.map Prod.fst).Nodup ∧ ∀ field ∈ fields, field.2.wellFormed = true := by
  show (decide _ && wellFormedFields fields) = true ↔ _
  rw [Bool.and_eq_true, decide_eq_true_eq, wellFormedFields_iff]

@[simp] theorem wellFormed_set (frozen : Bool) (items : List PyData) :
    (set frozen items).wellFormed = true ↔ ∀ item ∈ items, item.wellFormed = true :=
  wellFormedItems_iff items

@[simp] theorem wellFormed_object (className : String) (fields : List (String × PyData)) :
    (object className fields).wellFormed = (dict fields).wellFormed := rfl

/-! ### Key order -/

mutual

/-- The value with every dictionary in key order. -/
def sortKeys : PyData → PyData
  | .list items => .list (sortKeysItems items)
  | .tuple items => .tuple (sortKeysItems items)
  | .dict fields => .dict (sortBy Prod.fst (sortKeysFields fields))
  | .null => .null
  | .bool value => .bool value
  | .int value => .int value
  | .float value => .float value
  | .str value => .str value
  | .set frozen items => .set frozen (sortKeysItems items)
  | .member enum value => .member enum value
  | .object className fields => .object className (sortBy Prod.fst (sortKeysFields fields))

def sortKeysItems : List PyData → List PyData
  | [] => []
  | item :: rest => sortKeys item :: sortKeysItems rest

def sortKeysFields : List (String × PyData) → List (String × PyData)
  | [] => []
  | (key, value) :: rest => (key, sortKeys value) :: sortKeysFields rest

end

theorem sortKeysItems_eq (items : List PyData) : sortKeysItems items = items.map sortKeys :=
  eq_map rfl (fun _ _ => rfl) items

theorem sortKeysFields_eq (fields : List (String × PyData)) :
    sortKeysFields fields = fields.map (mapEntry sortKeys) :=
  eq_map rfl (fun _ _ => rfl) fields

@[simp] theorem sortKeys_list (items : List PyData) :
    sortKeys (.list items) = .list (items.map sortKeys) :=
  congrArg PyData.list (sortKeysItems_eq items)

@[simp] theorem sortKeys_tuple (items : List PyData) :
    sortKeys (.tuple items) = .tuple (items.map sortKeys) :=
  congrArg PyData.tuple (sortKeysItems_eq items)

@[simp] theorem sortKeys_dict (fields : List (String × PyData)) :
    sortKeys (.dict fields) = .dict (sortBy Prod.fst (fields.map (mapEntry sortKeys))) :=
  congrArg (fun entries => PyData.dict (sortBy Prod.fst entries)) (sortKeysFields_eq fields)

/-! ### Values that `json` returns -/

mutual

/-- A JSON value as Python data. -/
def ofJson : Json → PyData
  | .null => .null
  | .bool value => .bool value
  | .int value => .int value
  | .float value => .float value
  | .str value => .str value
  | .arr items => .list (ofJsonItems items)
  | .obj fields => .dict (ofJsonFields fields)

def ofJsonItems : List Json → List PyData
  | [] => []
  | item :: rest => ofJson item :: ofJsonItems rest

def ofJsonFields : List (String × Json) → List (String × PyData)
  | [] => []
  | (key, value) :: rest => (key, ofJson value) :: ofJsonFields rest

end

theorem ofJsonItems_eq (items : List Json) : ofJsonItems items = items.map ofJson :=
  eq_map rfl (fun _ _ => rfl) items

theorem ofJsonFields_eq (fields : List (String × Json)) :
    ofJsonFields fields = fields.map (mapEntry ofJson) :=
  eq_map rfl (fun _ _ => rfl) fields

@[simp] theorem ofJson_arr (items : List Json) : ofJson (.arr items) = .list (items.map ofJson) := by
  rw [ofJson, ofJsonItems_eq]

@[simp] theorem ofJson_obj (fields : List (String × Json)) :
    ofJson (.obj fields) = .dict (fields.map (mapEntry ofJson)) := by
  rw [ofJson, ofJsonFields_eq]

theorem wellFormed_ofJson {value : Json} (wellFormed : value.wellFormed = true) :
    (ofJson value).wellFormed = true := by
  induction value using Json.induct with
  | arr items ih =>
    rw [Json.wellFormed_arr] at wellFormed
    rw [ofJson_arr, wellFormed_list]
    intro item member
    obtain ⟨origin, listed, rfl⟩ := List.mem_map.mp member
    exact ih origin listed (wellFormed origin listed)
  | obj fields ih =>
    rw [Json.wellFormed_obj] at wellFormed
    rw [ofJson_obj, wellFormed_dict, List.map_map]
    refine ⟨wellFormed.1, fun field member => ?_⟩
    obtain ⟨origin, listed, rfl⟩ := List.mem_map.mp member
    exact ih origin listed (wellFormed.2 origin listed)
  | _ => rw [ofJson]; rfl

/-! ### The strings of a value -/

mutual

/-- The strings that stand anywhere in the value, keys apart. -/
def texts : PyData → List String
  | .str value => [value]
  | .list items => textsItems items
  | .tuple items => textsItems items
  | .dict fields => textsFields fields
  | .set _ items => textsItems items
  | .member _ value => [value]
  | .object _ fields => textsFields fields
  | _ => []

def textsItems : List PyData → List String
  | [] => []
  | item :: rest => texts item ++ textsItems rest

def textsFields : List (String × PyData) → List String
  | [] => []
  | (_, value) :: rest => texts value ++ textsFields rest

end

theorem mem_textsItems {items : List PyData} {text : String} :
    text ∈ textsItems items ↔ ∃ item ∈ items, text ∈ item.texts := by
  induction items with
  | nil => simp [textsItems]
  | cons item rest ih => simp [textsItems, ih]

theorem mem_textsFields {fields : List (String × PyData)} {text : String} :
    text ∈ textsFields fields ↔ ∃ field ∈ fields, text ∈ field.2.texts := by
  induction fields with
  | nil => simp [textsFields]
  | cons field rest ih => simp [textsFields, ih]

@[simp] theorem mem_texts_list {items : List PyData} {text : String} :
    text ∈ (list items).texts ↔ ∃ item ∈ items, text ∈ item.texts := mem_textsItems

@[simp] theorem mem_texts_tuple {items : List PyData} {text : String} :
    text ∈ (tuple items).texts ↔ ∃ item ∈ items, text ∈ item.texts := mem_textsItems

@[simp] theorem mem_texts_dict {fields : List (String × PyData)} {text : String} :
    text ∈ (dict fields).texts ↔ ∃ field ∈ fields, text ∈ field.2.texts := mem_textsFields

@[simp] theorem mem_texts_set {frozen : Bool} {items : List PyData} {text : String} :
    text ∈ (set frozen items).texts ↔ ∃ item ∈ items, text ∈ item.texts := mem_textsItems

@[simp] theorem texts_object (className : String) (fields : List (String × PyData)) :
    (object className fields).texts = (dict fields).texts := rfl

/-! ### Documents -/

mutual

/-- Lists, tuples and dictionaries all the way down, as in a JSON value. -/
def isDocument : PyData → Bool
  | .list items => documentItems items
  | .tuple items => documentItems items
  | .dict fields => documentFields fields
  | .set _ _ | .member _ _ | .object _ _ => false
  | _ => true

def documentItems : List PyData → Bool
  | [] => true
  | item :: rest => isDocument item && documentItems rest

def documentFields : List (String × PyData) → Bool
  | [] => true
  | (_, value) :: rest => isDocument value && documentFields rest

end

theorem documentItems_iff {items : List PyData} :
    documentItems items = true ↔ ∀ item ∈ items, item.isDocument = true := by
  induction items with
  | nil => simp [documentItems]
  | cons item rest ih => simp [documentItems, ih]

theorem documentFields_iff {fields : List (String × PyData)} :
    documentFields fields = true ↔ ∀ field ∈ fields, field.2.isDocument = true := by
  induction fields with
  | nil => simp [documentFields]
  | cons field rest ih => simp [documentFields, ih]

/-! ### Parts of a record's dictionary -/

/-- A tuple of strings. -/
def textTuple (texts : List String) : PyData := .tuple (texts.map .str)

@[simp] theorem wellFormed_textTuple (texts : List String) :
    (textTuple texts).wellFormed = true := by
  rw [textTuple, wellFormed_tuple]
  intro item member
  obtain ⟨text, -, rfl⟩ := List.mem_map.mp member
  rfl

@[simp] theorem mem_texts_textTuple {texts : List String} {text : String} :
    text ∈ (textTuple texts).texts ↔ text ∈ texts := by
  rw [textTuple, mem_texts_tuple]
  constructor
  · rintro ⟨item, listed, inside⟩
    obtain ⟨origin, member, rfl⟩ := List.mem_map.mp listed
    rwa [List.mem_singleton.mp inside]
  · intro member
    exact ⟨.str text, List.mem_map_of_mem member, List.mem_singleton_self text⟩

/-! ### Equality -/

mutual

/-- The form that equal values share: numbers and the order of keys as in `Json.pyNormal`, and a
container of values behind the name of its type, in the order of their texts where it is a set. -/
def pyNormal : PyData → Json
  | .null => .null
  | .bool value => Json.pyNormal (.bool value)
  | .int value => .int value
  | .float value => Json.pyNormal (.float value)
  | .str value => .str value
  | .list items => .arr (.str "list" :: pyNormalItems items)
  | .tuple items => .arr (.str "tuple" :: pyNormalItems items)
  | .dict fields => .obj (sortBy Prod.fst (pyNormalFields fields))
  | .set _ items => .arr (.str "set" :: sortBy (Json.dumpsWith .compact) (pyNormalItems items))
  | .member enum value => .arr [.str "member", .str enum, .str value]
  | .object className fields =>
    .arr [.str "object", .str className, .obj (sortBy Prod.fst (pyNormalFields fields))]

def pyNormalItems : List PyData → List Json
  | [] => []
  | item :: rest => pyNormal item :: pyNormalItems rest

def pyNormalFields : List (String × PyData) → List (String × Json)
  | [] => []
  | (key, value) :: rest => (key, pyNormal value) :: pyNormalFields rest

end

/-- `first == second`. -/
def pyEq (first second : PyData) : Bool := first.pyNormal == second.pyNormal

theorem pyEq_iff {first second : PyData} :
    pyEq first second = true ↔ first.pyNormal = second.pyNormal := by
  simp [pyEq]

@[simp] theorem pyEq_self (value : PyData) : pyEq value value = true := pyEq_iff.mpr rfl

theorem pyEq_trans {first second third : PyData} (here : pyEq first second = true)
    (there : pyEq second third = true) : pyEq first third = true :=
  pyEq_iff.mpr ((pyEq_iff.mp here).trans (pyEq_iff.mp there))

theorem pyEq_symm {first second : PyData} (same : pyEq first second = true) :
    pyEq second first = true := pyEq_iff.mpr (pyEq_iff.mp same).symm

/-- A list equals no tuple, and the integral numbers are equal across their types. -/
example : pyEq (.list [.int 1, .bool true]) (.list [.bool true, .int 1]) = true ∧
    pyEq (.list [.int 1]) (.tuple [.int 1]) = false := by decide +kernel

/-- An optional value. -/
def optional {α : Type} (f : α → PyData) : Option α → PyData
  | none => .null
  | some value => f value

end PyData

/-- A number, as `json` writes it. -/
inductive PyNumber where
  | int (value : Int)
  | float (value : FloatLit)
deriving DecidableEq

namespace PyNumber

def value : PyNumber → ℚ
  | .int value => value
  | .float value => value.value

/-- The number as a value. -/
def data : PyNumber → PyData
  | .int value => .int value
  | .float value => .float value

end PyNumber

/-- A dictionary with string keys, none of them twice at any level. -/
structure PyDict where
  fields : List (String × PyData)
  wellFormed : (PyData.dict fields).wellFormed = true

namespace PyDict

@[ext] theorem ext_fields {first second : PyDict} (same : first.fields = second.fields) :
    first = second := by
  cases first
  cases second
  cases same
  rfl

/-- `{}`. -/
def empty : PyDict := ⟨[], rfl⟩

instance : EmptyCollection PyDict := ⟨empty⟩

/-- The dictionary as a value. -/
def data (dict : PyDict) : PyData := .dict dict.fields

/-- The dictionary with every dictionary in it in key order, itself included. -/
def sorted (dict : PyDict) : PyData := dict.data.sortKeys

/-- A dictionary that decoding has found, if it is one. -/
def ofData? : PyData → Option PyDict
  | .dict fields => if wellFormed : (PyData.dict fields).wellFormed = true then
      some ⟨fields, wellFormed⟩ else none
  | _ => none

@[simp] theorem ofData?_data (dict : PyDict) : ofData? dict.data = some dict := by
  unfold ofData? data
  exact dif_pos dict.wellFormed

end PyDict

end PyLib
