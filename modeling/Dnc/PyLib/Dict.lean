/-
**Insertion-ordered dictionaries.**

A dictionary keeps its entries in the order of first insertion and holds every key once.
`setItem` is the assignment `d[k] = v` (an existing key keeps its place, a new one goes to the end)
and `delItem` is `del d[k]`, both on the bare list of entries; `Dict` bundles a list of entries
with the fact that its keys are distinct, which every operation keeps.

The lookup laws (`get?_set`, `get?_erase`) are what clients use: no proof outside this file unfolds
the list of entries of a dictionary that an operation built.
-/

import Mathlib.Data.Finset.Card
import Mathlib.Data.List.Nodup
import Mathlib.Data.List.Perm.Basic

namespace PyLib

section Entries

variable {κ α : Type} [DecidableEq κ]

/-- `d[key] = value` on a list of entries. -/
def setItem : List (κ × α) → κ → α → List (κ × α)
  | [], key, value => [(key, value)]
  | entry :: rest, key, value =>
    if entry.1 = key then (key, value) :: rest else entry :: setItem rest key value

/-- `del d[key]` on a list of entries. -/
def delItem (entries : List (κ × α)) (key : κ) : List (κ × α) :=
  entries.filter fun entry => entry.1 ≠ key

theorem lookup_cons_ite (entry : κ × α) (rest : List (κ × α)) (key : κ) :
    (entry :: rest).lookup key = if key = entry.1 then some entry.2 else rest.lookup key := by
  obtain ⟨first, value⟩ := entry
  rw [List.lookup_cons]
  by_cases same : key = first
  · simp [same]
  · simp [same, beq_eq_false_iff_ne.mpr same]

theorem lookup_setItem (entries : List (κ × α)) (key other : κ) (value : α) :
    (setItem entries key value).lookup other =
      if other = key then some value else entries.lookup other := by
  induction entries with
  | nil => simp [setItem, lookup_cons_ite]
  | cons entry rest ih =>
    unfold setItem
    by_cases hit : entry.1 = key
    · rw [if_pos hit, lookup_cons_ite, lookup_cons_ite, hit]
      split_ifs <;> rfl
    · rw [if_neg hit, lookup_cons_ite, lookup_cons_ite, ih]
      split_ifs with first second
      · exact absurd (first.symm.trans second) hit
      all_goals rfl

/-- Assigning the value a key already has changes nothing. -/
theorem setItem_of_lookup {entries : List (κ × α)} {key : κ} {value : α}
    (found : entries.lookup key = some value) : setItem entries key value = entries := by
  induction entries with
  | nil => simp at found
  | cons entry rest ih =>
    obtain ⟨first, old⟩ := entry
    rw [lookup_cons_ite] at found
    unfold setItem
    by_cases hit : key = first
    · rw [if_pos hit, Option.some.injEq] at found
      have same : old = value := found
      rw [if_pos hit.symm, hit, same]
    · rw [if_neg hit] at found
      rw [if_neg (Ne.symm hit), ih found]

/-- A new key goes to the end. -/
theorem setItem_of_fresh {entries : List (κ × α)} {key : κ} (value : α)
    (fresh : key ∉ entries.map Prod.fst) : setItem entries key value = entries ++ [(key, value)] := by
  induction entries with
  | nil => rfl
  | cons entry rest ih =>
    rw [List.map_cons, List.mem_cons, not_or] at fresh
    unfold setItem
    rw [if_neg (Ne.symm fresh.1), ih fresh.2]
    rfl

/-- Assigning to a key of the entries changes its value in place. -/
theorem setItem_of_mem {entries : List (κ × α)} (nodup : (entries.map Prod.fst).Nodup) {key : κ}
    (value : α) (member : key ∈ entries.map Prod.fst) :
    setItem entries key value =
      entries.map fun entry => if entry.1 = key then (key, value) else entry := by
  induction entries with
  | nil => cases member
  | cons entry rest ih =>
    rw [List.map_cons, List.nodup_cons] at nodup
    unfold setItem
    rw [List.map_cons]
    by_cases hit : entry.1 = key
    · have others : (rest.map fun entry => if entry.1 = key then (key, value) else entry) = rest := by
        refine (List.map_congr_left fun other inRest => ?_).trans (List.map_id rest)
        have different : other.1 ≠ key := fun same =>
          nodup.1 (hit ▸ same ▸ List.mem_map_of_mem inRest)
        exact if_neg different
      rw [if_pos hit, if_pos hit, others]
    · have later : key ∈ rest.map Prod.fst := by
        rcases List.mem_cons.mp member with same | inRest
        · exact absurd same.symm hit
        · exact inRest
      rw [if_neg hit, if_neg hit, ih nodup.2 later]

theorem lookup_delItem (entries : List (κ × α)) (key other : κ) :
    (delItem entries key).lookup other = if other = key then none else entries.lookup other := by
  induction entries with
  | nil => simp [delItem]
  | cons entry rest ih =>
    unfold delItem at ih ⊢
    by_cases hit : entry.1 = key
    · rw [List.filter_cons_of_neg (by simpa using hit), ih, lookup_cons_ite, hit]
      split_ifs <;> rfl
    · rw [List.filter_cons_of_pos (by simpa using hit), lookup_cons_ite, lookup_cons_ite, ih]
      split_ifs with first second
      · exact absurd (first.symm.trans second) hit
      all_goals rfl

theorem mem_keys_setItem (entries : List (κ × α)) (key other : κ) (value : α) :
    other ∈ (setItem entries key value).map Prod.fst ↔
      other = key ∨ other ∈ entries.map Prod.fst := by
  induction entries with
  | nil => simp [setItem]
  | cons entry rest ih =>
    unfold setItem
    by_cases hit : entry.1 = key
    · subst hit
      simp
    · simp only [hit, if_false, List.map_cons, List.mem_cons, ih]
      tauto

theorem nodup_keys_setItem {entries : List (κ × α)} (nodup : (entries.map Prod.fst).Nodup)
    (key : κ) (value : α) : ((setItem entries key value).map Prod.fst).Nodup := by
  induction entries with
  | nil => simp [setItem]
  | cons entry rest ih =>
    rw [List.map_cons, List.nodup_cons] at nodup
    unfold setItem
    by_cases hit : entry.1 = key
    · subst hit
      simpa using nodup
    · simp only [hit, if_false, List.map_cons, List.nodup_cons]
      refine ⟨fun member => ?_, ih nodup.2⟩
      rcases (mem_keys_setItem _ _ _ _).mp member with same | old
      · exact hit same
      · exact nodup.1 old

theorem nodup_keys_delItem {entries : List (κ × α)} (nodup : (entries.map Prod.fst).Nodup)
    (key : κ) : ((delItem entries key).map Prod.fst).Nodup :=
  nodup.sublist (List.filter_sublist.map Prod.fst)

/-- With distinct keys, an entry is what the lookup of its key finds. -/
theorem mem_iff_lookup {entries : List (κ × α)} (nodup : (entries.map Prod.fst).Nodup)
    {key : κ} {value : α} : (key, value) ∈ entries ↔ entries.lookup key = some value := by
  induction entries with
  | nil => simp
  | cons entry rest ih =>
    obtain ⟨first, old⟩ := entry
    rw [List.map_cons, List.nodup_cons] at nodup
    rw [List.mem_cons, Prod.mk.injEq, lookup_cons_ite]
    by_cases same : key = first
    · subst same
      have fresh : (key, value) ∉ rest := fun member =>
        nodup.1 (List.mem_map.mpr ⟨_, member, rfl⟩)
      rw [if_pos rfl, Option.some.injEq]
      constructor
      · rintro (⟨_, rfl⟩ | member)
        · rfl
        · exact absurd member fresh
      · rintro rfl
        exact Or.inl ⟨rfl, rfl⟩
    · rw [if_neg same, ← ih nodup.2]
      exact or_iff_right fun equal => same equal.1

theorem lookup_eq_none {entries : List (κ × α)} {key : κ} :
    entries.lookup key = none ↔ key ∉ entries.map Prod.fst := by
  induction entries with
  | nil => simp
  | cons entry rest ih =>
    rw [lookup_cons_ite]
    by_cases same : key = entry.1 <;> simp [same, ih]

end Entries

/-- An insertion-ordered dictionary: entries with distinct keys. -/
structure Dict (κ α : Type) where
  entries : List (κ × α)
  nodup : (entries.map Prod.fst).Nodup

namespace Dict

variable {κ α : Type}

@[ext] theorem ext_entries {first second : Dict κ α} (same : first.entries = second.entries) :
    first = second := by
  cases first
  cases second
  cases same
  rfl

instance [DecidableEq κ] [DecidableEq α] : DecidableEq (Dict κ α) := fun first second =>
  decidable_of_iff (first.entries = second.entries) ⟨ext_entries, congrArg entries⟩

/-- `{}`. -/
def empty : Dict κ α := ⟨[], List.nodup_nil⟩

instance : EmptyCollection (Dict κ α) := ⟨empty⟩

/-- `list(d.keys())`. -/
def keys (dict : Dict κ α) : List κ := dict.entries.map Prod.fst

/-- `list(d.values())`. -/
def values (dict : Dict κ α) : List α := dict.entries.map Prod.snd

/-- `len(d)`. -/
def length (dict : Dict κ α) : Nat := dict.entries.length

instance : Membership κ (Dict κ α) := ⟨fun dict key => key ∈ dict.keys⟩

variable [DecidableEq κ]

instance (dict : Dict κ α) (key : κ) : Decidable (key ∈ dict) :=
  inferInstanceAs (Decidable (key ∈ dict.keys))

/-- `d.get(key)`. -/
def get? (dict : Dict κ α) (key : κ) : Option α := dict.entries.lookup key

/-- `d[key] = value`. -/
def set (dict : Dict κ α) (key : κ) (value : α) : Dict κ α :=
  ⟨setItem dict.entries key value, nodup_keys_setItem dict.nodup key value⟩

/-- `d.pop(key, None)`. -/
def erase (dict : Dict κ α) (key : κ) : Dict κ α :=
  ⟨delItem dict.entries key, nodup_keys_delItem dict.nodup key⟩

@[simp] theorem get?_empty (key : κ) : (∅ : Dict κ α).get? key = none := rfl

theorem get?_set (dict : Dict κ α) (key other : κ) (value : α) :
    (dict.set key value).get? other = if other = key then some value else dict.get? other :=
  lookup_setItem _ _ _ _

@[simp] theorem get?_set_self (dict : Dict κ α) (key : κ) (value : α) :
    (dict.set key value).get? key = some value := by
  rw [get?_set, if_pos rfl]

theorem get?_set_of_ne (dict : Dict κ α) {key other : κ} (different : other ≠ key) (value : α) :
    (dict.set key value).get? other = dict.get? other := by
  rw [get?_set, if_neg different]

theorem get?_erase (dict : Dict κ α) (key other : κ) :
    (dict.erase key).get? other = if other = key then none else dict.get? other :=
  lookup_delItem _ _ _

theorem get?_erase_of_ne (dict : Dict κ α) {key other : κ} (different : other ≠ key) :
    (dict.erase key).get? other = dict.get? other := by
  rw [get?_erase, if_neg different]

theorem mem_entries {dict : Dict κ α} {key : κ} {value : α} :
    (key, value) ∈ dict.entries ↔ dict.get? key = some value :=
  mem_iff_lookup dict.nodup

/-- Nothing is made of the entries when nothing is made of any of them. -/
theorem flatMap_entries_eq_nil {β : Type} {dict : Dict κ α} {f : κ × α → List β} :
    dict.entries.flatMap f = [] ↔
      ∀ key value, dict.get? key = some value → f (key, value) = [] := by
  rw [List.flatMap_eq_nil_iff]
  exact ⟨fun all key value found => all (key, value) (mem_entries.mpr found),
    fun all entry member => all entry.1 entry.2 (mem_entries.mp member)⟩

theorem get?_eq_none {dict : Dict κ α} {key : κ} : dict.get? key = none ↔ key ∉ dict :=
  lookup_eq_none

theorem mem_iff_get? {dict : Dict κ α} {key : κ} :
    key ∈ dict ↔ ∃ value, dict.get? key = some value := by
  rw [← Option.ne_none_iff_exists', ne_eq, get?_eq_none, not_not]

theorem mem_of_get? {dict : Dict κ α} {key : κ} {value : α} (found : dict.get? key = some value) :
    key ∈ dict :=
  mem_iff_get?.mpr ⟨value, found⟩

theorem mem_set {dict : Dict κ α} {key other : κ} {value : α} :
    other ∈ dict.set key value ↔ other = key ∨ other ∈ dict :=
  mem_keys_setItem _ _ _ _

theorem mem_erase {dict : Dict κ α} {key other : κ} :
    other ∈ dict.erase key ↔ other ≠ key ∧ other ∈ dict := by
  rw [mem_iff_get?, mem_iff_get?, get?_erase]
  by_cases same : other = key <;> simp [same]

/-- A value of the dictionary is stored under some key. -/
theorem mem_values {dict : Dict κ α} {value : α} :
    value ∈ dict.values ↔ ∃ key, dict.get? key = some value := by
  simp only [values, List.mem_map, Prod.exists, exists_eq_right, mem_entries]

/-- `{key: value for key, value in items}`. -/
def ofItems (items : List (κ × α)) : Dict κ α :=
  items.foldl (fun dict item => dict.set item.1 item.2) ∅

/-- Items with distinct keys are the entries. -/
theorem entries_ofItems {items : List (κ × α)} (distinct : (items.map Prod.fst).Nodup) :
    (ofItems items).entries = items := by
  have along : ∀ (rest : List (κ × α)) (dict : Dict κ α),
      ((dict.entries ++ rest).map Prod.fst).Nodup →
      (rest.foldl (fun dict item => dict.set item.1 item.2) dict).entries = dict.entries ++ rest := by
    intro rest
    induction rest with
    | nil => exact fun dict _ => (List.append_nil _).symm
    | cons item later ih =>
      intro dict apart
      have fresh : item.1 ∉ dict.entries.map Prod.fst := by
        rw [List.map_append, List.nodup_append] at apart
        exact fun old => apart.2.2 _ old _ List.mem_cons_self rfl
      have stored : (dict.set item.1 item.2).entries = dict.entries ++ [item] :=
        setItem_of_fresh item.2 fresh
      rw [List.foldl_cons, ih, stored, List.append_assoc]
      · rfl
      · rw [stored, List.append_assoc]
        exact apart
  exact along items ∅ distinct

/-- `for key, value in list(d.items()): d[key] = f(value)`: every entry keeps its place. -/
def mapValues {β : Type} (dict : Dict κ α) (f : α → β) : Dict κ β where
  entries := dict.entries.map fun entry => (entry.1, f entry.2)
  nodup := by
    rw [List.map_map]
    exact dict.nodup

theorem get?_mapValues {β : Type} (dict : Dict κ α) (f : α → β) (key : κ) :
    (dict.mapValues f).get? key = (dict.get? key).map f := by
  show (dict.entries.map fun entry => (entry.1, f entry.2)).lookup key =
    (dict.entries.lookup key).map f
  induction dict.entries with
  | nil => rfl
  | cons entry rest ih =>
    rw [List.map_cons, lookup_cons_ite, lookup_cons_ite, ih]
    split_ifs <;> rfl

/-- Assigning the value a key already has changes nothing. -/
theorem set_of_get? {dict : Dict κ α} {key : κ} {value : α} (found : dict.get? key = some value) :
    dict.set key value = dict :=
  ext_entries (setItem_of_lookup found)

/-- A new key goes behind the others. -/
theorem entries_set_of_fresh {dict : Dict κ α} {key : κ} (fresh : key ∉ dict) (value : α) :
    (dict.set key value).entries = dict.entries ++ [(key, value)] :=
  setItem_of_fresh value fresh

/-- Without its first entry, a dictionary holds the others. -/
theorem entries_erase_first {dict : Dict κ α} {first : κ × α} {rest : List (κ × α)}
    (split : dict.entries = first :: rest) : (dict.erase first.1).entries = rest := by
  have distinct := dict.nodup
  rw [split, List.map_cons, List.nodup_cons] at distinct
  show delItem dict.entries first.1 = rest
  rw [split]
  unfold delItem
  rw [List.filter_cons_of_neg (by simp)]
  refine List.filter_eq_self.mpr fun entry member => decide_eq_true fun same => ?_
  exact distinct.1 (same ▸ List.mem_map_of_mem member)

theorem card_keys_toFinset (dict : Dict κ α) : dict.keys.toFinset.card = dict.entries.length := by
  rw [keys, List.toFinset_card_of_nodup dict.nodup, List.length_map]

/-- **Two dictionaries with the same lookups hold the same entries**, in some order. -/
theorem perm_of_get? {first second : Dict κ α} (same : ∀ key, first.get? key = second.get? key) :
    first.entries.Perm second.entries := by
  refine (List.perm_ext_iff_of_nodup (List.Nodup.of_map _ first.nodup)
    (List.Nodup.of_map _ second.nodup)).mpr fun ⟨key, value⟩ => ?_
  rw [mem_entries, mem_entries, same]

end Dict

end PyLib
