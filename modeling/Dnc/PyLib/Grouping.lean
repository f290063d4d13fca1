/-
**Grouping and pairing by a key.**

The loop `groups.setdefault(key(item), []).append(value(item))` leaves, under every key, the values
of its items in their order (`get?_appendTo`), and holds the keys of the items (`mem_appendTo`). Lists
whose items of each key are the same up to their order are the same up to their order
(`perm_of_filter`).

Two dictionaries of numbers are compared key by key: `pairedKeys` is what both have, in ascending
order, and `differences` the differences of the values there. Where the two have the same keys, the
average difference is the difference of the averages (`average_differences`).

A dictionary keyed by pairs is listed under the first of them in ascending order of the second
(`valuesUnder`); the list depends on what is stored there only (`valuesUnder_congr`).
-/

import Dnc.Logic.Averages
import Dnc.PyLib.Dict
import Dnc.PyLib.Sorted
import Mathlib.Data.Prod.Lex

namespace PyLib

section Grouping

variable {α β κ : Type} [DecidableEq κ]

/-- `groups.setdefault(key(item), []).append(value(item))` for every item. -/
def appendTo (key : α → κ) (value : α → β) (groups : Dict κ (List β)) (items : List α) :
    Dict κ (List β) :=
  items.foldl (fun groups item =>
    groups.set (key item) ((groups.get? (key item)).getD [] ++ [value item])) groups

variable {key : α → κ} {value : α → β}

/-- **Every key has the values of its items.** -/
theorem get?_appendTo (groups : Dict κ (List β)) (items : List α) (other : κ) :
    ((appendTo key value groups items).get? other).getD [] =
      (groups.get? other).getD [] ++ (items.filter fun item => key item = other).map value := by
  unfold appendTo
  induction items generalizing groups with
  | nil => rw [List.foldl_nil, List.filter_nil, List.map_nil, List.append_nil]
  | cons item rest ih =>
    rw [List.foldl_cons, ih, Dict.get?_set]
    by_cases same : key item = other
    · rw [if_pos same.symm, List.filter_cons_of_pos (by simpa using same), ← same]
      simp
    · rw [if_neg (Ne.symm same), List.filter_cons_of_neg (by simpa using same)]

theorem mem_appendTo {groups : Dict κ (List β)} {items : List α} {other : κ} :
    other ∈ appendTo key value groups items ↔ other ∈ groups ∨ ∃ item ∈ items, key item = other := by
  unfold appendTo
  induction items generalizing groups with
  | nil => simp
  | cons item rest ih =>
    rw [List.foldl_cons, ih, Dict.mem_set, or_assoc, or_left_comm, List.exists_mem_cons_iff]
    simp only [eq_comm]

/-- What the entries of a dictionary were mapped to, under one key. -/
theorem filter_flatMap_entries {dict : Dict κ α} {f : κ × α → List β} {own : β → κ}
    (owned : ∀ entry ∈ dict.entries, ∀ item ∈ f entry, own item = entry.1) (other : κ) :
    (dict.entries.flatMap f).filter (fun item => own item = other) =
      (dict.get? other).elim [] fun value => f (other, value) := by
  have distinct := dict.nodup
  show _ = (dict.entries.lookup other).elim [] fun value => f (other, value)
  revert owned distinct
  induction dict.entries with
  | nil => exact fun _ _ => rfl
  | cons entry rest ih =>
    intro owned distinct
    rw [List.map_cons, List.nodup_cons] at distinct
    obtain ⟨here, later⟩ := List.forall_mem_cons.mp owned
    rw [List.flatMap_cons, List.filter_append, lookup_cons_ite]
    by_cases same : entry.1 = other
    · have all : (f entry).filter (fun item => own item = other) = f entry :=
        List.filter_eq_self.mpr fun item member => decide_eq_true ((here item member).trans same)
      have none : (rest.flatMap f).filter (fun item => own item = other) = [] := by
        refine List.filter_eq_nil_iff.mpr fun item member => ?_
        obtain ⟨source, listed, made⟩ := List.mem_flatMap.mp member
        rw [decide_eq_true_eq, later source listed item made]
        exact fun clash => distinct.1 (same.trans clash.symm ▸ List.mem_map_of_mem listed)
      rw [all, none, List.append_nil, if_pos same.symm, ← same]
      rfl
    · have none : (f entry).filter (fun item => own item = other) = [] :=
        List.filter_eq_nil_iff.mpr fun item member => by
          rw [decide_eq_true_eq, here item member]
          exact same
      rw [none, List.nil_append, if_neg (Ne.symm same), ih later distinct.2]

/-- **Lists with the same items of every key** are the same up to their order. -/
theorem perm_of_filter {xs ys : List α}
    (each : ∀ other, (xs.filter fun x => key x = other).Perm (ys.filter fun y => key y = other)) :
    xs.Perm ys := by
  classical
  refine List.perm_iff_count.mpr fun x => ?_
  have same := (each (key x)).count_eq x
  rwa [List.count_filter (by simp), List.count_filter (by simp)] at same

end Grouping

open Logic

namespace Dict

section Items

variable {κ α : Type} [DecidableEq κ]

/-- A dictionary of items has the keys of the items. -/
theorem mem_ofItems {items : List (κ × α)} {key : κ} :
    key ∈ ofItems items ↔ key ∈ items.map Prod.fst := by
  have along : ∀ (rest : List (κ × α)) (dict : Dict κ α),
      key ∈ rest.foldl (fun dict item => dict.set item.1 item.2) dict ↔
        key ∈ dict ∨ key ∈ rest.map Prod.fst := by
    intro rest
    induction rest with
    | nil => exact fun dict => by simp
    | cons item later ih =>
      intro dict
      rw [List.foldl_cons, ih, mem_set, List.map_cons, List.mem_cons]
      tauto
  exact (along items ∅).trans (or_iff_right List.not_mem_nil)

theorem toFinset_keys_ofItems (items : List (κ × α)) :
    (ofItems items).keys.toFinset = (items.map Prod.fst).toFinset := by
  ext key
  rw [List.mem_toFinset, List.mem_toFinset]
  exact mem_ofItems

/-- The values in the order of the keys are the values of the dictionary. -/
theorem map_get?_keys (dict : Dict κ α) (absent : α) :
    (dict.keys.map fun key => (dict.get? key).getD absent) = dict.values := by
  rw [keys, values, List.map_map]
  refine List.map_congr_left fun entry member => ?_
  have found : dict.get? entry.1 = some entry.2 := mem_entries.mp member
  rw [Function.comp_apply, found, Option.getD_some]

end Items

section Differences

variable {κ : Type} [LinearOrder κ]

/-- `sorted(set(first) & set(second))`. -/
def pairedKeys {α : Type} (first second : Dict κ α) : List κ :=
  sortedElems (first.keys.toFinset ∩ second.keys.toFinset)

/-- `[first[key] - second[key] for key in sorted(set(first) & set(second))]`. -/
def differences (first second : Dict κ ℚ) : List ℚ :=
  -- every key is in both dictionaries
  (pairedKeys first second).map fun key => (first.get? key).getD 0 - (second.get? key).getD 0

theorem length_pairedKeys {α : Type} (first second : Dict κ α) :
    (pairedKeys first second).length = (first.keys.toFinset ∩ second.keys.toFinset).card := by
  have distinct := sortedElems_nodup (first.keys.toFinset ∩ second.keys.toFinset)
  rw [pairedKeys, ← List.toFinset_card_of_nodup distinct, toFinset_sortedElems]

theorem pairedKeys_perm {α : Type} {first second : Dict κ α}
    (same : first.keys.toFinset = second.keys.toFinset) :
    (pairedKeys first second).Perm first.keys ∧ (pairedKeys first second).Perm second.keys := by
  have paired : (pairedKeys first second).toFinset = first.keys.toFinset := by
    rw [pairedKeys, toFinset_sortedElems, ← same, Finset.inter_self]
  have distinct := sortedElems_nodup (first.keys.toFinset ∩ second.keys.toFinset)
  exact ⟨List.perm_of_nodup_nodup_toFinset_eq distinct first.nodup paired,
    List.perm_of_nodup_nodup_toFinset_eq distinct second.nodup (paired.trans same)⟩

/-- **The average difference is the difference of the averages**, on the same keys. -/
theorem average_differences {first second : Dict κ ℚ}
    (same : first.keys.toFinset = second.keys.toFinset) :
    average (differences first second) = average first.values - average second.values := by
  obtain ⟨permFirst, permSecond⟩ := pairedKeys_perm same
  have valuesFirst : ((pairedKeys first second).map fun key => (first.get? key).getD 0).Perm
      first.values := by
    rw [← map_get?_keys first 0]
    exact permFirst.map _
  have valuesSecond : ((pairedKeys first second).map fun key => (second.get? key).getD 0).Perm
      second.values := by
    rw [← map_get?_keys second 0]
    exact permSecond.map _
  rw [← average_perm valuesFirst, ← average_perm valuesSecond, differences, average_sub]

end Differences

end Dict

/-! ### Listing under a first key -/

section Under

variable {α κ ν : Type} [LinearOrder κ] [LinearOrder ν]

/-- `[dict[key] for key in sorted(dict) if key[0] == first]`. -/
def Dict.valuesUnder (dict : Dict (κ × ν) α) (first : κ) : List α :=
  ((sortBy (fun entry : (κ × ν) × α => toLex entry.1) dict.entries).filter fun entry =>
    entry.1.1 = first).map Prod.snd

/-- **What is listed under a key** depends on what is stored there only. -/
theorem Dict.valuesUnder_congr {one other : Dict (κ × ν) α} {first : κ}
    (same : ∀ second, one.get? (first, second) = other.get? (first, second)) :
    one.valuesUnder first = other.valuesUnder first := by
  have listed : ∀ dict : Dict (κ × ν) α, ∀ entry, entry ∈ ((sortBy
      (fun entry : (κ × ν) × α => toLex entry.1) dict.entries).filter fun entry =>
        entry.1.1 = first) ↔ dict.get? entry.1 = some entry.2 ∧ entry.1.1 = first := by
    intro dict entry
    rw [List.mem_filter, mem_sortBy, decide_eq_true_iff]
    exact and_congr_left fun _ => Dict.mem_entries
  have distinct : ∀ dict : Dict (κ × ν) α, ((sortBy
      (fun entry : (κ × ν) × α => toLex entry.1) dict.entries).filter fun entry =>
        entry.1.1 = first).Nodup := fun dict =>
    ((sortBy_perm _ _).nodup_iff.mpr (List.Nodup.of_map _ dict.nodup)).filter _
  have ordered : ∀ dict : Dict (κ × ν) α, ((sortBy
      (fun entry : (κ × ν) × α => toLex entry.1) dict.entries).filter fun entry =>
        entry.1.1 = first).Pairwise fun here there => toLex here.1 ≤ toLex there.1 := fun dict =>
    (sortBy_pairwise _ _).filter _
  have perm : ((sortBy (fun entry : (κ × ν) × α => toLex entry.1) one.entries).filter fun entry =>
      entry.1.1 = first).Perm ((sortBy (fun entry : (κ × ν) × α => toLex entry.1)
        other.entries).filter fun entry => entry.1.1 = first) := by
    refine (List.perm_ext_iff_of_nodup (distinct one) (distinct other)).mpr fun entry => ?_
    rw [listed, listed]
    refine and_congr_left fun here => ?_
    obtain ⟨⟨found, second⟩, value⟩ := entry
    obtain rfl : found = first := here
    rw [same second]
  unfold Dict.valuesUnder
  rw [← sortBy_of_pairwise (ordered one), ← sortBy_of_pairwise (ordered other)]
  refine congrArg (List.map Prod.snd) (sortBy_eq_of_perm perm ?_)
  intro here inHere there inThere key
  have sameKey : here.1 = there.1 := toLex.injective key
  have foundHere := ((listed one here).mp inHere).1
  have foundThere := ((listed one there).mp inThere).1
  rw [sameKey, foundThere] at foundHere
  exact Prod.ext sameKey (Option.some.inj foundHere).symm

end Under

end PyLib
