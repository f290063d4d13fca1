/-
**Chains.**

A list of entries of which each one follows on what the entry before it carries (`Linked`). A chain
says nothing about its end: a beginning of a chain is a chain (`linked_take`).

In a hash chain every entry carries a value computed from its own content and from the value before
it (`Stamped`). Against one chain, another list is a chain exactly when it keeps the values of that
chain, on entries that link alike, up to some place, and carries values computed again after it
(`linked_iff_kept_sealed`). If a value determines the one before it, the chain that ends with it is
determined as well (`carried_eq_of_tip`), and no value comes twice (`nodup_carried`).
-/

import Mathlib.Data.List.Induction
import Mathlib.Data.List.Forall2
import Mathlib.Data.List.Nodup

namespace Logic

section Chain

variable {E H : Type} (follows : H → E → Prop) (carried : E → H)

/-- Every entry follows on what the entry before it carries. -/
def Linked : H → List E → Prop
  | _, [] => True
  | last, entry :: rest => follows last entry ∧ Linked (carried entry) rest

/-- What the end of a chain carries. -/
def tip (last : H) (entries : List E) : H := (entries.getLast?.map carried).getD last

@[simp] theorem tip_nil (last : H) : tip carried last [] = last := rfl

@[simp] theorem tip_append_singleton (last : H) (entries : List E) (entry : E) :
    tip carried last (entries ++ [entry]) = carried entry := by
  simp [tip]

theorem tip_cons (last : H) (entry : E) (rest : List E) :
    tip carried last (entry :: rest) = tip carried (carried entry) rest := by
  cases rest with
  | nil => rfl
  | cons second others =>
    unfold tip
    rw [List.getLast?_cons_cons, List.getLast?_cons]
    rfl

variable {follows carried}

theorem linked_append {last : H} {first second : List E} :
    Linked follows carried last (first ++ second) ↔
      Linked follows carried last first ∧ Linked follows carried (tip carried last first) second := by
  induction first generalizing last with
  | nil => exact (and_iff_right trivial).symm
  | cons entry rest ih =>
    rw [tip_cons]
    show _ ∧ Linked follows carried _ (rest ++ second) ↔ (_ ∧ _) ∧ _
    rw [ih, and_assoc]

theorem linked_append_singleton {last : H} {entries : List E} {entry : E} :
    Linked follows carried last (entries ++ [entry]) ↔
      Linked follows carried last entries ∧ follows (tip carried last entries) entry := by
  rw [linked_append]
  exact and_congr_right fun _ => and_iff_left trivial

/-- The beginning of a chain is a chain. -/
theorem linked_take {last : H} {entries : List E} (linked : Linked follows carried last entries)
    (length : Nat) : Linked follows carried last (entries.take length) := by
  rw [← List.take_append_drop length entries] at linked
  exact (linked_append.mp linked).1

end Chain

section HashChain

variable {E H : Type} (link : H → E → H) (carried : E → H) (stamp : E → H → E)

/-- An entry carries the value of its content after the value before it. -/
def Stamped (last : H) (entry : E) : Prop := link last entry = carried entry

/-- The entries with the values that make them a chain. -/
def sealed : H → List E → List E
  | _, [] => []
  | last, entry :: rest => stamp entry (link last entry) :: sealed (link last entry) rest

variable {link carried stamp} (stamped : ∀ entry value, carried (stamp entry value) = value)
  (content : ∀ last entry value, link last (stamp entry value) = link last entry)
  (restamped : ∀ entry, stamp entry (carried entry) = entry)

include stamped content in
/-- Sealed entries are a chain. -/
theorem linked_sealed (last : H) (entries : List E) :
    Linked (Stamped link carried) carried last (sealed link stamp last entries) := by
  induction entries generalizing last with
  | nil => exact trivial
  | cons entry rest ih =>
    refine ⟨(content _ _ _).trans (stamped _ _).symm, ?_⟩
    rw [stamped]
    exact ih _

include restamped in
/-- Sealing a chain again changes nothing. -/
theorem sealed_of_linked {last : H} {entries : List E}
    (linked : Linked (Stamped link carried) carried last entries) :
    sealed link stamp last entries = entries := by
  induction entries generalizing last with
  | nil => rfl
  | cons entry rest ih =>
    obtain ⟨here, later⟩ := linked
    have value : link last entry = carried entry := here
    rw [sealed, value, restamped, ih later]

section Kept

variable {Like : E → E → Prop}
  (like : ∀ {last entry other}, link last entry = link last other → carried entry = carried other →
    Like entry other)

include like in
/-- Two chains with the same values are alike entry by entry. -/
theorem forall₂_of_carried {last : H} {first second : List E}
    (linked : Linked (Stamped link carried) carried last first)
    (linked' : Linked (Stamped link carried) carried last second)
    (same : first.map carried = second.map carried) : List.Forall₂ Like first second := by
  induction first generalizing last second with
  | nil =>
    rw [List.map_nil, eq_comm, List.map_eq_nil_iff] at same
    rw [same]
    exact List.Forall₂.nil
  | cons entry rest ih =>
    cases second with
    | nil => cases same
    | cons other others =>
      obtain ⟨here, later⟩ := List.cons.inj same
      have value : link last entry = carried entry := linked.1
      have value' : link last other = carried other := linked'.1
      have links : link last entry = link last other := by rw [value, value', here]
      exact List.Forall₂.cons (like links here) (ih linked.2 (here ▸ linked'.2) later)

variable (carries : ∀ {entry other}, Like entry other → carried entry = carried other)
  (links : ∀ {entry other}, Like entry other → ∀ last, link last entry = link last other)

include stamped content restamped like carries links in
/-- **The chains, against one of them.** -/
theorem linked_iff_kept_sealed {last : H} {chain entries : List E}
    (linked : Linked (Stamped link carried) carried last chain) :
    Linked (Stamped link carried) carried last entries ↔ ∃ kept computed,
      entries = kept ++ computed ∧ List.Forall₂ Like kept (chain.take kept.length) ∧
        (∀ first ∈ computed.head?, ∀ original ∈ chain[kept.length]?,
          carried first ≠ carried original) ∧
        sealed link stamp (tip carried last kept) computed = computed := by
  constructor
  · intro isChain
    induction entries generalizing last chain with
    | nil => exact ⟨[], [], rfl, List.Forall₂.nil, (fun _ none => by cases none), rfl⟩
    | cons entry rest ih =>
      have whole : sealed link stamp last (entry :: rest) = entry :: rest :=
        sealed_of_linked restamped isChain
      cases chain with
      | nil =>
        exact ⟨[], entry :: rest, rfl, List.Forall₂.nil, (fun _ _ _ none => by cases none), whole⟩
      | cons original others =>
        by_cases same : carried entry = carried original
        · have value : link last entry = carried entry := isChain.1
          have value' : link last original = carried original := linked.1
          obtain ⟨kept, computed, rfl, alike, differs, again⟩ := ih (same ▸ linked.2) isChain.2
          have links : link last entry = link last original := by rw [value, value', same]
          refine ⟨entry :: kept, computed, rfl, List.Forall₂.cons (like links same) alike,
            differs, ?_⟩
          rw [tip_cons]
          exact again
        · refine ⟨[], entry :: rest, rfl, List.Forall₂.nil, ?_, whole⟩
          intro first isFirst second isSecond
          obtain rfl := Option.some.inj isFirst
          obtain rfl := Option.some.inj isSecond
          exact same
  · rintro ⟨kept, computed, rfl, alike, -, again⟩
    induction kept generalizing last chain with
    | nil =>
      rw [← again]
      exact linked_sealed stamped content _ _
    | cons entry rest ih =>
      cases chain with
      | nil => cases alike
      | cons original others =>
        cases alike with
        | cons here later =>
          refine ⟨?_, ih (carries here ▸ linked.2) later (by rwa [tip_cons] at again)⟩
          calc link last entry = link last original := links here last
            _ = carried original := linked.1
            _ = carried entry := (carries here).symm

end Kept

section Determined

variable {Valid : H → Prop} (valid : ∀ last entry, Valid (link last entry))
  (determines : ∀ {last last' entry entry'}, Valid last → Valid last' →
    link last entry = link last' entry' → last = last')

theorem tip_mem {last : H} {entries : List E} (some : entries ≠ []) :
    tip carried last entries ∈ entries.map carried := by
  rcases List.eq_nil_or_concat entries with none | ⟨front, final, rfl⟩
  · exact absurd none some
  · simp [tip]

include valid in
theorem valid_tip {last : H} {entries : List E} (isValid : Valid last)
    (linked : Linked (Stamped link carried) carried last entries) :
    Valid (tip carried last entries) := by
  rcases List.eq_nil_or_concat entries with rfl | ⟨front, final, rfl⟩
  · exact isValid
  · rw [List.concat_eq_append] at linked ⊢
    have value : link (tip carried last front) final = carried final :=
      (linked_append_singleton.mp linked).2
    rw [tip_append_singleton, ← value]
    exact valid _ _

include valid determines in
/-- **The value at its end determines a chain's values**, unless the value it starts after comes up
again. -/
theorem carried_eq_of_tip {last : H} (isValid : Valid last) {first second : List E}
    (linked : Linked (Stamped link carried) carried last first)
    (linked' : Linked (Stamped link carried) carried last second)
    (fresh : last ∉ first.map carried) (fresh' : last ∉ second.map carried)
    (ends : tip carried last first = tip carried last second) :
    first.map carried = second.map carried := by
  induction first using List.reverseRecOn generalizing second with
  | nil =>
    by_contra different
    have some : second ≠ [] := fun none => different (by rw [none])
    have isTip : tip carried last second ∈ second.map carried := tip_mem some
    rw [← ends] at isTip
    exact fresh' isTip
  | append_singleton front final ih =>
    rcases List.eq_nil_or_concat second with rfl | ⟨front', final', rfl⟩
    · have isTip : tip carried last (front ++ [final]) ∈ (front ++ [final]).map carried :=
        tip_mem (by simp)
      rw [ends] at isTip
      exact absurd isTip fresh
    · rw [List.concat_eq_append] at linked' fresh' ends ⊢
      rw [tip_append_singleton, tip_append_singleton] at ends
      rw [linked_append_singleton] at linked linked'
      rw [List.map_append, List.mem_append, not_or] at fresh fresh'
      have before : tip carried last front = tip carried last front' :=
        determines (valid_tip valid isValid linked.1) (valid_tip valid isValid linked'.1)
          ((linked.2.trans ends).trans linked'.2.symm)
      rw [List.map_append, List.map_append, ih linked.1 linked'.1 fresh.1 fresh'.1 before,
        List.map_singleton, List.map_singleton, ends]

include valid determines in
/-- No value comes twice. -/
theorem nodup_carried {last : H} (isValid : Valid last) {entries : List E}
    (linked : Linked (Stamped link carried) carried last entries)
    (fresh : last ∉ entries.map carried) : (entries.map carried).Nodup := by
  induction entries using List.reverseRecOn with
  | nil => exact List.nodup_nil
  | append_singleton front final ih =>
    have linkedFront := (linked_append_singleton.mp linked).1
    have freshFront : last ∉ front.map carried := fun twice =>
      fresh (List.map_append ▸ List.mem_append_left _ twice)
    rw [List.map_append, List.map_singleton]
    refine List.nodup_append_comm.mp
      (List.nodup_cons.mpr ⟨fun twice => ?_, ih linkedFront freshFront⟩)
    obtain ⟨entry, isEntry, same⟩ := List.mem_map.mp twice
    obtain ⟨before, after, rfl⟩ := List.append_of_mem isEntry
    have shorter : Linked (Stamped link carried) carried last (before ++ [entry]) := by
      rw [← List.singleton_append, ← List.append_assoc] at linkedFront
      exact (linked_append.mp linkedFront).1
    have freshShorter : last ∉ (before ++ [entry]).map carried := by
      intro again
      refine freshFront ?_
      rw [← List.singleton_append, ← List.append_assoc, List.map_append]
      exact List.mem_append_left _ again
    have ends : tip carried last (before ++ [entry]) =
        tip carried last ((before ++ entry :: after) ++ [final]) := by
      rw [tip_append_singleton, tip_append_singleton, same]
    have lengths := congrArg List.length
      (carried_eq_of_tip valid determines isValid shorter linked freshShorter fresh ends)
    simp only [List.length_map, List.length_append, List.length_cons, List.length_nil] at lengths
    omega

include valid determines in
/-- **A chain of another chain's values** is alike with a beginning of it. -/
theorem kept_of_carried {Like : E → E → Prop}
    (like : ∀ {last entry other}, link last entry = link last other →
      carried entry = carried other → Like entry other)
    {last : H} (isValid : Valid last) {chain entries : List E}
    (linked : Linked (Stamped link carried) carried last chain)
    (linked' : Linked (Stamped link carried) carried last entries)
    (fresh : last ∉ chain.map carried)
    (among : ∀ entry ∈ entries, carried entry ∈ chain.map carried) :
    List.Forall₂ Like entries (chain.take entries.length) := by
  by_cases none : entries = []
  · rw [none]
    exact List.Forall₂.nil
  · have fresh' : last ∉ entries.map carried := by
      intro again
      obtain ⟨entry, isEntry, same⟩ := List.mem_map.mp again
      exact fresh (same ▸ among entry isEntry)
    have isTip : tip carried last entries ∈ entries.map carried := tip_mem none
    obtain ⟨final, isFinal, ends⟩ := List.mem_map.mp isTip
    obtain ⟨original, isOriginal, same⟩ := List.mem_map.mp (among final isFinal)
    obtain ⟨before, after, rfl⟩ := List.append_of_mem isOriginal
    rw [← List.singleton_append, ← List.append_assoc] at linked fresh ⊢
    have linkedFront := (linked_append.mp linked).1
    have freshFront : last ∉ (before ++ [original]).map carried := fun again =>
      fresh (List.map_append ▸ List.mem_append_left _ again)
    have tips : tip carried last entries = tip carried last (before ++ [original]) := by
      rw [tip_append_singleton, same, ends]
    have values :=
      carried_eq_of_tip valid determines isValid linked' linkedFront fresh' freshFront tips
    have lengths : entries.length = (before ++ [original]).length := by
      simpa only [List.length_map] using congrArg List.length values
    rw [lengths, List.take_left]
    exact @forall₂_of_carried E H link carried Like like last _ _ linked' linkedFront values

end Determined

end HashChain

end Logic
