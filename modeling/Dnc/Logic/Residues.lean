/-
**Residues in a window of consecutive integers.**

A window of `modulus * times` integers meets every residue `times` times, wherever it starts
(`card_residue`). Where two moduli are coprime, a window of their product meets every pair of
residues once (`card_residues`); where they are not, a number that the first divides is never `1`
modulo the second (`emod_ne_one_of_dvd`).
-/

import Mathlib.Data.Int.CardIntervalMod
import Mathlib.Data.Nat.ChineseRemainder

namespace Logic

open Finset

section Residues

theorem card_residue {modulus : ℕ} (positive : 0 < modulus) (start residue : ℤ) (times : ℕ) :
    #{offset ∈ range (modulus * times) | start + (offset : ℕ) ≡ residue [ZMOD modulus]} = times := by
  have nonzero : (modulus : ℚ) ≠ 0 := Nat.cast_ne_zero.mpr positive.ne'
  have shifted : ((start + modulus * times : ℤ) - residue : ℚ) / ((modulus : ℤ) : ℚ) =
      (start - residue : ℚ) / ((modulus : ℤ) : ℚ) + (times : ℤ) := by
    push_cast
    field_simp
    ring
  have counted := Int.Ico_filter_modEq_card start (start + modulus * times)
    (Int.natCast_pos.mpr positive) residue
  rw [shifted, Int.ceil_add_intCast, add_sub_cancel_left, max_eq_left (Int.natCast_nonneg times)]
    at counted
  -- the integers of the window are `start` and an offset
  refine (Finset.card_bij (fun (offset : ℕ) _ => start + offset) ?_ ?_ ?_).trans
    (Int.natCast_inj.mp counted)
  · intro offset member
    rw [mem_filter, mem_range] at member
    rw [mem_filter, mem_Ico]
    refine ⟨⟨by omega, ?_⟩, member.2⟩
    have below : (offset : ℤ) < (modulus * times : ℕ) := Int.ofNat_lt.mpr member.1
    rw [Nat.cast_mul] at below
    omega
  · intro first _ second _ same
    omega
  · intro index member
    rw [mem_filter, mem_Ico, ← Nat.cast_mul] at member
    refine ⟨(index - start).toNat, ?_, by omega⟩
    have back : start + ((index - start).toNat : ℤ) = index := by omega
    rw [mem_filter, mem_range, back]
    exact ⟨by omega, member.2⟩

/-- **Every pair of residues, once.** -/
theorem card_residues {first second : ℕ} (coprime : first.Coprime second) (positive : 0 < first)
    (positive' : 0 < second) (start : ℤ) (residue residue' : ℕ) :
    #{offset ∈ range (first * second) | start + (offset : ℕ) ≡ residue [ZMOD first] ∧
      start + (offset : ℕ) ≡ residue' [ZMOD second]} = 1 := by
  obtain ⟨common, isFirst, isSecond⟩ := Nat.chineseRemainder coprime residue residue'
  have one := card_residue (Nat.mul_pos positive positive') start common 1
  rw [mul_one] at one
  rw [← one, Nat.cast_mul]
  refine congrArg Finset.card (Finset.filter_congr fun offset _ => ?_)
  rw [← Int.modEq_and_modEq_iff_modEq_mul (by simpa using coprime)]
  have isFirst := Int.natCast_modEq_iff.mpr isFirst
  have isSecond := Int.natCast_modEq_iff.mpr isSecond
  exact and_congr ⟨fun same => same.trans isFirst.symm, fun same => same.trans isFirst⟩
    ⟨fun same => same.trans isSecond.symm, fun same => same.trans isSecond⟩

/-- A common divisor keeps the residues apart. -/
theorem emod_ne_one_of_dvd {first second : ℕ} (common : ¬ first.Coprime second) {index : ℤ}
    (divides : (first : ℤ) ∣ index) : ¬ index ≡ 1 [ZMOD second] := by
  intro same
  have ofFirst : ((first.gcd second : ℕ) : ℤ) ∣ index :=
    (Int.natCast_dvd_natCast.mpr (Nat.gcd_dvd_left first second)).trans divides
  have ofSecond : index ≡ 1 [ZMOD (first.gcd second : ℕ)] :=
    same.of_dvd (Int.natCast_dvd_natCast.mpr (Nat.gcd_dvd_right first second))
  have ofOne : ((first.gcd second : ℕ) : ℤ) ∣ (1 : ℕ) := ofSecond.dvd_iff.mp ofFirst
  exact common (Nat.dvd_one.mp (Int.natCast_dvd_natCast.mp ofOne))

end Residues

end Logic
