/-
**Strings: trimming, starts and parts, and lists of reasons.**

`strip` removes white space from both ends of a string, where white space is what Python's
`str.isspace` accepts. A string is *blank* when nothing remains and *normalized* when it is not
empty and trimming leaves it as it is. `rstripChar` removes one character from the right end,
`startsWith` compares a string with a start of it, and `splitChar` cuts it at a character. `reasonIf`
is what a check adds to the reasons against something.
-/

import Mathlib.Data.List.DropRight

namespace PyLib

/-- A literal is the text of its characters. -/
theorem toList_of_spelled {text : String} {chars : List Char} (spelled : text = String.ofList chars) :
    text.toList = chars := by
  rw [spelled, String.toList_ofList]

theorem length_of_spelled {text : String} {chars : List Char} (spelled : text = String.ofList chars) :
    text.length = chars.length := by
  rw [spelled, String.length_ofList]

/-- The characters `str.strip` removes. -/
def isSpace (c : Char) : Bool :=
  let code := c.toNat
  (0x09 ≤ code && code ≤ 0x0d) || (0x1c ≤ code && code ≤ 0x20) || code == 0x85 || code == 0xa0 ||
    code == 0x1680 || (0x2000 ≤ code && code ≤ 0x200a) || code == 0x2028 || code == 0x2029 ||
    code == 0x202f || code == 0x205f || code == 0x3000

/-- `text.strip()`. -/
def strip (text : String) : String :=
  String.ofList ((text.toList.dropWhile isSpace).rdropWhile isSpace)

/-- `not text.strip()`. -/
def isBlank (text : String) : Bool := strip text == ""

/-- `text and text.strip() == text`. -/
def isNormalized (text : String) : Bool := text != "" && strip text == text

theorem isNormalized_ne_empty {text : String} (normalized : isNormalized text = true) :
    text ≠ "" := by
  unfold isNormalized at normalized
  simp only [Bool.and_eq_true, bne_iff_ne] at normalized
  exact normalized.1

/-- Trimming leaves a text without white space as it is. -/
theorem isNormalized_of_forall {text : String} (some : text ≠ "")
    (dense : ∀ c ∈ text.toList, isSpace c = false) : isNormalized text = true := by
  have kept : strip text = text := by
    rw [strip, List.dropWhile_eq_self_iff.mpr fun _ => by simp [dense _ (List.getElem_mem _)],
      List.rdropWhile_eq_self_iff.mpr fun _ => by simp [dense _ (List.getLast_mem _)],
      String.ofList_toList]
  rw [isNormalized, kept]
  simpa using some

example : isNormalized "unit_a" = true ∧ isNormalized " unit_a" = false ∧ isBlank " \t" = true := by
  decide

/-! ### Starts and parts -/

/-- `text.rstrip(char)`. -/
def rstripChar (text : String) (char : Char) : String :=
  String.ofList (text.toList.rdropWhile (· == char))

/-- `text.startswith(start)`. -/
def startsWith (text start : String) : Bool := start.toList.isPrefixOf text.toList

/-- `text.split(char)`. -/
def splitChar (text : String) (char : Char) : List String :=
  (text.toList.splitOn char).map String.ofList

theorem startsWith_iff {text start : String} :
    startsWith text start = true ↔ ∃ rest, text = start ++ rest := by
  rw [startsWith, List.isPrefixOf_iff_prefix]
  constructor
  · rintro ⟨rest, split⟩
    exact ⟨String.ofList rest, String.toList_injective (by
      rw [String.toList_append, String.toList_ofList, split])⟩
  · rintro ⟨rest, rfl⟩
    rw [String.toList_append]
    exact List.prefix_append _ _

theorem rstripChar_append (text : String) (char : Char) :
    ∃ rest, text = rstripChar text char ++ rest := by
  obtain ⟨rest, split⟩ := List.rdropWhile_prefix (· == char) (l := text.toList)
  refine ⟨String.ofList rest, String.toList_injective ?_⟩
  rw [String.toList_append, String.toList_ofList, rstripChar, String.toList_ofList, split]

theorem splitChar_append (first : String) (char : Char) (second : String) :
    splitChar (first ++ String.ofList [char] ++ second) char =
      splitChar first char ++ splitChar second char := by
  have chars : (first ++ String.ofList [char] ++ second).toList =
      first.toList ++ char :: second.toList := by
    rw [String.toList_append, String.toList_append, String.toList_ofList, List.append_assoc]
    rfl
  rw [splitChar, chars, List.splitOn_append_cons_self, List.map_append]
  rfl

/-! ### Reasons -/

/-- `if failed: reasons.append(code)`. -/
def reasonIf (failed : Prop) [Decidable failed] (code : String) : List String :=
  if failed then [code] else []

@[simp] theorem reasonIf_eq_nil {failed : Prop} [Decidable failed] {code : String} :
    reasonIf failed code = [] ↔ ¬ failed := by
  unfold reasonIf
  split_ifs with holds
  · exact iff_of_false (fun same => nomatch same) fun absent => absent holds
  · exact iff_of_true rfl holds

end PyLib
