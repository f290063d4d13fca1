/-
**JSON text.**

`dumps value` is `json.dumps(value, sort_keys=True, indent=2)`: ASCII only, with surrogate pairs
for the characters beyond the basic plane, objects in key order, two blanks a level; `dumpsWith` is
the same in any `Layout` of white space. `loads` is `json.loads`: white space between tokens, every
escape, the last value of a repeated key.

Two limits of the types: a string holds no lone surrogate and a float is finite, so a text with a
lone surrogate, `NaN` or `Infinity` is not read here. A float is kept as the literal that writes it.

`loads_dumpsWith`: reading a printed value gives it back with its objects in key order. The proof goes
by the parts of the grammar (characters, strings, numbers) and then by induction over the value;
fuel is what the nesting and the length of the lists need, and the text is always long enough for
it.
-/

import Dnc.PyLib.Value

namespace PyLib

namespace Json

/-! ### Strings -/

/-- The hexadecimal digits of a UTF-16 unit. -/
def unitDigits (unit : Nat) : List Char :=
  [Nat.digitChar (unit / 4096 % 16), Nat.digitChar (unit / 256 % 16),
    Nat.digitChar (unit / 16 % 16), Nat.digitChar (unit % 16)]

/-- The escape of a UTF-16 unit. -/
def escapeUnit (unit : Nat) : List Char := '\\' :: 'u' :: unitDigits unit

/-- A character as `ensure_ascii` writes it. -/
def escapeChar (c : Char) : List Char :=
  if c = '"' then ['\\', '"']
  else if c = '\\' then ['\\', '\\']
  else if c = '\n' then ['\\', 'n']
  else if c = '\r' then ['\\', 'r']
  else if c = '\t' then ['\\', 't']
  else if c.toNat = 0x08 then ['\\', 'b']
  else if c.toNat = 0x0c then ['\\', 'f']
  else if 0x20 ≤ c.toNat ∧ c.toNat ≤ 0x7e then [c]
  else if c.toNat < 0x10000 then escapeUnit c.toNat
  else
    escapeUnit (0xd800 + (c.toNat - 0x10000) / 0x400) ++
      escapeUnit (0xdc00 + (c.toNat - 0x10000) % 0x400)

def quoted (text : String) : List Char := '"' :: (text.toList.flatMap escapeChar ++ ['"'])

def hexValue (c : Char) : Option Nat :=
  if '0' ≤ c ∧ c ≤ '9' then some (c.toNat - 0x30)
  else if 'a' ≤ c ∧ c ≤ 'f' then some (c.toNat - 0x57)
  else if 'A' ≤ c ∧ c ≤ 'F' then some (c.toNat - 0x37)
  else none

/-- Four hexadecimal digits. -/
def parseUnit : List Char → Option (Nat × List Char)
  | first :: second :: third :: fourth :: rest => do
    let first ← hexValue first
    let second ← hexValue second
    let third ← hexValue third
    let fourth ← hexValue fourth
    return (4096 * first + 256 * second + 16 * third + fourth, rest)
  | _ => none

/-- The escape after a backslash. -/
def unescape : List Char → Option (Char × List Char)
  | '"' :: rest => some ('"', rest)
  | '\\' :: rest => some ('\\', rest)
  | '/' :: rest => some ('/', rest)
  | 'b' :: rest => some (Char.ofNat 0x08, rest)
  | 'f' :: rest => some (Char.ofNat 0x0c, rest)
  | 'n' :: rest => some ('\n', rest)
  | 'r' :: rest => some ('\r', rest)
  | 't' :: rest => some ('\t', rest)
  | 'u' :: rest => do
    let (unit, rest) ← parseUnit rest
    if 0xd800 ≤ unit ∧ unit < 0xdc00 then
      match rest with
      | '\\' :: 'u' :: rest => do
        let (low, rest) ← parseUnit rest
        if 0xdc00 ≤ low ∧ low < 0xe000 then
          some (Char.ofNat (0x10000 + (unit - 0xd800) * 0x400 + (low - 0xdc00)), rest)
        else none
      | _ => none
    else if 0xdc00 ≤ unit ∧ unit < 0xe000 then none
    else some (Char.ofNat unit, rest)
  | _ => none

/-- The characters of a string up to its closing quote. -/
def parseChars : Nat → List Char → Option (List Char × List Char)
  | 0, _ => none
  | fuel + 1, text =>
    match text with
    | [] => none
    | '"' :: rest => some ([], rest)
    | '\\' :: rest => do
      let (c, rest) ← unescape rest
      let (cs, rest) ← parseChars fuel rest
      return (c :: cs, rest)
    | c :: rest =>
      if c.toNat < 0x20 then none
      else do
        let (cs, rest) ← parseChars fuel rest
        return (c :: cs, rest)

/-- A string after its opening quote. -/
def parseString (text : List Char) : Option (String × List Char) :=
  (parseChars (text.length + 1) text).map fun parsed => (String.ofList parsed.1, parsed.2)

theorem hexValue_digitChar {digit : Nat} (small : digit < 16) :
    hexValue (Nat.digitChar digit) = some digit := by
  have all : ∀ digit : Fin 16, hexValue (Nat.digitChar digit) = some digit.val := by decide
  exact all ⟨digit, small⟩

/-- The digits of a unit read back as the unit. -/
theorem parseUnit_unitDigits {unit : Nat} (small : unit < 0x10000) (rest : List Char) :
    parseUnit (unitDigits unit ++ rest) = some (unit, rest) := by
  have first := hexValue_digitChar (Nat.mod_lt (unit / 4096) (by decide : 0 < 16))
  have second := hexValue_digitChar (Nat.mod_lt (unit / 256) (by decide : 0 < 16))
  have third := hexValue_digitChar (Nat.mod_lt (unit / 16) (by decide : 0 < 16))
  have fourth := hexValue_digitChar (Nat.mod_lt unit (by decide : 0 < 16))
  have value : 4096 * (unit / 4096 % 16) + 256 * (unit / 256 % 16) + 16 * (unit / 16 % 16) +
      unit % 16 = unit := by omega
  show parseUnit (Nat.digitChar (unit / 4096 % 16) :: Nat.digitChar (unit / 256 % 16) ::
    Nat.digitChar (unit / 16 % 16) :: Nat.digitChar (unit % 16) :: rest) = some (unit, rest)
  simp only [parseUnit, first, second, third, fourth, Option.bind_eq_bind, Option.bind_some,
    Option.pure_def, value]

/-- A character is no surrogate. -/
theorem toNat_not_surrogate (c : Char) : c.toNat < 0xd800 ∨ 0xdfff < c.toNat ∧ c.toNat < 0x110000 :=
  c.valid

/-- The escape of a unit that is no surrogate. -/
theorem unescape_unit {unit : Nat} (small : unit < 0x10000)
    (plain : unit < 0xd800 ∨ 0xe000 ≤ unit) (rest : List Char) :
    unescape ('u' :: (unitDigits unit ++ rest)) = some (Char.ofNat unit, rest) := by
  have high : ¬ (0xd800 ≤ unit ∧ unit < 0xdc00) := by omega
  have low : ¬ (0xdc00 ≤ unit ∧ unit < 0xe000) := by omega
  simp only [unescape, parseUnit_unitDigits small, Option.bind_eq_bind, Option.bind_some, if_neg high,
    if_neg low]

/-- The escapes of a surrogate pair. -/
theorem unescape_pair {offset : Nat} (small : offset < 0x100000) (rest : List Char) :
    unescape ('u' :: (unitDigits (0xd800 + offset / 0x400) ++
        (escapeUnit (0xdc00 + offset % 0x400) ++ rest))) =
      some (Char.ofNat (0x10000 + offset), rest) := by
  have high : 0xd800 ≤ 0xd800 + offset / 0x400 ∧ 0xd800 + offset / 0x400 < 0xdc00 := by omega
  have low : 0xdc00 ≤ 0xdc00 + offset % 0x400 ∧ 0xdc00 + offset % 0x400 < 0xe000 := by omega
  have joined : 0x10000 + (0xd800 + offset / 0x400 - 0xd800) * 0x400 +
      (0xdc00 + offset % 0x400 - 0xdc00) = 0x10000 + offset := by omega
  have firstRead := parseUnit_unitDigits (show 0xd800 + offset / 0x400 < 0x10000 by omega)
    ('\\' :: 'u' :: (unitDigits (0xdc00 + offset % 0x400) ++ rest))
  have secondRead := parseUnit_unitDigits (show 0xdc00 + offset % 0x400 < 0x10000 by omega) rest
  show unescape ('u' :: (unitDigits (0xd800 + offset / 0x400) ++
    '\\' :: 'u' :: (unitDigits (0xdc00 + offset % 0x400) ++ rest))) = _
  simp only [unescape, firstRead, Option.bind_eq_bind, Option.bind_some, if_pos high, secondRead,
    if_pos low, joined]

/-- What a printed character is: the character itself, or a backslash with an escape that reads back
as the character. -/
theorem escapeChar_cases (c : Char) :
    (escapeChar c = [c] ∧ c ≠ '"' ∧ c ≠ '\\' ∧ 0x20 ≤ c.toNat) ∨
      ∃ after, escapeChar c = '\\' :: after ∧
        ∀ rest, unescape (after ++ rest) = some (c, rest) := by
  have named : ∀ {code : Nat}, c.toNat = code → Char.ofNat code = c := by
    rintro code rfl
    exact Char.ofNat_toNat c
  have valid := toNat_not_surrogate c
  unfold escapeChar
  by_cases isQuote : c = '"'
  · rw [if_pos isQuote]
    subst isQuote
    exact Or.inr ⟨_, rfl, fun _ => rfl⟩
  rw [if_neg isQuote]
  by_cases isBackslash : c = '\\'
  · rw [if_pos isBackslash]
    subst isBackslash
    exact Or.inr ⟨_, rfl, fun _ => rfl⟩
  rw [if_neg isBackslash]
  by_cases isNewline : c = '\n'
  · rw [if_pos isNewline]
    subst isNewline
    exact Or.inr ⟨_, rfl, fun _ => rfl⟩
  rw [if_neg isNewline]
  by_cases isReturn : c = '\r'
  · rw [if_pos isReturn]
    subst isReturn
    exact Or.inr ⟨_, rfl, fun _ => rfl⟩
  rw [if_neg isReturn]
  by_cases isTab : c = '\t'
  · rw [if_pos isTab]
    subst isTab
    exact Or.inr ⟨_, rfl, fun _ => rfl⟩
  rw [if_neg isTab]
  by_cases isBackspace : c.toNat = 0x08
  · rw [if_pos isBackspace]
    exact Or.inr ⟨_, rfl, fun rest => congrArg (fun c => some (c, rest)) (named isBackspace)⟩
  rw [if_neg isBackspace]
  by_cases isFeed : c.toNat = 0x0c
  · rw [if_pos isFeed]
    exact Or.inr ⟨_, rfl, fun rest => congrArg (fun c => some (c, rest)) (named isFeed)⟩
  rw [if_neg isFeed]
  by_cases printable : 0x20 ≤ c.toNat ∧ c.toNat ≤ 0x7e
  · rw [if_pos printable]
    exact Or.inl ⟨rfl, isQuote, isBackslash, printable.1⟩
  rw [if_neg printable]
  by_cases inPlane : c.toNat < 0x10000
  · rw [if_pos inPlane]
    refine Or.inr ⟨_, rfl, fun rest => (unescape_unit inPlane (by omega) rest).trans ?_⟩
    rw [Char.ofNat_toNat]
  · rw [if_neg inPlane]
    refine Or.inr ⟨_, rfl, fun rest => ?_⟩
    have read := unescape_pair (show c.toNat - 0x10000 < 0x100000 by omega) rest
    rw [show 0x10000 + (c.toNat - 0x10000) = c.toNat by omega, Char.ofNat_toNat] at read
    exact read

/-- **A printed character reads back.** -/
theorem parseChars_escapeChar (fuel : Nat) (c : Char) (rest : List Char) :
    parseChars (fuel + 1) (escapeChar c ++ rest) =
      (parseChars fuel rest).map fun parsed => (c :: parsed.1, parsed.2) := by
  rcases escapeChar_cases c with ⟨itself, isQuote, isBackslash, printable⟩ | ⟨after, escaped, read⟩
  · have plain : ¬ c.toNat < 0x20 := by omega
    rw [itself]
    show parseChars (fuel + 1) (c :: rest) = _
    conv_lhs => unfold parseChars
    split
    · cases ‹c :: rest = []›
    · rename_i same
      cases same
      exact absurd rfl isQuote
    · rename_i same
      cases same
      exact absurd rfl isBackslash
    · rename_i same
      cases same
      rw [if_neg plain]
      cases parseChars fuel rest <;> rfl
  · rw [escaped, List.cons_append]
    simp only [parseChars, read, Option.bind_eq_bind, Option.bind_some]
    cases parseChars fuel rest <;> rfl

theorem escapeChar_length_pos (c : Char) : 0 < (escapeChar c).length := by
  rcases escapeChar_cases c with ⟨itself, -⟩ | ⟨after, escaped, -⟩
  · rw [itself]
    exact Nat.one_pos
  · rw [escaped]
    exact Nat.succ_pos _

theorem length_le_flatMap_escapeChar (cs : List Char) :
    cs.length ≤ (cs.flatMap escapeChar).length := by
  induction cs with
  | nil => exact le_rfl
  | cons c cs ih =>
    have here := escapeChar_length_pos c
    rw [List.flatMap_cons, List.length_append, List.length_cons]
    omega

/-- Printed characters read back, with a step of fuel for each and one for the closing quote. -/
theorem parseChars_flatMap (cs rest : List Char) (extra : Nat) :
    parseChars (cs.length + extra + 1) (cs.flatMap escapeChar ++ '"' :: rest) = some (cs, rest) := by
  induction cs with
  | nil => rfl
  | cons c cs ih =>
    have fuel : (c :: cs).length + extra + 1 = (cs.length + extra + 1) + 1 := by
      rw [List.length_cons]
      omega
    rw [fuel, List.flatMap_cons, List.append_assoc, parseChars_escapeChar, ih]
    rfl

/-- **A printed string reads back**, after its opening quote. -/
theorem parseString_quoted (text : String) (rest : List Char) :
    parseString (text.toList.flatMap escapeChar ++ '"' :: rest) = some (text, rest) := by
  have room := length_le_flatMap_escapeChar text.toList
  obtain ⟨extra, fuel⟩ : ∃ extra, (text.toList.flatMap escapeChar ++ '"' :: rest).length + 1 =
      text.toList.length + extra + 1 := by
    refine ⟨(text.toList.flatMap escapeChar ++ '"' :: rest).length - text.toList.length, ?_⟩
    rw [List.length_append] at *
    omega
  unfold parseString
  rw [fuel, parseChars_flatMap]
  exact congrArg (fun text => some (text, rest)) String.ofList_toList

/-! ### Numbers -/

/-- `-` at the front. -/
def parseSign : List Char → Bool × List Char
  | '-' :: rest => (true, rest)
  | text => (false, text)

/-- The digits at the front. -/
def parseDigits (text : List Char) : List Char × List Char :=
  (text.takeWhile Char.isDigit, text.dropWhile Char.isDigit)

/-- `0|[1-9][0-9]*`. -/
def parseWhole (text : List Char) : Option (Nat × List Char) :=
  match text with
  | '0' :: rest => some (0, rest)
  | _ =>
    match parseDigits text with
    | ([], _) => none
    | (digits, rest) => some (Nat.ofDigitChars 10 digits 0, rest)

/-- `(\.[0-9]+)?`. -/
def parseFraction (text : List Char) : List (Fin 10) × List Char :=
  match text with
  | '.' :: rest =>
    match parseDigits rest with
    | ([], _) => ([], text)
    | (digits, rest) => (digits.map fun c => Fin.ofNat 10 (c.toNat - 0x30), rest)
  | _ => ([], text)

/-- The digits of an exponent after its sign. -/
def parsePower (negative : Bool) (text rest : List Char) : Option Int × List Char :=
  match parseDigits rest with
  | ([], _) => (none, text)
  | (digits, rest) =>
    let power : Int := Nat.ofDigitChars 10 digits 0
    (some (if negative then -power else power), rest)

/-- `([eE][-+]?[0-9]+)?`. -/
def parseExponent (text : List Char) : Option Int × List Char :=
  match text with
  | [] => (none, text)
  | c :: rest =>
    if c = 'e' ∨ c = 'E' then
      match rest with
      | '-' :: rest => parsePower true text rest
      | '+' :: rest => parsePower false text rest
      | _ => parsePower false text rest
    else (none, text)

def parseNumber (text : List Char) : Option (Json × List Char) := do
  let (negative, rest) := parseSign text
  let (whole, rest) ← parseWhole rest
  let (fraction, rest) := parseFraction rest
  let (exponent, rest) := parseExponent rest
  return (if isFloat : fraction ≠ [] ∨ exponent ≠ none then
      .float ⟨negative, whole, fraction, exponent, isFloat⟩
    else .int (if negative then -whole else whole), rest)

/-- The characters that could continue a number. -/
def continuesNumber (c : Char) : Bool := c.isDigit || c == '.' || c == 'e' || c == 'E'

/-- No number goes on into the text. -/
def EndsNumber (text : List Char) : Prop := ∀ c rest, text = c :: rest → continuesNumber c = false

theorem parseDigits_append {digits rest : List Char} (all : ∀ c ∈ digits, c.isDigit = true)
    (stop : ∀ c tail, rest = c :: tail → c.isDigit = false) :
    parseDigits (digits ++ rest) = (digits, rest) := by
  unfold parseDigits
  rw [List.takeWhile_append_of_pos all, List.dropWhile_append_of_pos all]
  cases rest with
  | nil => simp
  | cons c tail => simp [stop c tail rfl]

theorem isDigit_toDigits {number : Nat} : ∀ c ∈ Nat.toDigits 10 number, c.isDigit = true :=
  fun _ member => Nat.isDigit_of_mem_toDigits (by decide) (by decide) member

theorem parseDigits_toDigits (number : Nat) {rest : List Char}
    (stop : ∀ c tail, rest = c :: tail → c.isDigit = false) :
    parseDigits (Nat.toDigits 10 number ++ rest) = (Nat.toDigits 10 number, rest) :=
  parseDigits_append isDigit_toDigits stop

/-- Only zero is written with a leading zero. -/
theorem head_toDigits (number : Nat) (positive : 0 < number) :
    ∃ first rest, Nat.toDigits 10 number = first :: rest ∧ first ≠ '0' := by
  induction number using Nat.strongRecOn with
  | ind number ih =>
    by_cases small : number < 10
    · refine ⟨Nat.digitChar number, [], Nat.toDigits_of_lt_base small, ?_⟩
      have all : ∀ digit : Fin 10, 0 < digit.val → Nat.digitChar digit ≠ '0' := by decide
      exact all ⟨number, small⟩ positive
    · obtain ⟨first, rest, digits, nonzero⟩ := ih (number / 10) (by omega) (by omega)
      refine ⟨first, rest ++ [Nat.digitChar (number % 10)], ?_, nonzero⟩
      rw [Nat.toDigits_of_base_le (by decide) (by omega), digits]
      rfl

/-- A printed whole part reads back. -/
theorem parseWhole_toDigits (number : Nat) {rest : List Char}
    (stop : ∀ c tail, rest = c :: tail → c.isDigit = false) :
    parseWhole (Nat.toDigits 10 number ++ rest) = some (number, rest) := by
  by_cases zero : number = 0
  · subst zero
    rw [Nat.toDigits_zero]
    rfl
  · obtain ⟨first, later, digits, nonzero⟩ := head_toDigits number (by omega)
    have value : Nat.ofDigitChars 10 (first :: later) 0 = number := by
      rw [← digits]
      exact Nat.ofDigitChars_ten_toDigits
    have read := parseDigits_toDigits number stop
    rw [digits] at read ⊢
    unfold parseWhole
    split
    · rename_i same
      exact absurd (List.cons.inj same).1 nonzero
    · rw [read]
      simp only [value]

theorem EndsNumber.not_digit {text : List Char} (ends : EndsNumber text) :
    ∀ c tail, text = c :: tail → c.isDigit = false := by
  intro c tail same
  have stops := ends c tail same
  unfold continuesNumber at stops
  simp only [Bool.or_eq_false_iff] at stops
  exact stops.1.1.1

/-- The text of a fraction. -/
def fractionChars (fraction : List (Fin 10)) : List Char :=
  if fraction = [] then [] else '.' :: fraction.map fun digit => Nat.digitChar digit.val

/-- The text of an exponent. -/
def exponentChars : Option Int → List Char
  | none => []
  | some power =>
    'e' :: (if power < 0 then '-' else '+') ::
      (List.replicate (2 - (Nat.toDigits 10 power.natAbs).length) '0' ++
        Nat.toDigits 10 power.natAbs)

theorem toList_join_digits (digits : List (Fin 10)) :
    (String.join (digits.map fun digit => toString digit.val)).toList =
      digits.map fun digit => Nat.digitChar digit.val := by
  have each : ∀ digit : Fin 10, (toString digit.val).toList = [Nat.digitChar digit.val] := by decide
  rw [String.toList_join]
  induction digits with
  | nil => rfl
  | cons digit rest ih =>
    simp only [List.map_cons, List.flatMap_cons, each] at ih ⊢
    rw [ih]
    rfl

theorem toList_toString_nat (number : Nat) : (toString number).toList = Nat.toDigits 10 number :=
  Nat.toList_repr

theorem toList_padDigits (width number : Nat) :
    (padDigits width number).toList =
      List.replicate (width - (Nat.toDigits 10 number).length) '0' ++ Nat.toDigits 10 number := by
  have length : (toString number).length = (Nat.toDigits 10 number).length := by
    rw [← String.length_toList, toList_toString_nat]
  unfold padDigits
  simp only [String.toList_append, String.toList_ofList, toList_toString_nat, length]

/-- The text of a float by its parts. -/
theorem toList_floatText (lit : FloatLit) :
    (floatText lit).toList = (if lit.negative then ['-'] else []) ++
      (Nat.toDigits 10 lit.whole ++ (fractionChars lit.fraction ++ exponentChars lit.exponent)) := by
  have sign : (if lit.negative then "-" else "").toList = if lit.negative then ['-'] else [] := by
    split <;> rfl
  have fraction : (if lit.fraction = [] then "" else
      "." ++ String.join (lit.fraction.map fun digit => toString digit.val)).toList =
        fractionChars lit.fraction := by
    unfold fractionChars
    split_ifs
    · rfl
    · rw [String.toList_append, toList_join_digits]
      rfl
  have exponent : (match lit.exponent with
      | none => ""
      | some power => (if power < 0 then "e-" else "e+") ++ padDigits 2 power.natAbs).toList =
        exponentChars lit.exponent := by
    cases lit.exponent with
    | none => rfl
    | some power =>
      simp only [String.toList_append, toList_padDigits, exponentChars]
      split_ifs <;> rfl
  unfold floatText
  simp only [String.toList_append, toList_toString_nat]
  rw [sign, fraction, List.append_assoc, List.append_assoc]
  exact congrArg (fun text => (if lit.negative then ['-'] else []) ++
    (Nat.toDigits 10 lit.whole ++ (fractionChars lit.fraction ++ text))) exponent

theorem parseSign_toDigits (number : Nat) (rest : List Char) :
    parseSign (Nat.toDigits 10 number ++ rest) = (false, Nat.toDigits 10 number ++ rest) := by
  cases digits : Nat.toDigits 10 number with
  | nil => exact absurd digits Nat.toDigits_ne_nil
  | cons first later =>
    have isDigit : first.isDigit = true := isDigit_toDigits first (digits ▸ List.mem_cons_self)
    show parseSign (first :: (later ++ rest)) = _
    unfold parseSign
    split
    · rename_i same
      cases (List.cons.inj same).1
      exact absurd isDigit (by decide)
    · rfl

/-- A printed fraction reads back. -/
theorem parseFraction_chars (fraction : List (Fin 10)) {rest : List Char}
    (stop : ∀ c tail, rest = c :: tail → c.isDigit = false ∧ c ≠ '.') :
    parseFraction (fractionChars fraction ++ rest) = (fraction, rest) := by
  have digit : ∀ digit : Fin 10, (Nat.digitChar digit.val).isDigit = true ∧
      Fin.ofNat 10 ((Nat.digitChar digit.val).toNat - 0x30) = digit := by decide
  cases fraction with
  | nil =>
    show parseFraction rest = ([], rest)
    unfold parseFraction
    split
    · exact absurd rfl (stop _ _ rfl).2
    · rfl
  | cons first later =>
    have read := @parseDigits_append ((first :: later).map fun digit => Nat.digitChar digit.val) rest
      (fun c member => by
        obtain ⟨origin, -, rfl⟩ := List.mem_map.mp member
        exact (digit origin).1) (fun c tail same => (stop c tail same).1)
    have back : ((first :: later).map fun digit => Nat.digitChar digit.val).map
        (fun c => Fin.ofNat 10 (c.toNat - 0x30)) = first :: later := by
      rw [List.map_map]
      exact (List.map_congr_left fun origin _ => (digit origin).2).trans (List.map_id _)
    show parseFraction ('.' :: (((first :: later).map fun digit => Nat.digitChar digit.val) ++ rest))
      = (first :: later, rest)
    simp only [parseFraction, read]
    exact congrArg (fun digits => (digits, rest)) back

theorem parsePower_padded (negative : Bool) (text : List Char) (number padding : Nat)
    {rest : List Char} (ends : EndsNumber rest) :
    parsePower negative text
        (List.replicate padding '0' ++ Nat.toDigits 10 number ++ rest) =
      (some (if negative then -(number : Int) else number), rest) := by
  have all : ∀ c ∈ List.replicate padding '0' ++ Nat.toDigits 10 number, c.isDigit = true := by
    intro c member
    rcases List.mem_append.mp member with zero | digit
    · rw [(List.mem_replicate.mp zero).2]
      rfl
    · exact isDigit_toDigits c digit
  have value : Nat.ofDigitChars 10 (List.replicate padding '0' ++ Nat.toDigits 10 number) 0 =
      number := by
    rw [Nat.ofDigitChars_append, Nat.ofDigitChars_replicate_zero, Nat.mul_zero,
      Nat.ofDigitChars_ten_toDigits]
  have read := parseDigits_append all ends.not_digit
  have nonempty : List.replicate padding '0' ++ Nat.toDigits 10 number ≠ [] := by
    simp [Nat.toDigits_ne_nil]
  unfold parsePower
  rw [read]
  split
  · rename_i same
    exact absurd (congrArg Prod.fst same) nonempty
  · rename_i digits after _ same
    cases same
    rw [value]

/-- A printed exponent reads back. -/
theorem parseExponent_chars (exponent : Option Int) {rest : List Char} (ends : EndsNumber rest) :
    parseExponent (exponentChars exponent ++ rest) = (exponent, rest) := by
  cases exponent with
  | none =>
    show parseExponent rest = (none, rest)
    cases rest with
    | nil => rfl
    | cons c tail =>
      have stops := ends c tail rfl
      have noE : ¬ (c = 'e' ∨ c = 'E') := by
        rintro (rfl | rfl) <;> exact absurd stops (by decide)
      simp only [parseExponent, if_neg noE]
  | some power =>
    simp only [exponentChars, List.cons_append, parseExponent, true_or, if_true]
    by_cases negative : power < 0
    · rw [if_pos negative]
      have value : -(power.natAbs : Int) = power := by omega
      have read := fun text => parsePower_padded true text power.natAbs
        (2 - (Nat.toDigits 10 power.natAbs).length) ends
      simp only [read, if_true, value]
    · rw [if_neg negative]
      have value : (power.natAbs : Int) = power := by omega
      have read := fun text => parsePower_padded false text power.natAbs
        (2 - (Nat.toDigits 10 power.natAbs).length) ends
      simp only [read, Bool.false_eq_true, if_false, value]

/-- What follows the whole part of a printed number does not continue it. -/
theorem fraction_exponent_stop (fraction : List (Fin 10)) (exponent : Option Int)
    {rest : List Char} (ends : EndsNumber rest) :
    (∀ c tail, exponentChars exponent ++ rest = c :: tail → c.isDigit = false ∧ c ≠ '.') ∧
      ∀ c tail, fractionChars fraction ++ (exponentChars exponent ++ rest) = c :: tail →
        c.isDigit = false := by
  have afterExponent : ∀ c tail, exponentChars exponent ++ rest = c :: tail →
      c.isDigit = false ∧ c ≠ '.' := by
    intro c tail same
    cases exponent with
    | none =>
      refine ⟨ends.not_digit c tail same, ?_⟩
      rintro rfl
      exact absurd (ends '.' tail same) (by decide)
    | some power =>
      obtain rfl : 'e' = c := (List.cons.inj same).1
      decide
  refine ⟨afterExponent, fun c tail same => ?_⟩
  unfold fractionChars at same
  split_ifs at same
  · exact (afterExponent c tail same).1
  · obtain rfl : '.' = c := (List.cons.inj same).1
    rfl

/-- **A printed float reads back.** -/
theorem parseNumber_float (lit : FloatLit) {rest : List Char} (ends : EndsNumber rest) :
    parseNumber ((floatText lit).toList ++ rest) = some (.float lit, rest) := by
  have stops := fraction_exponent_stop lit.fraction lit.exponent ends
  have sign : parseSign ((if lit.negative then ['-'] else []) ++ (Nat.toDigits 10 lit.whole ++
      (fractionChars lit.fraction ++ (exponentChars lit.exponent ++ rest)))) =
        (lit.negative, Nat.toDigits 10 lit.whole ++
          (fractionChars lit.fraction ++ (exponentChars lit.exponent ++ rest))) := by
    cases lit.negative with
    | true => rfl
    | false => exact parseSign_toDigits _ _
  rw [toList_floatText, List.append_assoc, List.append_assoc, List.append_assoc]
  unfold parseNumber
  rw [sign]
  simp only [parseWhole_toDigits lit.whole stops.2, Option.bind_eq_bind, Option.bind_some,
    parseFraction_chars lit.fraction stops.1, parseExponent_chars lit.exponent ends,
    dif_pos lit.isFloat]
  rfl

theorem toList_toString_int (value : Int) :
    (toString value).toList =
      (if value < 0 then ['-'] else []) ++ Nat.toDigits 10 value.natAbs := by
  rw [Int.toString_eq_repr, Int.repr_eq_if]
  by_cases negative : value < 0
  · have whole : (-value).toNat = value.natAbs := by omega
    rw [if_neg (by omega), if_pos negative, String.toList_append, Nat.toList_repr, whole]
    rfl
  · have whole : value.toNat = value.natAbs := by omega
    rw [if_pos (by omega), if_neg negative, Nat.toList_repr, whole]
    rfl

/-- **A printed integer reads back.** -/
theorem parseNumber_int (value : Int) {rest : List Char} (ends : EndsNumber rest) :
    parseNumber ((toString value).toList ++ rest) = some (.int value, rest) := by
  have stops := fraction_exponent_stop [] none ends
  have noFraction := parseFraction_chars [] stops.1
  have noExponent := parseExponent_chars none ends
  have whole := parseWhole_toDigits value.natAbs stops.2
  simp only [fractionChars, exponentChars, if_true, List.nil_append] at noFraction noExponent whole
  rw [toList_toString_int, List.append_assoc]
  unfold parseNumber
  by_cases negative : value < 0
  · have magnitude : -(value.natAbs : Int) = value := by omega
    have sign : parseSign ((if value < 0 then ['-'] else []) ++
        (Nat.toDigits 10 value.natAbs ++ rest)) = (true, Nat.toDigits 10 value.natAbs ++ rest) := by
      rw [if_pos negative]
      rfl
    rw [sign]
    simp only [whole, noFraction, noExponent, Option.bind_eq_bind, Option.bind_some, ne_eq,
      not_true_eq_false, or_self, dif_neg, not_false_eq_true, if_true, magnitude]
    rfl
  · have magnitude : (value.natAbs : Int) = value := by omega
    have sign : parseSign ((if value < 0 then ['-'] else []) ++
        (Nat.toDigits 10 value.natAbs ++ rest)) = (false, Nat.toDigits 10 value.natAbs ++ rest) := by
      rw [if_neg negative]
      exact parseSign_toDigits _ _
    rw [sign]
    simp only [whole, noFraction, noExponent, Option.bind_eq_bind, Option.bind_some, ne_eq,
      not_true_eq_false, or_self, dif_neg, not_false_eq_true, Bool.false_eq_true, if_false, magnitude]
    rfl

/-! ### Values -/

/-- The white space of JSON. -/
def isBlankChar (c : Char) : Bool := c == ' ' || c == '\t' || c == '\n' || c == '\r'

/-- White space between tokens. -/
def skipBlanks (text : List Char) : List Char := text.dropWhile isBlankChar

mutual

def parseValue : Nat → List Char → Option (Json × List Char)
  | 0, _ => none
  | fuel + 1, text =>
    match text with
    | '"' :: rest => (parseString rest).map fun parsed => (.str parsed.1, parsed.2)
    | '[' :: rest =>
      match skipBlanks rest with
      | ']' :: rest => some (.arr [], rest)
      | rest => parseItems fuel [] rest
    | '\x7b' :: rest =>
      match skipBlanks rest with
      | '\x7d' :: rest => some (.obj [], rest)
      | rest => parseFields fuel [] rest
    | 'n' :: 'u' :: 'l' :: 'l' :: rest => some (.null, rest)
    | 't' :: 'r' :: 'u' :: 'e' :: rest => some (.bool true, rest)
    | 'f' :: 'a' :: 'l' :: 's' :: 'e' :: rest => some (.bool false, rest)
    | _ => parseNumber text

/-- The items of a list from the first character of an item on, after the given items. -/
def parseItems : Nat → List Json → List Char → Option (Json × List Char)
  | 0, _, _ => none
  | fuel + 1, items, text => do
    let (item, rest) ← parseValue fuel text
    match skipBlanks rest with
    | ',' :: rest => parseItems fuel (items ++ [item]) (skipBlanks rest)
    | ']' :: rest => some (.arr (items ++ [item]), rest)
    | _ => none

def parseFields : Nat → List (String × Json) → List Char → Option (Json × List Char)
  | 0, _, _ => none
  | fuel + 1, fields, text =>
    match text with
    | '"' :: rest => do
      let (key, rest) ← parseString rest
      match skipBlanks rest with
      | ':' :: rest => do
        let (value, rest) ← parseValue fuel (skipBlanks rest)
        match skipBlanks rest with
        | ',' :: rest => parseFields fuel (setItem fields key value) (skipBlanks rest)
        | '\x7d' :: rest => some (.obj (setItem fields key value), rest)
        | _ => none
      | _ => none
    | _ => none

end

/-- `json.loads(text)`; `none` is a decode error. -/
def loads (text : String) : Option Json := do
  let (value, rest) ← parseValue (2 * text.length + 1) (skipBlanks text.toList)
  if skipBlanks rest = [] then some value else none

/-! ### Layouts -/

/-- The white space between the tokens of a printed value. -/
structure Layout where
  newline : Nat → List Char
  gap : List Char
  newlineBlank : ∀ level, ∀ c ∈ newline level, isBlankChar c = true
  gapBlank : ∀ c ∈ gap, isBlankChar c = true

/-- `indent=2`. -/
def Layout.indented : Layout where
  newline level := '\n' :: List.replicate (2 * level) ' '
  gap := [' ']
  newlineBlank level c member := by
    rcases List.mem_cons.mp member with rfl | blank
    · rfl
    · rw [List.eq_of_mem_replicate blank]
      rfl
  gapBlank c member := by
    rw [List.mem_singleton.mp member]
    rfl

/-- `separators=(",", ":")`. -/
def Layout.compact : Layout where
  newline _ := []
  gap := []
  newlineBlank _ _ member := nomatch member
  gapBlank _ member := nomatch member

theorem skipBlanks_append {blanks : List Char} (all : ∀ c ∈ blanks, isBlankChar c = true)
    (rest : List Char) : skipBlanks (blanks ++ rest) = skipBlanks rest :=
  List.dropWhile_append_of_pos all

theorem Layout.skipBlanks_newline (layout : Layout) (level : Nat) (rest : List Char) :
    skipBlanks (layout.newline level ++ rest) = skipBlanks rest :=
  skipBlanks_append (layout.newlineBlank level) rest

theorem Layout.skipBlanks_gap (layout : Layout) (rest : List Char) :
    skipBlanks (layout.gap ++ rest) = skipBlanks rest :=
  skipBlanks_append layout.gapBlank rest

/-- White space ends a number, and so does what follows it. -/
theorem Layout.endsNumber_newline (layout : Layout) (level : Nat) {c : Char}
    (stops : continuesNumber c = false) (rest : List Char) :
    EndsNumber (layout.newline level ++ c :: rest) := by
  have blank := layout.newlineBlank level
  cases shape : layout.newline level with
  | nil =>
    rintro other tail same
    rw [← (List.cons.inj same).1]
    exact stops
  | cons first later =>
    rintro other tail same
    rw [← (List.cons.inj same).1]
    have isBlank := blank first (shape ▸ List.mem_cons_self)
    simp only [isBlankChar, Bool.or_eq_true, beq_iff_eq] at isBlank
    rcases isBlank with ((rfl | rfl) | rfl) | rfl <;> rfl

mutual

/-- A value in a layout. -/
def printWith (layout : Layout) (level : Nat) : Json → List Char
  | .null => "null".toList
  | .bool value => if value then "true".toList else "false".toList
  | .int value => (toString value).toList
  | .float value => (floatText value).toList
  | .str value => quoted value
  | .arr items =>
    if items.isEmpty then ['[', ']']
    else '[' :: (printItemsWith layout (level + 1) true items ++ (layout.newline level ++ [']']))
  | .obj fields =>
    if fields.isEmpty then ['\x7b', '\x7d']
    else '\x7b' :: (printFieldsWith layout (level + 1) true fields ++
      (layout.newline level ++ ['\x7d']))

def printItemsWith (layout : Layout) (level : Nat) (isFirst : Bool) : List Json → List Char
  | [] => []
  | item :: rest =>
    (if isFirst then [] else [',']) ++ (layout.newline level ++ (printWith layout level item ++
      printItemsWith layout level false rest))

def printFieldsWith (layout : Layout) (level : Nat) (isFirst : Bool) :
    List (String × Json) → List Char
  | [] => []
  | (key, value) :: rest =>
    (if isFirst then [] else [',']) ++ (layout.newline level ++ (quoted key ++ (':' ::
      (layout.gap ++ (printWith layout level value ++ printFieldsWith layout level false rest)))))

end

/-- `json.dumps(value, sort_keys=True)` in a layout. -/
def dumpsWith (layout : Layout) (value : Json) : String :=
  String.ofList (printWith layout 0 value.sortKeys)

/-- `json.dumps(value, sort_keys=True, indent=2)`. -/
def dumps (value : Json) : String := dumpsWith .indented value

/-! ### Reading what was printed -/

mutual

/-- The fuel that reading a printed value takes. -/
def fuelFor : Json → Nat
  | .arr items => 1 + fuelForItems items
  | .obj fields => 1 + fuelForFields fields
  | _ => 1

def fuelForItems : List Json → Nat
  | [] => 0
  | item :: rest => 1 + max (fuelFor item) (fuelForItems rest)

def fuelForFields : List (String × Json) → Nat
  | [] => 0
  | (_, value) :: rest => 1 + max (fuelFor value) (fuelForFields rest)

end

theorem skipBlanks_cons {c : Char} (nonBlank : isBlankChar c = false) (rest : List Char) :
    skipBlanks (c :: rest) = c :: rest := by
  unfold skipBlanks
  rw [List.dropWhile_cons_of_neg (by rw [nonBlank]; decide)]

/-- The first character of a number. -/
def StartsNumber (text : List Char) : Prop :=
  ∃ c rest, text = c :: rest ∧ (c.isDigit = true ∨ c = '-')

theorem startsNumber_toDigits (number : Nat) (rest : List Char) :
    StartsNumber (Nat.toDigits 10 number ++ rest) := by
  cases digits : Nat.toDigits 10 number with
  | nil => exact absurd digits Nat.toDigits_ne_nil
  | cons first later =>
    have isDigit : first.isDigit = true := isDigit_toDigits first (digits ▸ List.mem_cons_self)
    exact ⟨first, later ++ rest, rfl, Or.inl isDigit⟩

theorem startsNumber_int (value : Int) (rest : List Char) :
    StartsNumber ((toString value).toList ++ rest) := by
  rw [toList_toString_int, List.append_assoc]
  split_ifs
  · exact ⟨'-', _, rfl, Or.inr rfl⟩
  · exact startsNumber_toDigits _ _

theorem startsNumber_float (lit : FloatLit) (rest : List Char) :
    StartsNumber ((floatText lit).toList ++ rest) := by
  rw [toList_floatText, List.append_assoc, List.append_assoc]
  split_ifs
  · exact ⟨'-', _, rfl, Or.inr rfl⟩
  · exact startsNumber_toDigits _ _

/-- A text that starts as a number is read as a number. -/
theorem parseValue_number {text : List Char} (starts : StartsNumber text) (fuel : Nat) :
    parseValue (fuel + 1) text = parseNumber text := by
  obtain ⟨c, rest, rfl, first⟩ := starts
  have never : ∀ other : Char, other.isDigit = false → other ≠ '-' → c ≠ other := by
    rintro other noDigit noSign rfl
    rcases first with isDigit | sign
    · exact absurd (isDigit.symm.trans noDigit) (by decide)
    · exact noSign sign
  unfold parseValue
  split
  all_goals first
    | rfl
    | (rename_i same; exact absurd (List.cons.inj same).1 (never _ (by decide) (by decide)))

/-- The first character of a printed value. -/
theorem head_print (layout : Layout) (level : Nat) (value : Json) (rest : List Char) :
    ∃ c tail, printWith layout level value ++ rest = c :: tail ∧ isBlankChar c = false ∧ c ≠ ']' := by
  have ofNumber : ∀ {text : List Char}, StartsNumber text →
      ∃ c tail, text = c :: tail ∧ isBlankChar c = false ∧ c ≠ ']' := by
    rintro text ⟨c, tail, rfl, first⟩
    refine ⟨c, tail, rfl, ?_⟩
    rcases first with isDigit | rfl
    · constructor
      · by_contra blank
        simp only [isBlankChar, Bool.not_eq_false, Bool.or_eq_true, beq_iff_eq] at blank
        rcases blank with ((rfl | rfl) | rfl) | rfl <;> exact absurd isDigit (by decide)
      · rintro rfl
        exact absurd isDigit (by decide)
    · decide
  cases value with
  | null => exact ⟨'n', _, rfl, by decide⟩
  | bool value => cases value <;> exact ⟨_, _, rfl, by decide⟩
  | int value =>
    rw [printWith]
    exact ofNumber (startsNumber_int value rest)
  | float lit =>
    rw [printWith]
    exact ofNumber (startsNumber_float lit rest)
  | str value => exact ⟨'"', _, by rw [printWith]; rfl, by decide⟩
  | arr items =>
    rw [printWith]
    split_ifs <;> exact ⟨'[', _, rfl, by decide⟩
  | obj fields =>
    rw [printWith]
    split_ifs <;> exact ⟨'\x7b', _, rfl, by decide⟩

theorem skipBlanks_print (layout : Layout) (level : Nat) (value : Json) (rest : List Char) :
    skipBlanks (printWith layout level value ++ rest) = printWith layout level value ++ rest := by
  obtain ⟨c, tail, same, nonBlank, -⟩ := head_print layout level value rest
  rw [same, skipBlanks_cons nonBlank]

theorem endsNumber_cons {c : Char} (stops : continuesNumber c = false) (rest : List Char) :
    EndsNumber (c :: rest) := by
  rintro other tail same
  rw [← (List.cons.inj same).1]
  exact stops

/-- A value that reads back, whatever follows it. -/
def ReadsBack (layout : Layout) (level : Nat) (value : Json) : Prop :=
  ∀ fuel rest, fuelFor value ≤ fuel → EndsNumber rest →
    parseValue fuel (printWith layout level value ++ rest) = some (value, rest)

/-- **The items of a printed list read back**, given that each of them does. -/
theorem parseItems_print {layout : Layout} {level : Nat} (outer : Nat) (rest : List Char)
    (later : List Json) :
    ∀ (item : Json) (before : List Json) (fuel : Nat),
      (∀ other ∈ item :: later, ReadsBack layout level other) →
      fuelForItems (item :: later) ≤ fuel →
      parseItems fuel before (printWith layout level item ++ (printItemsWith layout level false later ++
        (layout.newline outer ++ ']' :: rest))) = some (.arr (before ++ item :: later), rest) := by
  induction later with
  | nil =>
    intro item before fuel reads enough
    obtain ⟨fuel, rfl⟩ : ∃ less, fuel = less + 1 := ⟨fuel - 1, by rw [fuelForItems] at enough; omega⟩
    have read := reads item List.mem_cons_self fuel (layout.newline outer ++ ']' :: rest)
      (by rw [fuelForItems] at enough; omega) (layout.endsNumber_newline outer rfl _)
    have close : skipBlanks (layout.newline outer ++ ']' :: rest) = ']' :: rest := by
      rw [layout.skipBlanks_newline, skipBlanks_cons rfl]
    show parseItems (fuel + 1) before
      (printWith layout level item ++ (layout.newline outer ++ ']' :: rest)) = _
    unfold parseItems
    simp only [read, Option.bind_eq_bind, Option.bind_some, close]
  | cons next later ih =>
    intro item before fuel reads enough
    have room : fuelForItems (item :: next :: later) =
        1 + max (fuelFor item) (fuelForItems (next :: later)) := by rw [fuelForItems]
    obtain ⟨fuel, rfl⟩ : ∃ less, fuel = less + 1 := ⟨fuel - 1, by omega⟩
    have shape : printItemsWith layout level false (next :: later) ++
          (layout.newline outer ++ ']' :: rest) =
        ',' :: (layout.newline level ++ (printWith layout level next ++
          (printItemsWith layout level false later ++ (layout.newline outer ++ ']' :: rest)))) := by
      rw [printItemsWith]
      simp only [Bool.false_eq_true, if_false, List.append_assoc, List.cons_append, List.nil_append]
    have read := reads item List.mem_cons_self fuel
      (',' :: (layout.newline level ++ (printWith layout level next ++
        (printItemsWith layout level false later ++ (layout.newline outer ++ ']' :: rest)))))
      (by omega) (endsNumber_cons rfl _)
    have others := ih next (before ++ [item]) fuel
      (fun other member => reads other (List.mem_cons_of_mem _ member)) (by omega)
    have next := skipBlanks_print layout level next (printItemsWith layout level false later ++
      (layout.newline outer ++ ']' :: rest))
    rw [shape]
    unfold parseItems
    simp only [read, Option.bind_eq_bind, Option.bind_some, skipBlanks_cons (c := ',') rfl,
      layout.skipBlanks_newline, next, others, List.append_assoc, List.singleton_append]

theorem skipBlanks_quoted (text : String) (rest : List Char) :
    skipBlanks (quoted text ++ rest) = quoted text ++ rest := skipBlanks_cons rfl _

/-- Reading one entry, up to the character after its value. -/
theorem parseFields_entry {layout : Layout} {level : Nat} {field : String × Json}
    (before : List (String × Json)) {fuel : Nat} {after : List Char}
    (reads : ReadsBack layout level field.2) (enough : fuelFor field.2 ≤ fuel)
    (ends : EndsNumber after) :
    parseFields (fuel + 1) before (quoted field.1 ++ (':' :: (layout.gap ++
      (printWith layout level field.2 ++ after)))) = match skipBlanks after with
        | ',' :: rest => parseFields fuel (setItem before field.1 field.2) (skipBlanks rest)
        | '\x7d' :: rest => some (.obj (setItem before field.1 field.2), rest)
        | _ => none := by
  have key := parseString_quoted field.1
    (':' :: (layout.gap ++ (printWith layout level field.2 ++ after)))
  have value := reads fuel after enough ends
  have blank : skipBlanks (layout.gap ++ (printWith layout level field.2 ++ after)) =
      printWith layout level field.2 ++ after := by
    rw [layout.skipBlanks_gap, skipBlanks_print layout level field.2 after]
  have shape : quoted field.1 ++ (':' :: (layout.gap ++ (printWith layout level field.2 ++ after))) =
      '"' :: (field.1.toList.flatMap escapeChar ++
        '"' :: ':' :: (layout.gap ++ (printWith layout level field.2 ++ after))) := by
    simp only [quoted, List.cons_append, List.append_assoc, List.nil_append]
  rw [shape]
  conv_lhs => unfold parseFields
  simp only [key, Option.bind_eq_bind, Option.bind_some, skipBlanks_cons (c := ':') rfl, blank,
    value]

/-- A key that occurs once is not among those before it. -/
theorem key_fresh {before later : List (String × Json)} {field : String × Json}
    (distinct : ((before ++ field :: later).map Prod.fst).Nodup) :
    field.1 ∉ before.map Prod.fst := by
  rw [List.map_append, List.nodup_append] at distinct
  exact fun old => distinct.2.2 _ old _ List.mem_cons_self rfl

/-- **The entries of a printed object read back**, given that each of their values does. -/
theorem parseFields_print {layout : Layout} {level : Nat} (outer : Nat) (rest : List Char)
    (later : List (String × Json)) :
    ∀ (field : String × Json) (before : List (String × Json)) (fuel : Nat),
      (∀ other ∈ field :: later, ReadsBack layout level other.2) →
      ((before ++ field :: later).map Prod.fst).Nodup →
      fuelForFields (field :: later) ≤ fuel →
      parseFields fuel before (quoted field.1 ++ (':' :: (layout.gap ++
        (printWith layout level field.2 ++ (printFieldsWith layout level false later ++
          (layout.newline outer ++ '\x7d' :: rest)))))) =
            some (.obj (before ++ field :: later), rest) := by
  induction later with
  | nil =>
    intro field before fuel reads distinct enough
    have room : fuelForFields [field] = 1 + max (fuelFor field.2) 0 := by
      rw [fuelForFields, fuelForFields]
    obtain ⟨fuel, rfl⟩ : ∃ less, fuel = less + 1 := ⟨fuel - 1, by omega⟩
    have close : skipBlanks (layout.newline outer ++ '\x7d' :: rest) = '\x7d' :: rest := by
      rw [layout.skipBlanks_newline, skipBlanks_cons rfl]
    rw [show printFieldsWith layout level false [] ++ (layout.newline outer ++ '\x7d' :: rest) =
        layout.newline outer ++ '\x7d' :: rest from rfl,
      parseFields_entry before (reads field List.mem_cons_self) (by omega)
        (layout.endsNumber_newline outer rfl _), close, setItem_of_fresh field.2 (key_fresh distinct)]
    rfl
  | cons next later ih =>
    intro field before fuel reads distinct enough
    have room : fuelForFields (field :: next :: later) =
        1 + max (fuelFor field.2) (fuelForFields (next :: later)) := by rw [fuelForFields]
    obtain ⟨fuel, rfl⟩ : ∃ less, fuel = less + 1 := ⟨fuel - 1, by omega⟩
    have distinctLater : ((before ++ [field] ++ next :: later).map Prod.fst).Nodup := by
      rw [List.append_assoc]
      exact distinct
    have shape : printFieldsWith layout level false (next :: later) ++
          (layout.newline outer ++ '\x7d' :: rest) =
        ',' :: (layout.newline level ++ (quoted next.1 ++ (':' :: (layout.gap ++
          (printWith layout level next.2 ++ (printFieldsWith layout level false later ++
            (layout.newline outer ++ '\x7d' :: rest))))))) := by
      rw [printFieldsWith]
      simp only [Bool.false_eq_true, if_false, List.append_assoc, List.cons_append, List.nil_append]
    have others := ih next (before ++ [field]) fuel
      (fun other member => reads other (List.mem_cons_of_mem _ member)) distinctLater (by omega)
    rw [shape, parseFields_entry before (reads field List.mem_cons_self) (by omega)
      (endsNumber_cons rfl _), skipBlanks_cons rfl, setItem_of_fresh field.2 (key_fresh distinct)]
    simp only [layout.skipBlanks_newline]
    rw [skipBlanks_quoted, others, List.append_assoc]
    rfl

theorem fuelFor_pos (value : Json) : 0 < fuelFor value := by
  cases value <;> rw [fuelFor] <;> first | omega | simp

theorem readsBack_of_succ {layout : Layout} {level : Nat} {value : Json}
    (reads : ∀ fuel rest, fuelFor value ≤ fuel + 1 → EndsNumber rest →
      parseValue (fuel + 1) (printWith layout level value ++ rest) = some (value, rest)) :
    ReadsBack layout level value := by
  intro fuel rest enough ends
  have positive := fuelFor_pos value
  obtain ⟨fuel, rfl⟩ : ∃ less, fuel = less + 1 := ⟨fuel - 1, by omega⟩
  exact reads fuel rest enough ends

theorem readsBack_arr {layout : Layout} {level : Nat} {items : List Json}
    (reads : ∀ item ∈ items, ReadsBack layout (level + 1) item) :
    ReadsBack layout level (.arr items) := by
  refine readsBack_of_succ fun fuel rest enough ends => ?_
  cases items with
  | nil => rfl
  | cons item later =>
    have read := parseItems_print level rest later item [] fuel reads
      (by rw [fuelFor] at enough; omega)
    obtain ⟨c, tail, same, nonBlank, noClose⟩ := head_print layout (level + 1) item
      (printItemsWith layout (level + 1) false later ++ (layout.newline level ++ ']' :: rest))
    have shape : printWith layout level (.arr (item :: later)) ++ rest =
        '[' :: (layout.newline (level + 1) ++ (c :: tail)) := by
      rw [← same, printWith, printItemsWith]
      simp only [List.isEmpty_cons, Bool.false_eq_true, if_false, if_true, List.nil_append,
        List.cons_append, List.append_assoc]
    rw [same] at read
    rw [shape]
    unfold parseValue
    simp only [layout.skipBlanks_newline, skipBlanks_cons nonBlank]
    split
    · rename_i closing
      exact absurd (List.cons.inj closing).1 noClose
    · exact read

theorem readsBack_obj {layout : Layout} {level : Nat} {fields : List (String × Json)}
    (distinct : (fields.map Prod.fst).Nodup)
    (reads : ∀ field ∈ fields, ReadsBack layout (level + 1) field.2) :
    ReadsBack layout level (.obj fields) := by
  refine readsBack_of_succ fun fuel rest enough ends => ?_
  cases fields with
  | nil => rfl
  | cons field later =>
    have read := parseFields_print level rest later field [] fuel reads distinct
      (by rw [fuelFor] at enough; omega)
    have shape : printWith layout level (.obj (field :: later)) ++ rest =
        '\x7b' :: (layout.newline (level + 1) ++ (quoted field.1 ++ (':' :: (layout.gap ++
          (printWith layout (level + 1) field.2 ++ (printFieldsWith layout (level + 1) false later ++
            (layout.newline level ++ '\x7d' :: rest))))))) := by
      rw [printWith, printFieldsWith]
      simp only [List.isEmpty_cons, Bool.false_eq_true, if_false, if_true, List.nil_append,
        List.cons_append, List.append_assoc]
    rw [shape]
    unfold parseValue
    simp only [layout.skipBlanks_newline, skipBlanks_quoted]
    split
    · rename_i closing
      exact absurd (List.cons.inj closing).1 (by decide)
    · exact read

/-- **A printed value reads back**, whatever level it is printed at and whatever follows. -/
theorem parseValue_print (layout : Layout) (value : Json) (wellFormed : value.wellFormed = true)
    (level : Nat) :
    ReadsBack layout level value := by
  induction value using induct generalizing level with
  | null => exact readsBack_of_succ fun fuel rest enough ends => rfl
  | bool value =>
    refine readsBack_of_succ fun fuel rest enough ends => ?_
    cases value <;> rfl
  | int value =>
    refine readsBack_of_succ fun fuel rest enough ends => ?_
    rw [printWith, parseValue_number (startsNumber_int value rest)]
    exact parseNumber_int value ends
  | float lit =>
    refine readsBack_of_succ fun fuel rest enough ends => ?_
    rw [printWith, parseValue_number (startsNumber_float lit rest)]
    exact parseNumber_float lit ends
  | str text =>
    refine readsBack_of_succ fun fuel rest enough ends => ?_
    have read := parseString_quoted text rest
    have shape : printWith layout level (.str text) ++ rest =
        '"' :: (text.toList.flatMap escapeChar ++ '"' :: rest) := by
      simp only [printWith, quoted, List.cons_append, List.append_assoc, List.nil_append]
    rw [shape]
    simp only [parseValue, read, Option.map_some]
  | arr items ih =>
    rw [wellFormed_arr] at wellFormed
    exact readsBack_arr fun item member => ih item member (wellFormed item member) (level + 1)
  | obj fields ih =>
    rw [wellFormed_obj] at wellFormed
    exact readsBack_obj wellFormed.1 fun field member =>
      ih field member (wellFormed.2 field member) (level + 1)

/-! ### Enough fuel -/

theorem print_length_pos (layout : Layout) (level : Nat) (value : Json) :
    0 < (printWith layout level value).length := by
  obtain ⟨c, tail, same, -⟩ := head_print layout level value []
  rw [List.append_nil] at same
  rw [same]
  exact Nat.succ_pos _

theorem fuelForItems_le {layout : Layout} {items : List Json} {level : Nat} (isFirst : Bool)
    (ih : ∀ item ∈ items, fuelFor item + 1 ≤ 2 * (printWith layout level item).length) :
    fuelForItems items ≤ 2 * (printItemsWith layout level isFirst items).length := by
  induction items generalizing isFirst with
  | nil => exact Nat.zero_le _
  | cons item rest restIh =>
    have here := ih item List.mem_cons_self
    have later := restIh false fun other member => ih other (List.mem_cons_of_mem _ member)
    have positive := print_length_pos layout level item
    rw [fuelForItems, printItemsWith]
    simp only [List.length_append]
    omega

theorem fuelForFields_le {layout : Layout} {fields : List (String × Json)} {level : Nat}
    (isFirst : Bool)
    (ih : ∀ field ∈ fields, fuelFor field.2 + 1 ≤ 2 * (printWith layout level field.2).length) :
    fuelForFields fields ≤ 2 * (printFieldsWith layout level isFirst fields).length := by
  induction fields generalizing isFirst with
  | nil => exact Nat.zero_le _
  | cons field rest restIh =>
    have here := ih field List.mem_cons_self
    have later := restIh false fun other member => ih other (List.mem_cons_of_mem _ member)
    have positive := print_length_pos layout level field.2
    rw [fuelForFields, printFieldsWith]
    simp only [List.length_append, List.length_cons]
    omega

/-- The fuel a printed value takes is bounded by its length. -/
theorem fuelFor_le (layout : Layout) (value : Json) (level : Nat) :
    fuelFor value + 1 ≤ 2 * (printWith layout level value).length := by
  induction value using induct generalizing level with
  | arr items ih =>
    rw [fuelFor, printWith]
    cases items with
    | nil => exact (show 2 ≤ 4 by decide)
    | cons item rest =>
      have below := fuelForItems_le true fun other member => ih other member (level + 1)
      simp only [List.isEmpty_cons, Bool.false_eq_true, if_false, List.length_cons,
        List.length_append]
      omega
  | obj fields ih =>
    rw [fuelFor, printWith]
    cases fields with
    | nil => exact (show 2 ≤ 4 by decide)
    | cons field rest =>
      have below := fuelForFields_le true fun other member => ih other member (level + 1)
      simp only [List.isEmpty_cons, Bool.false_eq_true, if_false, List.length_cons,
        List.length_append]
      omega
  | null => exact Nat.le_of_ble_eq_true rfl
  | bool value =>
    have positive := print_length_pos layout level (.bool value)
    rw [fuelFor] <;> first | omega | simp
  | int value =>
    have positive := print_length_pos layout level (.int value)
    rw [fuelFor] <;> first | omega | simp
  | float lit =>
    have positive := print_length_pos layout level (.float lit)
    rw [fuelFor] <;> first | omega | simp
  | str text =>
    have positive := print_length_pos layout level (.str text)
    rw [fuelFor] <;> first | omega | simp

/-- **Reading a printed value gives it back in key order**, in every layout. -/
theorem loads_dumpsWith (layout : Layout) (value : Json) (wellFormed : value.wellFormed = true) :
    loads (dumpsWith layout value) = some value.sortKeys := by
  have sorted := wellFormed_sortKeys wellFormed
  have length : (dumpsWith layout value).length = (printWith layout 0 value.sortKeys).length := by
    rw [dumpsWith, ← String.length_toList, String.toList_ofList]
  have enough : fuelFor value.sortKeys ≤ 2 * (dumpsWith layout value).length + 1 := by
    have bound := fuelFor_le layout value.sortKeys 0
    omega
  have read := parseValue_print layout value.sortKeys sorted 0
    (2 * (dumpsWith layout value).length + 1) [] enough fun c rest same => by cases same
  rw [List.append_nil] at read
  have blank := skipBlanks_print layout 0 value.sortKeys []
  rw [List.append_nil] at blank
  have text : skipBlanks (dumpsWith layout value).toList = printWith layout 0 value.sortKeys := by
    rw [dumpsWith, String.toList_ofList, blank]
  unfold loads
  rw [text, read]
  rfl

theorem loads_dumps (value : Json) (wellFormed : value.wellFormed = true) :
    loads (dumps value) = some value.sortKeys :=
  loads_dumpsWith .indented value wellFormed

end Json

end PyLib
