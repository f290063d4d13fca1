/-
**Regular expressions.**

The patterns of Python's `re` that read one character after the other: classes of characters,
sequences, alternatives, repetitions of a class, and word boundaries. `places` are the places that a
match from a given place can end at, `search` is `re.search(pattern, text) is not None`, and
`searchEnd` the same with the pattern anchored at the end of the text.

A place knows whether the character before it belongs to a word, so that a boundary can be decided
there. What a character is that belongs to a word is left open (`WordChars`), beyond ASCII.

* `places_append`: a pattern that cannot read a separator stays before it.
* `search_append`: a text is searched before and after a separator.
-/

import Dnc.PyLib.Text

namespace PyLib

/-- The characters that `\w` matches. -/
structure WordChars where
  isWord : Char → Bool
  ascii : ∀ c : Char, c.toNat < 128 → isWord c = (c.isAlphanum || c == '_')

/-- A regular expression. -/
inductive Regex where
  | empty
  | boundary
  | one (test : Char → Bool)
  | many (test : Char → Bool)
  | seq (first second : Regex)
  | alt (first second : Regex)

/-- A place in a text: whether a character of a word comes before it, and what comes after it. -/
structure Place where
  inWord : Bool
  rest : List Char
deriving DecidableEq

/-- The place, with a separator and more text after the text. -/
def Place.before (separator : Char) (more : List Char) (place : Place) : Place :=
  ⟨place.inWord, place.rest ++ separator :: more⟩

namespace Regex

/-- Whether a letter of a pattern matches a character, under `re.IGNORECASE`. -/
def sameLetter (letter c : Char) : Bool :=
  c == letter || c == letter.toUpper || (letter == 'i' && (c == '\u0130' || c == '\u0131')) ||
    (letter == 'k' && c == '\u212a') || (letter == 's' && c == '\u017f')

/-- A word, under `re.IGNORECASE`. -/
def word (text : String) : Regex :=
  text.toList.foldr (fun letter rest => .seq (.one (sameLetter letter)) rest) .empty

/-- `[…]`. -/
def oneOf (chars : List Char) : Regex := .one fun c => c ∈ chars

/-- `\s`. -/
def space : Regex := .one isSpace

/-- `\s*`. -/
def spaces : Regex := .many isSpace

/-- `\S+`. -/
def visible : Regex := .seq (.one fun c => !isSpace c) (.many fun c => !isSpace c)

section Matching

variable (chars : WordChars)

/-- The places that a repetition can end at. -/
def manyPlaces (test : Char → Bool) : Bool → List Char → List Place
  | inWord, [] => [⟨inWord, []⟩]
  | inWord, c :: rest =>
    ⟨inWord, c :: rest⟩ :: if test c then manyPlaces test (chars.isWord c) rest else []

/-- The places that a match from a place can end at. -/
def places : Regex → Place → List Place
  | .empty, place => [place]
  | .boundary, place =>
    if place.inWord ≠ place.rest.head?.any chars.isWord then [place] else []
  | .one test, place =>
    match place.rest with
    | [] => []
    | c :: rest => if test c then [⟨chars.isWord c, rest⟩] else []
  | .many test, place => manyPlaces chars test place.inWord place.rest
  | .seq first second, place => (places first place).flatMap (places second)
  | .alt first second, place => places first place ++ places second place

/-- The places of a text. -/
def starts : Bool → List Char → List Place
  | inWord, [] => [⟨inWord, []⟩]
  | inWord, c :: rest => ⟨inWord, c :: rest⟩ :: starts (chars.isWord c) rest

/-- `re.search(pattern, text) is not None`. -/
def search (pattern : Regex) (text : String) : Bool :=
  (starts chars false text.toList).any fun place => !(pattern.places chars place).isEmpty

/-- `re.search(pattern + r"\Z", text) is not None`. -/
def searchEnd (pattern : Regex) (text : String) : Bool :=
  (starts chars false text.toList).any fun place =>
    (pattern.places chars place).any fun last => last.rest.isEmpty

variable {chars}

theorem places_boundary (place : Place) :
    boundary.places chars place =
      if place.inWord ≠ place.rest.head?.any chars.isWord then [place] else [] := rfl

@[simp] theorem places_one_nil (test : Char → Bool) (inWord : Bool) :
    (one test).places chars ⟨inWord, []⟩ = [] := rfl

@[simp] theorem places_one_cons (test : Char → Bool) (inWord : Bool) (c : Char)
    (rest : List Char) :
    (one test).places chars ⟨inWord, c :: rest⟩ =
      if test c then [⟨chars.isWord c, rest⟩] else [] := rfl

@[simp] theorem places_many (test : Char → Bool) (place : Place) :
    (many test).places chars place = manyPlaces chars test place.inWord place.rest := rfl

theorem places_seq (first second : Regex) (place : Place) :
    (seq first second).places chars place =
      (first.places chars place).flatMap (second.places chars) := rfl

theorem places_alt (first second : Regex) (place : Place) :
    (alt first second).places chars place =
      first.places chars place ++ second.places chars place := rfl

theorem search_iff {pattern : Regex} {text : String} :
    pattern.search chars text = true ↔
      ∃ place ∈ starts chars false text.toList, ∃ last, last ∈ pattern.places chars place := by
  rw [search, List.any_eq_true]
  refine exists_congr fun place => and_congr_right fun _ => ?_
  rw [Bool.not_eq_true', List.isEmpty_eq_false_iff]
  exact ⟨List.exists_mem_of_ne_nil _, fun ⟨_, member⟩ => List.ne_nil_of_mem member⟩

theorem searchEnd_iff {pattern : Regex} {text : String} :
    pattern.searchEnd chars text = true ↔
      ∃ place ∈ starts chars false text.toList,
        ∃ last ∈ pattern.places chars place, last.rest = [] := by
  simp only [searchEnd, List.any_eq_true, List.isEmpty_iff]

@[simp] theorem mem_places_seq {first second : Regex} {place last : Place} :
    last ∈ (seq first second).places chars place ↔
      ∃ middle ∈ first.places chars place, last ∈ second.places chars middle := by
  rw [places_seq, List.mem_flatMap]

@[simp] theorem mem_places_alt {first second : Regex} {place last : Place} :
    last ∈ (alt first second).places chars place ↔
      last ∈ first.places chars place ∨ last ∈ second.places chars place := by
  rw [places_alt, List.mem_append]

theorem mem_places_boundary {place last : Place} (member : last ∈ boundary.places chars place) :
    last = place := by
  rw [places_boundary] at member
  split_ifs at member
  · exact List.mem_singleton.mp member
  · cases member

theorem mem_places_many (test : Char → Bool) (place : Place) :
    place ∈ (many test).places chars place := by
  obtain ⟨inWord, text⟩ := place
  cases text with
  | nil => exact List.mem_singleton_self _
  | cons c rest => exact List.mem_cons_self

theorem exists_places_one {test : Char → Bool} {inWord : Bool} {c : Char} {rest : List Char} :
    (∃ last, last ∈ (one test).places chars ⟨inWord, c :: rest⟩) ↔ test c = true := by
  by_cases reads : test c = true <;> simp [reads]

theorem exists_seq {first second : Regex} {place : Place} :
    (∃ last, last ∈ (seq first second).places chars place) ↔
      ∃ middle ∈ first.places chars place, ∃ last, last ∈ second.places chars middle := by
  simp only [mem_places_seq]
  exact ⟨fun ⟨last, middle, before, after⟩ => ⟨middle, before, last, after⟩,
    fun ⟨middle, before, last, after⟩ => ⟨last, middle, before, after⟩⟩

theorem exists_seq_one {test : Char → Bool} {second : Regex} {inWord : Bool} {c : Char}
    {rest : List Char} :
    (∃ last, last ∈ (seq (one test) second).places chars ⟨inWord, c :: rest⟩) ↔
      test c = true ∧ ∃ last, last ∈ second.places chars ⟨chars.isWord c, rest⟩ := by
  rw [exists_seq]
  by_cases reads : test c = true <;> simp [reads]

theorem exists_visible {inWord : Bool} {c : Char} {rest : List Char} :
    (∃ last, last ∈ visible.places chars ⟨inWord, c :: rest⟩) ↔ isSpace c = false := by
  rw [visible, exists_seq_one, Bool.not_eq_true']
  exact and_iff_left ⟨_, mem_places_many _ _⟩

theorem mem_spaces_cons {inWord : Bool} {c : Char} {rest : List Char} {last : Place} :
    last ∈ spaces.places chars ⟨inWord, c :: rest⟩ ↔
      last = ⟨inWord, c :: rest⟩ ∨
        isSpace c = true ∧ last ∈ spaces.places chars ⟨chars.isWord c, rest⟩ := by
  rw [spaces, places_many, places_many, manyPlaces, List.mem_cons]
  split_ifs with reads <;> simp [reads]

/-- **After spaces, something visible follows** where anything visible does. -/
theorem exists_spaces_visible {place : Place} :
    (∃ last, last ∈ (seq spaces visible).places chars place) ↔
      ∃ c ∈ place.rest, isSpace c = false := by
  obtain ⟨inWord, text⟩ := place
  induction text generalizing inWord with
  | nil => simp [spaces, visible, manyPlaces]
  | cons c rest ih =>
    have split : (∃ last, last ∈ (seq spaces visible).places chars ⟨inWord, c :: rest⟩) ↔
        (∃ last, last ∈ visible.places chars ⟨inWord, c :: rest⟩) ∨ isSpace c = true ∧
          ∃ last, last ∈ (seq spaces visible).places chars ⟨chars.isWord c, rest⟩ := by
      simp only [mem_places_seq, mem_spaces_cons, or_and_right, exists_or, exists_eq_left,
        and_assoc, exists_and_left]
    rw [split, exists_visible, ih, List.exists_mem_cons_iff]
    cases isSpace c <;> simp

/-! ### Separators -/

/-- No class of the pattern reads the character. -/
def Rejects (separator : Char) : Regex → Prop
  | .empty | .boundary => True
  | .one test | .many test => test separator = false
  | .seq first second | .alt first second => Rejects separator first ∧ Rejects separator second

variable {separator : Char} {more : List Char}

theorem rejects_word {text : String}
    (differ : (text.toList.all fun letter => !sameLetter letter separator) = true) :
    (word text).Rejects separator := by
  unfold word
  revert differ
  induction text.toList with
  | nil => exact fun _ => trivial
  | cons letter rest ih =>
    intro differ
    rw [List.all_cons, Bool.and_eq_true, Bool.not_eq_true'] at differ
    exact ⟨differ.1, ih differ.2⟩

theorem manyPlaces_append {test : Char → Bool} (rejects : test separator = false) (inWord : Bool)
    (text : List Char) :
    manyPlaces chars test inWord (text ++ separator :: more) =
      (manyPlaces chars test inWord text).map (Place.before separator more) := by
  induction text generalizing inWord with
  | nil => simp [manyPlaces, rejects, Place.before]
  | cons c rest ih =>
    rw [List.cons_append, manyPlaces, manyPlaces, List.map_cons]
    by_cases reads : test c = true
    · rw [if_pos reads, if_pos reads, ih]
      rfl
    · rw [if_neg reads, if_neg reads]
      rfl

/-- **A pattern that cannot read a separator stays before it.** -/
theorem places_append (apart : chars.isWord separator = false) {pattern : Regex}
    (rejects : pattern.Rejects separator) (place : Place) :
    pattern.places chars (place.before separator more) =
      (pattern.places chars place).map (Place.before separator more) := by
  induction pattern generalizing place with
  | empty => rfl
  | boundary =>
    have same : (place.rest ++ separator :: more).head?.any chars.isWord =
        place.rest.head?.any chars.isWord := by
      cases place.rest with
      | nil => exact apart
      | cons c rest => rfl
    rw [places_boundary, places_boundary, Place.before, same]
    split_ifs <;> rfl
  | one test =>
    obtain ⟨inWord, text⟩ := place
    cases text with
    | nil => simp [Place.before, show test separator = false from rejects]
    | cons c rest =>
      simp only [places_one_cons, Place.before, List.cons_append]
      split_ifs <;> rfl
  | many test => exact manyPlaces_append rejects place.inWord place.rest
  | seq first second ihFirst ihSecond =>
    rw [places_seq, places_seq, ihFirst rejects.1, List.flatMap_map, List.map_flatMap]
    exact congrArg (List.flatMap · _) (funext fun middle => ihSecond rejects.2 middle)
  | alt first second ihFirst ihSecond =>
    rw [places_alt, places_alt, ihFirst rejects.1, ihSecond rejects.2, List.map_append]

theorem exists_seq_append (apart : chars.isWord separator = false) {first second : Regex}
    (rejects : first.Rejects separator) {place : Place} :
    (∃ last, last ∈ (seq first second).places chars (place.before separator more)) ↔
      ∃ middle ∈ first.places chars place,
        ∃ last, last ∈ second.places chars (middle.before separator more) := by
  rw [exists_seq, places_append apart rejects]
  simp only [List.mem_map, exists_exists_and_eq_and]

theorem starts_append (inWord : Bool) (text : List Char) :
    starts chars inWord (text ++ separator :: more) =
      (starts chars inWord text).map (Place.before separator more) ++
        starts chars (chars.isWord separator) more := by
  induction text generalizing inWord with
  | nil => rfl
  | cons c rest ih =>
    rw [List.cons_append, starts, starts, ih]
    rfl

/-- **A text is searched before and after a separator.** -/
theorem search_append (apart : chars.isWord separator = false) {pattern : Regex}
    {first second : String} :
    pattern.search chars (first ++ String.ofList [separator] ++ second) = true ↔
      (∃ place ∈ starts chars false first.toList, ∃ last,
        last ∈ pattern.places chars (place.before separator second.toList)) ∨
      pattern.search chars second = true := by
  have chars' : (first ++ String.ofList [separator] ++ second).toList =
      first.toList ++ separator :: second.toList := by
    simp [String.toList_append]
  rw [search_iff, search_iff, chars', starts_append, apart]
  simp only [List.mem_append, List.mem_map, or_and_right, exists_or, exists_exists_and_eq_and]

end Matching

end Regex

end PyLib
