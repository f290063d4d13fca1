/-
**The redaction of telemetry.**

`redact_telemetry` replaces the value of every entry whose key matches `_SECRET_KEYS`, and every
string that matches `_SECRET_VALUE`. The two patterns do not list the same words: an API key is
recognised in text only.

* `redactTelemetry_idem`, `sameShape_redactTelemetry`, `clean_redactTelemetry`: what holds of every
  value.
* `search_rendering`: an entry written as `key=value` matches `_SECRET_VALUE` where the text of the
  value does, or where its key is one of two kinds.
* `telemetryLaw_iff`: every entry whose rendering matches is replaced, exactly where no entry has
  such a key, or a text that only matches as a whole.
-/

import Dnc.Enterprise.Operations
import Dnc.PyLib.Regex

namespace Dnc.Enterprise

open PyLib Regex

/-! ### The patterns -/

/-- `api[_-]?key`. -/
def apiKey : Regex := .seq (word "api") (.seq (.alt (oneOf ['_', '-']) .empty) (word "key"))

/-- `_SECRET_KEYS`. -/
def secretKeys : Regex :=
  .alt (word "secret") (.alt (word "token") (.alt (word "password")
    (.alt (word "credential") (word "authorization"))))

/-- `\bbearer`. -/
def bearer : Regex := .seq .boundary (word "bearer")

/-- `\b(?:api[_-]?key|token|password|secret)\s*`. -/
def named : Regex :=
  .seq .boundary (.seq (.alt apiKey (.alt (word "token") (.alt (word "password") (word "secret"))))
    spaces)

/-- `[:=]`. -/
def assigns : Regex := oneOf [':', '=']

/-- `_SECRET_VALUE`. -/
def secretValue : Regex :=
  .alt (.seq bearer (.seq space (.seq spaces visible)))
    (.seq named (.seq assigns (.seq spaces visible)))

/-- `"[REDACTED]"`. -/
def redacted : PyData := .str "[REDACTED]"

section Redaction

variable (chars : WordChars)

mutual

/-- `redact_telemetry`. -/
def redactTelemetry : PyData → PyData
  | .dict fields => .dict (redactFields fields)
  | .list items => .list (redactItems items)
  | .tuple items => .list (redactItems items)
  | .str text => if secretValue.search chars text then redacted else .str text
  | value => value

def redactItems : List PyData → List PyData
  | [] => []
  | item :: rest => redactTelemetry item :: redactItems rest

def redactFields : List (String × PyData) → List (String × PyData)
  | [] => []
  | (key, value) :: rest =>
    (key, if secretKeys.search chars key then redacted else redactTelemetry value) ::
      redactFields rest

end

/-- What becomes of the value of an entry. -/
def redactEntry (field : String × PyData) : PyData :=
  if secretKeys.search chars field.1 then redacted else redactTelemetry chars field.2

theorem redactItems_eq (items : List PyData) :
    redactItems chars items = items.map (redactTelemetry chars) :=
  eq_map rfl (fun _ _ => rfl) items

theorem redactFields_eq (fields : List (String × PyData)) :
    redactFields chars fields = fields.map fun field => (field.1, redactEntry chars field) := by
  induction fields with
  | nil => rfl
  | cons field rest ih =>
    obtain ⟨key, value⟩ := field
    rw [redactFields, ih, List.map_cons, redactEntry]

@[simp] theorem redactTelemetry_list (items : List PyData) :
    redactTelemetry chars (.list items) = .list (items.map (redactTelemetry chars)) := by
  rw [redactTelemetry, redactItems_eq]

@[simp] theorem redactTelemetry_tuple (items : List PyData) :
    redactTelemetry chars (.tuple items) = .list (items.map (redactTelemetry chars)) := by
  rw [redactTelemetry, redactItems_eq]

@[simp] theorem redactTelemetry_dict (fields : List (String × PyData)) :
    redactTelemetry chars (.dict fields) =
      .dict (fields.map fun field => (field.1, redactEntry chars field)) := by
  rw [redactTelemetry, redactFields_eq]

end Redaction

/-! ### An entry as text -/

section Rendering

variable {chars : WordChars}

/-- `\b(?:bearer\s|(?:api[_-]?key|token|password|secret)\s*[:=])`. -/
def opener : Regex := .alt (.seq bearer space) (.seq named assigns)

theorem bearer_rejects : bearer.Rejects '=' := ⟨trivial, rejects_word (by decide)⟩

theorem apiKey_rejects : apiKey.Rejects '=' :=
  ⟨rejects_word (by decide), ⟨show _ = false by decide, trivial⟩, rejects_word (by decide)⟩

theorem named_rejects : named.Rejects '=' :=
  ⟨trivial, ⟨apiKey_rejects, rejects_word (by decide), rejects_word (by decide),
    rejects_word (by decide)⟩, show _ = false by decide⟩

theorem isWord_equals (chars : WordChars) : chars.isWord '=' = false := by
  rw [chars.ascii '=' (by decide)]
  decide

/-- After `=`, what begins in the key of an entry ends in it, but for what its value shows. -/
theorem places_rendering (text : List Char) (place : Place) :
    (∃ last, last ∈ secretValue.places chars (place.before '=' text)) ↔
      (∃ last, last ∈ opener.places chars place) ∨
        (∃ last ∈ named.places chars place, last.rest = []) ∧ ∃ c ∈ text, isSpace c = false := by
  have seen (rest : List Char) (inWord : Bool) :
      ∃ last, last ∈ (seq spaces visible).places chars ⟨inWord, rest ++ '=' :: text⟩ :=
    exists_spaces_visible.mpr ⟨'=', by simp, by decide⟩
  have bearers : (∃ last, last ∈ (seq bearer (seq space (seq spaces visible))).places chars
        (place.before '=' text)) ↔ ∃ last, last ∈ (seq bearer space).places chars place := by
    rw [exists_seq_append (isWord_equals chars) bearer_rejects, exists_seq]
    refine exists_congr fun middle => and_congr_right fun _ => ?_
    obtain ⟨inWord, rest⟩ := middle
    cases rest with
    | nil =>
      refine iff_of_false (fun found => ?_) fun ⟨_, nothing⟩ => nomatch nothing
      exact absurd (exists_seq_one.mp found).1 (by decide)
    | cons c rest =>
      exact (exists_seq_one.trans (and_iff_left (seen rest _))).trans exists_places_one.symm
  have names : (∃ last, last ∈ (seq named (seq assigns (seq spaces visible))).places chars
        (place.before '=' text)) ↔ (∃ last, last ∈ (seq named assigns).places chars place) ∨
          (∃ last ∈ named.places chars place, last.rest = []) ∧ ∃ c ∈ text, isSpace c = false := by
    rw [exists_seq_append (isWord_equals chars) named_rejects, exists_seq, ← exists_and_right,
      ← exists_or]
    refine exists_congr fun middle => ?_
    rw [and_assoc, ← and_or_left]
    refine and_congr_right fun _ => ?_
    obtain ⟨inWord, rest⟩ := middle
    cases rest with
    | nil =>
      have ends : ¬ ∃ last, last ∈ assigns.places chars ⟨inWord, []⟩ :=
        fun ⟨_, nothing⟩ => nomatch nothing
      rw [or_iff_right ends]
      exact exists_seq_one.trans (and_congr (iff_of_true (by decide) rfl) exists_spaces_visible)
    | cons c rest =>
      have reads : (∃ last, last ∈ assigns.places chars ⟨inWord, c :: rest⟩) ↔ _ :=
        exists_places_one
      rw [or_iff_left (fun both => nomatch both.1), reads]
      exact exists_seq_one.trans (and_iff_left (seen rest _))
  simp only [secretValue, opener, mem_places_alt, exists_or]
  rw [bearers, names, or_assoc]

/-- **An entry as text matches** where its value does, where its key opens a secret, or where its
key names one that its value shows. -/
theorem search_rendering (key text : String) :
    secretValue.search chars (key ++ "=" ++ text) = true ↔
      secretValue.search chars text = true ∨ opener.search chars key = true ∨
        named.searchEnd chars key = true ∧ ∃ c ∈ text.toList, isSpace c = false := by
  have equals : "=" = String.ofList ['='] := rfl
  rw [equals, search_append (isWord_equals chars), or_comm]
  refine or_congr_right ?_
  rw [search_iff, searchEnd_iff]
  simp only [places_rendering, and_or_left, exists_or, ← and_assoc, exists_and_right]

/-- `\bapi[_-]?key\s*`. -/
def apiNamed : Regex := .seq .boundary (.seq apiKey spaces)

/-- `\b(?:bearer\s|api[_-]?key\s*[:=])`. -/
def leakyKey : Regex := .alt (.seq bearer space) (.seq apiNamed assigns)

/-- The name that a key without a secret word can end in is that of an API key. -/
theorem mem_named {key : String} (hidden : secretKeys.search chars key = false) {place last : Place}
    (start : place ∈ starts chars false key.toList) :
    last ∈ named.places chars place ↔ last ∈ apiNamed.places chars place := by
  have absent (last : Place) : last ∉ secretKeys.places chars place := fun member =>
    Bool.eq_false_iff.mp hidden (search_iff.mpr ⟨place, start, last, member⟩)
  simp only [secretKeys, mem_places_alt, not_or] at absent
  simp only [named, apiNamed, mem_places_seq, mem_places_alt]
  refine exists_congr fun first => and_congr_right fun bounded => ?_
  obtain rfl := mem_places_boundary bounded
  refine exists_congr fun second => and_congr_left fun _ => ?_
  obtain ⟨secret, token, password, -, -⟩ := absent second
  exact or_iff_left (not_or.mpr ⟨token, not_or.mpr ⟨password, secret⟩⟩)

/-- **A key exposes what its value shows**: it has `bearer` before a space, or an API key before a
colon or an equals sign, or it ends in an API key and the value is not blank. -/
def Exposes (chars : WordChars) (key text : String) : Prop :=
  leakyKey.search chars key = true ∨
    apiNamed.searchEnd chars key = true ∧ ∃ c ∈ text.toList, isSpace c = false

instance (key text : String) : Decidable (Exposes chars key text) :=
  inferInstanceAs (Decidable (_ ∨ _ ∧ ∃ c ∈ text.toList, isSpace c = false))

theorem search_rendering_of_hidden {key : String} (hidden : secretKeys.search chars key = false)
    (text : String) :
    secretValue.search chars (key ++ "=" ++ text) = true ↔
      secretValue.search chars text = true ∨ Exposes chars key text := by
  have opens : opener.search chars key = true ↔ leakyKey.search chars key = true := by
    rw [search_iff, search_iff]
    refine exists_congr fun place => and_congr_right fun start => exists_congr fun last => ?_
    simp only [opener, leakyKey, mem_places_alt, mem_places_seq, mem_named hidden start]
  have ends : named.searchEnd chars key = true ↔ apiNamed.searchEnd chars key = true := by
    rw [searchEnd_iff, searchEnd_iff]
    refine exists_congr fun place => and_congr_right fun start => exists_congr fun last => ?_
    rw [mem_named hidden start]
  rw [search_rendering, opens, ends, Exposes]

end Rendering

/-! ### What holds of every value -/

section Laws

variable {chars : WordChars}

/-- `[REDACTED]` is no secret. -/
theorem redacted_plain : secretValue.search chars "[REDACTED]" = false := by
  have plain : (alt (word "bearer") (alt apiKey (alt (word "token") (alt (word "password")
      (word "secret"))))).search chars "[REDACTED]" = false := rfl
  rw [Bool.eq_false_iff, Ne, search_iff] at plain ⊢
  rintro ⟨place, start, last, found⟩
  refine plain ⟨place, start, ?_⟩
  simp only [secretValue, bearer, named, mem_places_alt, mem_places_seq] at found
  rcases found with ⟨middle, ⟨first, bounded, read⟩, -⟩ | ⟨middle, ⟨first, bounded, read⟩, -⟩
  · obtain rfl := mem_places_boundary bounded
    exact ⟨middle, mem_places_alt.mpr (Or.inl read)⟩
  · obtain rfl := mem_places_boundary bounded
    obtain ⟨second, named, -⟩ := read
    refine ⟨second, mem_places_alt.mpr (Or.inr ?_)⟩
    simpa only [mem_places_alt] using named

theorem redactTelemetry_str (text : String) :
    redactTelemetry chars (.str text) =
      if secretValue.search chars text then redacted else .str text := by
  rw [redactTelemetry]

@[simp] theorem redactTelemetry_redacted : redactTelemetry chars redacted = redacted := by
  rw [redacted, redactTelemetry_str, redacted_plain]
  rfl

@[simp] theorem redactEntry_idem (field : String × PyData)
    (idem : redactTelemetry chars (redactTelemetry chars field.2) = redactTelemetry chars field.2) :
    redactEntry chars (field.1, redactEntry chars field) = redactEntry chars field := by
  unfold redactEntry
  by_cases hidden : secretKeys.search chars field.1 = true
  · rw [if_pos hidden, if_pos hidden]
  · rw [if_neg hidden, if_neg hidden, idem]

/-- **The redaction is idempotent.** -/
theorem redactTelemetry_idem (value : PyData) :
    redactTelemetry chars (redactTelemetry chars value) = redactTelemetry chars value := by
  induction value using PyData.induct with
  | str text =>
    rw [redactTelemetry_str]
    split_ifs with secret
    · exact redactTelemetry_redacted
    · rw [redactTelemetry_str, if_neg secret]
  | list items ih =>
    rw [redactTelemetry_list, redactTelemetry_list, List.map_map]
    exact congrArg _ (List.map_congr_left ih)
  | tuple items ih =>
    rw [redactTelemetry_tuple, redactTelemetry_list, List.map_map]
    exact congrArg _ (List.map_congr_left ih)
  | dict fields ih =>
    rw [redactTelemetry_dict, redactTelemetry_dict, List.map_map]
    refine congrArg _ (List.map_congr_left fun field member => ?_)
    exact Prod.ext rfl (redactEntry_idem field (ih field member))
  | _ => rfl

theorem texts_redactEntry {field : String × PyData} {text : String}
    (member : text ∈ (redactEntry chars field).texts) :
    text = "[REDACTED]" ∨ text ∈ (redactTelemetry chars field.2).texts := by
  unfold redactEntry at member
  split_ifs at member
  · exact Or.inl (List.mem_singleton.mp member)
  · exact Or.inr member

/-- **No string of a redacted document is a secret.** -/
theorem clean_redactTelemetry {value : PyData} (document : value.isDocument = true) :
    ∀ text ∈ (redactTelemetry chars value).texts, secretValue.search chars text = false := by
  induction value using PyData.induct with
  | str given =>
    intro text member
    rw [redactTelemetry_str] at member
    split_ifs at member with secret
    · rw [List.mem_singleton.mp member]
      exact redacted_plain
    · rw [List.mem_singleton.mp member]
      exact Bool.eq_false_iff.mpr secret
  | list items ih =>
    rw [PyData.isDocument, PyData.documentItems_iff] at document
    intro text member
    rw [redactTelemetry_list, PyData.mem_texts_list] at member
    obtain ⟨item, made, inside⟩ := member
    obtain ⟨origin, listed, rfl⟩ := List.mem_map.mp made
    exact ih origin listed (document origin listed) text inside
  | tuple items ih =>
    rw [PyData.isDocument, PyData.documentItems_iff] at document
    intro text member
    rw [redactTelemetry_tuple, PyData.mem_texts_list] at member
    obtain ⟨item, made, inside⟩ := member
    obtain ⟨origin, listed, rfl⟩ := List.mem_map.mp made
    exact ih origin listed (document origin listed) text inside
  | dict fields ih =>
    rw [PyData.isDocument, PyData.documentFields_iff] at document
    intro text member
    rw [redactTelemetry_dict, PyData.mem_texts_dict] at member
    obtain ⟨field, made, inside⟩ := member
    obtain ⟨origin, listed, rfl⟩ := List.mem_map.mp made
    rcases texts_redactEntry inside with rfl | below
    · exact redacted_plain
    · exact ih origin listed (document origin listed) text below
  | set | member | object => cases document
  | _ => exact fun _ none => nomatch none

theorem wellFormed_redactTelemetry {value : PyData} (wellFormed : value.wellFormed = true) :
    (redactTelemetry chars value).wellFormed = true := by
  induction value using PyData.induct with
  | str text =>
    rw [redactTelemetry_str]
    split_ifs <;> rfl
  | list items ih =>
    rw [PyData.wellFormed_list] at wellFormed
    rw [redactTelemetry_list, PyData.wellFormed_list, List.forall_mem_map]
    exact fun item listed => ih item listed (wellFormed item listed)
  | tuple items ih =>
    rw [PyData.wellFormed_tuple] at wellFormed
    rw [redactTelemetry_tuple, PyData.wellFormed_list, List.forall_mem_map]
    exact fun item listed => ih item listed (wellFormed item listed)
  | dict fields ih =>
    rw [PyData.wellFormed_dict] at wellFormed
    rw [redactTelemetry_dict, PyData.wellFormed_dict, List.map_map, List.forall_mem_map]
    refine ⟨wellFormed.1, fun field listed => ?_⟩
    show (redactEntry chars field).wellFormed = true
    unfold redactEntry
    split_ifs
    · rfl
    · exact ih field listed (wellFormed.2 field listed)
  | _ => exact wellFormed

end Laws

/-! ### The shape and the entries -/

section Entries

variable (chars : WordChars) (allowed : String → PyData → Prop)

mutual

/-- **A value with the shape of another**: the same keys and lengths, where an entry is replaced, or
allowed to stay and its value has the shape in turn. -/
def Redacts : PyData → PyData → Prop
  | .dict fields, other => ∃ others, other = .dict others ∧ RedactsFields fields others
  | .list items, other => ∃ others, other = .list others ∧ RedactsItems items others
  | .tuple items, other => ∃ others, other = .list others ∧ RedactsItems items others
  | .str _, other => ∃ text, other = .str text
  | value, other => other = value

def RedactsItems : List PyData → List PyData → Prop
  | [], others => others = []
  | item :: rest, others =>
    ∃ first later, others = first :: later ∧ Redacts item first ∧ RedactsItems rest later

def RedactsFields : List (String × PyData) → List (String × PyData) → Prop
  | [], others => others = []
  | (key, value) :: rest, others =>
    ∃ found later, others = (key, found) :: later ∧
      (found = redacted ∨ allowed key value ∧ Redacts value found) ∧ RedactsFields rest later

end

/-- A string that stands for a secret, or is one. -/
def Recognised (value : PyData) : Prop :=
  value = redacted ∨ ∃ text, value = .str text ∧ secretValue.search chars text = true

mutual

/-- **Every entry that is not replaced is allowed to stay.** Below a key with a secret word, and in a
secret, there is nothing to ask. -/
def EntriesAllowed : PyData → Prop
  | .dict fields => FieldsAllowed fields
  | .list items => ItemsAllowed items
  | .tuple items => ItemsAllowed items
  | _ => True

def ItemsAllowed : List PyData → Prop
  | [] => True
  | item :: rest => EntriesAllowed item ∧ ItemsAllowed rest

def FieldsAllowed : List (String × PyData) → Prop
  | [] => True
  | (key, value) :: rest =>
    (secretKeys.search chars key = true ∨ Recognised chars value ∨
      allowed key value ∧ EntriesAllowed value) ∧ FieldsAllowed rest

end

variable {chars allowed}

theorem redactTelemetry_eq_redacted {value : PyData} :
    redactTelemetry chars value = redacted ↔ Recognised chars value := by
  unfold Recognised
  cases value with
  | str text =>
    rw [redactTelemetry_str]
    by_cases secret : secretValue.search chars text = true
    · rw [if_pos secret]
      exact iff_of_true rfl (Or.inr ⟨text, rfl, secret⟩)
    · rw [if_neg secret]
      refine ⟨Or.inl, fun known => known.elim id ?_⟩
      rintro ⟨_, same, found⟩
      cases same
      exact absurd found secret
  | _ => simp [redactTelemetry, redacted]

theorem redactsItems_iff {items : List PyData}
    (each : ∀ item ∈ items, Redacts allowed item (redactTelemetry chars item) ↔
      EntriesAllowed chars allowed item) :
    RedactsItems allowed items (items.map (redactTelemetry chars)) ↔
      ItemsAllowed chars allowed items := by
  induction items with
  | nil => exact iff_of_true rfl trivial
  | cons item rest ih =>
    obtain ⟨here, later⟩ := List.forall_mem_cons.mp each
    rw [RedactsItems, ItemsAllowed, ← here, ← ih later, List.map_cons]
    constructor
    · rintro ⟨first, others, same, both⟩
      obtain ⟨rfl, rfl⟩ := List.cons.inj same
      exact both
    · exact fun both => ⟨_, _, rfl, both⟩

theorem redactsFields_iff {fields : List (String × PyData)}
    (each : ∀ field ∈ fields, Redacts allowed field.2 (redactTelemetry chars field.2) ↔
      EntriesAllowed chars allowed field.2) :
    RedactsFields allowed fields (fields.map fun field => (field.1, redactEntry chars field)) ↔
      FieldsAllowed chars allowed fields := by
  induction fields with
  | nil => exact iff_of_true rfl trivial
  | cons field rest ih =>
    obtain ⟨key, value⟩ := field
    obtain ⟨here, later⟩ := List.forall_mem_cons.mp each
    have entry : (redactEntry chars (key, value) = redacted ∨
          allowed key value ∧ Redacts allowed value (redactEntry chars (key, value))) ↔
        secretKeys.search chars key = true ∨ Recognised chars value ∨
          allowed key value ∧ EntriesAllowed chars allowed value := by
      unfold redactEntry
      by_cases hidden : secretKeys.search chars key = true
      · rw [if_pos hidden]
        exact iff_of_true (Or.inl rfl) (Or.inl hidden)
      · rw [if_neg hidden, redactTelemetry_eq_redacted, or_iff_right hidden, here]
    rw [RedactsFields, FieldsAllowed, ← entry, ← ih later, List.map_cons]
    constructor
    · rintro ⟨found, others, same, both⟩
      obtain ⟨pair, rfl⟩ := List.cons.inj same
      obtain ⟨-, rfl⟩ := Prod.mk.inj pair
      exact both
    · exact fun both => ⟨_, _, rfl, both⟩

/-- **What the redaction makes of a value** has its shape, exactly where the entries that it leaves
are allowed. -/
theorem redacts_iff {value : PyData} :
    Redacts allowed value (redactTelemetry chars value) ↔ EntriesAllowed chars allowed value := by
  have container {made : List PyData} {P : List PyData → Prop} :
      (∃ others, PyData.list made = .list others ∧ P others) ↔ P made := by
    simp
  induction value using PyData.induct with
  | str text =>
    rw [redactTelemetry_str]
    refine iff_of_true ?_ trivial
    split_ifs
    · exact ⟨_, rfl⟩
    · exact ⟨_, rfl⟩
  | list items ih =>
    rw [redactTelemetry_list, Redacts, EntriesAllowed, container, redactsItems_iff ih]
  | tuple items ih =>
    rw [redactTelemetry_tuple, Redacts, EntriesAllowed, container, redactsItems_iff ih]
  | dict fields ih =>
    rw [redactTelemetry_dict, Redacts, EntriesAllowed, ← redactsFields_iff ih]
    simp
  | _ => exact iff_of_true rfl trivial

theorem itemsAllowed_iff {items : List PyData} :
    ItemsAllowed chars allowed items ↔ ∀ item ∈ items, EntriesAllowed chars allowed item := by
  induction items with
  | nil => exact iff_of_true trivial fun _ member => absurd member List.not_mem_nil
  | cons item rest ih => rw [ItemsAllowed, ih, List.forall_mem_cons]

theorem fieldsAllowed_iff {fields : List (String × PyData)} :
    FieldsAllowed chars allowed fields ↔ ∀ field ∈ fields,
      secretKeys.search chars field.1 = true ∨ Recognised chars field.2 ∨
        allowed field.1 field.2 ∧ EntriesAllowed chars allowed field.2 := by
  induction fields with
  | nil => exact iff_of_true trivial fun _ member => absurd member List.not_mem_nil
  | cons field rest ih => rw [FieldsAllowed, ih, List.forall_mem_cons]

/-- What may stay matters for keys without a secret word only. -/
theorem entriesAllowed_congr {other : String → PyData → Prop}
    (same : ∀ key value, secretKeys.search chars key = false →
      (allowed key value ↔ other key value)) {value : PyData} :
    EntriesAllowed chars allowed value ↔ EntriesAllowed chars other value := by
  induction value using PyData.induct with
  | list items ih =>
    rw [EntriesAllowed, EntriesAllowed, itemsAllowed_iff, itemsAllowed_iff]
    exact forall₂_congr ih
  | tuple items ih =>
    rw [EntriesAllowed, EntriesAllowed, itemsAllowed_iff, itemsAllowed_iff]
    exact forall₂_congr ih
  | dict fields ih =>
    rw [EntriesAllowed, EntriesAllowed, fieldsAllowed_iff, fieldsAllowed_iff]
    refine forall₂_congr fun field member => ?_
    by_cases hidden : secretKeys.search chars field.1 = true
    · exact iff_of_true (Or.inl hidden) (Or.inl hidden)
    · rw [same field.1 field.2 (Bool.eq_false_iff.mpr hidden), ih field member]
  | _ => rfl

theorem entriesAllowed_of_forall (every : ∀ key value, allowed key value) (value : PyData) :
    EntriesAllowed chars allowed value := by
  induction value using PyData.induct with
  | list items ih => exact itemsAllowed_iff.mpr ih
  | tuple items ih => exact itemsAllowed_iff.mpr ih
  | dict fields ih =>
    exact fieldsAllowed_iff.mpr fun field member =>
      Or.inr (Or.inr ⟨every field.1 field.2, ih field member⟩)
  | _ => exact trivial

end Entries

/-! ### The audit log -/

section Log

variable (chars : WordChars)

/-- The redacted payload of a record. -/
def redactPayload (payload : PyDict) : PyDict where
  fields := payload.fields.map fun field => (field.1, redactEntry chars field)
  wellFormed := by
    rw [← redactTelemetry_dict]
    exact wellFormed_redactTelemetry payload.wellFormed

/-- `AuditLog.append`. -/
def AuditLog.append (log : AuditLog) (record : AuditRecord) : Except PyError AuditLog :=
  let key := (record.tenantId, record.recordId)
  if key ∈ log.records then .error (.valueError "audit record is immutable")
  else .ok ⟨log.records.set key { record with payload := redactPayload chars record.payload }⟩

/-- How a value is written after `key=`: a string as it is. -/
structure Rendering where
  text : PyData → String
  str : ∀ value, text (.str value) = value

/-- **The law of telemetry**: the redaction is idempotent, keeps the shape, leaves no string that is a
secret, and replaces every entry whose rendering is one; and this is what the log holds. -/
structure TelemetryLaw (rendering : Rendering) (value : PyData) : Prop where
  idempotent : redactTelemetry chars (redactTelemetry chars value) = redactTelemetry chars value
  shape : Redacts (fun _ _ => True) value (redactTelemetry chars value)
  clean : value.isDocument = true →
    ∀ text ∈ (redactTelemetry chars value).texts, secretValue.search chars text = false
  entries : Redacts (fun key item =>
      secretValue.search chars (key ++ "=" ++ rendering.text item) = false)
    value (redactTelemetry chars value)
  logged : ∀ (log next : AuditLog) (record : AuditRecord), record.payload.data = value →
    log.append chars record = .ok next →
      ∃ stored, next.records.get? (record.tenantId, record.recordId) = some stored ∧
        stored.payload.data = redactTelemetry chars value

/-- An entry that neither its key nor its value shows as a secret. -/
def Unexposed (rendering : Rendering) (key : String) (value : PyData) : Prop :=
  ¬ Exposes chars key (rendering.text value) ∧
    secretValue.search chars (rendering.text value) = false

variable {chars}

theorem append_logged {log next : AuditLog} {record : AuditRecord}
    (appended : log.append chars record = .ok next) :
    ∃ stored, next.records.get? (record.tenantId, record.recordId) = some stored ∧
      stored.payload.data = redactTelemetry chars record.payload.data := by
  unfold AuditLog.append at appended
  dsimp only at appended
  split_ifs at appended
  obtain rfl := Except.ok.inj appended
  refine ⟨_, Dict.get?_set_self _ _ _, ?_⟩
  exact (redactTelemetry_dict chars record.payload.fields).symm

/-- **The law of telemetry holds** exactly where every entry that is left is not exposed. -/
theorem telemetryLaw_iff (rendering : Rendering) (value : PyData) :
    TelemetryLaw chars rendering value ↔
      EntriesAllowed chars (Unexposed chars rendering) value := by
  have entries : Redacts (fun key item =>
        secretValue.search chars (key ++ "=" ++ rendering.text item) = false)
      value (redactTelemetry chars value) ↔
        EntriesAllowed chars (Unexposed chars rendering) value := by
    refine redacts_iff.trans (entriesAllowed_congr fun key item hidden => ?_)
    rw [Unexposed, ← Bool.not_eq_true, ← Bool.not_eq_true, search_rendering_of_hidden hidden,
      not_or, and_comm]
  constructor
  · exact fun law => entries.mp law.entries
  · intro unexposed
    refine ⟨redactTelemetry_idem value, ?_, clean_redactTelemetry, entries.mpr unexposed, ?_⟩
    · exact redacts_iff.mpr (entriesAllowed_of_forall (fun _ _ => trivial) value)
    · rintro log next record rfl appended
      exact append_logged appended

end Log

section Exposed

/-- The word characters of ASCII. -/
def asciiChars : WordChars := ⟨fun c => c.isAlphanum || c == '_', fun _ _ => rfl⟩

/-- Strings as they are, and nothing of other values. -/
def plainRendering : Rendering where
  text
    | .str value => value
    | _ => ""
  str _ := rfl

/-- An API key is recognised as text. -/
example : secretValue.search asciiChars "api_key=sk-123" = true := by decide +kernel

/-- An API key is logged as a structured field. -/
theorem apiKey_logged :
    ¬ TelemetryLaw asciiChars plainRendering (.dict [("api_key", .str "sk-123")]) := by
  intro law
  have allowed := redacts_iff.mp law.entries
  obtain ⟨hidden | (replaced | ⟨text, same, secret⟩) | ⟨kept, -⟩, -⟩ := allowed
  · exact absurd hidden (by decide +kernel)
  · exact absurd (PyData.str.inj replaced) (by decide)
  · obtain rfl := PyData.str.inj same
    exact absurd secret (by decide +kernel)
  · exact absurd kept (by decide +kernel)

end Exposed

end Dnc.Enterprise
