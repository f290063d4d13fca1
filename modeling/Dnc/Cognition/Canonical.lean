/-
**Canonical data.**

`dnc.cognition.canonical`: the JSON form of a value. Dictionaries are written in key order and without
the entries whose value is `None`; tuples become lists, and so do sets, in the order of the texts of
their elements; an enumeration becomes its value and an object its fields. `plain` is what this
loses nothing of, and `canonical` the value that reading the form gives back (`canonical_same_iff`).

A record is written as the dictionary of its fields, so reading a field of its form finds the form
of the value, or nothing where the value is `None` (`lookup_canonicalFields`).

`canonical_data` leaves out the entries of an object that are null. Nothing else of a JSON value is
lost: two values have one canonical text exactly when they are equal without such entries
(`canonicalJson_same_iff`), as maps and at every level.
-/

import Dnc.Cognition.Contracts
import Dnc.PyLib.JsonText

namespace Dnc.Cognition

open PyLib

mutual

/-- `canonical_data`. -/
def canonicalData : PyData → Json
  | .null => .null
  | .bool value => .bool value
  | .int value => .int value
  | .float value => .float value
  | .str value => .str value
  | .list items => .arr (canonicalItems items)
  | .tuple items => .arr (canonicalItems items)
  | .dict fields => .obj (sortBy Prod.fst (canonicalFields fields))
  | .set _ items => .arr (sortBy (Json.dumpsWith .compact) (canonicalItems items))
  | .member _ value => .str value
  | .object _ fields => .obj (sortBy Prod.fst (canonicalFields fields))

def canonicalItems : List PyData → List Json
  | [] => []
  | item :: rest => canonicalData item :: canonicalItems rest

def canonicalFields : List (String × PyData) → List (String × Json)
  | [] => []
  | (key, value) :: rest =>
    if value.isNone then canonicalFields rest
    else (key, canonicalData value) :: canonicalFields rest

end

/-- `canonical_json`. -/
def canonicalJson (value : PyData) : String := Json.dumpsWith .compact (canonicalData value)

/-- `COGNITIVE_SCHEMA_ID`. -/
def cognitiveSchemaId : String := "dnc.cognition.canonical.v1"

/-- `canonical_hash`, given `hashlib.sha256(…).hexdigest()`. -/
def canonicalHash (sha256 : String → String) (value : PyData)
    (hashSpace : String := cognitiveSchemaId) : String :=
  sha256 s!"{hashSpace}\n{canonicalJson value}"

theorem canonicalItems_eq (items : List PyData) : canonicalItems items = items.map canonicalData :=
  eq_map rfl (fun _ _ => rfl) items

theorem canonicalFields_eq (fields : List (String × PyData)) :
    canonicalFields fields =
      (fields.filter fun field => !field.2.isNone).map (PyData.mapEntry canonicalData) := by
  induction fields with
  | nil => rfl
  | cons field rest ih =>
    obtain ⟨key, value⟩ := field
    rw [canonicalFields, ih]
    by_cases absent : value.isNone = true
    · rw [if_pos absent, List.filter_cons_of_neg (by simpa using absent)]
    · rw [if_neg absent, List.filter_cons_of_pos (by simpa using absent)]
      rfl

@[simp] theorem canonicalData_list (items : List PyData) :
    canonicalData (.list items) = .arr (items.map canonicalData) :=
  congrArg Json.arr (canonicalItems_eq items)

@[simp] theorem canonicalData_tuple (items : List PyData) :
    canonicalData (.tuple items) = .arr (items.map canonicalData) :=
  congrArg Json.arr (canonicalItems_eq items)

theorem canonicalData_dict (fields : List (String × PyData)) :
    canonicalData (.dict fields) = .obj (sortBy Prod.fst
      ((fields.filter fun field => !field.2.isNone).map (PyData.mapEntry canonicalData))) :=
  congrArg (fun entries => Json.obj (sortBy Prod.fst entries)) (canonicalFields_eq fields)

@[simp] theorem canonicalData_set (frozen : Bool) (items : List PyData) :
    canonicalData (.set frozen items) =
      .arr (sortBy (Json.dumpsWith .compact) (items.map canonicalData)) :=
  congrArg (fun forms => Json.arr (sortBy (Json.dumpsWith .compact) forms)) (canonicalItems_eq items)

@[simp] theorem canonicalData_object (className : String) (fields : List (String × PyData)) :
    canonicalData (.object className fields) = canonicalData (.dict fields) := rfl

/-! ### The form as JSON -/

theorem wellFormed_canonicalDict {fields : List (String × PyData)}
    (each : ∀ field ∈ fields, field.2.wellFormed = true →
      (canonicalData field.2).wellFormed = true)
    (wellFormed : (PyData.dict fields).wellFormed = true) :
    (canonicalData (.dict fields)).wellFormed = true := by
  rw [PyData.wellFormed_dict] at wellFormed
  rw [canonicalData_dict, Json.wellFormed_obj]
  constructor
  · refine ((sortBy_perm _ _).map Prod.fst).nodup_iff.mpr ?_
    rw [List.map_map]
    exact (List.filter_sublist.map Prod.fst).nodup wellFormed.1
  · intro field member
    obtain ⟨origin, kept, rfl⟩ := List.mem_map.mp (mem_sortBy.mp member)
    have listed := List.mem_of_mem_filter kept
    exact each origin listed (wellFormed.2 origin listed)

theorem wellFormed_canonicalData {value : PyData} (wellFormed : value.wellFormed = true) :
    (canonicalData value).wellFormed = true := by
  induction value using PyData.induct with
  | list items ih =>
    rw [PyData.wellFormed_list] at wellFormed
    rw [canonicalData_list, Json.wellFormed_arr]
    intro item member
    obtain ⟨origin, listed, rfl⟩ := List.mem_map.mp member
    exact ih origin listed (wellFormed origin listed)
  | tuple items ih =>
    rw [PyData.wellFormed_tuple] at wellFormed
    rw [canonicalData_tuple, Json.wellFormed_arr]
    intro item member
    obtain ⟨origin, listed, rfl⟩ := List.mem_map.mp member
    exact ih origin listed (wellFormed origin listed)
  | set frozen items ih =>
    rw [PyData.wellFormed_set] at wellFormed
    rw [canonicalData_set, Json.wellFormed_arr]
    intro item member
    obtain ⟨origin, listed, rfl⟩ := List.mem_map.mp (mem_sortBy.mp member)
    exact ih origin listed (wellFormed origin listed)
  | dict fields ih => exact wellFormed_canonicalDict ih wellFormed
  | object className fields ih =>
    rw [PyData.wellFormed_object] at wellFormed
    rw [canonicalData_object]
    exact wellFormed_canonicalDict ih wellFormed
  | _ => rfl

theorem sortKeys_canonicalDict {fields : List (String × PyData)}
    (each : ∀ field ∈ fields, (canonicalData field.2).sortKeys = canonicalData field.2) :
    (canonicalData (.dict fields)).sortKeys = canonicalData (.dict fields) := by
  rw [canonicalData_dict, Json.sortKeys_obj]
  have fixed : (sortBy Prod.fst ((fields.filter fun field => !field.2.isNone).map
      (PyData.mapEntry canonicalData))).map (Json.mapEntry Json.sortKeys) =
        sortBy Prod.fst ((fields.filter fun field => !field.2.isNone).map
          (PyData.mapEntry canonicalData)) := by
    have entries : ∀ entry ∈ sortBy Prod.fst ((fields.filter fun field => !field.2.isNone).map
        (PyData.mapEntry canonicalData)), Json.mapEntry Json.sortKeys entry = id entry := by
      intro entry member
      obtain ⟨origin, kept, rfl⟩ := List.mem_map.mp (mem_sortBy.mp member)
      exact congrArg (Prod.mk origin.1) (each origin (List.mem_of_mem_filter kept))
    rw [List.map_congr_left entries, List.map_id]
  rw [fixed, sortBy_of_pairwise (sortBy_pairwise _ _)]

/-- The form is in key order already. -/
theorem sortKeys_canonicalData (value : PyData) :
    (canonicalData value).sortKeys = canonicalData value := by
  induction value using PyData.induct with
  | list items ih =>
    rw [canonicalData_list, Json.sortKeys_arr, List.map_map]
    exact congrArg Json.arr (List.map_congr_left ih)
  | tuple items ih =>
    rw [canonicalData_tuple, Json.sortKeys_arr, List.map_map]
    exact congrArg Json.arr (List.map_congr_left ih)
  | set frozen items ih =>
    have each : ∀ form ∈ sortBy (Json.dumpsWith .compact) (items.map canonicalData),
        form.sortKeys = id form := by
      intro form member
      obtain ⟨item, listed, rfl⟩ := List.mem_map.mp (mem_sortBy.mp member)
      exact ih item listed
    rw [canonicalData_set, Json.sortKeys_arr, List.map_congr_left each, List.map_id]
  | dict fields ih => exact sortKeys_canonicalDict ih
  | object className fields ih =>
    rw [canonicalData_object]
    exact sortKeys_canonicalDict ih
  | _ => rfl

/-- **Reading the text of a value gives its canonical data.** -/
theorem loads_canonicalJson {value : PyData} (wellFormed : value.wellFormed = true) :
    Json.loads (canonicalJson value) = some (canonicalData value) := by
  rw [canonicalJson, Json.loads_dumpsWith _ _ (wellFormed_canonicalData wellFormed),
    sortKeys_canonicalData]

/-! ### What is lost -/

mutual

/-- Only lists and dictionaries, and no entry that is `None`. -/
def plain : PyData → Bool
  | .list items => plainItems items
  | .tuple _ | .set _ _ | .member _ _ | .object _ _ => false
  | .dict fields => plainFields fields
  | _ => true

def plainItems : List PyData → Bool
  | [] => true
  | item :: rest => plain item && plainItems rest

def plainFields : List (String × PyData) → Bool
  | [] => true
  | (_, value) :: rest => !value.isNone && plain value && plainFields rest

end

theorem plainItems_iff (items : List PyData) :
    plainItems items = true ↔ ∀ item ∈ items, plain item = true := by
  induction items with
  | nil => simp [plainItems]
  | cons item rest ih => simp [plainItems, ih]

theorem plainFields_iff (fields : List (String × PyData)) :
    plainFields fields = true ↔
      ∀ field ∈ fields, field.2.isNone = false ∧ plain field.2 = true := by
  induction fields with
  | nil => simp [plainFields]
  | cons field rest ih => simp [plainFields, ih, and_assoc]

/-- The value that its canonical data reads back as. -/
def canonical (value : PyData) : PyData := .ofJson (canonicalData value)

theorem canonical_list (items : List PyData) :
    canonical (.list items) = .list (items.map canonical) := by
  rw [canonical, canonicalData_list, PyData.ofJson_arr, List.map_map]
  rfl

theorem canonical_tuple (items : List PyData) :
    canonical (.tuple items) = .list (items.map canonical) := by
  rw [canonical, canonicalData_tuple, PyData.ofJson_arr, List.map_map]
  rfl

theorem canonical_set (frozen : Bool) (items : List PyData) : canonical (.set frozen items) =
    .list ((sortBy (Json.dumpsWith .compact) (items.map canonicalData)).map .ofJson) := by
  rw [canonical, canonicalData_set, PyData.ofJson_arr]

theorem canonical_object (className : String) (fields : List (String × PyData)) :
    canonical (.object className fields) = canonical (.dict fields) := by
  rw [canonical, canonicalData_object]
  rfl

/-- Sorting by key commutes with a map of the values. -/
theorem sortBy_mapEntry {α β : Type} (f : α → β) (entries : List (String × α)) :
    sortBy Prod.fst (entries.map (PyData.mapEntry f)) =
      (sortBy Prod.fst entries).map (PyData.mapEntry f) :=
  sortBy_map Prod.fst (PyData.mapEntry f) entries

theorem canonical_dict (fields : List (String × PyData)) :
    canonical (.dict fields) = .dict (sortBy Prod.fst
      ((fields.filter fun field => !field.2.isNone).map (PyData.mapEntry canonical))) := by
  rw [canonical, canonicalData_dict, PyData.ofJson_obj]
  have sorted := sortBy_mapEntry PyData.ofJson
    ((fields.filter fun field => !field.2.isNone).map (PyData.mapEntry canonicalData))
  rw [List.map_map] at sorted
  rw [← sorted]
  rfl

/-- Sorted entries with mapped values agree where the values do. -/
theorem sortBy_mapEntry_inj {α : Type} {f g : PyData → α} {fields : List (String × PyData)} :
    sortBy Prod.fst (fields.map (PyData.mapEntry f)) =
        sortBy Prod.fst (fields.map (PyData.mapEntry g)) ↔
      ∀ field ∈ fields, f field.2 = g field.2 := by
  rw [sortBy_mapEntry, sortBy_mapEntry, List.map_inj_left]
  constructor
  · intro same field member
    exact (Prod.mk.inj (same field (mem_sortBy.mpr member))).2
  · intro same field member
    exact congrArg (Prod.mk field.1) (same field (mem_sortBy.mp member))

/-- **Reading the form gives the value back exactly where it is plain.** -/
theorem canonical_same_iff (value : PyData) :
    (canonical value).sortKeys = value.sortKeys ↔ plain value = true := by
  induction value using PyData.induct with
  | list items ih =>
    rw [canonical_list, PyData.sortKeys_list, PyData.sortKeys_list, List.map_map,
      PyData.list.injEq, List.map_inj_left, plain, plainItems_iff]
    exact forall₂_congr ih
  | tuple items ih =>
    rw [canonical_tuple, PyData.sortKeys_list, PyData.sortKeys_tuple, plain]
    exact iff_of_false PyData.noConfusion Bool.noConfusion
  | set frozen items ih =>
    rw [canonical_set, PyData.sortKeys_list, PyData.sortKeys, plain]
    exact iff_of_false PyData.noConfusion Bool.noConfusion
  | member enum value => exact iff_of_false PyData.noConfusion Bool.noConfusion
  | object className fields ih =>
    rw [canonical_object, canonical_dict, PyData.sortKeys_dict, PyData.sortKeys, plain]
    exact iff_of_false PyData.noConfusion Bool.noConfusion
  | dict fields ih =>
    rw [canonical_dict, PyData.sortKeys_dict, PyData.sortKeys_dict, PyData.dict.injEq, plain,
      plainFields_iff]
    have whole : sortBy Prod.fst ((sortBy Prod.fst ((fields.filter fun field =>
        !field.2.isNone).map (PyData.mapEntry canonical))).map (PyData.mapEntry PyData.sortKeys)) =
        sortBy Prod.fst ((fields.filter fun field => !field.2.isNone).map
          (PyData.mapEntry fun value => (canonical value).sortKeys)) := by
      -- the entries are in key order, and stay under a map of their values
      rw [sortBy_mapEntry, sortBy_of_pairwise (sortBy_pairwise _ _), ← sortBy_mapEntry,
        List.map_map]
      rfl
    rw [whole]
    by_cases present : ∀ field ∈ fields, field.2.isNone = false
    · have kept : (fields.filter fun field => !field.2.isNone) = fields :=
        List.filter_eq_self.mpr fun field member => by rw [present field member]; rfl
      rw [kept, sortBy_mapEntry_inj]
      constructor
      · exact fun same field member => ⟨present field member, (ih field member).mp (same field member)⟩
      · exact fun both field member => (ih field member).mpr (both field member).2
    · refine iff_of_false (fun same => present ?_) fun both => present fun field member =>
        (both field member).1
      have lengths := congrArg List.length same
      rw [(sortBy_perm _ _).length_eq, (sortBy_perm _ _).length_eq, List.length_map,
        List.length_map, List.length_filter_eq_length_iff] at lengths
      intro field member
      simpa using lengths field member
  | _ => exact iff_of_true rfl rfl

/-- A dictionary as it reads back. -/
def canonicalDict (dict : PyDict) : PyDict where
  fields := sortBy Prod.fst
    ((dict.fields.filter fun field => !field.2.isNone).map (PyData.mapEntry canonical))
  wellFormed := by
    rw [← canonical_dict]
    exact PyData.wellFormed_ofJson (wellFormed_canonicalData dict.wellFormed)

theorem data_canonicalDict (dict : PyDict) : (canonicalDict dict).data = canonical dict.data :=
  (canonical_dict dict.fields).symm

theorem canonicalDict_same_iff (dict : PyDict) :
    (canonicalDict dict).sorted = dict.sorted ↔ plain dict.data = true := by
  rw [PyDict.sorted, PyDict.sorted, data_canonicalDict, canonical_same_iff]

/-! ### Fields of a record -/

/-- The form of a field, if it is written. -/
def present (value : PyData) : Option Json := if value.isNone then none else some (canonicalData value)

theorem lookup_canonicalFields {fields : List (String × PyData)}
    (distinct : (fields.map Prod.fst).Nodup) (name : String) :
    (sortBy Prod.fst (canonicalFields fields)).lookup name = (fields.lookup name).bind present := by
  rw [Json.lookup_sortBy_fst]
  induction fields with
  | nil => rfl
  | cons field rest ih =>
    obtain ⟨key, value⟩ := field
    obtain ⟨fresh, later⟩ := List.nodup_cons.mp distinct
    have restIh := ih later
    rw [canonicalFields, lookup_cons_ite]
    by_cases here : name = key
    · subst here
      rw [if_pos rfl, Option.bind_some, present]
      by_cases absent : value.isNone = true
      · rw [if_pos absent, if_pos absent, restIh, lookup_eq_none.mpr fresh]
        rfl
      · rw [if_neg absent, if_neg absent, lookup_cons_ite, if_pos rfl]
    · rw [if_neg here]
      by_cases absent : value.isNone = true
      · rw [if_pos absent, restIh]
      · rw [if_neg absent, lookup_cons_ite, if_neg here, restIh]

end Dnc.Cognition

namespace PyLib.Json

mutual

/-- The value without the null entries of its objects. -/
def withoutNulls : Json → Json
  | .null => .null
  | .bool value => .bool value
  | .int value => .int value
  | .float value => .float value
  | .str value => .str value
  | .arr items => .arr (withoutNullsItems items)
  | .obj fields => .obj (withoutNullsFields fields)

def withoutNullsItems : List Json → List Json
  | [] => []
  | item :: rest => withoutNulls item :: withoutNullsItems rest

def withoutNullsFields : List (String × Json) → List (String × Json)
  | [] => []
  | (key, value) :: rest =>
    if value = .null then withoutNullsFields rest
    else (key, withoutNulls value) :: withoutNullsFields rest

end

theorem withoutNullsItems_eq (items : List Json) :
    withoutNullsItems items = items.map withoutNulls :=
  eq_map rfl (fun _ _ => rfl) items

theorem withoutNullsFields_eq (fields : List (String × Json)) :
    withoutNullsFields fields =
      (fields.filter fun field => field.2 ≠ .null).map (mapEntry withoutNulls) := by
  induction fields with
  | nil => rfl
  | cons field rest ih =>
    obtain ⟨key, value⟩ := field
    rw [withoutNullsFields, ih]
    by_cases null : value = .null
    · rw [if_pos null, List.filter_cons_of_neg (by simpa using null)]
    · rw [if_neg null, List.filter_cons_of_pos (by simpa using null)]
      rfl

/-- Equal as maps, but for entries that are null. -/
def SameUpToNulls (first second : Json) : Prop := Same first.withoutNulls second.withoutNulls

end PyLib.Json

namespace Dnc.Cognition

open PyLib

theorem isNone_ofJson (value : Json) : (PyData.ofJson value).isNone = true ↔ value = .null := by
  cases value <;> simp [PyData.ofJson, PyData.isNone]

/-- **The canonical data of a JSON value** is the value without its null entries, in key order. -/
theorem canonicalData_ofJson (value : Json) :
    canonicalData (.ofJson value) = value.withoutNulls.sortKeys := by
  induction value using Json.induct with
  | arr items ih =>
    rw [PyData.ofJson_arr, canonicalData_list, Json.withoutNulls, Json.withoutNullsItems_eq,
      Json.sortKeys_arr, List.map_map, List.map_map]
    exact congrArg Json.arr (List.map_congr_left ih)
  | obj fields ih =>
    have kept : ((fields.map (PyData.mapEntry PyData.ofJson)).filter fun field =>
        !field.2.isNone) =
          (fields.filter fun field => field.2 ≠ .null).map (PyData.mapEntry PyData.ofJson) := by
      rw [List.filter_map]
      congr 1
      refine List.filter_congr fun field _ => ?_
      show (!(PyData.ofJson field.2).isNone) = decide (field.2 ≠ .null)
      rw [Bool.eq_iff_iff, Bool.not_eq_true', decide_eq_true_eq, ne_eq, ← isNone_ofJson,
        Bool.not_eq_true]
    rw [PyData.ofJson_obj, canonicalData_dict, kept, Json.withoutNulls, Json.withoutNullsFields_eq,
      Json.sortKeys_obj, List.map_map, List.map_map]
    refine congrArg (fun entries => Json.obj (sortBy Prod.fst entries))
      (List.map_congr_left fun field member => ?_)
    exact congrArg (Prod.mk field.1) (ih field (List.mem_of_mem_filter member))
  | _ => rfl

/-- Two values have one canonical text exactly when they have the same canonical data. -/
theorem canonicalJson_eq_iff {first second : PyData} (wellFormedFirst : first.wellFormed = true)
    (wellFormedSecond : second.wellFormed = true) :
    canonicalJson first = canonicalJson second ↔ canonicalData first = canonicalData second := by
  constructor
  · intro same
    have read := loads_canonicalJson wellFormedFirst
    rw [same, loads_canonicalJson wellFormedSecond] at read
    exact (Option.some.inj read).symm
  · intro same
    rw [canonicalJson, canonicalJson, same]

/-! ### Records -/

/-- What is written of a field tells its canonical data. -/
theorem present_inj {first second : PyData} :
    present first = present second ↔ canonicalData first = canonicalData second := by
  have absent : ∀ value : PyData, value.isNone = true ↔ canonicalData value = .null := by
    intro value
    cases value <;> simp [PyData.isNone, canonicalData]
  unfold present
  by_cases absentFirst : first.isNone = true <;> by_cases absentSecond : second.isNone = true
  · rw [if_pos absentFirst, if_pos absentSecond, (absent first).mp absentFirst,
      (absent second).mp absentSecond]
    exact iff_of_true rfl rfl
  · rw [if_pos absentFirst, if_neg absentSecond, (absent first).mp absentFirst]
    exact iff_of_false (by simp) fun same => absentSecond ((absent second).mpr same.symm)
  · rw [if_neg absentFirst, if_pos absentSecond, (absent second).mp absentSecond]
    exact iff_of_false (by simp) fun same => absentFirst ((absent first).mpr same)
  · rw [if_neg absentFirst, if_neg absentSecond, Option.some.injEq]

/-- **Records with the same field names** have the same canonical data exactly when each field has. -/
theorem canonicalData_dict_iff {fields others : List (String × PyData)}
    (distinct : (fields.map Prod.fst).Nodup)
    (names : fields.map Prod.fst = others.map Prod.fst) :
    canonicalData (.dict fields) = canonicalData (.dict others) ↔
      fields.map (PyData.mapEntry canonicalData) = others.map (PyData.mapEntry canonicalData) := by
  constructor
  · intro same
    have found : ∀ name, (fields.lookup name).bind present = (others.lookup name).bind present := by
      intro name
      rw [canonicalData, canonicalData, Json.obj.injEq] at same
      rw [← lookup_canonicalFields distinct, same, lookup_canonicalFields (names ▸ distinct)]
    clear same
    induction fields generalizing others with
    | nil =>
      obtain rfl : others = [] := List.map_eq_nil_iff.mp names.symm
      rfl
    | cons field rest ih =>
      obtain ⟨key, value⟩ := field
      obtain _ | ⟨⟨name, other⟩, later⟩ := others
      · cases names
      · obtain ⟨rfl, restNames⟩ := List.cons.inj names
        obtain ⟨fresh, restDistinct⟩ := List.nodup_cons.mp distinct
        have here := found key
        rw [lookup_cons_ite, lookup_cons_ite, if_pos rfl, if_pos rfl, Option.bind_some,
          Option.bind_some, present_inj] at here
        have tail := ih restDistinct restNames fun name => by
          by_cases same : name = key
          · rw [same, lookup_eq_none.mpr fresh, lookup_eq_none.mpr (restNames ▸ fresh)]
          · have there := found name
            rw [lookup_cons_ite, lookup_cons_ite, if_neg same, if_neg same] at there
            exact there
        rw [List.map_cons, List.map_cons, tail, PyData.mapEntry, PyData.mapEntry, here]
  · intro same
    have kept : ∀ entries : List (String × PyData), canonicalFields entries =
        (entries.map (PyData.mapEntry canonicalData)).filter fun field => field.2 ≠ .null := by
      intro entries
      rw [canonicalFields_eq, List.filter_map]
      congr 1
      refine List.filter_congr fun field _ => ?_
      show (!field.2.isNone) = decide (canonicalData field.2 ≠ .null)
      obtain ⟨key, value⟩ := field
      cases value <;> rfl
    rw [canonicalData, canonicalData, kept, kept, same]

variable {first second : Json}

/-- **Two JSON values have one canonical text exactly when they are equal up to null entries.** -/
theorem canonicalJson_same_iff (wellFormedFirst : first.wellFormed = true)
    (wellFormedSecond : second.wellFormed = true) :
    canonicalJson (.ofJson first) = canonicalJson (.ofJson second) ↔
      Json.SameUpToNulls first second := by
  rw [canonicalJson_eq_iff (PyData.wellFormed_ofJson wellFormedFirst)
    (PyData.wellFormed_ofJson wellFormedSecond), canonicalData_ofJson, canonicalData_ofJson]
  rfl

end Dnc.Cognition
