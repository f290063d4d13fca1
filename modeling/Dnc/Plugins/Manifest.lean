/-
**Plugin manifests.**

`dnc.plugins.contracts.PluginManifest`: the declaration of a plugin, checked when it is built
(`check`), and the parser of its JSON form. The parser checks names and types of the fields first;
whatever is wrong, it raises a DNCValidationError (`PluginManifest.fromDict_failsClosed`), and what
`to_dict` writes it reads back (`PluginManifest.fromDict_toDict`).

The expressions of `re` are read off their parts between the separators. `\w` accepts what
`str.isalnum` accepts, which is a parameter here.
-/

import Dnc.Ir.Schema
import Dnc.Kernel.Contracts
import Dnc.PyLib.JsonText

namespace Dnc

open PyLib Logic Schema

def pluginManifestSchemaId : String := "dnc.plugin.manifest"

def pluginManifestSchemaVersion : String := "1.0.0"

def pluginApiVersion : String := "1.0.0"

/-- `sorted(_MANIFEST_FIELDS)`. -/
def manifestFields : List String :=
  ["api_version", "capabilities", "compatibility_version", "entry_point", "permissions", "plugin_id",
    "plugin_version", "schema_id", "schema_version", "supported_ir_versions"]

/-! ### Texts -/

/-- `_PLUGIN_ID.fullmatch(text)`. -/
def isPluginId (text : String) : Bool :=
  (text.toList.splitOnP fun c => c == '.' || c == '_' || c == '-').all fun part =>
    !part.isEmpty && part.all fun c => c.isLower || c.isDigit

/-- `_SEMVER.fullmatch(text)`. -/
def isSemver (text : String) : Bool := (SchemaVersion.ofText? text).isSome

section Words

variable (isAlnum : Char → Bool)

/-- `[A-Za-z_]\w*` in full. -/
def isName : List Char → Bool
  | [] => false
  | first :: rest => (first.isAlpha || first == '_') && rest.all fun c => isAlnum c || c == '_'

/-- Names with dots between them. -/
def isDotted (text : List Char) : Bool := (text.splitOn '.').all (isName isAlnum)

/-- `_ENTRY_POINT.fullmatch(text)`. -/
def isEntryPoint (text : String) : Bool :=
  match text.toList.splitOn ':' with
  | [path, object] => isDotted isAlnum path && isDotted isAlnum object
  | _ => false

end Words

/-- `_require_semver`, on a string. -/
def requireSemver (value name : String) : Except PyError Unit :=
  if isSemver value then .ok () else invalid s!"{name} MUST be a semantic version"

/-- `_validate_tokens`, on a set of strings. -/
def validateTokens (values : Finset String) (name : String) (requireNonempty : Bool) :
    Except PyError Unit :=
  if requireNonempty ∧ values = ∅ then invalid s!"{name} MUST not be empty"
  else if ∃ value ∈ values, isNormalized value = false then
    invalid s!"{name} MUST contain normalized non-empty strings"
  else .ok ()

/-! ### Manifests -/

structure PluginManifestData where
  pluginId : String
  pluginVersion : String
  entryPoint : String
  capabilities : Finset String
  permissions : Finset String := ∅
  supportedIrVersions : Finset String := {dncIrSchemaVersion}
  apiVersion : String := pluginApiVersion
deriving DecidableEq

/-- `PluginManifest.__post_init__` on values of the declared types. -/
def PluginManifestData.check (isAlnum : Char → Bool) (data : PluginManifestData) :
    Except PyError Unit := do
  if isPluginId data.pluginId = false then
    invalid "plugin_id MUST use normalized lowercase identifier syntax"
  requireSemver data.pluginVersion "plugin_version"
  requireSemver data.apiVersion "api_version"
  if isEntryPoint isAlnum data.entryPoint = false then
    invalid "entry_point MUST use 'package.module:attribute' syntax"
  validateTokens data.capabilities "capabilities" true
  validateTokens data.permissions "permissions" false
  validateTokens data.supportedIrVersions "supported_ir_versions" true
  (sortedElems data.supportedIrVersions).forM fun version =>
    requireSemver version "supported_ir_versions item"

structure PluginManifest (isAlnum : Char → Bool) extends PluginManifestData where
  valid : toPluginManifestData.check isAlnum = .ok ()
deriving DecidableEq

namespace PluginManifest

variable {isAlnum : Char → Bool}

variable (isAlnum) in
def ofData (data : PluginManifestData) : Except PyError (PluginManifest isAlnum) :=
  match valid : data.check isAlnum with
  | .ok () => .ok ⟨data, valid⟩
  | .error error => .error error

/-- A set of strings as a sorted array. -/
def tokens (values : Finset String) : Json := .arr ((sortedElems values).map .str)

/-- `PluginManifest.to_dict`. -/
def toDict (manifest : PluginManifest isAlnum) : JsonObject := [
  ("schema_id", .str pluginManifestSchemaId),
  ("schema_version", .str pluginManifestSchemaVersion),
  ("compatibility_version", .str kernelCompatibilityVersion),
  ("plugin_id", .str manifest.pluginId),
  ("plugin_version", .str manifest.pluginVersion),
  ("api_version", .str manifest.apiVersion),
  ("entry_point", .str manifest.entryPoint),
  ("capabilities", tokens manifest.capabilities),
  ("permissions", tokens manifest.permissions),
  ("supported_ir_versions", tokens manifest.supportedIrVersions)]

/-- `PluginManifest.to_json`. -/
def toJson (manifest : PluginManifest isAlnum) : String :=
  Json.dumpsWith .compact (.obj manifest.toDict)

/-! ### Parsing -/

/-- `document[name]`, in a document that has it. -/
def fieldOf (document : JsonObject) (name : String) : Json := (document.lookup name).getD .null

/-- A string of the document. -/
def textOf (document : JsonObject) (name : String) : String :=
  ((fieldOf document name).text?).getD ""

/-- `frozenset(document[name])`, of an array of strings. -/
def textsOf (document : JsonObject) (name : String) : Finset String :=
  (stringsOf (itemsOf (fieldOf document name))).toFinset

/-- The check of the names of the fields. -/
def validateNames (document : JsonObject) : Except PyError Unit :=
  let present := (document.map Prod.fst).toFinset
  let missing := manifestFields.filter fun name => decide (name ∉ present)
  let extra := sortedElems (present \ manifestFields.toFinset)
  let shown (names : List String) : String := Json.pyRepr (.arr (names.map .str))
  let details := (if missing = [] then [] else [s!"missing {shown missing}"]) ++
    (if extra = [] then [] else [s!"unknown {shown extra}"])
  if present = manifestFields.toFinset then .ok ()
  else invalid ("plugin manifest fields are invalid: " ++ "; ".intercalate details)

/-- The check of an array of strings. -/
def validateArray (document : JsonObject) (name : String) : Except PyError Unit :=
  match fieldOf document name with
  | .arr items =>
    if items.any fun item => !isString item then
      invalid s!"plugin manifest {name} MUST contain strings"
    else do
      validateTokens (stringsOf items).toFinset name (name != "permissions")
      if (stringsOf items).Nodup then return ()
      else invalid s!"plugin manifest {name} MUST contain unique values"
  | _ => invalid s!"plugin manifest {name} MUST be an array"

/-- `_validate_manifest_document`, on an object. -/
def validateDocument (document : JsonObject) : Except PyError Unit := do
  validateNames document
  if !Json.pyEq (.str pluginManifestSchemaId) (fieldOf document "schema_id") then
    invalid "unsupported plugin manifest schema_id"
  if !Json.pyEq (.str pluginManifestSchemaVersion) (fieldOf document "schema_version") then
    invalid "unsupported plugin manifest schema_version"
  if !Json.pyEq (.str kernelCompatibilityVersion) (fieldOf document "compatibility_version") then
    invalid "unsupported plugin compatibility_version"
  ["plugin_id", "plugin_version", "api_version", "entry_point"].forM fun name =>
    if isString (fieldOf document name) then .ok ()
    else invalid s!"plugin manifest {name} MUST be a string"
  ["capabilities", "permissions", "supported_ir_versions"].forM (validateArray document)

variable (isAlnum) in
/-- `PluginManifest.from_dict`. -/
def fromDict (document : Json) : Except PyError (PluginManifest isAlnum) :=
  match document with
  | .obj fields => do
    validateDocument fields
    ofData isAlnum {
      pluginId := textOf fields "plugin_id"
      pluginVersion := textOf fields "plugin_version"
      apiVersion := textOf fields "api_version"
      entryPoint := textOf fields "entry_point"
      capabilities := textsOf fields "capabilities"
      permissions := textsOf fields "permissions"
      supportedIrVersions := textsOf fields "supported_ir_versions" }
  | _ => invalid "plugin manifest MUST be an object"

variable (isAlnum) in
/-- `PluginManifest.from_json`. -/
def fromJson (payload : String) : Except PyError (PluginManifest isAlnum) :=
  match Json.loads payload with
  | some document => fromDict isAlnum document
  | none => invalid "plugin manifest MUST be valid JSON"

/-! ### Failing closed -/

theorem requireSemver_raises (value name : String) :
    OnlyRaises IsValidation (requireSemver value name) :=
  OnlyRaises.ite (fun _ => .ok ()) fun _ => validation_raises _

theorem validateTokens_raises (values : Finset String) (name : String) (requireNonempty : Bool) :
    OnlyRaises IsValidation (validateTokens values name requireNonempty) := by
  refine validation_if fun _ => ?_
  exact validation_if fun _ => .ok ()

theorem check_raises (data : PluginManifestData) : OnlyRaises IsValidation (data.check isAlnum) := by
  unfold PluginManifestData.check
  refine validation_if fun _ => ?_
  refine (requireSemver_raises _ _).bind fun _ => (requireSemver_raises _ _).bind fun _ => ?_
  refine validation_if fun _ => ?_
  refine (validateTokens_raises _ _ _).bind fun _ => ?_
  refine (validateTokens_raises _ _ _).bind fun _ => ?_
  refine (validateTokens_raises _ _ _).bind fun _ => ?_
  exact OnlyRaises.forM fun version _ => requireSemver_raises version _

theorem ofData_raises (data : PluginManifestData) :
    OnlyRaises IsValidation (ofData isAlnum data) := by
  unfold ofData
  split
  · exact .ok _
  · rename_i error failed
    exact .error (check_raises data error failed)

theorem validateArray_raises (document : JsonObject) (name : String) :
    OnlyRaises IsValidation (validateArray document name) := by
  unfold validateArray
  split
  · refine validation_if fun _ => ?_
    refine (validateTokens_raises _ _ _).bind fun _ => ?_
    exact OnlyRaises.ite (fun _ => .ok ()) fun _ => validation_raises _
  · exact validation_raises _

theorem validateDocument_raises (document : JsonObject) :
    OnlyRaises IsValidation (validateDocument document) := by
  unfold validateDocument
  refine OnlyRaises.bind (OnlyRaises.ite (fun _ => .ok ()) fun _ => validation_raises _) fun _ => ?_
  refine validation_if fun _ => ?_
  refine validation_if fun _ => ?_
  refine validation_if fun _ => ?_
  refine OnlyRaises.bind (OnlyRaises.forM fun name _ => ?_) fun _ => ?_
  · exact OnlyRaises.ite (fun _ => .ok ()) fun _ => validation_raises _
  · exact OnlyRaises.forM fun name _ => validateArray_raises document name

/-- **The manifest parser fails closed.** -/
theorem fromDict_failsClosed (document : Json) :
    FailsClosed (fun manifest => manifest.check isAlnum = .ok ()) (fromDict isAlnum document) := by
  refine (failsClosed_iff_raises fun manifest _ => manifest.valid).mpr ?_
  cases document with
  | obj fields => exact (validateDocument_raises fields).bind fun _ => ofData_raises _
  | _ => exact validation_raises _

/-! ### Reading what was written -/

theorem validateTokens_eq_ok {values : Finset String} {name : String} {requireNonempty : Bool} :
    validateTokens values name requireNonempty = .ok () ↔
      ¬ (requireNonempty = true ∧ values = ∅) ∧ ∀ value ∈ values, isNormalized value = true := by
  unfold validateTokens invalid
  rw [guard_eq_ok, guard_eq_ok]
  simp only [not_exists, not_and, Bool.not_eq_false, and_true]

/-- The sets of a manifest pass the check that the parser makes of them. -/
theorem tokens_valid (manifest : PluginManifest isAlnum) :
    validateTokens manifest.capabilities "capabilities" true = .ok () ∧
      validateTokens manifest.permissions "permissions" false = .ok () ∧
      validateTokens manifest.supportedIrVersions "supported_ir_versions" true = .ok () := by
  have valid := manifest.valid
  unfold PluginManifestData.check at valid
  obtain ⟨-, valid⟩ := guard_eq_ok.mp valid
  obtain ⟨_, -, valid⟩ := bind_eq_ok.mp valid
  obtain ⟨_, -, valid⟩ := bind_eq_ok.mp valid
  obtain ⟨-, valid⟩ := guard_eq_ok.mp valid
  obtain ⟨_, capabilities, valid⟩ := bind_eq_ok.mp valid
  obtain ⟨_, permissions, valid⟩ := bind_eq_ok.mp valid
  obtain ⟨_, versions, -⟩ := bind_eq_ok.mp valid
  exact ⟨capabilities, permissions, versions⟩

theorem stringsOf_tokens (values : Finset String) :
    stringsOf (itemsOf (tokens values)) = sortedElems values :=
  stringsOf_map_str (sortedElems values)

/-- An array that was written passes the check of the parser. -/
theorem validateArray_tokens {document : JsonObject} {name : String} {values : Finset String}
    (written : fieldOf document name = tokens values)
    (valid : validateTokens values name (name != "permissions") = .ok ()) :
    validateArray document name = .ok () := by
  have strings := stringsOf_tokens values
  unfold validateArray
  rw [written]
  unfold tokens at strings ⊢
  dsimp only [itemsOf] at strings ⊢
  rw [if_neg (any_map_str _), strings, toFinset_sortedElems, valid]
  exact if_pos (sortedElems_nodup values)

/-- The names of the fields, in the order in which they are written. -/
theorem names_toDict (manifest : PluginManifest isAlnum) :
    (manifest.toDict.map Prod.fst).toFinset = manifestFields.toFinset := by
  have keys : manifest.toDict.map Prod.fst =
      ["schema_id", "schema_version", "compatibility_version", "plugin_id", "plugin_version",
        "api_version", "entry_point", "capabilities", "permissions", "supported_ir_versions"] := rfl
  rw [keys]
  decide

theorem validateNames_ok {document : JsonObject}
    (same : (document.map Prod.fst).toFinset = manifestFields.toFinset) :
    validateNames document = .ok () := by
  unfold validateNames
  rw [if_pos same]

/-- Documents that pass the checks of the parser. -/
theorem validateDocument_ok {document : JsonObject} (names : validateNames document = .ok ())
    (schemaId : fieldOf document "schema_id" = .str pluginManifestSchemaId)
    (schemaVersion : fieldOf document "schema_version" = .str pluginManifestSchemaVersion)
    (compatibility :
      fieldOf document "compatibility_version" = .str kernelCompatibilityVersion)
    (texts : ∀ name ∈ ["plugin_id", "plugin_version", "api_version", "entry_point"],
      isString (fieldOf document name))
    (arrays : ∀ name ∈ ["capabilities", "permissions", "supported_ir_versions"],
      validateArray document name = .ok ()) :
    validateDocument document = .ok () := by
  have same : ∀ text, ¬ (!Json.pyEq (.str text) (.str text)) = true := by
    intro text
    rw [Json.pyEq_self]
    exact Bool.false_ne_true
  unfold validateDocument
  rw [schemaId, schemaVersion, compatibility]
  refine bind_eq_ok.mpr ⟨(), names, ?_⟩
  refine guard_eq_ok.mpr ⟨same _, guard_eq_ok.mpr ⟨same _, guard_eq_ok.mpr ⟨same _, ?_⟩⟩⟩
  refine bind_eq_ok.mpr ⟨(), forM_eq_ok.mpr fun name mem => ?_, forM_eq_ok.mpr arrays⟩
  exact if_pos (texts name mem)

theorem validateDocument_toDict (manifest : PluginManifest isAlnum) :
    validateDocument manifest.toDict = .ok () := by
  obtain ⟨capabilities, permissions, versions⟩ := manifest.tokens_valid
  refine validateDocument_ok (validateNames_ok manifest.names_toDict) rfl rfl rfl ?_ ?_
  · simp only [List.forall_mem_cons]
    exact ⟨rfl, rfl, rfl, rfl, List.forall_mem_nil _⟩
  · simp only [List.forall_mem_cons]
    exact ⟨validateArray_tokens rfl capabilities, validateArray_tokens rfl permissions,
      validateArray_tokens rfl versions, List.forall_mem_nil _⟩

/-- **What was written is read back.** -/
theorem fromDict_toDict (manifest : PluginManifest isAlnum) :
    fromDict isAlnum (.obj manifest.toDict) = .ok manifest := by
  have sets : ∀ {name : String} {values : Finset String},
      fieldOf manifest.toDict name = tokens values → textsOf manifest.toDict name = values := by
    intro name values written
    unfold textsOf
    rw [written, stringsOf_tokens, toFinset_sortedElems]
  unfold fromDict
  dsimp only
  rw [manifest.validateDocument_toDict, @sets "capabilities" manifest.capabilities rfl,
    @sets "permissions" manifest.permissions rfl,
    @sets "supported_ir_versions" manifest.supportedIrVersions rfl]
  show ofData isAlnum manifest.toPluginManifestData = _
  unfold ofData
  split
  · rfl
  · rename_i error failed
    cases manifest.valid.symm.trans failed

/-- The parser looks at the names of the fields and at what each of them holds. -/
theorem fromDict_congr {document other : JsonObject}
    (names : (document.map Prod.fst).toFinset = (other.map Prod.fst).toFinset)
    (fields : ∀ name, document.lookup name = other.lookup name) :
    fromDict isAlnum (.obj document) = fromDict isAlnum (.obj other) := by
  have same : fieldOf document = fieldOf other := by
    funext name
    unfold fieldOf
    rw [fields name]
  have validNames : validateNames document = validateNames other := by
    unfold validateNames
    rw [names]
  have validArrays : validateArray document = validateArray other := by
    funext name
    unfold validateArray
    rw [same]
  unfold fromDict validateDocument textOf textsOf
  dsimp only
  rw [same, validNames, validArrays]

theorem wellFormed_toDict (manifest : PluginManifest isAlnum) :
    (Json.obj manifest.toDict).wellFormed = true := by
  have written : ∀ values, (tokens values).wellFormed = true := by
    intro values
    unfold tokens
    rw [Json.wellFormed_arr]
    intro item member
    obtain ⟨value, -, rfl⟩ := List.mem_map.mp member
    rfl
  rw [Json.wellFormed_obj]
  refine ⟨(by decide : ["schema_id", "schema_version", "compatibility_version", "plugin_id",
    "plugin_version", "api_version", "entry_point", "capabilities", "permissions",
    "supported_ir_versions"].Nodup), ?_⟩
  unfold toDict
  simp only [List.forall_mem_cons]
  exact ⟨rfl, rfl, rfl, rfl, rfl, rfl, rfl, written _, written _, written _, List.forall_mem_nil _⟩

/-- Putting the fields of a manifest in key order changes none of them. -/
theorem lookup_sorted_toDict (manifest : PluginManifest isAlnum) (name : String) :
    (sortBy Prod.fst (manifest.toDict.map (Json.mapEntry Json.sortKeys))).lookup name =
      manifest.toDict.lookup name := by
  have plain : manifest.toDict.map (Json.mapEntry Json.sortKeys) = manifest.toDict := by
    have written : ∀ values, (tokens values).sortKeys = tokens values := by
      intro values
      unfold tokens
      rw [Json.sortKeys_arr, List.map_map]
      exact congrArg Json.arr (List.map_congr_left fun value _ => Json.sortKeys_str value)
    simp only [toDict, List.map_cons, List.map_nil, Json.mapEntry, Json.sortKeys_str, written]
  rw [plain, Json.lookup_sortBy_fst]

/-- **What was written as text is read back.** -/
theorem fromJson_toJson (manifest : PluginManifest isAlnum) :
    fromJson isAlnum manifest.toJson = .ok manifest := by
  have read : Json.loads manifest.toJson = some (Json.obj manifest.toDict).sortKeys :=
    Json.loads_dumpsWith .compact _ manifest.wellFormed_toDict
  have names := List.toFinset_eq_of_perm _ _ (Json.keys_sortKeys manifest.toDict)
  unfold fromJson
  rw [read, Json.sortKeys_obj]
  exact (fromDict_congr names manifest.lookup_sorted_toDict).trans manifest.fromDict_toDict

/-- The text of a manifest determines it. -/
theorem toJson_injective :
    Function.Injective (toJson : PluginManifest isAlnum → String) := by
  intro first second same
  have read := second.fromJson_toJson
  rw [← same, first.fromJson_toJson] at read
  exact Except.ok.inj read

/-! ### Writing what was read -/

/-- The same value, for an array up to the order of its items. -/
def SameUpToOrder : Json → Json → Prop
  | .arr items, other => ∃ others, other = .arr others ∧ items.Perm others
  | value, other => value = other

/-- The same fields with the same values up to the order of arrays. -/
def Reencodes (document written : JsonObject) : Prop :=
  ∀ name, Option.Rel SameUpToOrder (document.lookup name) (written.lookup name)

/-- What the checks of the parser establish of a document. -/
theorem validateDocument_eq_ok {document : JsonObject}
    (valid : validateDocument document = .ok ()) :
    (document.map Prod.fst).toFinset = manifestFields.toFinset ∧
      fieldOf document "schema_id" = .str pluginManifestSchemaId ∧
      fieldOf document "schema_version" = .str pluginManifestSchemaVersion ∧
      fieldOf document "compatibility_version" = .str kernelCompatibilityVersion ∧
      (∀ name ∈ ["plugin_id", "plugin_version", "api_version", "entry_point"],
        isString (fieldOf document name) = true) ∧
      ∀ name ∈ ["capabilities", "permissions", "supported_ir_versions"],
        validateArray document name = .ok () := by
  have named : ∀ {text : String} {value : Json},
      ¬ (!Json.pyEq (.str text) value) = true → value = .str text := by
    intro text value passes
    rw [Bool.not_eq_true, Bool.not_eq_false'] at passes
    exact Json.pyEq_str.mp passes
  unfold validateDocument at valid
  obtain ⟨_, names, valid⟩ := bind_eq_ok.mp valid
  obtain ⟨schemaId, valid⟩ := guard_eq_ok.mp valid
  obtain ⟨schemaVersion, valid⟩ := guard_eq_ok.mp valid
  obtain ⟨compatibility, valid⟩ := guard_eq_ok.mp valid
  obtain ⟨_, texts, arrays⟩ := bind_eq_ok.mp valid
  refine ⟨?_, named schemaId, named schemaVersion, named compatibility, fun name member => ?_,
    fun name member => forM_eq_ok.mp arrays name member⟩
  · unfold validateNames at names
    by_contra other
    rw [if_neg other] at names
    cases names
  · have text := forM_eq_ok.mp texts name member
    by_contra other
    rw [if_neg other] at text
    cases text

theorem ofData_eq_ok {data : PluginManifestData} {manifest : PluginManifest isAlnum}
    (built : ofData isAlnum data = .ok manifest) : manifest.toPluginManifestData = data := by
  unfold ofData at built
  split at built
  · obtain rfl := Except.ok.inj built
    rfl
  · cases built

/-- A string that was read is written again. -/
theorem fieldOf_eq_text {document : JsonObject} {name : String}
    (text : isString (fieldOf document name) = true) :
    fieldOf document name = .str (textOf document name) := by
  unfold textOf
  cases value : fieldOf document name with
  | str text => rfl
  | _ =>
    rw [value] at text
    cases text

/-- An array that was read is written again, in order. -/
theorem fieldOf_same_tokens {document : JsonObject} {name : String}
    (valid : validateArray document name = .ok ()) :
    SameUpToOrder (fieldOf document name) (tokens (textsOf document name)) := by
  unfold validateArray at valid
  unfold textsOf
  cases value : fieldOf document name with
  | arr items =>
    rw [value] at valid
    dsimp only at valid
    obtain ⟨typed, valid⟩ := guard_eq_ok.mp valid
    obtain ⟨_, -, unique⟩ := bind_eq_ok.mp valid
    have nodup : (stringsOf items).Nodup := by
      by_contra repeats
      rw [if_neg repeats] at unique
      cases unique
    have sorted : (stringsOf items).Perm (sortedElems (stringsOf items).toFinset) := by
      refine List.perm_of_nodup_nodup_toFinset_eq nodup (sortedElems_nodup _) ?_
      rw [toFinset_sortedElems]
    have written := sorted.map Json.str
    rw [← eq_map_str typed] at written
    exact ⟨_, rfl, written⟩
  | _ =>
    rw [value] at valid
    cases valid

/-- **A document that is read is written again**, up to the order of its arrays. -/
theorem reencodes_of_fromDict {document : JsonObject} {manifest : PluginManifest isAlnum}
    (read : fromDict isAlnum (.obj document) = .ok manifest) :
    Reencodes document manifest.toDict := by
  obtain ⟨_, valid, built⟩ := bind_eq_ok.mp read
  have data := ofData_eq_ok built
  obtain ⟨names, schemaId, schemaVersion, compatibility, texts, arrays⟩ :=
    validateDocument_eq_ok valid
  simp only [List.forall_mem_cons] at texts arrays
  obtain ⟨pluginId, pluginVersion, apiVersion, entryPoint, -⟩ := texts
  obtain ⟨capabilities, permissions, supportedIrVersions, -⟩ := arrays
  have present : ∀ {fields : JsonObject} {name : String},
      (fields.map Prod.fst).toFinset = manifestFields.toFinset → name ∈ manifestFields →
        fields.lookup name = some (fieldOf fields name) := by
    intro fields name same known
    cases found : fields.lookup name with
    | some value => rw [fieldOf, found, Option.getD_some]
    | none =>
      have absent := lookup_eq_none.mp found
      rw [← List.mem_toFinset, same, List.mem_toFinset] at absent
      exact absurd known absent
  intro name
  by_cases known : name ∈ manifestFields
  · rw [present names known, present manifest.names_toDict known]
    refine Option.Rel.some ?_
    unfold toDict
    rw [data]
    simp only [manifestFields, List.mem_cons, List.not_mem_nil, or_false] at known
    rcases known with rfl | rfl | rfl | rfl | rfl | rfl | rfl | rfl | rfl | rfl
    · rw [fieldOf_eq_text apiVersion]
      rfl
    · exact fieldOf_same_tokens capabilities
    · rw [compatibility]
      rfl
    · rw [fieldOf_eq_text entryPoint]
      rfl
    · exact fieldOf_same_tokens permissions
    · rw [fieldOf_eq_text pluginId]
      rfl
    · rw [fieldOf_eq_text pluginVersion]
      rfl
    · rw [schemaId]
      rfl
    · rw [schemaVersion]
      rfl
    · exact fieldOf_same_tokens supportedIrVersions
  · have unknown : ∀ {fields : JsonObject},
        (fields.map Prod.fst).toFinset = manifestFields.toFinset → fields.lookup name = none := by
      intro fields same
      rw [lookup_eq_none, ← List.mem_toFinset, same, List.mem_toFinset]
      exact known
    rw [unknown names, unknown manifest.names_toDict]
    exact Option.Rel.none

end PluginManifest

end Dnc
