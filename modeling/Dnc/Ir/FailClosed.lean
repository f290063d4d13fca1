/-
**What the graph parser raises.**

`from_dict` translates the exceptions of the decoder, and not those of the check before it. The check
raises a DNCValidationError of its own wherever it finds something wrong, with one exception: the
header. `SchemaVersion.parse` turns the parts of a version into numbers, and the messages show what
the document has in place of the schema and of the compatibility version; both raise a ValueError
where a number has more digits than the interpreter converts (`HeaderTooLong`).

`fromDict_failsClosed_iff`: everything else is rejected by a DNCValidationError or gives a graph in
which every part satisfies the check of its constructor.
-/

import Dnc.Ir.DecodingErrors
import Dnc.Ir.Upgrade
import Dnc.Kernel.Contracts

namespace Dnc

open PyLib Logic

/-! ### The header -/

/-- A part of the version has more digits than `int` converts. -/
def LongVersion (schemaVersion : Json) : Prop :=
  ∃ text, schemaVersion = .str text ∧ (SchemaVersion.ofText? text).isSome = true ∧
    ∃ part ∈ text.toList.splitOn '.', intMaxStrDigits < part.length

/-- The check of these three fields converts a number with too many digits: in a foreign schema
identifier, else in the version, or, where both are supported, in a foreign compatibility version. -/
def LongHeader (schemaId schemaVersion compatibilityVersion : Json) : Prop :=
  schemaId ≠ .str dncIrSchemaId ∧ schemaId.showable = false ∨
    schemaId = .str dncIrSchemaId ∧ LongVersion schemaVersion ∨
    schemaId = .str dncIrSchemaId ∧
      (∃ version ∈ supportedDncIrSchemaVersions, schemaVersion = .str version) ∧
      compatibilityVersion ≠ .str kernelCompatibilityVersion ∧
      compatibilityVersion.showable = false

/-- The document has a complete header, with such a number. -/
def HeaderTooLong (document : JsonObject) : Prop :=
  ∃ schemaId schemaVersion compatibilityVersion,
    document.lookup "schema_id" = some schemaId ∧
    document.lookup "schema_version" = some schemaVersion ∧
    document.lookup "compatibility_version" = some compatibilityVersion ∧
    LongHeader schemaId schemaVersion compatibilityVersion

theorem tryRepr_raises {value : Json} (showable : value.showable = true) :
    ∃ shown, value.tryRepr = .ok shown :=
  ⟨value.pyRepr, if_pos showable⟩

theorem tryRepr_of_long {value : Json} (long : value.showable = false) :
    ∃ message, value.tryRepr = .error (.valueError message) := by
  refine ⟨_, if_neg ?_⟩
  rw [long]
  exact Bool.false_ne_true

theorem parse_of_long {schemaVersion : Json} (long : LongVersion schemaVersion) :
    ∃ message, SchemaVersion.parse schemaVersion = .error (.valueError message) := by
  obtain ⟨text, rfl, isVersion, part, listed, tooLong⟩ := long
  obtain ⟨version, found⟩ := Option.isSome_iff_exists.mp isVersion
  have only : OnlyRaises (fun error => ∃ message, error = .valueError message)
      ((text.toList.splitOn '.').forM checkDigits) := by
    refine OnlyRaises.forM fun part _ => ?_
    unfold checkDigits
    exact OnlyRaises.ite (fun _ => .ok ()) fun _ => .error ⟨_, rfl⟩
  unfold SchemaVersion.parse
  dsimp only
  rw [found]
  dsimp only
  cases checked : (text.toList.splitOn '.').forM checkDigits with
  | error failure =>
    obtain ⟨message, rfl⟩ := only failure checked
    exact ⟨message, rfl⟩
  | ok _ =>
    have short := forM_eq_ok.mp checked part listed
    unfold checkDigits at short
    rw [if_neg (not_le.mpr tooLong)] at short
    cases short

theorem parse_raises_validation {schemaVersion : Json} (short : ¬ LongVersion schemaVersion) :
    OnlyRaises IsValidation (SchemaVersion.parse schemaVersion) := by
  unfold SchemaVersion.parse
  cases schemaVersion with
  | str text =>
    dsimp only
    cases found : SchemaVersion.ofText? text with
    | none => exact validation_raises _
    | some version =>
      refine (OnlyRaises.forM fun part listed => ?_).map _
      unfold checkDigits
      refine OnlyRaises.ite (fun _ => .ok ()) fun long => absurd ?_ short
      exact ⟨text, rfl, Option.isSome_iff_exists.mpr ⟨version, found⟩, part, listed, not_le.mp long⟩
  | _ => exact validation_raises _

theorem differs_iff {text : String} {value : Json} :
    (!Json.pyEq (.str text) value) = true ↔ value ≠ .str text := by
  rw [Bool.not_eq_true', ← Bool.not_eq_true, Json.pyEq_str]

theorem supported_iff {schemaVersion : Json} :
    (supportedDncIrSchemaVersions.all fun version => !Json.pyEq (.str version) schemaVersion) = true ↔
      ¬ ∃ version ∈ supportedDncIrSchemaVersions, schemaVersion = .str version := by
  rw [List.all_eq_true]
  push Not
  exact forall₂_congr fun version _ => differs_iff

theorem parse_supported {version : String} (supported : version ∈ supportedDncIrSchemaVersions) :
    ∃ parsed, SchemaVersion.parse (.str version) = .ok parsed := by
  simp only [supportedDncIrSchemaVersions, List.mem_cons, List.not_mem_nil, or_false] at supported
  rcases supported with rfl | rfl | rfl
  · exact ⟨⟨1, 1, 0⟩, by decide +kernel⟩
  · exact ⟨⟨1, 2, 0⟩, by decide +kernel⟩
  · exact ⟨⟨1, 3, 0⟩, by decide +kernel⟩

/-- A field shown in a message. -/
theorem shown_raises_iff {α : Type} (value : Json) (message : String → String)
    (rest : PUnit → Except PyError α) :
    OnlyRaises IsValidation (value.tryRepr >>= fun shown =>
      (throw (.dncValidationError (message shown)) : Except PyError PUnit) >>= rest) ↔
        value.showable = true := by
  cases showable : value.showable with
  | true =>
    obtain ⟨shown, shows⟩ := tryRepr_raises showable
    rw [shows]
    exact iff_of_true (validation_raises _) rfl
  | false =>
    obtain ⟨text, fails⟩ := tryRepr_of_long showable
    rw [fails]
    exact iff_of_false (not_onlyRaises_valueError text) Bool.false_ne_true

theorem parse_raises_iff {schemaVersion : Json} :
    OnlyRaises IsValidation (SchemaVersion.parse schemaVersion) ↔ ¬ LongVersion schemaVersion := by
  constructor
  · intro raises long
    obtain ⟨message, failed⟩ := parse_of_long long
    rw [failed] at raises
    exact not_onlyRaises_valueError message raises
  · exact parse_raises_validation

/-- A complete header. -/
theorem completeHeader_raises_iff {document : JsonObject}
    {schemaId schemaVersion compatibilityVersion : Json}
    (first : document.lookup "schema_id" = some schemaId)
    (second : document.lookup "schema_version" = some schemaVersion)
    (third : document.lookup "compatibility_version" = some compatibilityVersion) :
    OnlyRaises IsValidation (validateSchemaHeader document) ↔
      ¬ LongHeader schemaId schemaVersion compatibilityVersion := by
  unfold validateSchemaHeader
  rw [first, second, third]
  dsimp only
  rw [OnlyRaises.ite_iff, differs_iff, shown_raises_iff, OnlyRaises.bind_iff_and, parse_raises_iff]
  simp only [OnlyRaises.ite_iff, supported_iff, differs_iff, shown_raises_iff, not_not]
  constructor
  · rintro ⟨shows, rest⟩ (⟨foreign, hidden⟩ | ⟨known, long⟩ | ⟨known, supported, foreign, hidden⟩)
    · cases hidden.symm.trans (shows foreign)
    · exact (rest known).1 long
    · obtain ⟨version, listed, isVersion⟩ := supported
      obtain ⟨incoming, parsed⟩ := parse_supported listed
      rw [← isVersion] at parsed
      have shows := ((rest known).2 incoming parsed).2 ⟨version, listed, isVersion⟩
      cases hidden.symm.trans (shows.1 foreign)
  · intro short
    refine ⟨fun foreign => ?_, fun known => ⟨fun long => ?_, fun incoming _ => ⟨fun _ => ?_, ?_⟩⟩⟩
    · by_contra hidden
      exact short (Or.inl ⟨foreign, eq_false_of_ne_true hidden⟩)
    · exact short (Or.inr (Or.inl ⟨known, long⟩))
    · exact validation_raises _
    · refine fun supported => ⟨fun foreign => ?_, fun _ => .ok _⟩
      by_contra hidden
      exact short (Or.inr (Or.inr ⟨known, supported, foreign, eq_false_of_ne_true hidden⟩))

/-- **What the check of the header raises.** -/
theorem header_raises_iff (document : JsonObject) :
    OnlyRaises IsValidation (validateSchemaHeader document) ↔ ¬ HeaderTooLong document := by
  have incomplete : ∀ field ∈ schemaHeaderFields, document.lookup field = none →
      ¬ HeaderTooLong document := by
    rintro field member missing ⟨schemaId, schemaVersion, compatibilityVersion, first, second,
      third, -⟩
    simp only [schemaHeaderFields, List.mem_cons, List.not_mem_nil, or_false] at member
    rcases member with rfl | rfl | rfl
    · cases third.symm.trans missing
    · cases first.symm.trans missing
    · cases second.symm.trans missing
  cases first : document.lookup "schema_id" with
  | none =>
    refine iff_of_true ?_ (incomplete "schema_id" (by decide) first)
    unfold validateSchemaHeader
    rw [first]
    split
    · exact .ok _
    · rename_i found _ _
      cases found
    · exact validation_raises _
  | some schemaId =>
    cases second : document.lookup "schema_version" with
    | none =>
      refine iff_of_true ?_ (incomplete "schema_version" (by decide) second)
      unfold validateSchemaHeader
      rw [first, second]
      exact validation_raises _
    | some schemaVersion =>
      cases third : document.lookup "compatibility_version" with
      | none =>
        refine iff_of_true ?_ (incomplete "compatibility_version" (by decide) third)
        unfold validateSchemaHeader
        rw [first, second, third]
        exact validation_raises _
      | some compatibilityVersion =>
        refine (completeHeader_raises_iff first second third).trans (not_congr ?_)
        unfold HeaderTooLong
        simp only [first, second, third, Option.some.injEq]
        constructor
        · exact fun long => ⟨_, _, _, rfl, rfl, rfl, long⟩
        · rintro ⟨_, _, _, rfl, rfl, rfl, long⟩
          exact long

/-! ### The rest of the check -/

namespace Schema

theorem requireType_raises (container : JsonObject) (field : String) (expected : Json → Bool)
    (expectedName path : String) :
    OnlyRaises IsValidation (requireType container field expected expectedName path) := by
  unfold requireType
  split
  · exact validation_raises _
  · exact OnlyRaises.ite (fun _ => .ok _) fun _ => validation_raises _

/-- The loop over fields of one type. -/
theorem requireTypes_raises (container : JsonObject) (fields : List String)
    (expected : Json → Bool) (expectedName path : String) :
    OnlyRaises IsValidation (fields.forM fun field =>
      (requireType container field expected expectedName path).map fun _ => ()) :=
  OnlyRaises.forM fun field _ => (requireType_raises container field expected expectedName path).map _

theorem validateOptionalType_raises (container : JsonObject) (field : String)
    (expected : Json → Bool) (expectedName : String) :
    OnlyRaises IsValidation (validateOptionalType container field expected expectedName) := by
  unfold validateOptionalType
  split
  · exact .ok ()
  · exact OnlyRaises.ite (fun _ => .ok ()) fun _ => validation_raises _

theorem requireEnum_raises (container : JsonObject) (field : String) (values : List String)
    (path : String) : OnlyRaises IsValidation (requireEnum container field values path) :=
  (requireType_raises _ _ _ _ _).bind fun _ =>
    OnlyRaises.ite (fun _ => .ok ()) fun _ => validation_raises _

theorem requireNullableString_raises (container : JsonObject) (field path : String) :
    OnlyRaises IsValidation (requireNullableString container field path) := by
  unfold requireNullableString
  split
  · exact validation_raises _
  · exact .ok ()
  · exact validation_if fun _ => .ok ()
  · exact validation_raises _

theorem requireStringArray_raises (container : JsonObject) (field path : String) :
    OnlyRaises IsValidation (requireStringArray container field path) := by
  refine (requireType_raises _ _ _ _ _).bind fun value => ?_
  split
  · refine validation_if fun _ => ?_
    exact OnlyRaises.ite (fun _ => .ok _) fun _ => validation_raises _
  · exact .ok []

/-- The loop over fields that are arrays of strings. -/
theorem requireStringArrays_raises (container : JsonObject) (fields : List String) (path : String) :
    OnlyRaises IsValidation (fields.forM fun field =>
      (requireStringArray container field path).map fun _ => ()) :=
  OnlyRaises.forM fun field _ => (requireStringArray_raises container field path).map _

theorem validatePort_raises (path : String) (port : Json) :
    OnlyRaises IsValidation (validatePort path port) := by
  unfold validatePort
  refine validation_if fun _ => ?_
  refine (requireTypes_raises _ _ _ _ _).bind fun _ => ?_
  refine (requireType_raises _ _ _ _ _).bind fun _ => ?_
  refine (requireEnum_raises _ _ _ _).bind fun _ => ?_
  exact (requireEnum_raises _ _ _ _).bind fun _ => requireEnum_raises _ _ _ _

theorem validateGovernanceContract_raises (contract : JsonObject) (path : String) :
    OnlyRaises IsValidation (validateGovernanceContract contract path) := by
  unfold validateGovernanceContract
  refine (requireTypes_raises _ _ _ _ _).bind fun _ => ?_
  refine (requireEnum_raises _ _ _ _).bind fun _ => (requireEnum_raises _ _ _ _).bind fun _ => ?_
  refine (requireNullableString_raises _ _ _).bind fun _ => ?_
  refine (requireType_raises _ _ _ _ _).bind fun _ => ?_
  refine (requireEnum_raises _ _ _ _).bind fun _ => ?_
  refine (requireStringArray_raises _ _ _).bind fun effectTypes => ?_
  refine validation_if fun _ => ?_
  refine (requireNullableString_raises _ _ _).bind fun _ => ?_
  refine (requireEnum_raises _ _ _ _).bind fun _ => ?_
  refine (requireStringArrays_raises _ _ _).bind fun _ => ?_
  refine (requireType_raises _ _ _ _ _).bind fun _ => ?_
  refine (requireNullableString_raises _ _ _).bind fun _ => ?_
  refine (requireStringArrays_raises _ _ _).bind fun _ => ?_
  refine (requireEnum_raises _ _ _ _).bind fun _ => (requireEnum_raises _ _ _ _).bind fun _ => ?_
  refine (requireType_raises _ _ _ _ _).bind fun _ => ?_
  exact (requireType_raises _ _ _ _ _).bind fun _ => .ok ()

theorem validateContract_raises (version : SchemaVersion) (unit : JsonObject) (unitKey : String) :
    OnlyRaises IsValidation (validateContract version unit unitKey) := by
  refine (requireType_raises _ _ _ _ _).bind fun contract => ?_
  refine (requireType_raises _ _ _ _ _).bind fun ports => ?_
  refine (OnlyRaises.forM fun port _ => validatePort_raises _ port.1).bind fun _ => ?_
  exact OnlyRaises.ite (fun _ => validateGovernanceContract_raises _ _) fun _ => .ok ()

theorem validateUnit_raises (version : Option SchemaVersion) (entry : String × Json) :
    OnlyRaises IsValidation (validateUnit version entry) := by
  unfold validateUnit
  refine validation_if fun _ => ?_
  refine (requireType_raises _ _ _ _ _).bind fun unitId => ?_
  refine validation_if fun _ => ?_
  refine (requireTypes_raises _ _ _ _ _).bind fun _ => ?_
  cases version with
  | none => exact .ok ()
  | some version => exact OnlyRaises.ite (fun _ => validateContract_raises _ _ _) fun _ => .ok ()

theorem validateBinding_raises (edge : JsonObject) (field path : String) :
    OnlyRaises IsValidation (validateBinding edge field path) := by
  unfold validateBinding
  split
  · exact validation_raises _
  · exact .ok ()
  · exact .ok ()
  · exact validation_raises _

theorem validateEdge_raises (version : Option SchemaVersion) (path : String) (edge : Json) :
    OnlyRaises IsValidation (validateEdge version path edge) := by
  unfold validateEdge
  refine validation_if fun _ => ?_
  refine (requireTypes_raises _ _ _ _ _).bind fun _ => ?_
  refine OnlyRaises.ite (fun _ => ?_) fun _ => .ok ()
  exact OnlyRaises.forM fun field _ => validateBinding_raises _ field path

theorem validateVersionField_raises (version : JsonObject) (field : String) :
    OnlyRaises IsValidation (validateVersionField version field) := by
  unfold validateVersionField
  split
  · exact validation_if fun _ => .ok ()
  · exact validation_raises _

theorem validateParts_raises (versioned : Bool) (document : JsonObject) :
    OnlyRaises IsValidation (validateParts versioned document) := by
  refine OnlyRaises.forM fun part _ => ?_
  exact OnlyRaises.ite (fun _ => (requireType_raises _ _ _ _ _).map _) fun _ =>
    validateOptionalType_raises _ _ _ _

/-- Behind its header, the check of a document raises nothing else. -/
theorem validateFields_raises_iff (document : JsonObject) :
    OnlyRaises IsValidation (validateFields document) ↔ ¬ HeaderTooLong document := by
  rw [← header_raises_iff]
  refine OnlyRaises.bind_iff fun version => ?_
  refine (requireType_raises _ _ _ _ _).bind fun graphId => ?_
  refine validation_if fun _ => ?_
  refine (validateParts_raises _ _).bind fun _ => ?_
  have rest : OnlyRaises IsValidation (do
      (entriesOf ((document.lookup "units").getD (.obj []))).forM (validateUnit version)
      (itemsOf ((document.lookup "edges").getD (.arr []))).zipIdx.forM fun entry =>
        validateEdge version s!"edges.{entry.2}" entry.1) := by
    refine (OnlyRaises.forM fun entry _ => validateUnit_raises version entry).bind fun _ => ?_
    exact OnlyRaises.forM fun edge _ => validateEdge_raises version _ edge.1
  split
  · exact rest
  · exact (OnlyRaises.forM fun field _ => validateVersionField_raises _ field).bind fun _ => rest

end Schema

/-! ### Documents -/

/-- The identifiers and contracts of the unit pass the checks of their constructors. -/
structure ComputationalUnit.Constructed (unit : ComputationalUnit) : Prop where
  unitId : isNormalized unit.unitId.value = true
  subUnits : ∀ subUnit ∈ unit.subUnits, isNormalized subUnit.value = true
  ports : ∀ port ∈ unit.contract.ports, port.violation = none
  idempotency : unit.contract.idempotency.violation = none
  sideEffects : unit.contract.sideEffects.violation = none
  placement : unit.contract.placement.violation = none
  security : unit.contract.security.violation = none

/-- Every part of the graph passes the check of its constructor, and every unit is held under its own
identifier. The components of the version are natural numbers by their type. -/
structure StructuralGraph.Constructed (graph : StructuralGraph) : Prop where
  graphId : isNormalized graph.graphId.value = true
  keys : graph.KeysMatch
  units : ∀ uid unit, graph.units.get? uid = some unit → unit.Constructed
  edges : ∀ edge ∈ graph.edges,
    isNormalized edge.source.value = true ∧ isNormalized edge.target.value = true

theorem ComputationalUnit.constructed (unit : ComputationalUnit) : unit.Constructed where
  unitId := unit.unitId.normalized
  subUnits subUnit _ := subUnit.normalized
  ports port _ := port.valid
  idempotency := unit.contract.idempotency.valid
  sideEffects := unit.contract.sideEffects.valid
  placement := unit.contract.placement.valid
  security := unit.contract.security.valid

theorem StructuralGraph.KeysMatch.constructed {graph : StructuralGraph} (keys : graph.KeysMatch) :
    graph.Constructed where
  graphId := graph.graphId.normalized
  keys := keys
  units _ unit _ := unit.constructed
  edges edge _ := ⟨edge.source.normalized, edge.target.normalized⟩

/-- The document is not one of those in whose header a number is too long. -/
def HeaderReadable (data : Json) : Prop := ∀ fields, data = .obj fields → ¬ HeaderTooLong fields

theorem validateIrDocument_raises_iff (data : Json) :
    OnlyRaises IsValidation (validateIrDocument data) ↔ HeaderReadable data := by
  cases data with
  | obj fields =>
    refine (Schema.validateFields_raises_iff fields).trans ⟨?_, fun readable => readable fields rfl⟩
    rintro short _ ⟨⟩
    exact short
  | _ => exact iff_of_true (validation_raises _) fun fields same => nomatch same

/-- **When the graph parser fails closed.** -/
theorem fromDict_failsClosed_iff (data : Json) :
    FailsClosed StructuralGraph.Constructed (fromDict data) ↔ HeaderReadable data := by
  rw [failsClosed_iff_raises, ← validateIrDocument_raises_iff]
  · refine OnlyRaises.bind_iff fun _ => ?_
    have raises := fromValidatedDict_raises data
    cases decoded : fromValidatedDict data with
    | ok graph => exact .ok graph
    | error error =>
      show OnlyRaises IsValidation (if translated error = true then _ else _)
      have kind : translated error = true := raises error decoded
      rw [if_pos kind]
      exact validation_raises _
  · intro graph accepted
    obtain ⟨_, _, -, -, keys, -⟩ := fromDict_eq_ok accepted
    exact keys.constructed

end Dnc
