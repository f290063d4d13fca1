/-
**Schema headers.**

`dnc.kernel.versioning`: the header of a serialized graph and the check of an incoming one. A
document without any header field is a legacy document (`none`); one with some of the fields is
rejected; one with all of them is accepted at the supported versions.
-/

import Dnc.PyLib.Value

namespace Dnc

open PyLib

def dncIrSchemaId : String := "dnc.ir.structural_graph"

def dncIrSchemaVersion : String := "1.3.0"

def kernelCompatibilityVersion : String := "2026.07.phase1"

/-- `sorted(SUPPORTED_DNC_IR_SCHEMA_VERSIONS)`. -/
def supportedDncIrSchemaVersions : List String := ["1.1.0", "1.2.0", "1.3.0"]

/-- `sorted(_SCHEMA_HEADER_FIELDS)`. -/
def schemaHeaderFields : List String := ["compatibility_version", "schema_id", "schema_version"]

structure SchemaVersion where
  major : Nat
  minor : Nat
  patch : Nat
deriving DecidableEq, Repr

instance : ToString SchemaVersion :=
  ⟨fun version => s!"{version.major}.{version.minor}.{version.patch}"⟩

/-- `0|[1-9][0-9]*` in full. -/
def parseVersionPart (text : List Char) : Option Nat :=
  if text = [] ∨ text.any (fun c => !c.isDigit) ∨ (text.head? = some '0' ∧ text ≠ ['0']) then none
  else some (Nat.ofDigitChars 10 text 0)

/-- `_SEMVER_PATTERN.fullmatch(text)`. -/
def SchemaVersion.ofText? (text : String) : Option SchemaVersion :=
  match text.toList.splitOn '.' with
  | [major, minor, patch] => do
    return ⟨← parseVersionPart major, ← parseVersionPart minor, ← parseVersionPart patch⟩
  | _ => none

/-- What `int(part)` raises on a part with too many digits. -/
def checkDigits (part : List Char) : Except PyError Unit :=
  if part.length ≤ intMaxStrDigits then .ok ()
  else .error (.valueError (s!"Exceeds the limit ({intMaxStrDigits} digits) for integer string " ++
    s!"conversion: value has {part.length} digits; use sys.set_int_max_str_digits() to increase " ++
    "the limit"))

/-- `SchemaVersion.parse`. -/
def SchemaVersion.parse (value : Json) : Except PyError SchemaVersion :=
  match value with
  | .str text =>
    match SchemaVersion.ofText? text with
    | some version => ((text.toList.splitOn '.').forM checkDigits).map fun _ => version
    | none => .error (.dncValidationError s!"invalid DNC-IR schema_version: {Json.textRepr text}")
  | _ => .error (.dncValidationError "schema_version MUST be a semantic-version string")

/-- `validate_schema_header`. -/
def validateSchemaHeader (document : JsonObject) : Except PyError (Option SchemaVersion) :=
  match document.lookup "schema_id", document.lookup "schema_version",
      document.lookup "compatibility_version" with
  | none, none, none => .ok none
  | some schemaId, some schemaVersion, some compatibilityVersion => do
    if !Json.pyEq (.str dncIrSchemaId) schemaId then
      let shown ← schemaId.tryRepr
      throw (.dncValidationError s!"unsupported DNC-IR schema_id: {shown}")
    let incoming ← SchemaVersion.parse schemaVersion
    if supportedDncIrSchemaVersions.all fun version => !Json.pyEq (.str version) schemaVersion then
      let supported := Json.pyRepr (.arr (supportedDncIrSchemaVersions.map .str))
      throw (.dncValidationError (s!"unsupported DNC-IR schema_version {schemaVersion.pyRepr}; " ++
        s!"runtime explicitly supports {supported}"))
    if !Json.pyEq (.str kernelCompatibilityVersion) compatibilityVersion then
      let shown ← compatibilityVersion.tryRepr
      throw (.dncValidationError s!"unsupported DNC-IR compatibility_version: {shown}")
    return some incoming
  | _, _, _ =>
    let missing := ", ".intercalate
      (schemaHeaderFields.filter fun field => (document.lookup field).isNone)
    .error (.dncValidationError s!"partial DNC-IR schema header; missing: {missing}")

/-- `schema_header`. -/
def schemaHeader : JsonObject := [
  ("schema_id", .str dncIrSchemaId),
  ("schema_version", .str dncIrSchemaVersion),
  ("compatibility_version", .str kernelCompatibilityVersion)]

/-- The current version. -/
def currentSchemaVersion : SchemaVersion := ⟨1, 3, 0⟩

/-- The header that is written is accepted, in any order of the keys. -/
theorem validateSchemaHeader_current {document : JsonObject}
    (schemaId : document.lookup "schema_id" = some (.str dncIrSchemaId))
    (schemaVersion : document.lookup "schema_version" = some (.str dncIrSchemaVersion))
    (compatibilityVersion :
      document.lookup "compatibility_version" = some (.str kernelCompatibilityVersion)) :
    validateSchemaHeader document = .ok (some currentSchemaVersion) := by
  have parsed : SchemaVersion.parse (.str dncIrSchemaVersion) = .ok currentSchemaVersion := by
    decide +kernel
  have supported : (supportedDncIrSchemaVersions.all fun version =>
      !Json.pyEq (.str version) (.str dncIrSchemaVersion)) = false := by
    decide +kernel
  unfold validateSchemaHeader
  simp only [schemaId, schemaVersion, compatibilityVersion, Json.pyEq_self, parsed, supported,
    Bool.not_true, Bool.false_eq_true, if_false, bind, Except.bind, pure, Except.pure]

end Dnc
