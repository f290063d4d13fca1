/-
**Loading plugins under a policy.**

`dnc.plugins.contracts.PluginLoadPolicy`: the digests of the manifests that may be loaded and the
capabilities and permissions they may declare. `trust` pins one manifest by the SHA-256 digest of its
text.

* `assertRuntimeCompatible_eq_ok`, `admitManifest_eq_ok`: what each check lets through.
* `trust_eq_ok`: a policy can be built for every manifest.
* `manifestLaw`: manifests are read back from both of their forms, a document that is read is
  written again, and a policy that trusts a manifest admits this manifest, on a runtime that it is
  made for, and no other.

`dnc.plugins.loader.PluginRegistry`: manifests are registered before any code of a plugin runs, and
loading checks the stored manifest once more, runs its entry point and compares what the plugin says
of itself. A stored manifest can be altered in place; the digest taken at the registration cannot.

* `load_eq_ok`: when a plugin is returned.
* `loading_pinned`: over any run of registrations, alterations and loads, code is only run at the
  entry point of a manifest that was registered, and that the policy admits.
-/

import Dnc.Logic.Run
import Dnc.Plugins.Manifest
import Dnc.Registry.Graphs

namespace Dnc

open PyLib Logic Schema
open Registry (isDigest isDigest_of_spelled)
open PluginManifest (validateTokens_eq_ok)

variable {isAlnum : Char → Bool}

/-! ### Compatibility -/

namespace PluginManifest

/-- The versions that the runtime is made for. -/
structure RuntimeCompatible (manifest : PluginManifest isAlnum) : Prop where
  apiVersion : manifest.apiVersion = pluginApiVersion
  supported : ∀ version ∈ manifest.supportedIrVersions, version ∈ supportedDncIrSchemaVersions
  current : dncIrSchemaVersion ∈ manifest.supportedIrVersions

/-- `PluginManifest.assert_runtime_compatible`. -/
def assertRuntimeCompatible (manifest : PluginManifest isAlnum) : Except PyError Unit :=
  let apiVersion := Json.textRepr manifest.apiVersion
  let expected := Json.textRepr pluginApiVersion
  let unsupported := manifest.supportedIrVersions \ supportedDncIrSchemaVersions.toFinset
  let shown := (tokens unsupported).pyRepr
  if manifest.apiVersion ≠ pluginApiVersion then
    invalid s!"plugin API {apiVersion} is unsupported; expected {expected}"
  else if unsupported ≠ ∅ then
    invalid s!"plugin declares unsupported DNC-IR versions: {shown}"
  else if dncIrSchemaVersion ∉ manifest.supportedIrVersions then
    invalid s!"plugin does not support current DNC-IR {dncIrSchemaVersion}"
  else .ok ()

/-- `PluginManifest.fingerprint`. -/
def fingerprint (sha256 : String → String) (manifest : PluginManifest isAlnum) : String :=
  sha256 manifest.toJson

theorem assertRuntimeCompatible_eq_ok {manifest : PluginManifest isAlnum} :
    manifest.assertRuntimeCompatible = .ok () ↔ manifest.RuntimeCompatible := by
  have within : manifest.supportedIrVersions \ supportedDncIrSchemaVersions.toFinset = ∅ ↔
      ∀ version ∈ manifest.supportedIrVersions, version ∈ supportedDncIrSchemaVersions := by
    rw [Finset.sdiff_eq_empty_iff_subset]
    exact forall₂_congr fun version _ => List.mem_toFinset
  unfold assertRuntimeCompatible invalid
  dsimp only
  rw [guard_eq_ok, guard_eq_ok, guard_eq_ok, not_not, not_not, not_not, within]
  constructor
  · rintro ⟨apiVersion, supported, current, -⟩
    exact ⟨apiVersion, supported, current⟩
  · rintro ⟨apiVersion, supported, current⟩
    exact ⟨apiVersion, supported, current, rfl⟩

end PluginManifest

/-! ### Policies -/

structure PluginLoadPolicyData where
  trustedManifestHashes : Finset String
  allowedCapabilities : Finset String
  allowedPermissions : Finset String := ∅
deriving DecidableEq

/-- `PluginLoadPolicy.__post_init__` on sets of strings. -/
def PluginLoadPolicyData.check (data : PluginLoadPolicyData) : Except PyError Unit := do
  validateTokens data.allowedCapabilities "allowed_capabilities" false
  validateTokens data.allowedPermissions "allowed_permissions" false
  (sortedElems data.trustedManifestHashes).forM fun digest =>
    if isDigest digest then .ok ()
    else invalid "trusted_manifest_hashes MUST contain lowercase SHA-256 digests"

structure PluginLoadPolicy extends PluginLoadPolicyData where
  valid : toPluginLoadPolicyData.check = .ok ()
deriving DecidableEq

namespace PluginLoadPolicy

def ofData (data : PluginLoadPolicyData) : Except PyError PluginLoadPolicy :=
  match valid : data.check with
  | .ok () => .ok ⟨data, valid⟩
  | .error error => .error error

section Digests

variable (sha256 : String → String)

/-- `PluginLoadPolicy.trust`. -/
def trust (manifest : PluginManifest isAlnum) (allowedCapabilities : Option (Finset String) := none)
    (allowedPermissions : Option (Finset String) := none) : Except PyError PluginLoadPolicy :=
  ofData {
    trustedManifestHashes := {manifest.fingerprint sha256}
    allowedCapabilities := allowedCapabilities.getD manifest.capabilities
    allowedPermissions := allowedPermissions.getD manifest.permissions }

/-- `PluginLoadPolicy.admit`. -/
def admitManifest (policy : PluginLoadPolicy) (manifest : PluginManifest isAlnum) :
    Except PyError Unit := do
  manifest.assertRuntimeCompatible
  let deniedCapabilities := manifest.capabilities \ policy.allowedCapabilities
  let deniedPermissions := manifest.permissions \ policy.allowedPermissions
  let shownCapabilities := (PluginManifest.tokens deniedCapabilities).pyRepr
  let shownPermissions := (PluginManifest.tokens deniedPermissions).pyRepr
  if manifest.fingerprint sha256 ∉ policy.trustedManifestHashes then
    .error (.dncPolicyError "plugin manifest fingerprint is not trusted")
  else if deniedCapabilities ≠ ∅ then
    .error (.dncPolicyError s!"plugin capabilities are not allowed: {shownCapabilities}")
  else if deniedPermissions ≠ ∅ then
    .error (.dncPolicyError s!"plugin permissions are not allowed: {shownPermissions}")
  else .ok ()

/-- `PluginLoadPolicy.trust(manifest).admit(other)`. -/
def trustAdmit (manifest other : PluginManifest isAlnum) : Except PyError Unit := do
  (← trust sha256 manifest).admitManifest sha256 other

end Digests

variable {sha256 : String → String}

/-- What a policy admits: a compatible manifest that is pinned, within the authority allowed. -/
theorem admitManifest_eq_ok {policy : PluginLoadPolicy} {manifest : PluginManifest isAlnum} :
    policy.admitManifest sha256 manifest = .ok () ↔
      manifest.RuntimeCompatible ∧ manifest.fingerprint sha256 ∈ policy.trustedManifestHashes ∧
        manifest.capabilities ⊆ policy.allowedCapabilities ∧
        manifest.permissions ⊆ policy.allowedPermissions := by
  unfold admitManifest
  dsimp only
  rw [bind_eq_ok]
  simp only [guard_eq_ok, not_not, Finset.sdiff_eq_empty_iff_subset]
  constructor
  · rintro ⟨_, compatible, pinned, capabilities, permissions, -⟩
    exact ⟨PluginManifest.assertRuntimeCompatible_eq_ok.mp compatible, pinned, capabilities,
      permissions⟩
  · rintro ⟨compatible, pinned, capabilities, permissions⟩
    exact ⟨(), PluginManifest.assertRuntimeCompatible_eq_ok.mpr compatible, pinned, capabilities,
      permissions, trivial⟩

/-- A manifest's own authority can be allowed: the check of a policy is no stricter than that of a
manifest. -/
theorem trust_eq_ok (hex : ∀ text, isDigest (sha256 text) = true)
    (manifest : PluginManifest isAlnum) :
    ∃ policy, trust sha256 manifest = .ok policy ∧
      policy.trustedManifestHashes = {manifest.fingerprint sha256} ∧
      policy.allowedCapabilities = manifest.capabilities ∧
      policy.allowedPermissions = manifest.permissions := by
  obtain ⟨capabilities, permissions, -⟩ := manifest.tokens_valid
  have valid : PluginLoadPolicyData.check {
      trustedManifestHashes := {manifest.fingerprint sha256}
      allowedCapabilities := manifest.capabilities
      allowedPermissions := manifest.permissions } = .ok () := by
    unfold PluginLoadPolicyData.check
    refine bind_eq_ok.mpr ⟨(), ?_, bind_eq_ok.mpr ⟨(), ?_, forM_eq_ok.mpr fun digest member => ?_⟩⟩
    · exact validateTokens_eq_ok.mpr ⟨nofun, (validateTokens_eq_ok.mp capabilities).2⟩
    · exact validateTokens_eq_ok.mpr ⟨nofun, (validateTokens_eq_ok.mp permissions).2⟩
    · obtain rfl := Finset.mem_singleton.mp (mem_sortedElems.mp member)
      exact if_pos (hex manifest.toJson)
  refine ⟨⟨_, valid⟩, ?_, rfl, rfl, rfl⟩
  unfold trust ofData
  split
  · rfl
  · rename_i error failed
    cases valid.symm.trans failed

/-- **What a policy that trusts a manifest admits**: that manifest, where a runtime supports it. -/
theorem trust_admits_iff (hex : ∀ text, isDigest (sha256 text) = true)
    {manifest other : PluginManifest isAlnum}
    (injective : Set.InjOn sha256 {manifest.toJson, other.toJson}) :
    trustAdmit sha256 manifest other = .ok () ↔ other = manifest ∧ manifest.RuntimeCompatible := by
  obtain ⟨policy, trusted, pinned, capabilities, permissions⟩ := trust_eq_ok hex manifest
  have admitted : trustAdmit sha256 manifest other = policy.admitManifest sha256 other := by
    unfold trustAdmit
    rw [trusted]
    rfl
  rw [admitted, admitManifest_eq_ok, pinned, capabilities, permissions, Finset.mem_singleton]
  constructor
  · rintro ⟨compatible, same, -, -⟩
    have texts : other.toJson = manifest.toJson :=
      injective (Set.mem_insert_of_mem _ rfl) (Set.mem_insert _ _) same
    obtain rfl := PluginManifest.toJson_injective texts
    exact ⟨rfl, compatible⟩
  · rintro ⟨rfl, compatible⟩
    exact ⟨compatible, rfl, Finset.Subset.refl _, Finset.Subset.refl _⟩

end PluginLoadPolicy

/-! ### The law -/

/-- What holds of a manifest: both of its forms read back, and trusting it admits it alone. -/
structure ManifestLaw (sha256 : String → String) (manifest : PluginManifest isAlnum) : Prop where
  document : PluginManifest.fromDict isAlnum (.obj manifest.toDict) = .ok manifest
  payload : PluginManifest.fromJson isAlnum manifest.toJson = .ok manifest
  admits : ∀ other : PluginManifest isAlnum, Set.InjOn sha256 {manifest.toJson, other.toJson} →
    (PluginLoadPolicy.trustAdmit sha256 manifest other = .ok () ↔
      other = manifest ∧ manifest.RuntimeCompatible)

/-- **Manifests are read back, written again and pinned.** -/
theorem manifestLaw {sha256 : String → String} (hex : ∀ text, isDigest (sha256 text) = true) :
    (∀ manifest : PluginManifest isAlnum, ManifestLaw sha256 manifest) ∧
      ∀ (document : JsonObject) (manifest : PluginManifest isAlnum),
        PluginManifest.fromDict isAlnum (.obj document) = .ok manifest →
          PluginManifest.Reencodes document manifest.toDict :=
  ⟨fun manifest => ⟨manifest.fromDict_toDict, manifest.fromJson_toJson,
      fun _ injective => PluginLoadPolicy.trust_admits_iff hex injective⟩,
    fun _ _ read => PluginManifest.reencodes_of_fromDict read⟩

namespace Sample

/-- A manifest, in two versions. -/
def pluginData (pluginVersion : String) : PluginManifestData where
  pluginId := "demo.rules"
  pluginVersion := pluginVersion
  entryPoint := "demo.rules:build"
  capabilities := {"reason"}

def plugin : PluginManifest Char.isAlphanum := ⟨pluginData "1.0.0", by decide +kernel⟩

def nextPlugin : PluginManifest Char.isAlphanum := ⟨pluginData "1.0.1", by decide +kernel⟩

/-- The SHA-256 digests of the two texts. -/
def pluginDigest (text : String) : String :=
  if text = plugin.toJson then "51ef5f15bd911dc46450254b6282300e777d3abff16cdfa48a7b6c9782d0c708"
  else "2190221faa32c72dcc9a8375deffdd84dbeb86aa5e84c0ed9bf135591c93e97a"

theorem pluginDigest_hex (text : String) : isDigest (pluginDigest text) = true := by
  unfold pluginDigest
  split_ifs
  · exact isDigest_of_spelled rfl rfl (by decide)
  · exact isDigest_of_spelled rfl rfl (by decide)

theorem nextPlugin_ne : nextPlugin ≠ plugin := by
  intro same
  have versions : ("1.0.1" : String) = "1.0.0" :=
    congrArg (fun manifest => manifest.pluginVersion) same
  exact absurd versions (by decide)

theorem pluginDigest_injective : Set.InjOn pluginDigest {plugin.toJson, nextPlugin.toJson} := by
  have other : nextPlugin.toJson ≠ plugin.toJson :=
    fun same => nextPlugin_ne (PluginManifest.toJson_injective same)
  have differ : pluginDigest plugin.toJson ≠ pluginDigest nextPlugin.toJson := by
    unfold pluginDigest
    rw [if_pos rfl, if_neg other]
    decide +kernel
  rintro first (rfl | rfl) second (rfl | rfl) same
  · rfl
  · exact absurd same differ
  · exact absurd same.symm differ
  · rfl

end Sample

/-- The policy that trusts the sample manifest admits it, and not its next version. -/
theorem plugin_pinned :
    PluginLoadPolicy.trustAdmit Sample.pluginDigest Sample.plugin Sample.plugin = .ok () ∧
      PluginLoadPolicy.trustAdmit Sample.pluginDigest Sample.plugin Sample.nextPlugin ≠ .ok () := by
  have law := (manifestLaw Sample.pluginDigest_hex).1 Sample.plugin
  refine ⟨(law.admits Sample.plugin ?_).mpr ⟨rfl, rfl, by decide, by decide⟩, fun admitted => ?_⟩
  · exact Sample.pluginDigest_injective.mono (by simp)
  · exact Sample.nextPlugin_ne ((law.admits _ Sample.pluginDigest_injective).mp admitted).1

/-! ### The registry of plugins -/

/-- What foreign code does: it returns, raises an error of the kernel, or anything else. -/
inductive Attempt (β : Type) where
  | returns (value : β)
  | raisesDnc (error : PyError)
  | raises

/-- An object that a factory made: what reading its contract gives, the fingerprint of its manifest if
it has one. -/
structure PluginObject where
  inspect : Attempt (Option String)

/-- What an entry point resolves to. -/
inductive PluginTarget where
  | factory (call : Attempt PluginObject)
  | notCallable

/-- What loading raises; a `DNCCapabilityError` is not among the other errors. -/
inductive LoadError where
  | python (error : PyError)
  | capability (message : String)
deriving DecidableEq

/-- `except DNCError: raise`, and any other exception as a capability error. -/
def Attempt.orRaise {β : Type} (attempt : Attempt β) (message : String) : Except LoadError β :=
  match attempt with
  | .returns value => .ok value
  | .raisesDnc error => .error (.python error)
  | .raises => .error (.capability message)

theorem Attempt.orRaise_eq_ok {β : Type} {attempt : Attempt β} {message : String} {value : β} :
    attempt.orRaise message = .ok value ↔ attempt = .returns value := by
  cases attempt with
  | returns other =>
    exact ⟨fun same => congrArg Attempt.returns (Except.ok.inj same),
      fun same => congrArg Except.ok (Attempt.returns.inj same)⟩
  | raisesDnc error =>
    constructor
    · intro same
      cases same
    · intro same
      cases same
  | raises =>
    constructor
    · intro same
      cases same
    · intro same
      cases same

structure PluginRegistry (isAlnum : Char → Bool) where
  policy : PluginLoadPolicy
  manifests : Dict String (PluginManifest isAlnum) := ∅
  fingerprints : Dict String String := ∅

namespace PluginRegistry

section Registry

variable (sha256 : String → String)

/-- `PluginRegistry.register`. -/
def register (registry : PluginRegistry isAlnum) (manifest : PluginManifest isAlnum) :
    Except PyError (PluginRegistry isAlnum) := do
  registry.policy.admitManifest sha256 manifest
  if manifest.pluginId ∈ registry.manifests then
    .error (.dncValidationError s!"plugin already registered: {manifest.pluginId}")
  else .ok { registry with
    manifests := registry.manifests.set manifest.pluginId manifest
    fingerprints := registry.fingerprints.set manifest.pluginId (manifest.fingerprint sha256) }

/-- `PluginRegistry.manifest`. -/
def manifest (registry : PluginRegistry isAlnum) (pluginId : String) :
    Except PyError (PluginManifest isAlnum) :=
  match registry.manifests.get? pluginId with
  | none => .error (.keyError s!"unknown plugin: {pluginId}")
  | some manifest =>
    match registry.fingerprints.get? pluginId with
    | none => .error (.keyError pluginId)
    | some fingerprint =>
      if manifest.fingerprint sha256 ≠ fingerprint then
        .error (.dncValidationError "registered plugin manifest changed after admission")
      else .ok manifest

/-- The stored manifest, once admitted again. -/
def readmit (registry : PluginRegistry isAlnum) (pluginId : String) :
    Except PyError (PluginManifest isAlnum) := do
  let manifest ← registry.manifest sha256 pluginId
  registry.policy.admitManifest sha256 manifest
  return manifest

/-- What `load` does with the admitted manifest. -/
def instantiate (resolver : String → Attempt PluginTarget) (manifest : PluginManifest isAlnum) :
    Except LoadError PluginObject := do
  match ← (resolver manifest.entryPoint).orRaise "plugin entry point resolution failed" with
  | .notCallable =>
    .error (.python (.dncValidationError "plugin entry point MUST resolve to a factory"))
  | .factory call =>
    let plugin ← call.orRaise "plugin factory failed"
    match ← plugin.inspect.orRaise "plugin contract inspection failed" with
    | none => .error (.python (.dncValidationError
        "plugin factory MUST return an object with manifest and activate"))
    | some loaded =>
      if loaded ≠ manifest.fingerprint sha256 then .error (.python (.dncValidationError
        "loaded plugin manifest does not match admitted manifest"))
      else .ok plugin

/-- `PluginRegistry.load`, with the entry points at which it runs code. -/
def load (registry : PluginRegistry isAlnum) (resolver : String → Attempt PluginTarget)
    (pluginId : String) : List String × Except LoadError PluginObject :=
  match registry.readmit sha256 pluginId with
  | .error error => ([], .error (.python error))
  | .ok manifest => ([manifest.entryPoint], instantiate sha256 resolver manifest)

/-- A call of the registry; `alter` is an assignment to the fields of a stored manifest. -/
inductive PluginCall (isAlnum : Char → Bool) where
  | register (manifest : PluginManifest isAlnum)
  | alter (pluginId : String) (manifest : PluginManifest isAlnum)
  | load (resolver : String → Attempt PluginTarget) (pluginId : String)

/-- The registry after a call. -/
def step (registry : PluginRegistry isAlnum) : PluginCall isAlnum → PluginRegistry isAlnum
  | .register manifest =>
    match registry.register sha256 manifest with
    | .ok next => next
    | .error _ => registry
  | .alter pluginId manifest =>
    if pluginId ∈ registry.manifests then
      { registry with manifests := registry.manifests.set pluginId manifest }
    else registry
  | .load _ _ => registry

end Registry

variable {sha256 : String → String}

/-- **A registration**: of an admitted manifest, under a free identifier. -/
theorem register_eq_ok {registry next : PluginRegistry isAlnum}
    {manifest : PluginManifest isAlnum} :
    registry.register sha256 manifest = .ok next ↔
      registry.policy.admitManifest sha256 manifest = .ok () ∧
      manifest.pluginId ∉ registry.manifests ∧
      next = { registry with
        manifests := registry.manifests.set manifest.pluginId manifest
        fingerprints :=
          registry.fingerprints.set manifest.pluginId (manifest.fingerprint sha256) } := by
  unfold register
  rw [bind_eq_ok]
  constructor
  · rintro ⟨⟨⟩, admitted, stored⟩
    obtain ⟨free, same⟩ := guard_eq_ok.mp stored
    exact ⟨admitted, free, (Except.ok.inj same).symm⟩
  · rintro ⟨admitted, free, rfl⟩
    exact ⟨(), admitted, guard_eq_ok.mpr ⟨free, rfl⟩⟩

/-- **What is read of a stored manifest**: itself, where its digest is still that of its
registration. -/
theorem manifest_eq_ok {registry : PluginRegistry isAlnum} {pluginId : String}
    {manifest : PluginManifest isAlnum} :
    registry.manifest sha256 pluginId = .ok manifest ↔
      registry.manifests.get? pluginId = some manifest ∧
        registry.fingerprints.get? pluginId = some (manifest.fingerprint sha256) := by
  unfold PluginRegistry.manifest
  cases stored : registry.manifests.get? pluginId with
  | none =>
    refine iff_of_false (by intro read; cases read) ?_
    rintro ⟨same, -⟩
    cases same
  | some other =>
    cases taken : registry.fingerprints.get? pluginId with
    | none =>
      refine iff_of_false (by intro read; cases read) ?_
      rintro ⟨-, same⟩
      cases same
    | some fingerprint =>
      dsimp only
      rw [guard_eq_ok, not_not]
      constructor
      · rintro ⟨rfl, same⟩
        obtain rfl := Except.ok.inj same
        exact ⟨rfl, rfl⟩
      · rintro ⟨same, digest⟩
        obtain rfl := Option.some.inj same
        exact ⟨(Option.some.inj digest).symm, rfl⟩

theorem readmit_eq_ok {registry : PluginRegistry isAlnum} {pluginId : String}
    {manifest : PluginManifest isAlnum} :
    registry.readmit sha256 pluginId = .ok manifest ↔
      registry.manifest sha256 pluginId = .ok manifest ∧
        registry.policy.admitManifest sha256 manifest = .ok () := by
  unfold readmit
  rw [bind_eq_ok]
  constructor
  · rintro ⟨read, stored, rest⟩
    obtain ⟨⟨⟩, admitted, same⟩ := bind_eq_ok.mp rest
    obtain rfl := Except.ok.inj same
    exact ⟨stored, admitted⟩
  · rintro ⟨stored, admitted⟩
    exact ⟨manifest, stored, bind_eq_ok.mpr ⟨(), admitted, rfl⟩⟩

/-- **When a factory's object is returned**: it says of itself the digest that was admitted. -/
theorem instantiate_eq_ok {resolver : String → Attempt PluginTarget}
    {manifest : PluginManifest isAlnum} {plugin : PluginObject} :
    instantiate sha256 resolver manifest = .ok plugin ↔
      resolver manifest.entryPoint = .returns (.factory (.returns plugin)) ∧
        plugin.inspect = .returns (some (manifest.fingerprint sha256)) := by
  unfold instantiate
  rw [bind_eq_ok]
  constructor
  · rintro ⟨target, resolved, made⟩
    rw [Attempt.orRaise_eq_ok] at resolved
    cases target with
    | notCallable => cases made
    | factory call =>
      obtain ⟨object, called, checked⟩ := bind_eq_ok.mp made
      obtain ⟨loaded, inspected, same⟩ := bind_eq_ok.mp checked
      rw [Attempt.orRaise_eq_ok] at called inspected
      cases loaded with
      | none => cases same
      | some loaded =>
        obtain ⟨digest, same⟩ := guard_eq_ok.mp same
        obtain rfl := Except.ok.inj same
        rw [resolved, called, inspected, not_not.mp digest]
        exact ⟨rfl, rfl⟩
  · rintro ⟨resolved, inspected⟩
    refine ⟨_, Attempt.orRaise_eq_ok.mpr resolved, bind_eq_ok.mpr ⟨plugin, rfl, ?_⟩⟩
    refine bind_eq_ok.mpr ⟨_, Attempt.orRaise_eq_ok.mpr inspected, ?_⟩
    exact guard_eq_ok.mpr ⟨not_not_intro rfl, rfl⟩

/-- **When a plugin is loaded**: the stored manifest has the digest of its registration and is
admitted, and the entry point makes an object that has it too. -/
theorem load_eq_ok {registry : PluginRegistry isAlnum} {resolver : String → Attempt PluginTarget}
    {pluginId : String} {plugin : PluginObject} :
    (registry.load sha256 resolver pluginId).2 = .ok plugin ↔
      ∃ manifest, registry.manifests.get? pluginId = some manifest ∧
        registry.fingerprints.get? pluginId = some (manifest.fingerprint sha256) ∧
        registry.policy.admitManifest sha256 manifest = .ok () ∧
        resolver manifest.entryPoint = .returns (.factory (.returns plugin)) ∧
        plugin.inspect = .returns (some (manifest.fingerprint sha256)) := by
  unfold load
  cases admitted : registry.readmit sha256 pluginId with
  | error error =>
    refine iff_of_false (by intro loaded; cases loaded) ?_
    rintro ⟨manifest, stored, digest, allowed, -⟩
    cases (readmit_eq_ok.mpr ⟨manifest_eq_ok.mpr ⟨stored, digest⟩, allowed⟩).symm.trans admitted
  | ok manifest =>
    obtain ⟨read, allowed⟩ := readmit_eq_ok.mp admitted
    obtain ⟨stored, digest⟩ := manifest_eq_ok.mp read
    refine instantiate_eq_ok.trans ⟨?_, ?_⟩
    · rintro ⟨resolved, inspected⟩
      exact ⟨manifest, stored, digest, allowed, resolved, inspected⟩
    · rintro ⟨other, same, -, -, resolved, inspected⟩
      obtain rfl := Option.some.inj (stored.symm.trans same)
      exact ⟨resolved, inspected⟩

variable (sha256) in
/-- What the digests of a registry stand for: manifests that the calls registered and the policy
admitted. -/
structure Accounted (policy : PluginLoadPolicy) (calls : List (PluginCall isAlnum))
    (registry : PluginRegistry isAlnum) : Prop where
  samePolicy : registry.policy = policy
  stored : ∀ pluginId, pluginId ∈ registry.manifests ↔ pluginId ∈ registry.fingerprints
  origin : ∀ pluginId digest, registry.fingerprints.get? pluginId = some digest →
    ∃ given : PluginManifest isAlnum, .register given ∈ calls ∧ given.pluginId = pluginId ∧
      given.fingerprint sha256 = digest ∧ policy.admitManifest sha256 given = .ok ()

theorem Accounted.mono {policy : PluginLoadPolicy} {calls : List (PluginCall isAlnum)}
    {registry : PluginRegistry isAlnum} (accounted : Accounted sha256 policy calls registry)
    (call : PluginCall isAlnum) : Accounted sha256 policy (calls ++ [call]) registry := by
  refine ⟨accounted.samePolicy, accounted.stored, fun pluginId digest found => ?_⟩
  obtain ⟨given, member, rest⟩ := accounted.origin pluginId digest found
  exact ⟨given, List.mem_append_left _ member, rest⟩

/-- **One call** keeps the account. -/
theorem Accounted.step {policy : PluginLoadPolicy} {calls : List (PluginCall isAlnum)}
    {registry : PluginRegistry isAlnum} (accounted : Accounted sha256 policy calls registry)
    (call : PluginCall isAlnum) :
    Accounted sha256 policy (calls ++ [call]) (registry.step sha256 call) := by
  cases call with
  | load resolver pluginId => exact accounted.mono _
  | alter pluginId manifest =>
    unfold PluginRegistry.step
    dsimp only
    by_cases stored : pluginId ∈ registry.manifests
    · rw [if_pos stored]
      refine ⟨accounted.samePolicy, fun other => ?_, (accounted.mono _).origin⟩
      rw [Dict.mem_set, ← accounted.stored other]
      refine or_iff_right_of_imp ?_
      rintro rfl
      exact stored
    · rw [if_neg stored]
      exact accounted.mono _
  | register manifest =>
    unfold PluginRegistry.step
    dsimp only
    cases answered : registry.register sha256 manifest with
    | error error => exact accounted.mono _
    | ok next =>
      obtain ⟨admitted, -, rfl⟩ := register_eq_ok.mp answered
      refine ⟨accounted.samePolicy, fun other => ?_, fun pluginId digest found => ?_⟩
      · rw [Dict.mem_set, Dict.mem_set, accounted.stored other]
      · dsimp only at found
        rw [Dict.get?_set] at found
        split_ifs at found with same
        · obtain rfl := Option.some.inj found
          rw [accounted.samePolicy] at admitted
          exact ⟨manifest, List.mem_append_right _ List.mem_cons_self, same.symm, rfl, admitted⟩
        · exact (accounted.mono _).origin pluginId digest found

theorem accounted_run (policy : PluginLoadPolicy) (calls : List (PluginCall isAlnum)) :
    Accounted sha256 policy calls (run (step sha256) { policy } calls) := by
  induction calls using List.reverseRecOn with
  | nil =>
    refine ⟨rfl, fun _ => Iff.rfl, fun pluginId digest found => ?_⟩
    cases found
  | append_singleton before call ih =>
    rw [run_append]
    exact ih.step call

/-- **Code is pinned.** Over any run of registrations, alterations and loads, loading a plugin runs
code at no entry point but that of a manifest with the digest of one that was registered under the
identifier, which is this manifest where the digests of the two differ otherwise; and the plugin it
returns says that digest of itself. -/
theorem loading_pinned (policy : PluginLoadPolicy) (calls : List (PluginCall isAlnum))
    (resolver : String → Attempt PluginTarget) (pluginId : String) :
    let registry := run (step sha256) { policy } calls
    (∀ entryPoint ∈ (registry.load sha256 resolver pluginId).1,
      ∃ given stored : PluginManifest isAlnum, .register given ∈ calls ∧
        given.pluginId = pluginId ∧ stored.entryPoint = entryPoint ∧
        policy.admitManifest sha256 given = .ok () ∧ policy.admitManifest sha256 stored = .ok () ∧
        stored.fingerprint sha256 = given.fingerprint sha256 ∧
        (Set.InjOn sha256 {given.toJson, stored.toJson} → stored = given)) ∧
    ∀ plugin, (registry.load sha256 resolver pluginId).2 = .ok plugin →
      ∃ given : PluginManifest isAlnum, .register given ∈ calls ∧ given.pluginId = pluginId ∧
        plugin.inspect = .returns (some (given.fingerprint sha256)) := by
  intro registry
  have accounted : Accounted sha256 policy calls registry := accounted_run policy calls
  constructor
  · intro entryPoint member
    unfold load at member
    cases admitted : registry.readmit sha256 pluginId with
    | error error =>
      rw [admitted] at member
      exact absurd member List.not_mem_nil
    | ok stored =>
      rw [admitted] at member
      obtain ⟨read, allowed⟩ := readmit_eq_ok.mp admitted
      obtain ⟨-, digest⟩ := manifest_eq_ok.mp read
      obtain ⟨given, registered, named, same, admits⟩ := accounted.origin pluginId _ digest
      rw [accounted.samePolicy] at allowed
      refine ⟨given, stored, registered, named, (List.mem_singleton.mp member).symm, admits, allowed,
        same.symm, fun injective => ?_⟩
      exact PluginManifest.toJson_injective
        (injective (Set.mem_insert_of_mem _ rfl) (Set.mem_insert _ _) same.symm)
  · intro plugin loaded
    obtain ⟨manifest, -, digest, -, -, inspected⟩ := load_eq_ok.mp loaded
    obtain ⟨given, registered, named, same, -⟩ := accounted.origin pluginId _ digest
    exact ⟨given, registered, named, by rw [inspected, same]⟩

end PluginRegistry

end Dnc
