/-
**What the decoder raises.**

`from_dict` translates five kinds of exceptions of `_from_validated_dict` and lets all others
through. `fromValidatedDict_raises`: there are no others. The decoder reads, iterates, parses
members of enumerations and calls the constructors of the contracts; each of these raises one of the
five, and what is put together of them does too.
-/

import Dnc.Ir.Serialization
import Dnc.Logic.Raises

namespace Dnc

open PyLib Logic

/-- One of the five kinds. -/
def Translated (error : PyError) : Prop := translated error = true

/-! ### Reading -/

theorem getItem_raises (value : Json) (key : String) : OnlyRaises Translated (value.getItem key) := by
  unfold Json.getItem
  cases value with
  | obj fields => dsimp only; split <;> first | exact .ok _ | exact .error rfl
  | _ => exact .error rfl

theorem getD_raises (value : Json) (key : String) (default : Json) :
    OnlyRaises Translated (value.getD key default) := by
  unfold Json.getD
  cases value with
  | obj fields => exact .ok _
  | _ => exact .error rfl

theorem iterate_raises (value : Json) : OnlyRaises Translated value.iterate := by
  unfold Json.iterate
  split
  · exact .ok _
  · exact .ok _
  · exact .ok _
  · exact .error rfl

theorem parse_raises {α : Type} [PyEnum α] (value : Json) :
    OnlyRaises Translated (PyEnum.parse value : Except PyError α) := by
  unfold PyEnum.parse
  split
  · split
    · exact .ok _
    · exact .error rfl
  · exact .error rfl

theorem decodeText_raises (value : Json) : OnlyRaises Translated (decodeText value) := by
  cases value with
  | str text => exact .ok text
  | _ => exact .error rfl

theorem decodeObject_raises (value : Json) : OnlyRaises Translated (decodeObject value) := by
  cases value with
  | obj fields => exact .ok fields
  | _ => exact .error rfl

theorem decodeNatural_raises (name : String) (value : Json) :
    OnlyRaises Translated (decodeNatural name value) := by
  unfold decodeNatural
  split
  · exact .ok _
  · exact .error rfl

theorem decodeEnumD_raises {α : Type} [PyEnum α] (value : Json) (name : String) (fallback : α) :
    OnlyRaises Translated (decodeEnumD value name fallback) :=
  (getD_raises value name _).bind fun _ => parse_raises _

theorem decodeEnum_raises {α : Type} [PyEnum α] (value : Json) (name : String) :
    OnlyRaises Translated (decodeEnum value name : Except PyError α) :=
  (getItem_raises value name).bind fun _ => parse_raises _

theorem decodeItems_raises (value : Json) (name : String) :
    OnlyRaises Translated (decodeItems value name) :=
  (getD_raises value name _).bind fun _ => iterate_raises _

theorem dictOf_raises (value : Json) : OnlyRaises Translated (dictOf value) := by
  unfold dictOf
  split
  · exact .ok _
  · refine (iterate_raises _).bind fun items => OnlyRaises.foldlM (fun entries item _ => ?_) []
    refine (iterate_raises item).bind fun parts => ?_
    split
    · exact .ok _
    · exact .error rfl
    · exact .error rfl

theorem identity_raises (value : Json) (name : String) :
    OnlyRaises Translated (validateIdentity value name) := by
  unfold validateIdentity
  split
  · split_ifs
    · exact .ok _
    · exact .error rfl
  · exact .error rfl

theorem unitID_raises (value : Json) : OnlyRaises Translated (UnitID.ofJson value) :=
  (identity_raises value "UnitID").map _

/-! ### Constructors -/

theorem requireTexts_raises (name : String) (values : List Json) :
    OnlyRaises Translated (requireTexts name values) := by
  refine OnlyRaises.mapM fun value _ => ?_
  cases value with
  | str text => exact OnlyRaises.guard rfl (.ok text)
  | _ => exact .error rfl

theorem requireBool_raises (message : String) (value : Json) :
    OnlyRaises Translated (requireBool message value) := by
  cases value with
  | bool flag => exact .ok flag
  | _ => exact .error rfl

theorem requireOptionalText_raises (message : String) (value : Json) :
    OnlyRaises Translated (requireOptionalText message value) := by
  cases value with
  | null => exact .ok none
  | str text => exact OnlyRaises.guard rfl (.ok (some text))
  | _ => exact .error rfl

theorem construct_raises {α β : Type} {violation : α → Option PyError}
    {build : ∀ data, violation data = none → β} {data : α}
    (finds : OnlyFinds Translated (violation data)) :
    OnlyRaises Translated (construct violation build data) := by
  unfold construct
  split
  · exact .ok _
  · rename_i error found
    exact .error (finds error found)

theorem port_violation (data : PortData) : OnlyFinds Translated data.violation :=
  .check rfl (.check rfl .none)

theorem port_ofData_raises (data : PortData) :
    OnlyRaises Translated (PortContract.ofData data) :=
  construct_raises (port_violation data)

theorem port_build_raises (portId : Json) (direction : PortDirection) (kind : PortKind)
    (schema : Json) (cardinality : PortCardinality) (description : Json) :
    OnlyRaises Translated
      (PortContract.build portId direction kind schema cardinality description) := by
  unfold PortContract.build
  split
  · split
    · split_ifs
      · split
        · exact port_ofData_raises _
        · exact .error rfl
      · exact .error rfl
    · exact .error rfl
  · exact .error rfl

theorem idempotency_violation (data : IdempotencyData) : OnlyFinds Translated data.violation :=
  .check rfl (.check rfl (.check rfl .none))

theorem idempotency_ofData_raises (data : IdempotencyData) :
    OnlyRaises Translated (IdempotencyContract.ofData data) :=
  construct_raises (idempotency_violation data)

theorem idempotency_build_raises (mode : IdempotencyMode) (scope : IdempotencyScope)
    (keyField payloadHashRequired : Json) :
    OnlyRaises Translated (IdempotencyContract.build mode scope keyField payloadHashRequired) := by
  unfold IdempotencyContract.build
  refine OnlyRaises.ite (fun _ => .error rfl) fun _ => ?_
  refine OnlyRaises.ite (fun _ => .error rfl) fun _ => ?_
  refine (requireOptionalText_raises _ _).bind fun _ => ?_
  exact (requireBool_raises _ _).bind fun _ => idempotency_ofData_raises _

theorem sideEffects_violation (data : SideEffectData) : OnlyFinds Translated data.violation :=
  .check rfl (.ite (.check rfl (.check rfl .none)) (.check rfl (.check rfl (.check rfl
    (.ite (.check rfl (.check rfl .none)) .none)))))

theorem sideEffects_ofData_raises (data : SideEffectData) :
    OnlyRaises Translated (SideEffectContract.ofData data) :=
  construct_raises (sideEffects_violation data)

theorem placement_violation (data : PlacementData) : OnlyFinds Translated data.violation :=
  .check rfl (.check rfl (.check rfl (.check rfl (.check rfl (.check rfl (.check rfl
    (.check rfl (.check rfl (.check rfl .none)))))))))

theorem placement_ofData_raises (data : PlacementData) :
    OnlyRaises Translated (PlacementContract.ofData data) :=
  construct_raises (placement_violation data)

theorem security_violation (data : SecurityData) : OnlyFinds Translated data.violation :=
  .check rfl (.check rfl (.check rfl (.check rfl (.check rfl .none))))

theorem security_ofData_raises (data : SecurityData) :
    OnlyRaises Translated (SecurityContract.ofData data) :=
  construct_raises (security_violation data)

theorem sideEffects_build_raises (classification : SideEffectClass)
    (effectTypes : Finset EffectType) (compensationAction : Json) (minimumIsolation : IsolationGrade) :
    OnlyRaises Translated (SideEffectContract.build classification effectTypes compensationAction
      minimumIsolation) :=
  (requireOptionalText_raises _ _).bind fun _ => sideEffects_ofData_raises _

theorem placement_build_raises (allowedRegions allowedDevices allowedRuntimes requiredCapabilities
    preferredRegions preferredDevices : List Json) (requiresLocalInputs : Json) :
    OnlyRaises Translated (PlacementContract.build allowedRegions allowedDevices allowedRuntimes
      requiredCapabilities preferredRegions preferredDevices requiresLocalInputs) :=
  (requireTexts_raises _ _).bind fun _ =>
  (requireTexts_raises _ _).bind fun _ =>
  (requireTexts_raises _ _).bind fun _ =>
  (requireTexts_raises _ _).bind fun _ =>
  (requireTexts_raises _ _).bind fun _ =>
  (requireTexts_raises _ _).bind fun _ =>
  (placement_ofData_raises _).bind fun _ =>
  (requireBool_raises _ _).bind fun _ => placement_ofData_raises _

theorem security_build_raises (tenantId : Json) (requiredPermissions securityLabels : List Json)
    (outputClassification maximumInputClassification : DataClassification)
    (allowedResidencies : List Json) (trustZone : Json) (acceptedTrustZones : List Json)
    (confidentialComputeRequired : Json) :
    OnlyRaises Translated (SecurityContract.build tenantId requiredPermissions securityLabels
      outputClassification maximumInputClassification allowedResidencies trustZone
      acceptedTrustZones confidentialComputeRequired) := by
  refine (requireOptionalText_raises _ _).bind fun _ => ?_
  refine (requireTexts_raises _ _).bind fun _ => ?_
  refine (requireTexts_raises _ _).bind fun _ => ?_
  refine (requireTexts_raises _ _).bind fun _ => ?_
  refine (requireTexts_raises _ _).bind fun _ => ?_
  cases trustZone with
  | str text => exact (requireBool_raises _ _).bind fun _ => security_ofData_raises _
  | _ => exact .error rfl

/-! ### Parts of a document -/

theorem decodePort_raises (value : Json) : OnlyRaises Translated (decodePort value) :=
  (getItem_raises _ _).bind fun _ =>
  (decodeEnum_raises _ _).bind fun _ =>
  (decodeEnum_raises _ _).bind fun _ =>
  (getD_raises _ _ _).bind fun _ =>
  (decodeEnumD_raises _ _ _).bind fun _ =>
  (getD_raises _ _ _).bind fun _ => port_build_raises _ _ _ _ _ _

theorem decodeIdempotency_raises (value : Json) : OnlyRaises Translated (decodeIdempotency value) :=
  (decodeEnumD_raises _ _ _).bind fun _ =>
  (decodeEnumD_raises _ _ _).bind fun _ =>
  (getD_raises _ _ _).bind fun _ =>
  (getD_raises _ _ _).bind fun _ => idempotency_build_raises _ _ _ _

theorem decodeSideEffects_raises (value : Json) : OnlyRaises Translated (decodeSideEffects value) :=
  (decodeEnumD_raises _ _ _).bind fun _ =>
  (decodeItems_raises _ _).bind fun _ =>
  (OnlyRaises.mapM fun _ _ => parse_raises _).bind fun _ =>
  (getD_raises _ _ _).bind fun _ =>
  (decodeEnumD_raises _ _ _).bind fun _ => sideEffects_build_raises _ _ _ _

theorem decodePlacement_raises (value : Json) : OnlyRaises Translated (decodePlacement value) :=
  (decodeItems_raises _ _).bind fun _ =>
  (decodeItems_raises _ _).bind fun _ =>
  (decodeItems_raises _ _).bind fun _ =>
  (decodeItems_raises _ _).bind fun _ =>
  (decodeItems_raises _ _).bind fun _ =>
  (decodeItems_raises _ _).bind fun _ =>
  (getD_raises _ _ _).bind fun _ => placement_build_raises _ _ _ _ _ _ _

theorem decodeSecurity_raises (value : Json) : OnlyRaises Translated (decodeSecurity value) :=
  (getD_raises _ _ _).bind fun _ =>
  (decodeItems_raises _ _).bind fun _ =>
  (decodeItems_raises _ _).bind fun _ =>
  (decodeEnumD_raises _ _ _).bind fun _ =>
  (decodeEnumD_raises _ _ _).bind fun _ =>
  (decodeItems_raises _ _).bind fun _ =>
  (getD_raises _ _ _).bind fun _ =>
  (decodeItems_raises _ _).bind fun _ =>
  (getD_raises _ _ _).bind fun _ => security_build_raises _ _ _ _ _ _ _ _ _

theorem decodeContract_raises (value : Json) : OnlyRaises Translated (decodeContract value) := by
  refine (dictOf_raises value).bind fun fields => ?_
  refine (iterate_raises _).bind fun ports => ?_
  refine (OnlyRaises.mapM fun port _ => decodePort_raises port).bind fun _ => ?_
  refine (decodeIdempotency_raises _).bind fun _ => ?_
  refine (decodeSideEffects_raises _).bind fun _ => ?_
  refine (decodePlacement_raises _).bind fun _ => ?_
  refine (decodeSecurity_raises _).bind fun _ => ?_
  exact OnlyRaises.ite (fun _ => .error rfl) fun _ => .ok _

theorem ofList_raises (items : List Json) : OnlyRaises Translated (PySet.ofList items) := by
  refine OnlyRaises.foldlM (fun set item _ => ?_) ∅
  unfold PySet.add
  split_ifs
  · exact .ok _
  · exact .ok _
  · exact .error rfl

theorem decodeMutationContract_raises (value : Json) :
    OnlyRaises Translated (decodeMutationContract value) :=
  (decodeItems_raises _ _).bind fun _ =>
  (ofList_raises _).bind fun _ =>
  (getD_raises _ _ _).bind fun _ =>
  (getD_raises _ _ _).bind fun _ => .ok _

theorem decodeConstraint_raises (value : Json) : OnlyRaises Translated (decodeConstraint value) :=
  (getItem_raises _ _).bind fun _ =>
  (decodeEnum_raises _ _).bind fun _ =>
  (getItem_raises _ _).bind fun _ =>
  (getItem_raises _ _).bind fun _ => .ok _

theorem decodeUnit_raises (value : Json) : OnlyRaises Translated (decodeUnit value) := by
  refine (getItem_raises _ _).bind fun _ => (unitID_raises _).bind fun _ => ?_
  refine (getItem_raises _ _).bind fun _ => (decodeText_raises _).bind fun _ => ?_
  refine (decodeEnum_raises _ _).bind fun _ => ?_
  refine (decodeEnum_raises _ _).bind fun _ => ?_
  refine (decodeEnum_raises _ _).bind fun _ => ?_
  refine (decodeItems_raises _ _).bind fun _ => ?_
  refine (OnlyRaises.mapM fun unitId _ => unitID_raises unitId).bind fun _ => ?_
  refine (getD_raises _ _ _).bind fun _ => ?_
  refine (getD_raises _ _ _).bind fun _ => (decodeContract_raises _).bind fun _ => ?_
  refine (getD_raises _ _ _).bind fun _ => (decodeMutationContract_raises _).bind fun _ => ?_
  refine (decodeItems_raises _ _).bind fun _ => ?_
  exact (OnlyRaises.mapM fun item _ => decodeConstraint_raises item).bind fun _ => .ok _

theorem decodeEdge_raises (value : Json) : OnlyRaises Translated (decodeEdge value) := by
  refine (getItem_raises _ _).bind fun _ => (unitID_raises _).bind fun _ => ?_
  refine (getItem_raises _ _).bind fun _ => (unitID_raises _).bind fun _ => ?_
  refine (decodeEnum_raises _ _).bind fun _ => ?_
  refine (getD_raises _ _ _).bind fun _ => ?_
  refine (getD_raises _ _ _).bind fun _ => ?_
  exact (getD_raises _ _ _).bind fun _ => .ok _

theorem decodeVersion_raises (value : Json) : OnlyRaises Translated (decodeVersion value) := by
  refine (getD_raises _ _ _).bind fun _ => (decodeNatural_raises _ _).bind fun _ => ?_
  refine (getD_raises _ _ _).bind fun _ => (decodeNatural_raises _ _).bind fun _ => ?_
  refine (getD_raises _ _ _).bind fun _ => (decodeNatural_raises _ _).bind fun _ => ?_
  exact (getD_raises _ _ _).bind fun _ => (decodeNatural_raises _ _).bind fun _ => .ok _

/-! ### Documents -/

theorem addDecodedUnit_raises (graph : StructuralGraph) (entry : String × Json) :
    OnlyRaises Translated (addDecodedUnit graph entry) := by
  refine (decodeUnit_raises entry.2).bind fun unit => ?_
  unfold StructuralGraph.addUnit
  exact OnlyRaises.guard rfl (.ok _)

/-- **The decoder raises what `from_dict` translates.** -/
theorem fromValidatedDict_raises (data : Json) :
    OnlyRaises Translated (fromValidatedDict data) := by
  refine (getItem_raises _ _).bind fun _ => ?_
  refine ((identity_raises _ _).map _).bind fun graphId => ?_
  refine (getD_raises _ _ _).bind fun _ => (decodeVersion_raises _).bind fun version => ?_
  refine (getD_raises _ _ _).bind fun _ => (decodeObject_raises _).bind fun metadata => ?_
  refine (getD_raises _ _ _).bind fun _ => (decodeObject_raises _).bind fun units => ?_
  refine (OnlyRaises.foldlM (fun graph entry _ => addDecodedUnit_raises graph entry) _).bind
    fun graph => ?_
  refine (decodeItems_raises _ _).bind fun _ => ?_
  exact (OnlyRaises.mapM fun item _ => decodeEdge_raises item).bind fun _ => .ok _

end Dnc
