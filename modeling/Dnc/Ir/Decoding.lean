/-
**Decoding what was encoded, part by part.**

The decoder reads objects by key only, so what it makes of an encoded part does not depend on the
order of the keys. The lemmas below say so for every part: for every change of key order `t`,
decoding `t` of an encoded part gives a part with the same content. A part without free-form values
comes back itself.
-/

import Dnc.Ir.Content
import Dnc.Ir.Serialization

namespace Dnc

open PyLib Json

theorem parse_enumText {α : Type} [PyEnum α] (member : α) :
    PyEnum.parse (enumText member) = .ok member :=
  PyEnum.parse_value member

theorem iterate_textList (texts : List String) :
    (textList texts).iterate = .ok (texts.map .str) := rfl

theorem iterate_sortedTexts (texts : Finset String) :
    (sortedTexts texts).iterate = .ok ((sortedElems texts).map .str) := rfl

/-- The values of members parse to the members. -/
theorem mapM_parse {α : Type} [PyEnum α] (members : List α) :
    (members.map fun member => Json.str (PyEnum.value member)).mapM PyEnum.parse =
      (.ok members : Except PyError (List α)) := by
  induction members with
  | nil => rfl
  | cons member rest ih =>
    rw [List.map_cons, List.mapM_cons, PyEnum.parse_value, ih]
    rfl

/-- The sorted values of a set of members parse to members that make up the set. -/
theorem mapM_parse_sorted {α : Type} [PyEnum α] [DecidableEq α] (members : Finset α) :
    ∃ parsed : List α,
      ((sortedElems (members.image PyEnum.value)).map Json.str).mapM PyEnum.parse =
        (.ok parsed : Except PyError (List α)) ∧ parsed.toFinset = members := by
  have values : ∀ texts : List String, (∀ text ∈ texts, ∃ member ∈ members,
      PyEnum.value member = text) → ∃ parsed : List α, texts = parsed.map PyEnum.value := by
    intro texts
    induction texts with
    | nil => exact fun _ => ⟨[], rfl⟩
    | cons text rest ih =>
      intro all
      obtain ⟨member, -, same⟩ := all text List.mem_cons_self
      obtain ⟨parsed, later⟩ := ih fun other later => all other (List.mem_cons_of_mem _ later)
      exact ⟨member :: parsed, by rw [List.map_cons, same, later]⟩
  obtain ⟨parsed, same⟩ := values (sortedElems (members.image PyEnum.value)) fun text listed =>
    Finset.mem_image.mp (mem_sortedElems.mp listed)
  refine ⟨parsed, ?_, ?_⟩
  · rw [same, List.map_map]
    exact mapM_parse parsed
  · refine Finset.image_injective PyEnum.injective ?_
    have images : parsed.toFinset.image PyEnum.value = (parsed.map PyEnum.value).toFinset := by
      ext text
      simp only [Finset.mem_image, List.mem_toFinset, List.mem_map]
    rw [images, ← same, toFinset_sortedElems]

/-- The elements of a list of identifiers decode to the identifiers. -/
theorem mapM_ofJson (unitIds : List UnitID) :
    ((unitIds.map UnitID.value).map Json.str).mapM UnitID.ofJson =
      (.ok unitIds : Except PyError (List UnitID)) := by
  induction unitIds with
  | nil => rfl
  | cons unitId rest ih =>
    rw [List.map_cons, List.map_cons, List.mapM_cons, UnitID.ofJson_value, ih]
    rfl

/-- Where every element decodes as related, the list does. -/
theorem mapM_related {ε α β γ : Type} {f : α → Except ε β} {g : β → γ} {m : α → γ} {items : List α}
    (each : ∀ item ∈ items, ∃ decoded, f item = .ok decoded ∧ g decoded = m item) :
    ∃ decoded, items.mapM f = .ok decoded ∧ decoded.map g = items.map m := by
  induction items with
  | nil => exact ⟨[], rfl, rfl⟩
  | cons item rest ih =>
    obtain ⟨first, decodes, same⟩ := each item List.mem_cons_self
    obtain ⟨others, decodesRest, sameRest⟩ :=
      ih fun other member => each other (List.mem_cons_of_mem _ member)
    refine ⟨first :: others, ?_, ?_⟩
    · rw [List.mapM_cons, decodes, decodesRest]
      rfl
    · rw [List.map_cons, List.map_cons, same, sameRest]

section Reading

variable {t : Json → Json} (reorders : Reorders t)

/-! ### Reading a reordered object -/

include reorders

theorem getItem_reordered (fields : JsonObject) (key : String) :
    (t (.obj fields)).getItem key =
      match fields.lookup key with
      | some value => .ok (t value)
      | none => .error (.keyError key) := by
  obtain ⟨entries, same, -, lookups⟩ := reorders.obj fields
  rw [same]
  simp only [Json.getItem, lookups]
  cases fields.lookup key <;> rfl

theorem getD_reordered (fields : JsonObject) (key : String) (fallback : Json) :
    (t (.obj fields)).getD key fallback = .ok (((fields.lookup key).map t).getD fallback) := by
  obtain ⟨entries, same, -, lookups⟩ := reorders.obj fields
  rw [same]
  simp only [Json.getD, lookups]

theorem reordered_optionalText (text? : Option String) :
    t (optionalText text?) = optionalText text? := by
  cases text? with
  | none => exact reorders.null
  | some text => exact reorders.str text

theorem reordered_enumText {α : Type} [PyEnum α] (member : α) :
    t (enumText member) = enumText member :=
  reorders.str _

theorem reordered_textList (texts : List String) : t (textList texts) = textList texts := by
  unfold textList
  rw [reorders.arr, List.map_map]
  exact congrArg Json.arr (List.map_congr_left fun text _ => reorders.str text)

theorem reordered_sortedTexts (texts : Finset String) : t (sortedTexts texts) = sortedTexts texts :=
  reordered_textList reorders _

/-! ### Contracts -/

theorem decodePort_encodePort (port : PortContract) :
    ∃ decoded, decodePort (t (encodePort port)) = .ok decoded ∧ decoded.content = port.content := by
  obtain ⟨entries, same, perm, -⟩ := reorders.obj port.schema
  have empty : entries = [] ↔ port.schema = [] := by
    rw [← List.length_eq_zero_iff, ← List.length_eq_zero_iff, perm.length_eq, List.length_map]
  have valid : ({ port.toPortData with schema := entries } : PortData).violation = none := by
    have given := port.valid
    unfold PortData.violation at given ⊢
    simp only [empty]
    exact given
  have schema : (Json.obj entries).sortKeys = (Json.obj port.schema).sortKeys := by
    rw [← same]
    exact reorders.same _
  refine ⟨⟨_, valid⟩, ?_, ?_⟩
  · simp only [decodePort, encodePort, decodeEnum, decodeEnumD, getItem_reordered reorders,
      getD_reordered reorders, List.lookup_cons, String.reduceBEq, bind, Except.bind, Option.map_some,
      Option.getD_some, reordered_enumText reorders, parse_enumText, reorders.str, same,
      PortContract.build, port.normalized, if_true]
    exact construct_of_valid valid
  · unfold PortContract.content
    rw [schema]

theorem decodeIdempotency_encodeIdempotency (contract : IdempotencyContract) :
    decodeIdempotency (t (encodeIdempotency contract)) = .ok contract := by
  simp only [decodeIdempotency, encodeIdempotency, decodeEnumD, getD_reordered reorders,
    List.lookup_cons, String.reduceBEq, bind, Except.bind, Option.map_some, Option.getD_some,
    reordered_enumText reorders, parse_enumText, reordered_optionalText reorders, reorders.bool]
  exact contract.build_self

theorem decodeSideEffects_encodeSideEffects (contract : SideEffectContract) :
    decodeSideEffects (t (encodeSideEffects contract)) = .ok contract := by
  obtain ⟨parsed, parses, members⟩ := mapM_parse_sorted contract.effectTypes
  simp only [decodeSideEffects, encodeSideEffects, decodeEnumD, decodeItems, getD_reordered reorders,
    List.lookup_cons, String.reduceBEq, bind, Except.bind, Option.map_some, Option.getD_some,
    reordered_enumText reorders, parse_enumText, reordered_optionalText reorders,
    reordered_sortedTexts reorders, iterate_sortedTexts, parses, members]
  exact contract.build_self

theorem decodePlacement_encodePlacement (contract : PlacementContract) :
    decodePlacement (t (encodePlacement contract)) = .ok contract := by
  simp only [decodePlacement, encodePlacement, decodeItems, getD_reordered reorders,
    List.lookup_cons, String.reduceBEq, bind, Except.bind, Option.map_some, Option.getD_some,
    reordered_sortedTexts reorders, reordered_textList reorders, iterate_sortedTexts,
    iterate_textList, reorders.bool]
  exact contract.build_self

theorem decodeSecurity_encodeSecurity (contract : SecurityContract) :
    decodeSecurity (t (encodeSecurity contract)) = .ok contract := by
  simp only [decodeSecurity, encodeSecurity, decodeEnumD, decodeItems, getD_reordered reorders,
    List.lookup_cons, String.reduceBEq, bind, Except.bind, Option.map_some, Option.getD_some,
    reordered_enumText reorders, parse_enumText, reordered_optionalText reorders,
    reordered_sortedTexts reorders, iterate_sortedTexts, reorders.bool, reorders.str]
  exact contract.build_self

/-- A list of encoded parts, each of which decodes with the content of its part. -/
theorem decodeList_reordered {α β γ : Type} {encode : α → Json} {decode : Json → Except PyError β}
    {g : β → γ} {m : α → γ} (parts : List α)
    (each : ∀ part ∈ parts, ∃ decoded, decode (t (encode part)) = .ok decoded ∧ g decoded = m part) :
    ∃ items decoded, (t (.arr (parts.map encode))).iterate = .ok items ∧
      items.mapM decode = .ok decoded ∧ decoded.map g = parts.map m := by
  obtain ⟨decoded, decodes, same⟩ := mapM_related (f := fun part => decode (t (encode part))) each
  refine ⟨(parts.map encode).map t, decoded, ?_, ?_, same⟩
  · rw [reorders.arr]
    rfl
  · rw [List.map_map, List.mapM_map]
    exact decodes

theorem decodeContract_encodeContract (contract : UnitContract) :
    ∃ decoded, decodeContract (t (encodeContract contract)) = .ok decoded ∧
      decoded.inputSchema = t contract.inputSchema ∧
      decoded.outputSchema = t contract.outputSchema ∧
      decoded.preconditions = t contract.preconditions ∧
      decoded.postconditions = t contract.postconditions ∧
      decoded.resourceLimits = t contract.resourceLimits ∧
      decoded.ports.map PortContract.content = contract.ports.map PortContract.content ∧
      decoded.idempotency = contract.idempotency ∧ decoded.sideEffects = contract.sideEffects ∧
      decoded.placement = contract.placement ∧ decoded.security = contract.security := by
  obtain ⟨items, ports, iterates, decodes, same⟩ := decodeList_reordered reorders contract.ports
    fun port _ => decodePort_encodePort reorders port
  obtain ⟨entries, object, perm, lookups⟩ :=
    reorders.obj (Schema.entriesOf (encodeContract contract))
  have object : t (encodeContract contract) = .obj entries := object
  have known : (entries.any fun field => decide (field.1 ∉ contractKeywords ++ contractSections)) =
      false := by
    rw [List.any_eq_false]
    intro field member
    obtain ⟨origin, given, rfl⟩ := List.mem_map.mp (perm.mem_iff.mp member)
    have listed := List.mem_map_of_mem (f := Prod.fst) given
    have keys : origin.1 ∈ contractKeywords ++ contractSections := by
      simpa [Schema.entriesOf, encodeContract, contractKeywords, contractSections] using listed
    rw [decide_eq_true_eq]
    exact not_not.mpr keys
  refine ⟨{
    inputSchema := t contract.inputSchema
    outputSchema := t contract.outputSchema
    preconditions := t contract.preconditions
    postconditions := t contract.postconditions
    resourceLimits := t contract.resourceLimits
    ports := ports
    idempotency := contract.idempotency
    sideEffects := contract.sideEffects
    placement := contract.placement
    security := contract.security }, ?_, rfl, rfl, rfl, rfl, rfl, same, rfl, rfl, rfl, rfl⟩
  unfold decodeContract
  rw [object]
  simp only [dictOf, lookups, Schema.entriesOf, encodeContract, List.lookup_cons, String.reduceBEq,
    Option.map_some, Option.getD_some, bind, Except.bind, iterates, decodes,
    decodeIdempotency_encodeIdempotency reorders,
    decodeSideEffects_encodeSideEffects reorders, decodePlacement_encodePlacement reorders,
    decodeSecurity_encodeSecurity reorders, known]
  rfl

/-! ### Units and edges -/

/-- A value with a hash is no object and no list. -/
theorem reordered_hashable {value : Json} (hashed : value.hashable = true) : t value = value := by
  cases value with
  | null => exact reorders.null
  | bool value => exact reorders.bool value
  | int value => exact reorders.int value
  | float value => exact reorders.float value
  | str value => exact reorders.str value
  | arr items => simp [Json.hashable] at hashed
  | obj fields => simp [Json.hashable] at hashed

theorem decodeMutationContract_encodeMutationContract (contract : MutationContract)
    {allowed : List Json} (perm : allowed.Perm contract.allowedMutations.elems) :
    ∃ decoded, decodeMutationContract (t (encodeMutationContract contract allowed)) = .ok decoded ∧
      decoded.allowedMutations.elems.Perm contract.allowedMutations.elems ∧
      decoded.maxChildren = t contract.maxChildren ∧
      decoded.isImmutable = t contract.isImmutable := by
  obtain ⟨rebuilt, builds, elems⟩ := PySet.ofList_perm perm
  have fixed : allowed.map t = allowed := by
    have each : ∀ value ∈ allowed, t value = id value := fun value member =>
      reordered_hashable reorders
        (contract.allowedMutations.hashable value (perm.mem_iff.mp member))
    rw [List.map_congr_left each, List.map_id]
  refine ⟨⟨rebuilt, t contract.maxChildren, t contract.isImmutable⟩, ?_, elems, rfl, rfl⟩
  simp only [decodeMutationContract, encodeMutationContract, decodeItems, getD_reordered reorders,
    List.lookup_cons, String.reduceBEq, bind, Except.bind, Option.map_some, Option.getD_some,
    reorders.arr, fixed, Json.iterate, builds]
  rfl

theorem decodeConstraint_encodeConstraint (constraint : Constraint) :
    ∃ decoded, decodeConstraint (t (encodeConstraint constraint)) = .ok decoded ∧
      decoded.content = constraint.content := by
  refine ⟨⟨t constraint.constraintId, constraint.tier, t constraint.expression,
    t constraint.description⟩, ?_, ?_⟩
  · simp only [decodeConstraint, encodeConstraint, decodeEnum, getItem_reordered reorders,
      List.lookup_cons, String.reduceBEq, bind, Except.bind, reordered_enumText reorders,
      parse_enumText]
    rfl
  · have same := reorders.same
    unfold Json.Same at same
    simp only [Constraint.content, same]

theorem decodeUnit_encodeUnitWith (unit : ComputationalUnit) {allowed : List Json}
    (perm : allowed.Perm unit.mutationContract.allowedMutations.elems) :
    ∃ decoded, decodeUnit (t (encodeUnitWith unit allowed)) = .ok decoded ∧
      decoded.content = unit.content := by
  obtain ⟨contract, decodesContract, contractSame⟩ :=
    decodeContract_encodeContract reorders unit.contract
  obtain ⟨mutation, decodesMutation, mutationSame⟩ :=
    decodeMutationContract_encodeMutationContract reorders unit.mutationContract perm
  obtain ⟨items, constraints, iterates, decodesConstraints, constraintsSame⟩ :=
    decodeList_reordered reorders unit.constraints
      fun constraint _ => decodeConstraint_encodeConstraint reorders constraint
  refine ⟨{ unit with
    contract := contract
    mutationContract := mutation
    constraints := constraints
    metadata := t unit.metadata }, ?_, ?_⟩
  · simp only [decodeUnit, encodeUnitWith, decodeEnum, decodeItems, getItem_reordered reorders,
      getD_reordered reorders, List.lookup_cons, String.reduceBEq, bind, Except.bind,
      Option.map_some, Option.getD_some, reorders.str, UnitID.ofJson_value, decodeText,
      reordered_enumText reorders, parse_enumText, reordered_textList reorders, iterate_textList,
      mapM_ofJson, decodesContract, decodesMutation, iterates, decodesConstraints]
    rfl
  · obtain ⟨inputs, outputs, before, after, limits, ports, idempotency, effects, placement,
      security⟩ := contractSame
    obtain ⟨elems, children, immutable⟩ := mutationSame
    have same := reorders.same
    unfold Json.Same at same
    have allowedSame : (mutation.allowedMutations.elems : Multiset Json) =
        unit.mutationContract.allowedMutations.elems := Quot.sound elems
    simp only [ComputationalUnit.content, inputs, outputs, before, after, limits, ports,
      idempotency, effects, placement, security, children, immutable, constraintsSame, allowedSame,
      same]

theorem decodeUnit_encodeUnit {unit : ComputationalUnit} {document : Json}
    (encoded : encodeUnit unit = .ok document) :
    ∃ decoded, decodeUnit (t document) = .ok decoded ∧ decoded.content = unit.content := by
  unfold encodeUnit at encoded
  cases sorted : unit.mutationContract.allowedMutations.sorted with
  | error error => simp [sorted, Except.map] at encoded
  | ok allowed =>
    simp only [sorted, Except.map, Except.ok.injEq] at encoded
    rw [← encoded]
    exact decodeUnit_encodeUnitWith reorders unit (PySet.sorted_perm sorted)

theorem decodeEdge_encodeEdge (edge : Edge) :
    ∃ decoded, decodeEdge (t (encodeEdge edge)) = .ok decoded ∧ decoded.content = edge.content := by
  refine ⟨{ edge with
    metadata := t edge.metadata
    sourcePort := t edge.sourcePort
    targetPort := t edge.targetPort }, ?_, ?_⟩
  · simp only [decodeEdge, encodeEdge, decodeEnum, getItem_reordered reorders,
      getD_reordered reorders, List.lookup_cons, String.reduceBEq, bind, Except.bind,
      Option.map_some, Option.getD_some, reorders.str, UnitID.ofJson_value,
      reordered_enumText reorders, parse_enumText]
    rfl
  · have same := reorders.same
    unfold Json.Same at same
    simp only [Edge.content, same]

end Reading

end Dnc
