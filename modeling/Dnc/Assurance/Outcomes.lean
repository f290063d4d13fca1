/-
**Outcome labels.**

`dnc.assurance.outcomes`: what is observed of a target, immediately or later, arrives as labels. The
store keeps the labels by identifier and, for every tenant and target, the identifiers in the order
in which they arrived.

The abstract store is the list of the labels taken (`Ledger`). `step_represents`: the two
dictionaries always represent one, so that nothing is stored twice or lost. `outcome_history` is what
the readers see of it: histories are read without an error, only grow, and a label that supersedes
another comes behind it, for the same tenant and target and not observed earlier.
-/

import Dnc.Logic.Run
import Dnc.Logic.Sequence
import Dnc.PyLib.Data
import Dnc.PyLib.Dict
import Dnc.PyLib.Enum

namespace Dnc.Assurance

open PyLib Logic

inductive OutcomeLabelStatus where
  | provisional | confirmed | corrected | retracted
deriving DecidableEq, Repr

/-- `bool | float | str`. -/
inductive LabelValue where
  | bool (value : Bool)
  | float (value : ℚ)
  | str (value : String)
deriving DecidableEq

/-- `==` of values: `True` is one and `False` zero. -/
def LabelValue.normal : LabelValue → LabelValue
  | .bool value => .float (if value then 1 else 0)
  | value => value

structure OutcomeLabelData where
  labelId : String
  targetId : String
  value : LabelValue
  observedAtNs : Int
  source : String
  tenantId : String := "tenant-default"
  status : OutcomeLabelStatus := .provisional
  supersedes : Option String := none
  evidenceRefs : List String := []
deriving DecidableEq

/-- `OutcomeLabel.__post_init__`. -/
def OutcomeLabelData.violation (data : OutcomeLabelData) : Option PyError :=
  if data.labelId = "" ∨ data.targetId = "" ∨ data.source = "" ∨ data.tenantId = "" then
    some (.valueError "outcome label identity, source, and tenant MUST be non-empty")
  else if data.observedAtNs < 0 then some (.valueError "observed_at_ns MUST be non-negative")
  else none

structure OutcomeLabel extends OutcomeLabelData where
  valid : toOutcomeLabelData.violation = none

namespace OutcomeLabel

/-- The fields that `==` of labels compares. -/
def normal (label : OutcomeLabel) : OutcomeLabelData :=
  { label.toOutcomeLabelData with value := label.value.normal }

/-- `==` of labels. -/
def Same (first second : OutcomeLabel) : Prop := first.normal = second.normal

instance (first second : OutcomeLabel) : Decidable (Same first second) :=
  inferInstanceAs (Decidable (_ = _))

/-- `(label.tenant_id, label.target_id)`. -/
def key (label : OutcomeLabel) : String × String := (label.tenantId, label.targetId)

theorem Same.refl (label : OutcomeLabel) : Same label label := rfl

end OutcomeLabel

structure OutcomeLabelStore where
  labels : Dict String OutcomeLabel := ∅
  targetHistory : Dict (String × String) (List String) := ∅

namespace OutcomeLabelStore

/-- What is wrong with the label that a new one supersedes. -/
def supersessionFault (label : OutcomeLabel) (prior : Option OutcomeLabel) : Option PyError :=
  match prior with
  | none => some (.valueError "superseded label MUST exist for the same tenant and target")
  | some prior =>
    if prior.key ≠ label.key then
      some (.valueError "superseded label MUST exist for the same tenant and target")
    else if label.status ≠ .corrected ∧ label.status ≠ .retracted then
      some (.valueError "superseding labels MUST be corrected or retracted")
    else if label.observedAtNs < prior.observedAtNs then
      some (.valueError "delayed corrections MUST NOT precede the superseded observation")
    else none

/-- `OutcomeLabelStore.ingest`. -/
def ingest (store : OutcomeLabelStore) (label : OutcomeLabel) : Except PyError OutcomeLabelStore :=
  match store.labels.get? label.labelId with
  | some existing =>
    if existing.Same label then .ok store
    else .error (.valueError s!"conflicting outcome label id: {label.labelId}")
  | none =>
    match label.supersedes.bind fun prior => supersessionFault label (store.labels.get? prior) with
    | some error => .error error
    | none => .ok {
        labels := store.labels.set label.labelId label
        targetHistory := store.targetHistory.set label.key
          ((store.targetHistory.get? label.key).getD [] ++ [label.labelId]) }

/-- `self._labels[label_id]`. -/
def labelOf (store : OutcomeLabelStore) (labelId : String) : Except PyError OutcomeLabel :=
  match store.labels.get? labelId with
  | some label => .ok label
  | none => .error (.keyError labelId)

/-- `OutcomeLabelStore.history`. -/
def history (store : OutcomeLabelStore) (targetId : String)
    (tenantId : String := "tenant-default") : Except PyError (List OutcomeLabel) :=
  ((store.targetHistory.get? (tenantId, targetId)).getD []).mapM store.labelOf

/-- `OutcomeLabelStore.current`. -/
def current (store : OutcomeLabelStore) (targetId : String)
    (tenantId : String := "tenant-default") : Except PyError (Option OutcomeLabel) := do
  let history ← store.history targetId tenantId
  return history.getLast?

/-- The store after an ingestion; one that raises leaves it as it is. -/
def step (store : OutcomeLabelStore) (label : OutcomeLabel) : OutcomeLabelStore :=
  match store.ingest label with
  | .ok next => next
  | .error _ => store

end OutcomeLabelStore

/-! ### The labels taken -/

/-- The labels taken so far, in the order of their arrival. -/
abbrev Ledger := List OutcomeLabel

namespace Ledger

/-- The label of an identifier. -/
def find (ledger : Ledger) (labelId : String) : Option OutcomeLabel :=
  ledger.find? fun label => label.labelId == labelId

/-- A new label that may be taken: of a new identifier, and behind what it supersedes. -/
def Admits (ledger : Ledger) (label : OutcomeLabel) : Prop :=
  ledger.find label.labelId = none ∧
    (label.supersedes.bind fun prior =>
      OutcomeLabelStore.supersessionFault label (ledger.find prior)) = none

instance (ledger : Ledger) (label : OutcomeLabel) : Decidable (ledger.Admits label) :=
  inferInstanceAs (Decidable (_ ∧ _))

/-- The ledger after a label arrives. -/
def take (ledger : Ledger) (label : OutcomeLabel) : Ledger :=
  if ledger.Admits label then ledger ++ [label] else ledger

/-- A label supersedes one that came before, for the same tenant and target, and is not observed
earlier. -/
def Follows (before : Ledger) (label : OutcomeLabel) : Prop :=
  ∀ priorId, label.supersedes = some priorId → ∃ prior ∈ before,
    prior.labelId = priorId ∧ prior.key = label.key ∧ prior.observedAtNs ≤ label.observedAtNs ∧
      (label.status = .corrected ∨ label.status = .retracted)

/-- **A ledger in order**: no identifier twice, and every label behind what it supersedes. -/
structure InOrder (ledger : Ledger) : Prop where
  distinct : (ledger.map fun label => label.labelId).Nodup
  follows : ∀ before label after, ledger = before ++ label :: after → Follows before label

theorem find_eq_some {ledger : Ledger} {labelId : String} {label : OutcomeLabel}
    (found : ledger.find labelId = some label) : label ∈ ledger ∧ label.labelId = labelId :=
  ⟨List.mem_of_find?_eq_some found, beq_iff_eq.mp (List.find?_some found :)⟩

theorem find_eq_none {ledger : Ledger} {labelId : String} :
    ledger.find labelId = none ↔ labelId ∉ ledger.map fun label => label.labelId := by
  rw [find, List.find?_eq_none]
  simp

theorem Admits.follows {ledger : Ledger} {label : OutcomeLabel} (admits : ledger.Admits label) :
    Follows ledger label := by
  intro priorId supersedes
  have faultless := admits.2
  rw [supersedes, Option.bind_some] at faultless
  unfold OutcomeLabelStore.supersessionFault at faultless
  cases found : ledger.find priorId with
  | none =>
    rw [found] at faultless
    cases faultless
  | some prior =>
    rw [found] at faultless
    obtain ⟨member, named⟩ := find_eq_some found
    dsimp only at faultless
    split_ifs at faultless with foreign status early
    exact ⟨prior, member, named, not_not.mp foreign, not_lt.mp early, by tauto⟩

/-- **The step of the ledger** keeps it in order. -/
theorem InOrder.take {ledger : Ledger} (inOrder : ledger.InOrder) (label : OutcomeLabel) :
    (ledger.take label).InOrder := by
  unfold Ledger.take
  by_cases admits : ledger.Admits label
  · rw [if_pos admits]
    constructor
    · rw [List.map_append, List.nodup_append]
      refine ⟨inOrder.distinct, List.nodup_singleton _, fun old member new here => ?_⟩
      obtain rfl := List.mem_singleton.mp here
      rintro rfl
      exact find_eq_none.mp admits.1 member
    · intro before other after split
      rcases List.eq_nil_or_concat after with rfl | ⟨middle, last, rfl⟩
      · obtain ⟨rfl, same⟩ := List.append_inj' split rfl
        obtain rfl : label = other := by simpa using same
        exact admits.follows
      · rw [List.concat_eq_append, ← List.cons_append, ← List.append_assoc] at split
        obtain ⟨rfl, -⟩ := List.append_inj' split rfl
        exact inOrder.follows before other middle rfl
  · rw [if_neg admits]
    exact inOrder

theorem prefix_take (ledger : Ledger) (label : OutcomeLabel) : ledger <+: ledger.take label := by
  unfold take
  split_ifs
  · exact List.prefix_append _ _
  · exact List.prefix_refl _

/-- Where identifiers do not repeat, a label is found by its own. -/
theorem InOrder.find {ledger : Ledger} (inOrder : ledger.InOrder) {label : OutcomeLabel}
    (member : label ∈ ledger) : ledger.find label.labelId = some label := by
  cases found : ledger.find label.labelId with
  | none => exact absurd (List.mem_map_of_mem member) (find_eq_none.mp found)
  | some other =>
    obtain ⟨listed, same⟩ := find_eq_some found
    rw [List.inj_on_of_nodup_map inOrder.distinct listed member same]

/-- The labels of a tenant and target. -/
def ofKey (ledger : Ledger) (key : String × String) : Ledger :=
  ledger.filter fun label => label.key = key

/-- The labels of a tenant and target are in order: what they supersede is among them. -/
theorem InOrder.ofKey {ledger : Ledger} (inOrder : ledger.InOrder) (key : String × String) :
    (ledger.ofKey key).InOrder := by
  constructor
  · exact List.Nodup.sublist (List.filter_sublist.map _) inOrder.distinct
  · intro before label after split priorId supersedes
    obtain ⟨early, late, rfl, kept, rest⟩ := List.filter_eq_append_iff.mp split
    obtain ⟨others, behind, rfl, skipped, own, -⟩ := List.filter_eq_cons_iff.mp rest
    rw [← List.append_assoc] at inOrder
    obtain ⟨prior, member, named, sameKey, earlier, status⟩ :=
      inOrder.follows (early ++ others) label behind rfl priorId supersedes
    have priorOwn : decide (prior.key = key) = true := by
      rw [sameKey]
      exact own
    refine ⟨prior, ?_, named, sameKey, earlier, status⟩
    rcases List.mem_append.mp member with first | second
    · rw [← kept]
      exact List.mem_filter.mpr ⟨first, priorOwn⟩
    · exact absurd priorOwn (skipped prior second)

/-- The ledger holds only what arrived. -/
theorem mem_run_take {labels : List OutcomeLabel} {label : OutcomeLabel}
    (member : label ∈ run take [] labels) : label ∈ labels := by
  induction labels using List.reverseRecOn with
  | nil => exact member
  | append_singleton before last ih =>
    rw [run_append] at member
    change label ∈ take (run take [] before) last at member
    unfold take at member
    split_ifs at member
    · exact List.mem_append.mpr ((List.mem_append.mp member).imp_left ih)
    · exact List.mem_append_left _ (ih member)

/-- The ledger only grows. -/
theorem prefix_run_take (ledger : Ledger) (labels : List OutcomeLabel) :
    ledger <+: run take ledger labels := by
  induction labels generalizing ledger with
  | nil => exact List.prefix_refl _
  | cons label rest ih => exact (prefix_take ledger label).trans (ih _)

end Ledger

/-! ### The store and its ledger -/

namespace OutcomeLabelStore

/-- The dictionaries hold the labels of a ledger in order, and the identifiers of every tenant and
target as the ledger lists them. -/
structure Represents (store : OutcomeLabelStore) (ledger : Ledger) : Prop where
  inOrder : ledger.InOrder
  labels : ∀ labelId, store.labels.get? labelId = ledger.find labelId
  histories : ∀ key, (store.targetHistory.get? key).getD [] =
    (ledger.ofKey key).map fun label => label.labelId

/-- **What an ingestion answers**: a known label is taken for what it was, a new one is taken where
the ledger admits it. -/
theorem ingest_eq_ok {store : OutcomeLabelStore} {ledger : Ledger}
    (represents : store.Represents ledger) {label : OutcomeLabel} {next : OutcomeLabelStore} :
    store.ingest label = .ok next ↔
      (∃ existing, ledger.find label.labelId = some existing ∧ existing.Same label ∧
          next = store) ∨
        ledger.Admits label ∧ next = {
          labels := store.labels.set label.labelId label
          targetHistory := store.targetHistory.set label.key
            ((store.targetHistory.get? label.key).getD [] ++ [label.labelId]) } := by
  have prior : (label.supersedes.bind fun prior =>
      supersessionFault label (store.labels.get? prior)) =
        label.supersedes.bind fun prior => supersessionFault label (ledger.find prior) :=
    congrArg label.supersedes.bind (funext fun prior => by rw [represents.labels])
  unfold ingest
  rw [represents.labels, prior]
  cases found : ledger.find label.labelId with
  | some existing =>
    have known : ¬ ledger.Admits label := by
      intro admits
      cases found.symm.trans admits.1
    dsimp only
    by_cases same : existing.Same label
    · rw [if_pos same]
      constructor
      · intro answered
        exact Or.inl ⟨existing, rfl, same, (Except.ok.inj answered).symm⟩
      · rintro (⟨-, -, -, rfl⟩ | ⟨admits, -⟩)
        · rfl
        · exact absurd admits known
    · rw [if_neg same]
      refine iff_of_false (by intro answered; cases answered) ?_
      rintro (⟨other, here, alike, -⟩ | ⟨admits, -⟩)
      · exact same (Option.some.inj here ▸ alike)
      · exact known admits
  | none =>
    have admits : ledger.Admits label ↔ (label.supersedes.bind fun prior =>
        supersessionFault label (ledger.find prior)) = none := and_iff_right found
    rw [admits]
    cases (label.supersedes.bind fun prior =>
        supersessionFault label (ledger.find prior)) with
    | some error =>
      refine iff_of_false (by intro answered; cases answered) ?_
      rintro (⟨other, here, -⟩ | ⟨faultless, -⟩)
      · cases here
      · cases faultless
    | none =>
      constructor
      · intro answered
        exact Or.inr ⟨rfl, (Except.ok.inj answered).symm⟩
      · rintro (⟨other, here, -⟩ | ⟨-, rfl⟩)
        · cases here
        · rfl

/-- **One ingestion** is one step of the ledger. -/
theorem step_represents {store : OutcomeLabelStore} {ledger : Ledger}
    (represents : store.Represents ledger) (label : OutcomeLabel) :
    (store.step label).Represents (ledger.take label) := by
  have inOrder := represents.inOrder.take label
  by_cases admits : ledger.Admits label
  · have answered := (ingest_eq_ok represents).mpr (Or.inr ⟨admits, rfl⟩)
    have taken : ledger.take label = ledger ++ [label] := if_pos admits
    unfold step
    rw [answered]
    rw [taken] at inOrder ⊢
    refine ⟨inOrder, fun labelId => ?_, fun key => ?_⟩
    · dsimp only
      rw [Dict.get?_set, Ledger.find, List.find?_append, represents.labels]
      by_cases same : labelId = label.labelId
      · have free : ledger.find? (fun other => other.labelId == labelId) = none := by
          rw [same]
          exact admits.1
        rw [if_pos same, free, Option.none_or, List.find?_cons_of_pos (by simp [same])]
      · rw [if_neg same, List.find?_cons_of_neg (by simpa using Ne.symm same), List.find?_nil,
          Option.or_none]
        rfl
    · dsimp only
      rw [Dict.get?_set, Ledger.ofKey, List.filter_append, List.map_append]
      by_cases same : key = label.key
      · rw [if_pos same, Option.getD_some, same, represents.histories,
          List.filter_cons_of_pos (by simp), List.filter_nil]
        rfl
      · rw [if_neg same, represents.histories,
          List.filter_cons_of_neg (by simpa using Ne.symm same), List.filter_nil, List.map_nil,
          List.append_nil]
        rfl
  · have kept : store.step label = store := by
      unfold step
      cases answered : store.ingest label with
      | error error => rfl
      | ok next =>
        rcases (ingest_eq_ok represents).mp answered with ⟨-, -, -, rfl⟩ | ⟨here, -⟩
        · rfl
        · exact absurd here admits
    have same : ledger.take label = ledger := if_neg admits
    rw [kept, same]
    exact represents

theorem run_represents (labels : List OutcomeLabel) :
    (run step {} labels).Represents (run Ledger.take [] labels) := by
  induction labels using List.reverseRecOn with
  | nil =>
    refine ⟨⟨List.nodup_nil, fun before label after split => ?_⟩, fun _ => rfl, fun _ => rfl⟩
    exact absurd split.symm (by simp)
  | append_singleton before label ih =>
    rw [run_append, run_append]
    exact step_represents ih label

/-- **A history** is read without an error: the labels of the ledger. -/
theorem history_eq {store : OutcomeLabelStore} {ledger : Ledger}
    (represents : store.Represents ledger) (targetId tenantId : String) :
    store.history targetId tenantId = .ok (ledger.ofKey (tenantId, targetId)) := by
  unfold history
  rw [represents.histories]
  have read : ∀ label ∈ ledger.ofKey (tenantId, targetId),
      store.labelOf label.labelId = .ok label := by
    intro label member
    unfold labelOf
    rw [represents.labels, represents.inOrder.find (List.mem_of_mem_filter member)]
  have mapped : ((ledger.ofKey (tenantId, targetId)).map (·.labelId)).mapM store.labelOf =
      .ok ((ledger.ofKey (tenantId, targetId)).map id) := mapM_map_eq_ok read
  rw [mapped, List.map_id]

/-- A label that an ingestion takes is in the ledger behind it, as it is or as taken before. -/
theorem taken_of_ingest {store next : OutcomeLabelStore} {ledger : Ledger}
    (represents : store.Represents ledger) {label : OutcomeLabel}
    (ingested : store.ingest label = .ok next) :
    ∃ taken ∈ ledger.take label, taken.Same label := by
  rcases (ingest_eq_ok represents).mp ingested with ⟨existing, found, same, -⟩ | ⟨admits, -⟩
  · exact ⟨existing, (Ledger.prefix_take ledger label).subset (Ledger.find_eq_some found).1, same⟩
  · have listed : ledger.take label = ledger ++ [label] := if_pos admits
    rw [listed]
    exact ⟨label, List.mem_append_right _ List.mem_cons_self, OutcomeLabel.Same.refl label⟩

/-- **What is read of a target** after any run: an ordered history of labels that arrived for it,
the last of which is current; it has every label whose ingestion was accepted, and whatever arrives
later only adds to it. -/
theorem outcome_history (labels more : List OutcomeLabel) (targetId tenantId : String) :
    ∃ history later, (run step {} labels).history targetId tenantId = .ok history ∧
      (run step {} (labels ++ more)).history targetId tenantId = .ok later ∧
      (run step {} labels).current targetId tenantId = .ok history.getLast? ∧
      history <+: later ∧ Ledger.InOrder history ∧
      (∀ label ∈ history, label ∈ labels ∧ label.key = (tenantId, targetId)) ∧
      ∀ before label after next, labels = before ++ label :: after →
        (run step {} before).ingest label = .ok next → label.key = (tenantId, targetId) →
          ∃ taken ∈ history, taken.Same label := by
  have represents := run_represents labels
  have now := history_eq represents targetId tenantId
  have later := history_eq (run_represents (labels ++ more)) targetId tenantId
  refine ⟨_, _, now, later, ?_, ?_, represents.inOrder.ofKey _, fun label member => ?_, ?_⟩
  · unfold current
    rw [now]
    rfl
  · rw [run_append]
    exact (Ledger.prefix_run_take _ more).filter _
  · obtain ⟨listed, own⟩ := List.mem_filter.mp member
    exact ⟨Ledger.mem_run_take listed, of_decide_eq_true own⟩
  · rintro before label after next rfl ingested own
    obtain ⟨taken, member, same⟩ := taken_of_ingest (run_represents before) ingested
    have key : taken.key = label.key := by
      have tenant := congrArg OutcomeLabelData.tenantId same
      have target := congrArg OutcomeLabelData.targetId same
      exact Prod.ext tenant target
    have listed : taken ∈ run Ledger.take [] (before ++ label :: after) := by
      rw [run_append, run_cons]
      exact (Ledger.prefix_run_take _ after).subset member
    exact ⟨taken, List.mem_filter.mpr ⟨listed, decide_eq_true (key.trans own)⟩, same⟩

end OutcomeLabelStore

end Dnc.Assurance
