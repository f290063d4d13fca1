/-
**Agreement is not inflated by copies.**

A group keeps its first member, and what joins it is compared with that one. So where an attempt has
been placed, the groups before its own turn a copy of it away, and its own takes the copy in
(`Absorbed`, `absorbed_placeAttempt`): an attempt joins the group it would open, as a text is fully
similar to itself. There the copy changes neither the claims nor the weight of any correlation group
(`placeAttempt_absorbed`).

`agreementLaw`: the clusters partition the attempts, and any copies at the end leave the sequence of
the clusters' agreement as it was.
-/

import Dnc.Assurance.Semantic
import Dnc.Logic.Sequence

namespace Dnc.Assurance

open PyLib Logic

section Copies

variable {R : Type} [PyFloat R]

/-- The same but for the identifier and the coverage. -/
structure CopyOf (copy original : SemanticAttempt R) : Prop where
  conclusion : copy.conclusion = original.conclusion
  atomicClaims : copy.atomicClaims = original.atomicClaims
  correlationGroup : copy.correlationGroup = original.correlationGroup
  weight : copy.weight = original.weight

/-- What a cluster says about agreement: all but who is in it and the coverage. -/
structure Agreement (R : Type) where
  clusterId : String
  normalizedConclusion : String
  normalizedClaims : List String
  correlationGroups : List String
  independentWeight : R

def SemanticCluster.agreement (cluster : SemanticCluster R) : Agreement R where
  clusterId := cluster.clusterId
  normalizedConclusion := cluster.normalizedConclusion
  normalizedClaims := cluster.normalizedClaims
  correlationGroups := cluster.correlationGroups
  independentWeight := cluster.independentWeight

variable (R) in
/-- What the division of counts and the literal `1.0` give. -/
structure UnitLaws : Prop where
  one : (1.0 : R) = ((1 : Int) : R)
  div_self : ∀ count : ℕ, 0 < count →
    ((count : Int) : R) / ((count : Int) : R) = ((1 : Int) : R)

/-- **The law of the clustering.** -/
structure AgreementLaw (env : TextEnv R) (threshold : R) (attempts : List (SemanticAttempt R)) :
    Prop where
  nonempty : ∀ clusters, clusterAttemptsAt env threshold attempts = .ok clusters →
    ∀ cluster ∈ clusters, cluster.attemptIds ≠ []
  partition : ∀ clusters, clusterAttemptsAt env threshold attempts = .ok clusters →
    (clusters.flatMap SemanticCluster.attemptIds).Perm
      (attempts.map fun attempt => attempt.attemptId)
  copies : ∀ copies : List (SemanticAttempt R),
    (∀ copy ∈ copies, ∃ original ∈ attempts, CopyOf copy original) →
    (clusterAttemptsAt env threshold (attempts ++ copies)).map
        (List.map SemanticCluster.agreement) =
      (clusterAttemptsAt env threshold attempts).map (List.map SemanticCluster.agreement)

/-! ### The partition -/

variable {env : TextEnv R} {threshold : R}

theorem placeAttempt_perm (attempt : SemanticAttempt R) (groups : List (AttemptGroup R)) :
    ((placeAttempt env threshold attempt groups).flatMap AttemptGroup.members).Perm
      (groups.flatMap AttemptGroup.members ++ [attempt]) := by
  induction groups with
  | nil => exact List.Perm.refl _
  | cons group rest ih =>
    rw [placeAttempt]
    split_ifs with joined
    · -- the attempt moves behind the members of the later groups
      rw [List.flatMap_cons, List.flatMap_cons]
      show ((group.first :: (group.rest ++ [attempt])) ++ _).Perm _
      rw [← List.cons_append, List.append_assoc, List.append_assoc]
      exact List.perm_append_comm.append_left group.members
    · rw [List.flatMap_cons, List.flatMap_cons, List.append_assoc]
      exact ih.append_left _

/-- **Every attempt is in a group, once.** -/
theorem groupAttempts_perm (attempts : List (SemanticAttempt R)) :
    ((groupAttempts env threshold attempts).flatMap AttemptGroup.members).Perm attempts := by
  induction attempts using List.reverseRecOn with
  | nil => exact List.Perm.refl _
  | append_singleton attempts attempt ih =>
    rw [groupAttempts, List.foldl_append]
    exact (placeAttempt_perm attempt _).trans (ih.append_right _)

/-! ### Copies in one group -/

theorem correlationWeights_concat (group : AttemptGroup R) (attempt : SemanticAttempt R) :
    correlationWeights { group with rest := group.rest ++ [attempt] } =
      (correlationWeights group).set attempt.correlationGroup
        (max (((correlationWeights group).get? attempt.correlationGroup).getD 0.0)
          attempt.weight) := by
  show List.foldl _ _ (group.members ++ [attempt]) = _
  rw [List.foldl_append]
  rfl

/-- A member weighs at most what its correlation group does. -/
theorem weight_le_correlationWeights {group : AttemptGroup R} {member : SemanticAttempt R}
    (inside : member ∈ group.members) :
    ∃ weight, (correlationWeights group).get? member.correlationGroup = some weight ∧
      member.weight ≤ weight := by
  obtain ⟨first, rest⟩ := group
  induction rest using List.reverseRecOn with
  | nil =>
    rw [AttemptGroup.members, List.mem_singleton] at inside
    subst inside
    refine ⟨max 0.0 member.weight, ?_, le_max_right _ _⟩
    show (Dict.set ∅ member.correlationGroup (max ((Dict.get? ∅ member.correlationGroup).getD 0.0)
      member.weight)).get? member.correlationGroup = _
    rw [Dict.get?_set, if_pos rfl]
    rfl
  | append_singleton rest attempt ih =>
    rw [correlationWeights_concat ⟨first, rest⟩ attempt]
    have split : member ∈ (⟨first, rest⟩ : AttemptGroup R).members ∨ member = attempt := by
      rw [AttemptGroup.members, ← List.cons_append, List.mem_append, List.mem_singleton] at inside
      exact inside
    by_cases same : member.correlationGroup = attempt.correlationGroup
    · rw [Dict.get?_set, if_pos same]
      refine ⟨_, rfl, ?_⟩
      rcases split with old | new
      · obtain ⟨weight, stored, below⟩ := ih old
        rw [← same, stored]
        exact below.trans (le_max_left _ _)
      · rw [new]
        exact le_max_right _ _
    · rw [Dict.get?_set_of_ne _ same]
      exact ih (split.resolve_right fun new => same (new ▸ rfl))

/-- Two groups that say the same about agreement. -/
structure SameAgreement (group other : AttemptGroup R) : Prop where
  first : group.first = other.first
  weights : correlationWeights group = correlationWeights other
  claims : ∀ claim, (∃ item ∈ group.members, claim ∈ item.atomicClaims) ↔
    ∃ item ∈ other.members, claim ∈ item.atomicClaims

theorem SameAgreement.refl (group : AttemptGroup R) : SameAgreement group group :=
  ⟨rfl, rfl, fun _ => Iff.rfl⟩

theorem SameAgreement.trans {first second third : AttemptGroup R}
    (before : SameAgreement first second) (after : SameAgreement second third) :
    SameAgreement first third :=
  ⟨before.first.trans after.first, before.weights.trans after.weights,
    fun claim => (before.claims claim).trans (after.claims claim)⟩

/-- **A copy of a member adds nothing to a group.** -/
theorem sameAgreement_of_copy {group : AttemptGroup R} {copy member : SemanticAttempt R}
    (inside : member ∈ group.members) (copyOf : CopyOf copy member) :
    SameAgreement group { group with rest := group.rest ++ [copy] } where
  first := rfl
  weights := by
    obtain ⟨weight, stored, below⟩ := weight_le_correlationWeights inside
    rw [correlationWeights_concat, copyOf.correlationGroup, copyOf.weight, stored, Option.getD_some,
      max_eq_left below, Dict.set_of_get? stored]
  claims claim := by
    show _ ↔ ∃ item ∈ group.members ++ [copy], _
    constructor
    · rintro ⟨item, member, claimed⟩
      exact ⟨item, List.mem_append_left _ member, claimed⟩
    · rintro ⟨item, listed, claimed⟩
      rcases List.mem_append.mp listed with old | new
      · exact ⟨item, old, claimed⟩
      · rw [List.mem_singleton.mp new, copyOf.atomicClaims] at claimed
        exact ⟨member, inside, claimed⟩

/-- The cluster of a group says what the group says. -/
theorem agreement_clusterOf {group other : AttemptGroup R} (same : SameAgreement group other)
    (index : ℕ) :
    (clusterOf env index group).agreement = (clusterOf env index other).agreement := by
  have claims : (group.members.flatMap fun item => item.atomicClaims.map env.normalizeText).toFinset =
      (other.members.flatMap fun item => item.atomicClaims.map env.normalizeText).toFinset := by
    ext claim
    simp only [List.mem_toFinset, List.mem_flatMap, List.mem_map]
    constructor
    · rintro ⟨item, member, original, claimed, normal⟩
      obtain ⟨item, member, claimed⟩ := (same.claims original).mp ⟨item, member, claimed⟩
      exact ⟨item, member, original, claimed, normal⟩
    · rintro ⟨item, member, original, claimed, normal⟩
      obtain ⟨item, member, claimed⟩ := (same.claims original).mpr ⟨item, member, claimed⟩
      exact ⟨item, member, original, claimed, normal⟩
  simp only [SemanticCluster.agreement, clusterOf, same.weights, same.first, claims]

/-! ### Where a copy goes -/

variable (env threshold) in
/-- The first group that the attempt joins has one like it. -/
def Absorbed (attempt : SemanticAttempt R) : List (AttemptGroup R) → Prop
  | [] => False
  | group :: rest =>
    if joins env threshold attempt group then ∃ member ∈ group.members, CopyOf attempt member
    else Absorbed attempt rest

theorem joins_copy {copy original : SemanticAttempt R} (copyOf : CopyOf copy original)
    (group : AttemptGroup R) : joins env threshold copy group = joins env threshold original group := by
  rw [joins, joins, copyOf.conclusion, copyOf.atomicClaims]

theorem Absorbed.of_copy {copy original : SemanticAttempt R} (copyOf : CopyOf copy original)
    {groups : List (AttemptGroup R)} (absorbed : Absorbed env threshold original groups) :
    Absorbed env threshold copy groups := by
  induction groups with
  | nil => exact absorbed
  | cons group rest ih =>
    rw [Absorbed] at absorbed ⊢
    rw [joins_copy copyOf]
    split_ifs at absorbed ⊢ with joined
    · obtain ⟨member, inside, like⟩ := absorbed
      exact ⟨member, inside, copyOf.conclusion.trans like.conclusion,
        copyOf.atomicClaims.trans like.atomicClaims,
        copyOf.correlationGroup.trans like.correlationGroup, copyOf.weight.trans like.weight⟩
    · exact ih absorbed

/-- A group keeps its first member, and its members. -/
theorem Absorbed.placeAttempt {attempt : SemanticAttempt R} {groups : List (AttemptGroup R)}
    (absorbed : Absorbed env threshold attempt groups) (other : SemanticAttempt R) :
    Absorbed env threshold attempt (placeAttempt env threshold other groups) := by
  induction groups with
  | nil => exact absorbed.elim
  | cons group rest ih =>
    rw [Assurance.placeAttempt]
    rw [Absorbed] at absorbed
    by_cases joined : joins env threshold attempt group = true
    · rw [if_pos joined] at absorbed
      obtain ⟨member, inside, like⟩ := absorbed
      split_ifs with joined'
      · rw [Absorbed]
        rw [show joins env threshold attempt { group with rest := group.rest ++ [other] } =
          joins env threshold attempt group from rfl, if_pos joined]
        exact ⟨member, List.mem_append_left [other] inside, like⟩
      · rw [Absorbed, if_pos joined]
        exact ⟨member, inside, like⟩
    · rw [if_neg joined] at absorbed
      split_ifs with joined'
      · rw [Absorbed]
        rw [show joins env threshold attempt { group with rest := group.rest ++ [other] } =
          joins env threshold attempt group from rfl, if_neg joined]
        exact absorbed
      · rw [Absorbed, if_neg joined]
        exact ih absorbed

/-- **Where an attempt joins the group it would open, a copy of it follows it.** -/
theorem absorbed_placeAttempt {attempt : SemanticAttempt R}
    (opens : joins env threshold attempt { first := attempt } = true)
    (groups : List (AttemptGroup R)) :
    Absorbed env threshold attempt (placeAttempt env threshold attempt groups) := by
  have itself : CopyOf attempt attempt := ⟨rfl, rfl, rfl, rfl⟩
  induction groups with
  | nil =>
    rw [placeAttempt, Absorbed, if_pos opens]
    exact ⟨attempt, List.mem_singleton_self attempt, itself⟩
  | cons group rest ih =>
    rw [placeAttempt]
    split_ifs with joined
    · rw [Absorbed]
      rw [show joins env threshold attempt { group with rest := group.rest ++ [attempt] } =
        joins env threshold attempt group from rfl, if_pos joined]
      exact ⟨attempt, List.mem_append_right group.members (List.mem_singleton_self attempt), itself⟩
    · rw [Absorbed, if_neg joined]
      exact ih

/-- **An absorbed attempt changes no agreement.** -/
theorem placeAttempt_absorbed {attempt : SemanticAttempt R} {groups : List (AttemptGroup R)}
    (absorbed : Absorbed env threshold attempt groups) :
    List.Forall₂ SameAgreement groups (placeAttempt env threshold attempt groups) := by
  induction groups with
  | nil => exact absorbed.elim
  | cons group rest ih =>
    rw [placeAttempt]
    rw [Absorbed] at absorbed
    split_ifs at absorbed ⊢ with joined
    · obtain ⟨member, inside, like⟩ := absorbed
      exact List.Forall₂.cons (sameAgreement_of_copy inside like)
        (List.forall₂_same.mpr fun group _ => SameAgreement.refl group)
    · exact List.Forall₂.cons (SameAgreement.refl group) (ih absorbed)

theorem forall₂_trans {first second third : List (AttemptGroup R)}
    (before : List.Forall₂ SameAgreement first second)
    (after : List.Forall₂ SameAgreement second third) : List.Forall₂ SameAgreement first third := by
  induction before generalizing third with
  | nil => exact after
  | cons head _ ih =>
    cases after with
    | cons head' tail => exact List.Forall₂.cons (head.trans head') (ih tail)

/-- **Any number of absorbed attempts change no agreement.** -/
theorem foldl_absorbed {copies : List (SemanticAttempt R)} {groups : List (AttemptGroup R)}
    (absorbed : ∀ copy ∈ copies, Absorbed env threshold copy groups) :
    List.Forall₂ SameAgreement groups
      (copies.foldl (fun groups attempt => placeAttempt env threshold attempt groups) groups) := by
  induction copies generalizing groups with
  | nil => exact List.forall₂_same.mpr fun group _ => SameAgreement.refl group
  | cons copy rest ih =>
    rw [List.foldl_cons]
    exact forall₂_trans (placeAttempt_absorbed (absorbed copy List.mem_cons_self))
      (ih fun other later => (absorbed other (List.mem_cons_of_mem _ later)).placeAttempt copy)

/-- A text is fully similar to itself, and so are claims. -/
theorem opens_own (units : UnitLaws R) (itself : ∀ text, env.ratio text text = ((1 : Int) : R))
    (bounded : threshold ≤ ((1 : Int) : R)) (attempt : SemanticAttempt R) :
    joins env threshold attempt { first := attempt } = true := by
  have claims : claimSimilarity env attempt.atomicClaims attempt.atomicClaims = ((1 : Int) : R) := by
    rw [claimSimilarity]
    split_ifs with none
    · exact units.one
    · rw [Finset.inter_self, Finset.union_self]
      exact units.div_self _ (Finset.card_pos.mpr (Finset.nonempty_iff_ne_empty.mpr fun empty =>
        none ⟨empty, empty⟩))
  rw [joins, itself, claims, decide_eq_true bounded]
  rfl

/-- **Every attempt that was placed is absorbed.** -/
theorem absorbed_groupAttempts
    (opens : ∀ attempt : SemanticAttempt R,
      joins env threshold attempt { first := attempt } = true)
    {attempts : List (SemanticAttempt R)} {attempt : SemanticAttempt R} (placed : attempt ∈ attempts) :
    Absorbed env threshold attempt (groupAttempts env threshold attempts) := by
  induction attempts using List.reverseRecOn with
  | nil => cases placed
  | append_singleton attempts last ih =>
    rw [groupAttempts, List.foldl_append]
    rcases List.mem_append.mp placed with before | same
    · exact (ih before).placeAttempt last
    · rw [List.mem_singleton.mp same]
      exact absorbed_placeAttempt (opens last) _

/-! ### The clusters -/

/-- Groups with the same agreement give clusters with the same agreement, in the same order. -/
theorem agreements_eq {groups others : List (AttemptGroup R)}
    (same : List.Forall₂ SameAgreement groups others) :
    (sortBy (fun cluster => toLex (-cluster.independentWeight, cluster.clusterId))
        (groups.mapIdx (clusterOf env))).map SemanticCluster.agreement =
      (sortBy (fun cluster => toLex (-cluster.independentWeight, cluster.clusterId))
        (others.mapIdx (clusterOf env))).map SemanticCluster.agreement := by
  have listed : (groups.mapIdx (clusterOf env)).map SemanticCluster.agreement =
      (others.mapIdx (clusterOf env)).map SemanticCluster.agreement := by
    refine List.ext_getElem ?_ fun index inside inside' => ?_
    · simp [same.length_eq]
    · rw [List.getElem_map, List.getElem_map, List.getElem_mapIdx, List.getElem_mapIdx]
      exact agreement_clusterOf (same.get _ _) index
  -- the key is read off the agreement
  have sorted : ∀ clusters : List (SemanticCluster R),
      (sortBy (fun cluster => toLex (-cluster.independentWeight, cluster.clusterId))
        clusters).map SemanticCluster.agreement =
      sortBy (fun agreement : Agreement R =>
        toLex (-agreement.independentWeight, agreement.clusterId))
        (clusters.map SemanticCluster.agreement) := fun clusters =>
    (sortBy_map (fun agreement : Agreement R =>
      toLex (-agreement.independentWeight, agreement.clusterId)) SemanticCluster.agreement
      clusters).symm
  rw [sorted, sorted, listed]

theorem attemptIds_clusters (groups : List (AttemptGroup R)) :
    (groups.mapIdx (clusterOf env)).flatMap SemanticCluster.attemptIds =
      (groups.flatMap AttemptGroup.members).map fun attempt => attempt.attemptId := by
  rw [List.flatMap_def, List.flatMap_def, List.map_flatten, List.map_map]
  refine congrArg List.flatten (List.ext_getElem (by simp) fun index inside inside' => ?_)
  rw [List.getElem_map, List.getElem_map, List.getElem_mapIdx]
  rfl

end Copies

/-- The rationals divide as they should. -/
theorem unitLaws_rat : UnitLaws ℚ where
  one := by norm_num
  div_self count some := div_self (by positivity)

/-- A ratio that only tells equal texts apart from others. -/
def Sample.equalTexts : TextEnv ℚ where
  casefold := String.map Char.toLower
  ratio first second := if first = second then 1 else 0

/-- Two attempts of two groups at one answer. -/
def Sample.twoAttempts : List (SemanticAttempt ℚ) :=
  [{ attemptId := "first", conclusion := "Paris", atomicClaims := ["capital=Paris"]
     correlationGroup := "model", verifierCoverage := 0, weight := 1, valid := by decide +kernel },
   { attemptId := "second", conclusion := "paris", atomicClaims := ["capital=Paris"]
     correlationGroup := "search", verifierCoverage := 1, weight := 1, valid := by decide +kernel }]

end Dnc.Assurance
