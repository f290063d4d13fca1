/-
**Semantic agreement between attempts.**

`dnc.assurance.semantic.cluster_attempts`: attempts with similar conclusions and similar claims form
a cluster, which weighs what its correlation groups weigh; the heaviest cluster comes first.

Case folding and the similarity ratio of `difflib` come from the standard library's tables and
heuristics and are parameters (`TextEnv`); nothing is asked of them.
-/

import Dnc.PyLib.Number
import Dnc.PyLib.Sorted
import Dnc.PyLib.Text
import Dnc.PyLib.Value
import Mathlib.Data.Prod.Lex

namespace Dnc.Assurance

open PyLib

/-- `str.casefold` and `SequenceMatcher(None, first, second).ratio()`. -/
structure TextEnv (R : Type) where
  casefold : String → String
  ratio : String → String → R

/-- `re.sub(r"\s+", " ", text)`. -/
def collapseSpaces : List Char → List Char
  | [] => []
  | [c] => if isSpace c then [' '] else [c]
  | c :: next :: rest =>
    if isSpace c && isSpace next then collapseSpaces (next :: rest)
    else (if isSpace c then ' ' else c) :: collapseSpaces (next :: rest)

/-- `normalize_text`. -/
def TextEnv.normalizeText {R : Type} (env : TextEnv R) (text : String) : String :=
  env.casefold (String.ofList (collapseSpaces (strip text).toList))

section Attempts

variable {R : Type} [PyFloat R]

structure SemanticAttemptData (R : Type) where
  attemptId : String
  conclusion : String
  atomicClaims : List String
  correlationGroup : String
  verifierCoverage : R
  weight : R

/-- `SemanticAttempt.__post_init__`. -/
def SemanticAttemptData.violation (data : SemanticAttemptData R) : Option PyError :=
  if data.attemptId = "" ∨ data.conclusion = "" ∨ data.correlationGroup = "" then
    some (.valueError
      "semantic attempt identity, conclusion, and correlation group are required")
  else if ¬ (((0 : Int) : R) ≤ data.verifierCoverage ∧ data.verifierCoverage ≤ ((1 : Int) : R)) ∨
      data.weight ≤ ((0 : Int) : R) then
    some (.valueError "coverage and weight are invalid")
  else none

variable (R) in
structure SemanticAttempt extends SemanticAttemptData R where
  valid : toSemanticAttemptData.violation = none

/-- The constructor call. -/
def SemanticAttempt.ofData : SemanticAttemptData R → Except PyError (SemanticAttempt R) :=
  construct SemanticAttemptData.violation SemanticAttempt.mk

structure SemanticCluster (R : Type) where
  clusterId : String
  normalizedConclusion : String
  attemptIds : List String
  normalizedClaims : List String
  correlationGroups : List String
  independentWeight : R
  verifierCoverage : R

/-! ### Clusters -/

variable (R) in
/-- The attempts of a cluster, never empty. -/
structure AttemptGroup where
  first : SemanticAttempt R
  rest : List (SemanticAttempt R) := []

def AttemptGroup.members (group : AttemptGroup R) : List (SemanticAttempt R) :=
  group.first :: group.rest

variable (env : TextEnv R)

/-- `_claim_similarity`. -/
def claimSimilarity (left right : List String) : R :=
  let a := (left.map env.normalizeText).toFinset
  let b := (right.map env.normalizeText).toFinset
  if a = ∅ ∧ b = ∅ then 1.0
  else (((a ∩ b).card : Int) : R) / (((a ∪ b).card : Int) : R)

/-- The condition under which an attempt joins a group. -/
def joins (threshold : R) (attempt : SemanticAttempt R) (group : AttemptGroup R) : Bool :=
  decide (threshold ≤ env.ratio (env.normalizeText group.first.conclusion)
      (env.normalizeText attempt.conclusion)) &&
    decide (threshold ≤ claimSimilarity env group.first.atomicClaims attempt.atomicClaims)

/-- The body of the first loop: the first group that the attempt joins, or a new one. -/
def placeAttempt (threshold : R) (attempt : SemanticAttempt R) :
    List (AttemptGroup R) → List (AttemptGroup R)
  | [] => [{ first := attempt }]
  | group :: rest =>
    if joins env threshold attempt group then
      { group with rest := group.rest ++ [attempt] } :: rest
    else group :: placeAttempt threshold attempt rest

/-- `correlation_weights`. -/
def correlationWeights (group : AttemptGroup R) : Dict String R :=
  group.members.foldl (fun weights attempt =>
    weights.set attempt.correlationGroup
      (max ((weights.get? attempt.correlationGroup).getD 0.0) attempt.weight)) ∅

/-- The body of the second loop. -/
def clusterOf (index : Nat) (group : AttemptGroup R) : SemanticCluster R :=
  let weights := correlationWeights group
  { clusterId := s!"cluster-{index + 1}"
    normalizedConclusion := env.normalizeText group.first.conclusion
    attemptIds := group.members.map fun item => item.attemptId
    normalizedClaims := sortedElems
      ((group.members.flatMap fun item => item.atomicClaims.map env.normalizeText).toFinset)
    correlationGroups := sortBy id weights.keys
    independentWeight := pySum weights.values
    verifierCoverage :=
      pySum (group.members.map fun item => item.verifierCoverage * item.weight) /
        pySum (group.members.map fun item => item.weight) }

/-- The first loop. -/
def groupAttempts (threshold : R) (attempts : List (SemanticAttempt R)) : List (AttemptGroup R) :=
  attempts.foldl (fun groups attempt => placeAttempt env threshold attempt groups) []

/-- `cluster_attempts`. -/
def clusterAttemptsAt (threshold : R) (attempts : List (SemanticAttempt R)) :
    Except PyError (List (SemanticCluster R)) :=
  if ¬ (((0 : Int) : R) ≤ threshold ∧ threshold ≤ ((1 : Int) : R)) then
    .error (.valueError "similarity_threshold MUST be between 0 and 1")
  else
    .ok (sortBy (fun cluster => toLex (-cluster.independentWeight, cluster.clusterId))
      ((groupAttempts env threshold attempts).mapIdx (clusterOf env)))

/-- `cluster_attempts` with its default threshold. -/
def clusterAttempts (attempts : List (SemanticAttempt R)) :
    Except PyError (List (SemanticCluster R)) :=
  clusterAttemptsAt env 0.88 attempts

end Attempts

end Dnc.Assurance
