/-
**Searching for the version that went wrong.**

`dnc.learning.continual.RootCauseRollback.identify_violating_version`: a binary search along a list
of versions, which rolls the knowledge base back to every version it looks at, and afterwards to the
version whose number comes before the one found.

* `searchLoop_spec`: what the loop has seen splits the list, the versions before `lo` do not
  violate, those behind `hi` do, and the knowledge base is where the last look was if nothing was
  found. So the loop finds the earliest version that violates (`identify_found`).
* `identify_none`: if nothing is found the knowledge base stays at the last version of the list.
* `locatesViolation_iff`: the law of the search holds exactly where that is where it was, or the
  number before the version found is one of a version that is as good as an earlier one.
-/

import Dnc.Learning.Versions

namespace Dnc.Learning

open PyLib Logic

section RootCause

variable {V : Type} (isViolating : KbContents V → Bool)

/-- The loop of the binary search, for at most `fuel` looks. -/
def searchLoop (versionsToCheck : List Int) :
    Nat → Int → Int → Option Int → KnowledgeBase V → Except PyError (Option Int) × KnowledgeBase V
  | 0, _, _, result, kb => (.ok result, kb)
  | fuel + 1, lo, hi, result, kb =>
    if lo ≤ hi then
      let mid := (lo + hi) / 2
      match versionsToCheck[mid.toNat]? with
      | none => (.error (.indexError "list index out of range"), kb)
      | some version =>
        match kb.getVersion version, kb.rollbackTo version with
        | .ok snapshot, .ok next =>
          if isViolating (next.contents snapshot) then
            searchLoop versionsToCheck fuel lo (mid - 1) (some version) next
          else searchLoop versionsToCheck fuel (mid + 1) hi result next
        | .error failure, _ => (.error failure, kb)
        | _, .error failure => (.error failure, kb)
    else (.ok result, kb)

/-- `target`. -/
def rollbackTarget (version : Int) : Int := if 1 < version then version - 1 else 1

/-- `RootCauseRollback.identify_violating_version`. -/
def identifyViolatingVersion (versionsToCheck : List Int) (kb : KnowledgeBase V) :
    Except PyError (Option Int) × KnowledgeBase V :=
  if versionsToCheck = [] then (.ok none, kb)
  else
    match searchLoop isViolating versionsToCheck versionsToCheck.length 0
      (versionsToCheck.length - 1) none kb with
    | (.ok (some version), kb) =>
      match kb.rollbackTo (rollbackTarget version) with
      | .ok next => (.ok (some version), next)
      | .error failure => (.error failure, kb)
    | outcome => outcome

/-! ### What the search is for -/

variable (kb : KnowledgeBase V) (versionsToCheck : List Int)

/-- The version is a committed one that violates. -/
def Violates (version : Int) : Bool := (kb.history.stored version).any isViolating

/-- The version is a committed one that does not violate. -/
def Sound (version : Int) : Prop :=
  ∃ contents, kb.history.stored version = some contents ∧ isViolating contents = false

/-- The version of the list that violates first. -/
def earliestViolating : Option Int := versionsToCheck.find? (Violates isViolating kb)

/-- **The law of the search.** -/
structure LocatesViolation : Prop where
  found : (identifyViolatingVersion isViolating versionsToCheck kb).1 =
    .ok (earliestViolating isViolating kb versionsToCheck)
  /-- What is live afterwards is a version that does not violate, if there is an earlier one. -/
  recovered : ∀ version, earliestViolating isViolating kb versionsToCheck = some version →
    (∃ earlier < version, Sound isViolating kb earlier) →
    ∃ left, kb.history.stored left =
        some (identifyViolatingVersion isViolating versionsToCheck kb).2.live ∧
      Sound isViolating kb left
  untouched : earliestViolating isViolating kb versionsToCheck = none →
    (identifyViolatingVersion isViolating versionsToCheck kb).2.live = kb.live ∧
      (identifyViolatingVersion isViolating versionsToCheck kb).2.kbVersion = kb.kbVersion

/-- Once violated, it stays violated. -/
def MonotoneViolation : Prop :=
  ∀ earlier later, earlier ≤ later → later ∈ kb.versions →
    Violates isViolating kb earlier = true → Violates isViolating kb later = true

/-- Where the search ends well. -/
structure EndsWell : Prop where
  /-- The number before the earliest violating version is one of a committed version, and that one
  does not violate if any earlier one does not. -/
  target : ∀ version, earliestViolating isViolating kb versionsToCheck = some version →
    rollbackTarget version ∈ kb.versions ∧
      ((∃ earlier < version, Sound isViolating kb earlier) →
        Sound isViolating kb (rollbackTarget version))
  /-- If nothing violates, the knowledge base is at the last version of the list already. -/
  last : earliestViolating isViolating kb versionsToCheck = none →
    ∀ version ∈ versionsToCheck.getLast?,
      kb.kbVersion = version ∧ kb.history.stored version = some kb.live

/-! ### One look -/

variable {isViolating kb versionsToCheck}

variable (kb) in
/-- The knowledge base at another version of its own. -/
structure RolledTo (next : KnowledgeBase V) (version : Int) : Prop where
  resolved : next.Resolved
  stored : next.history.stored = kb.history.stored
  position : next.kbVersion = version
  live : kb.history.stored version = some next.live

variable (isViolating) in
/-- **A look at a committed version**, from wherever the knowledge base is. -/
theorem look {at' : KnowledgeBase V} {version : Int} (resolved : at'.Resolved)
    (same : at'.history.stored = kb.history.stored) (committed : version ∈ kb.versions) :
    ∃ snapshot next, at'.getVersion version = .ok snapshot ∧ at'.rollbackTo version = .ok next ∧
      isViolating (next.contents snapshot) = Violates isViolating kb version ∧
      RolledTo kb next version := by
  obtain ⟨contents, stored⟩ := mem_versions_iff.mp committed
  have stored' : at'.history.stored version = some contents := same ▸ stored
  obtain ⟨snapshot, found, holds⟩ := Option.map_eq_some_iff.mp stored'
  have looked : at'.getVersion version = .ok snapshot := by
    rw [KnowledgeBase.getVersion, found]
  have rolled : at'.rollbackTo version = .ok ⟨(copyDicts at'.heap snapshot).1,
      (copyDicts at'.heap snapshot).2, version, at'.versions⟩ := by
    unfold KnowledgeBase.rollbackTo
    rw [looked]
    rfl
  have history := KnowledgeBase.history_rollbackTo_of_resolved resolved rolled
  simp only [historyStep, stored'] at history
  have copied := copyDicts_copied (resolved.stored version snapshot found)
  refine ⟨snapshot, _, looked, rolled, ?_, ⟨resolved.rollbackTo rolled,
    (congrArg KbHistory.stored history).trans same, rfl, ?_⟩⟩
  · rw [KnowledgeBase.contents_of_extends _ copied.grows (resolved.stored version snapshot found),
      holds, Violates, stored]
    rfl
  · rw [stored]
    exact congrArg some (congrArg KbHistory.live history).symm

/-! ### The loop -/

variable (isViolating kb versionsToCheck) in
/-- What the loop has seen when it looks between `lo` and `hi`. -/
structure Searched (lo hi : Int) (result : Option Int) (next : KnowledgeBase V) : Prop where
  lower : 0 ≤ lo
  bounds : lo ≤ hi + 1
  upper : hi + 1 ≤ versionsToCheck.length
  before : ∀ index (inside : index < versionsToCheck.length), (index : Int) < lo →
    Violates isViolating kb versionsToCheck[index] = false
  behind : ∀ index (inside : index < versionsToCheck.length), hi < index →
    Violates isViolating kb versionsToCheck[index] = true
  result : result = versionsToCheck[(hi + 1).toNat]?
  resolved : next.Resolved
  stored : next.history.stored = kb.history.stored
  /-- As long as nothing was found, the last look was at the version before `lo`. -/
  last : hi + 1 = versionsToCheck.length → 0 < lo →
    ∀ version ∈ versionsToCheck[(lo - 1).toNat]?, RolledTo kb next version

/-- The first that violates is where those that do not end. -/
theorem find?_eq_getElem? {α : Type} {items : List α} {keep : α → Bool} {split : ℕ}
    (before : ∀ index (inside : index < items.length), index < split → keep items[index] = false)
    (behind : ∀ index (inside : index < items.length), split ≤ index → keep items[index] = true) :
    items.find? keep = items[split]? := by
  by_cases inside : split < items.length
  · rw [List.getElem?_eq_getElem inside, List.find?_eq_some_iff_getElem]
    refine ⟨behind split inside le_rfl, split, inside, rfl, fun index below => ?_⟩
    rw [before index (below.trans inside) below]
    rfl
  · rw [List.getElem?_eq_none (not_lt.mp inside), List.find?_eq_none]
    intro item member
    obtain ⟨index, bound, same⟩ := List.getElem_of_mem member
    rw [← same, before index bound (lt_of_lt_of_le bound (not_lt.mp inside))]
    exact Bool.false_ne_true

section Search

variable (committed : ∀ version ∈ versionsToCheck, version ∈ kb.versions)
  (increasing : versionsToCheck.Pairwise (· < ·)) (monotone : MonotoneViolation isViolating kb)
include committed increasing monotone

/-- Behind a version of the list that violates, all of them do. -/
theorem violates_behind {first second : ℕ} (inside : second < versionsToCheck.length)
    (ordered : first ≤ second)
    (violates : Violates isViolating kb versionsToCheck[first] = true) :
    Violates isViolating kb versionsToCheck[second] = true := by
  rcases ordered.lt_or_eq with below | same
  · exact monotone _ _ (List.pairwise_iff_getElem.mp increasing first second _ inside below).le
      (committed _ (List.getElem_mem inside)) violates
  · simpa only [same] using violates

omit committed increasing monotone in
/-- When there is nothing between `lo` and `hi`, the search is over. -/
theorem Searched.done {lo hi : Int} {result : Option Int} {next : KnowledgeBase V}
    (searched : Searched isViolating kb versionsToCheck lo hi result next) (closed : hi < lo) :
    result = earliestViolating isViolating kb versionsToCheck ∧
      (earliestViolating isViolating kb versionsToCheck = none →
        ∀ version ∈ versionsToCheck.getLast?, RolledTo kb next version) := by
  have nonnegative := searched.lower
  have upper := searched.upper
  have met : hi + 1 = lo := by
    have := searched.bounds
    omega
  have split : earliestViolating isViolating kb versionsToCheck = versionsToCheck[lo.toNat]? :=
    find?_eq_getElem? (fun index inside below => searched.before index inside (by omega))
      (fun index inside above => searched.behind index inside (by omega))
  refine ⟨by rw [searched.result, met, split], fun none version isLast => ?_⟩
  rw [split, List.getElem?_eq_none_iff] at none
  have some : versionsToCheck ≠ [] := by
    intro empty
    rw [empty] at isLast
    cases isLast
  have positive := List.length_pos_of_ne_nil some
  refine searched.last (by omega) (by omega) version ?_
  rw [List.getLast?_eq_getElem?] at isLast
  rwa [show (lo - 1).toNat = versionsToCheck.length - 1 by omega]

/-- **One look keeps what the loop has seen.** -/
theorem Searched.look {lo hi : Int} {result : Option Int} {next : KnowledgeBase V}
    (searched : Searched isViolating kb versionsToCheck lo hi result next) {mid : Int}
    (above : lo ≤ mid) (below : mid ≤ hi) (inside : mid.toNat < versionsToCheck.length)
    {later : KnowledgeBase V} (rolled : RolledTo kb later versionsToCheck[mid.toNat]) :
    (Violates isViolating kb versionsToCheck[mid.toNat] = true →
        Searched isViolating kb versionsToCheck lo (mid - 1) (some versionsToCheck[mid.toNat])
          later) ∧
      (Violates isViolating kb versionsToCheck[mid.toNat] = false →
        Searched isViolating kb versionsToCheck (mid + 1) hi result later) := by
  have nonnegative := searched.lower
  have upper := searched.upper
  constructor
  · intro violates
    refine ⟨nonnegative, by omega, by omega, searched.before, fun index bound behind => ?_, ?_,
      rolled.resolved, rolled.stored, fun untouched => ?_⟩
    · have ordered : mid.toNat ≤ index := by omega
      exact violates_behind committed increasing monotone bound ordered violates
    · rw [show (mid - 1 + 1).toNat = mid.toNat by omega, List.getElem?_eq_getElem inside]
    · omega
  · intro sound
    refine ⟨by omega, by omega, upper, fun index bound before => ?_, searched.behind, searched.result,
      rolled.resolved, rolled.stored, fun _ _ version isLast => ?_⟩
    · by_contra violates
      rw [Bool.not_eq_false] at violates
      have ordered : index ≤ mid.toNat := by omega
      have also := violates_behind committed increasing monotone inside ordered violates
      rw [sound] at also
      cases also
    · rw [show (mid + 1 - 1).toNat = mid.toNat by omega, List.getElem?_eq_getElem inside] at isLast
      rw [← Option.some.inj isLast]
      exact rolled

/-- **The loop finds the earliest violating version.** -/
theorem searchLoop_spec {fuel : ℕ} {lo hi : Int} {result : Option Int} {next : KnowledgeBase V}
    (searched : Searched isViolating kb versionsToCheck lo hi result next)
    (enough : hi + 1 - lo ≤ fuel) :
    ∃ final, searchLoop isViolating versionsToCheck fuel lo hi result next =
        (.ok (earliestViolating isViolating kb versionsToCheck), final) ∧
      final.Resolved ∧ final.history.stored = kb.history.stored ∧
      (earliestViolating isViolating kb versionsToCheck = none →
        ∀ version ∈ versionsToCheck.getLast?, RolledTo kb final version) := by
  induction fuel generalizing lo hi result next with
  | zero =>
    rw [Nat.cast_zero] at enough
    obtain ⟨found, last⟩ := searched.done (by omega)
    exact ⟨next, by rw [searchLoop, found], searched.resolved, searched.stored, last⟩
  | succ fuel ih =>
    by_cases wide : lo ≤ hi
    · have nonnegative := searched.lower
      have upper := searched.upper
      have above : lo ≤ (lo + hi) / 2 := by omega
      have below : (lo + hi) / 2 ≤ hi := by omega
      have inside : ((lo + hi) / 2).toNat < versionsToCheck.length := by omega
      obtain ⟨snapshot, later, looked, returned, verdict, rolled⟩ :=
        Learning.look isViolating searched.resolved searched.stored
          (committed _ (List.getElem_mem inside))
      obtain ⟨found, missed⟩ := searched.look committed increasing monotone above below inside rolled
      rw [searchLoop, if_pos wide]
      simp only [List.getElem?_eq_getElem inside, looked, returned, verdict]
      push_cast at enough
      by_cases violates : Violates isViolating kb versionsToCheck[((lo + hi) / 2).toNat] = true
      · rw [if_pos violates]
        exact ih (found violates) (by omega)
      · rw [if_neg violates]
        exact ih (missed (Bool.eq_false_iff.mpr violates)) (by omega)
    · obtain ⟨found, last⟩ := searched.done (not_le.mp wide)
      exact ⟨next, by rw [searchLoop, if_neg wide, found], searched.resolved, searched.stored, last⟩

/-! ### The search -/

/-- **What the search over a list leaves** before the last rollback. -/
theorem search_spec (resolved : kb.Resolved) (some : versionsToCheck ≠ []) :
    ∃ final, searchLoop isViolating versionsToCheck versionsToCheck.length 0
        (versionsToCheck.length - 1) none kb =
        (.ok (earliestViolating isViolating kb versionsToCheck), final) ∧
      final.Resolved ∧ final.history.stored = kb.history.stored ∧
      (earliestViolating isViolating kb versionsToCheck = none →
        ∀ version ∈ versionsToCheck.getLast?, RolledTo kb final version) := by
  have positive := List.length_pos_of_ne_nil some
  refine searchLoop_spec committed increasing monotone ⟨le_rfl, by omega, by omega,
    fun index _ below => ?_, fun index inside above => ?_, ?_, resolved, rfl, fun _ below => ?_⟩
    (by omega)
  · omega
  · omega
  · exact (List.getElem?_eq_none (by omega)).symm
  · omega

/-- If nothing violates, the knowledge base stays at the last version of the list. -/
theorem identify_none (resolved : kb.Resolved) (some : versionsToCheck ≠ [])
    (sound : earliestViolating isViolating kb versionsToCheck = none) :
    ∃ final, identifyViolatingVersion isViolating versionsToCheck kb = (.ok none, final) ∧
      ∀ version ∈ versionsToCheck.getLast?, RolledTo kb final version := by
  obtain ⟨final, searched, -, -, last⟩ :=
    search_spec committed increasing monotone resolved some
  rw [sound] at searched
  refine ⟨final, ?_, last sound⟩
  rw [identifyViolatingVersion, if_neg some, searched]

/-- If a version violates, the first of them is found, and the knowledge base goes to the number
before it, if that is the number of a version. -/
theorem identify_found (resolved : kb.Resolved) {version : Int}
    (violating : earliestViolating isViolating kb versionsToCheck = some version) :
    (rollbackTarget version ∈ kb.versions → ∃ final,
      identifyViolatingVersion isViolating versionsToCheck kb = (.ok (some version), final) ∧
        RolledTo kb final (rollbackTarget version)) ∧
      (rollbackTarget version ∉ kb.versions → ∃ failure final,
        identifyViolatingVersion isViolating versionsToCheck kb = (.error failure, final)) := by
  have some : versionsToCheck ≠ [] := by
    rintro rfl
    cases violating
  obtain ⟨final, searched, kept, same, -⟩ :=
    search_spec committed increasing monotone resolved some
  rw [violating] at searched
  constructor
  · intro target
    obtain ⟨snapshot, next, -, returned, -, rolled⟩ := look isViolating kept same target
    refine ⟨next, ?_, rolled⟩
    simp only [identifyViolatingVersion, if_neg some, searched, returned]
  · intro missing
    have absent : final.versions.get? (rollbackTarget version) = none := by
      have nowhere : kb.history.stored (rollbackTarget version) = none := by
        by_contra held
        exact missing (mem_versions_iff.mpr (Option.ne_none_iff_exists'.mp held))
      rw [← same] at nowhere
      exact Option.map_eq_none_iff.mp nowhere
    have raised : final.rollbackTo (rollbackTarget version) =
        .error (.keyError s!"KB version {rollbackTarget version} not found") := by
      rw [KnowledgeBase.rollbackTo, KnowledgeBase.getVersion, absent]
      rfl
    refine ⟨.keyError s!"KB version {rollbackTarget version} not found", final, ?_⟩
    simp only [identifyViolatingVersion, if_neg some, searched, raised]

/-- **The law of the search holds exactly where it ends well.** -/
theorem locatesViolation_iff (resolved : kb.Resolved) :
    LocatesViolation isViolating kb versionsToCheck ↔ EndsWell isViolating kb versionsToCheck := by
  by_cases empty : versionsToCheck = []
  · subst empty
    exact iff_of_true ⟨rfl, (fun _ impossible => nomatch impossible), fun _ => ⟨rfl, rfl⟩⟩
      ⟨(fun _ impossible => nomatch impossible), fun _ _ impossible => nomatch impossible⟩
  cases earliest : earliestViolating isViolating kb versionsToCheck with
  | none =>
    obtain ⟨final, identified, rolled⟩ :=
      identify_none committed increasing monotone resolved empty earliest
    constructor
    · intro law
      refine ⟨fun _ found => (Option.some_ne_none _ (found.symm.trans earliest)).elim,
        fun _ version isLast => ?_⟩
      obtain ⟨live, position⟩ := law.untouched earliest
      rw [identified] at live position
      rw [← live, ← position]
      exact ⟨(rolled version isLast).position, (rolled version isLast).live⟩
    · intro well
      have last := List.getLast?_eq_some_getLast empty
      obtain ⟨position, stored⟩ := well.last earliest _ last
      have left := rolled _ last
      refine ⟨?_, fun _ found => (Option.some_ne_none _ (found.symm.trans earliest)).elim,
        fun _ => ?_⟩
      · rw [identified, earliest]
      · rw [identified, position, left.position]
        exact ⟨Option.some.inj (left.live.symm.trans stored), rfl⟩
  | some version =>
    obtain ⟨returns, raises⟩ :=
      identify_found committed increasing monotone resolved earliest
    by_cases target : rollbackTarget version ∈ kb.versions
    · obtain ⟨final, identified, rolled⟩ := returns target
      constructor
      · intro law
        refine ⟨fun found same => ?_, fun absent => nomatch absent.symm.trans earliest⟩
        obtain rfl := Option.some.inj (same.symm.trans earliest)
        refine ⟨target, fun earlier => ⟨final.live, rolled.live, ?_⟩⟩
        obtain ⟨left, stored, contents, also, sound⟩ := law.recovered found earliest earlier
        rw [identified] at stored
        rwa [Option.some.inj (stored.symm.trans also)]
      · intro well
        refine ⟨?_, fun found same earlier => ?_, fun absent => nomatch absent.symm.trans earliest⟩
        · rw [identified, earliest]
        · obtain rfl := Option.some.inj (same.symm.trans earliest)
          rw [identified]
          exact ⟨rollbackTarget found, rolled.live, (well.target found earliest).2 earlier⟩
    · obtain ⟨failure, final, identified⟩ := raises target
      refine iff_of_false (fun law => ?_) fun well => target (well.target version earliest).1
      have found := law.found
      rw [identified] at found
      cases found

end Search

end RootCause

/-- The versions of a knowledge base are enough to see that a violation stays. -/
theorem monotoneViolation_of_keys {V : Type} {isViolating : KbContents V → Bool}
    {kb : KnowledgeBase V}
    (stays : ∀ earlier ∈ kb.versions.keys, ∀ later ∈ kb.versions.keys, earlier ≤ later →
      Violates isViolating kb earlier = true → Violates isViolating kb later = true) :
    MonotoneViolation isViolating kb := by
  intro earlier later ordered isLater violates
  refine stays earlier ?_ later isLater ordered violates
  by_contra missing
  have absent : kb.history.stored earlier = none :=
    congrArg (Option.map kb.contents) (Dict.get?_eq_none.mpr missing)
  rw [Violates, absent] at violates
  cases violates

namespace Sample

/-- Four versions; the module costs too much from the second on. -/
def costsMore : KnowledgeBase Int := run kbStep .new [
  .assign .kbCosts "module" 1, .commit, .assign .kbCosts "module" 5, .commit, .commit, .commit]

/-- `lambda snapshot: snapshot["KB_costs"]["module"] > 2`, for these versions. -/
def tooExpensive (contents : KbContents Int) : Bool :=
  ((contents .kbCosts).get? "module").any (2 < ·)

theorem costsMore_resolved : costsMore.Resolved :=
  (run_separated KnowledgeBase.separated_new _).resolved

theorem costsMore_monotone : MonotoneViolation tooExpensive costsMore :=
  monotoneViolation_of_keys (by decide +kernel)

end Sample

/-- With the whole chain at hand the knowledge base goes back to version 1. -/
theorem costsMore_located :
    LocatesViolation Sample.tooExpensive Sample.costsMore [1, 2, 3, 4] := by
  have earliest : earliestViolating Sample.tooExpensive Sample.costsMore [1, 2, 3, 4] = some 2 := by
    decide +kernel
  refine (locatesViolation_iff (by decide +kernel) (by decide) Sample.costsMore_monotone
    Sample.costsMore_resolved).mpr ⟨fun version found => ?_, fun nothing => ?_⟩
  · obtain rfl := Option.some.inj (earliest.symm.trans found)
    exact ⟨by decide +kernel, fun _ => ⟨_, rfl, by decide +kernel⟩⟩
  · cases earliest.symm.trans nothing

/-- With a gap in the list it goes to a version between, which violates. -/
theorem costsMore_gap :
    (∀ version ∈ [1, 4], version ∈ Sample.costsMore.versions) ∧ [1, 4].Pairwise (· < ·) ∧
      MonotoneViolation Sample.tooExpensive Sample.costsMore ∧
      ¬ LocatesViolation Sample.tooExpensive Sample.costsMore [1, 4] := by
  refine ⟨by decide +kernel, by decide, Sample.costsMore_monotone, fun law => ?_⟩
  obtain ⟨left, stored, contents, also, sound⟩ := law.recovered 4 (by decide +kernel)
    ⟨1, by decide, _, rfl, by decide +kernel⟩
  have live : Sample.tooExpensive (identifyViolatingVersion Sample.tooExpensive [1, 4]
      Sample.costsMore).2.live = true := by decide +kernel
  rw [Option.some.inj (stored.symm.trans also), sound] at live
  cases live

end Dnc.Learning
