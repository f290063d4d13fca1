/-
**Committed versions against later commits.**

`commit` numbers the new version after the current position, which `rollback_to` moves back. A
commit below the newest version therefore takes a number that is stored already and replaces that
version. This is the only way a version changes: dictionaries are copied on the way in and out
(`Dnc.Learning.KnowledgeBase`), so assignments never reach a stored version.

* `VersionsImmutable`: what a commit stored is what `get_version` and `rollback_to` give back ever
  after, and its number is not returned again.
* `commitsAtTop_stored`: one commit under the condition leaves the other versions as they were, and
  `stored_of_commit`: a stored version was committed in the run.
* `versionsImmutable_iff`: the versions of a run are immutable exactly when every commit is made
  where the next number is still free.
-/

import Dnc.Learning.KnowledgeBase

namespace Dnc.Learning

open PyLib Logic

section Versions

variable {V : Type}

/-- What `get_version` shows of a version. -/
def KnowledgeBase.versionContents (kb : KnowledgeBase V) (version : Int) :
    Except PyError (KbContents V) :=
  (kb.getVersion version).map kb.contents

/-- **Immutable versions.** After every commit of the run, whatever calls follow: its version holds
what was live at the commit, a rollback to it makes this live again, and no later commit returns its
number. -/
def VersionsImmutable (start : KnowledgeBase V) (calls : List (KbCall V)) : Prop :=
  ∀ before after, calls = before ++ .commit :: after →
    let found := run kbStep start before
    (∀ between rest, after = between ++ rest →
      let later := run kbStep found.commit.2 between
      later.versionContents found.commit.1 = .ok found.live ∧
        ∃ back, later.rollbackTo found.commit.1 = .ok back ∧ back.live = found.live) ∧
    ∀ entry ∈ trace kbStep found.commit.2 after, entry.2 = .commit →
      entry.1.commit.1 ≠ found.commit.1

/-- A commit is made where the number it takes is free. -/
def CommitsAtTop (entry : KnowledgeBase V × KbCall V) : Prop :=
  entry.2 = .commit → entry.1.kbVersion + 1 ∉ entry.1.versions

/-! ### By the history -/

variable {kb : KnowledgeBase V} {version : Int} {contents : KbContents V}

theorem versionContents_of_stored (stored : kb.history.stored version = some contents) :
    kb.versionContents version = .ok contents := by
  obtain ⟨snapshot, found, rfl⟩ := Option.map_eq_some_iff.mp stored
  unfold KnowledgeBase.versionContents KnowledgeBase.getVersion
  rw [found]
  rfl

theorem rollbackTo_of_stored (separated : kb.Separated)
    (stored : kb.history.stored version = some contents) :
    ∃ back, kb.rollbackTo version = .ok back ∧ back.live = contents := by
  obtain ⟨snapshot, found, -⟩ := Option.map_eq_some_iff.mp stored
  have returned : kb.rollbackTo version = .ok ⟨(copyDicts kb.heap snapshot).1,
      (copyDicts kb.heap snapshot).2, version, kb.versions⟩ := by
    unfold KnowledgeBase.rollbackTo KnowledgeBase.getVersion
    rw [found]
    rfl
  refine ⟨_, returned, ?_⟩
  have history := kb.history_rollbackTo separated returned
  simp only [historyStep, stored] at history
  exact congrArg KbHistory.live history

theorem mem_versions_iff : version ∈ kb.versions ↔ ∃ contents, kb.history.stored version =
    some contents := by
  rw [Dict.mem_iff_get?]
  constructor
  · rintro ⟨snapshot, found⟩
    exact ⟨kb.contents snapshot, congrArg (Option.map kb.contents) found⟩
  · rintro ⟨contents, stored⟩
    obtain ⟨snapshot, found, -⟩ := Option.map_eq_some_iff.mp stored
    exact ⟨snapshot, found⟩

/-! ### One call -/

/-- Only a commit stores a version. -/
theorem stored_historyStep (history : KbHistory V) (call : KbCall V) :
    (historyStep history call).stored = history.stored ∨
      call = .commit ∧ (historyStep history call).stored =
        Function.update history.stored (history.version + 1) (some history.live) := by
  cases call with
  | commit => exact Or.inr ⟨rfl, rfl⟩
  | rollbackTo targetVersion =>
    refine Or.inl ?_
    cases found : history.stored targetVersion with
    | none => simp only [historyStep, found]
    | some contents => simp only [historyStep, found]
  | assign field key value => exact Or.inl rfl

/-- A call under the condition leaves the stored versions as they were. -/
theorem commitsAtTop_stored (separated : kb.Separated) {call : KbCall V}
    (top : CommitsAtTop (kb, call)) (stored : kb.history.stored version = some contents) :
    (kbStep kb call).history.stored version = some contents := by
  rw [kbStep_refines separated]
  rcases stored_historyStep kb.history call with same | ⟨isCommit, updated⟩
  · rw [same]
    exact stored
  · rw [updated, Function.update_of_ne, stored]
    rintro rfl
    exact top isCommit (mem_versions_iff.mpr ⟨contents, stored⟩)

theorem stored_commit (separated : kb.Separated) :
    kb.commit.2.history.stored kb.commit.1 = some kb.live := by
  rw [kb.history_commit separated]
  exact Function.update_self _ _ _

/-! ### Runs -/

theorem run_separated (separated : kb.Separated) (calls : List (KbCall V)) :
    (run kbStep kb calls).Separated :=
  run_invariant (P := KnowledgeBase.Separated)
    (fun _ call separated => kbStep_separated separated call) separated calls

/-- A version that is stored and was not before was committed on the way. -/
theorem stored_of_commit {start : KnowledgeBase V} (separated : start.Separated)
    {calls : List (KbCall V)} (stored : version ∈ (run kbStep start calls).versions) :
    version ∈ start.versions ∨ ∃ before after, calls = before ++ .commit :: after ∧
      (run kbStep start before).kbVersion + 1 = version := by
  induction calls generalizing start with
  | nil => exact Or.inl stored
  | cons call rest ih =>
    rcases ih (kbStep_separated separated call) stored with already | ⟨before, after, rfl, same⟩
    · obtain ⟨contents, found⟩ := mem_versions_iff.mp already
      rw [kbStep_refines separated] at found
      rcases stored_historyStep start.history call with unchanged | ⟨rfl, updated⟩
      · rw [unchanged] at found
        exact Or.inl (mem_versions_iff.mpr ⟨contents, found⟩)
      · by_cases new : version = start.history.version + 1
        · exact Or.inr ⟨[], rest, rfl, new.symm⟩
        · rw [updated, Function.update_of_ne new] at found
          exact Or.inl (mem_versions_iff.mpr ⟨contents, found⟩)
    · exact Or.inr ⟨call :: before, after, rfl, same⟩

/-- **Versions are immutable exactly when every commit takes a free number.** -/
theorem versionsImmutable_iff (calls : List (KbCall V)) :
    VersionsImmutable .new calls ↔ ∀ entry ∈ trace kbStep .new calls, CommitsAtTop entry := by
  have separated : ∀ before, (run kbStep (.new : KnowledgeBase V) before).Separated :=
    run_separated KnowledgeBase.separated_new
  constructor
  · intro immutable entry member isCommit taken
    obtain ⟨found, call⟩ := entry
    obtain rfl : call = .commit := isCommit
    obtain ⟨before, after, rfl, here⟩ := mem_trace kbStep member
    have here : found = run kbStep .new before := here
    subst here
    -- the number that this commit takes was returned by an earlier commit
    rcases stored_of_commit KnowledgeBase.separated_new taken with
      initial | ⟨earlier, between, rfl, same⟩
    · exact absurd initial List.not_mem_nil
    · have split : earlier ++ KbCall.commit :: between ++ .commit :: after =
          earlier ++ .commit :: (between ++ .commit :: after) := by simp
      refine (immutable earlier (between ++ .commit :: after) split).2 _ ?_ rfl same.symm
      rw [trace_append, run_append, run_cons]
      exact List.mem_append_right _ List.mem_cons_self
  · rintro top before after rfl
    have atCommit := stored_commit (separated before)
    have keeps : ∀ between rest, after = between ++ rest →
        (run kbStep (run kbStep .new before).commit.2 between).history.stored
          (run kbStep .new before).commit.1 = some (run kbStep .new before).live := by
      rintro between rest rfl
      have kept : ∀ entry ∈ trace kbStep (run kbStep .new before).commit.2 between,
          CommitsAtTop entry := by
        intro entry member
        refine top entry ?_
        rw [trace_append, trace_cons, trace_append]
        exact List.mem_append_right _ (List.mem_cons_of_mem _ (List.mem_append_left _ member))
      have both := run_invariant_of_trace
        (P := fun kb => kb.Separated ∧ kb.history.stored (run kbStep .new before).commit.1 =
          some (run kbStep .new before).live)
        ⟨(separated before).commit, atCommit⟩ fun entry member holds =>
          ⟨kbStep_separated holds.1 entry.2, commitsAtTop_stored holds.1 (kept entry member) holds.2⟩
      exact both.2
    refine ⟨fun between rest split => ?_, fun entry member isCommit same => ?_⟩
    · have stored := keeps between rest split
      refine ⟨versionContents_of_stored stored, rollbackTo_of_stored ?_ stored⟩
      exact run_separated (separated before).commit between
    · obtain ⟨between, rest, split, here⟩ := mem_trace kbStep member
      have stored := keeps between (entry.2 :: rest) split
      rw [← here, ← same] at stored
      have listed : entry ∈ trace kbStep .new (before ++ .commit :: after) := by
        rw [trace_append, trace_cons]
        exact List.mem_append_right _ (List.mem_cons_of_mem _ member)
      exact top entry listed isCommit (mem_versions_iff.mpr ⟨_, stored⟩)

end Versions

namespace Sample

/-- Two commits, a rollback to the first, and a third commit. -/
def branching : List (KbCall Int) := [
  .assign .kbCosts "cost" 1, .commit, .assign .kbCosts "cost" 2, .commit, .rollbackTo 1,
  .assign .kbCosts "cost" 3, .commit]

end Sample

theorem branching_commit_replaces : ¬ VersionsImmutable .new Sample.branching := by
  intro immutable
  have again := (immutable [.assign .kbCosts "cost" 1, .commit, .assign .kbCosts "cost" 2]
    [.rollbackTo 1, .assign .kbCosts "cost" 3, .commit] rfl).2
  exact again _ (List.mem_cons_of_mem _ (List.mem_cons_of_mem _ List.mem_cons_self)) rfl rfl

end Dnc.Learning
