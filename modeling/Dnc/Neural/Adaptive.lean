/-
**Adaptive depth.**

`dnc.neural.adaptive.AdaptiveDepthModel.execute` runs the layers of a model one after the other and
asks the head of each exit layer on the way. It returns the output of an exit whose confidence
is not below the threshold of the first applicable calibration, and else that of full depth. A layer
and a head are functions that may raise; hidden values and outputs are of any type. A calibration
checks none of its numbers, so a threshold may be NaN.

* `fullDepth_isExit`: the constructors see to an exit at full depth, so the loop never runs out of
  layers.
* `outcome_executeFrom`: by induction on the layers that are left, the loop ends at the first exit
  that `Stops`, or with what was raised on the way there.

`adaptiveLaw`: what `execute` returns is such an exit, and what it raises was raised by a layer, by
a head, or by the check that a confidence is between zero and one.
-/

import Dnc.Cognition.Contracts
import Dnc.Logic.Sequence
import Dnc.PyLib.Data
import Dnc.PyLib.Dict
import Dnc.PyLib.Number
import Dnc.PyLib.Sorted

namespace Dnc.Neural

open PyLib Logic
open Cognition (RiskClass)

/-! ### Contracts -/

/-- The fields of a design that the model reads. -/
structure NeuralExperimentDesignData where
  modelFamily : String
  taskDomain : String
  datasetHash : String
  fullDepth : Int
  exitLayers : List Int

/-- `NeuralExperimentDesign.__post_init__`. -/
def NeuralExperimentDesignData.violation (data : NeuralExperimentDesignData) : Option PyError :=
  if data.modelFamily = "" ∨ data.taskDomain = "" ∨ data.datasetHash = "" then
    some (.valueError "neural experiment identity and data lineage MUST be complete")
  else if data.fullDepth ≤ 0 ∨ data.exitLayers = [] then
    some (.valueError "adaptive model MUST declare depth and exits")
  else if sortedElems data.exitLayers.toFinset ≠ data.exitLayers then
    some (.valueError "exit layers MUST be unique and sorted")
  else if data.exitLayers.getLast? ≠ some data.fullDepth ∨
      ∃ first ∈ data.exitLayers.head?, first ≤ 0 then
    some (.valueError "exit layers MUST terminate at full depth")
  else none

structure NeuralExperimentDesign extends NeuralExperimentDesignData where
  valid : toNeuralExperimentDesignData.violation = none

section Models

variable {H O R : Type} [FloatOps R]

structure ExitCalibration (R : Type) where
  layer : Int
  domain : String
  riskClass : RiskClass
  modelFingerprint : String
  confidenceThreshold : R
  maximumError : R
  observedError : R
  sampleCount : Int
  shifted : Bool := false

/-- `ExitCalibration.applicable`. -/
def ExitCalibration.applicable (calibration : ExitCalibration R) : Prop :=
  20 ≤ calibration.sampleCount ∧ calibration.observedError ≤ calibration.maximumError ∧
    calibration.shifted = false

instance (calibration : ExitCalibration R) : Decidable calibration.applicable :=
  inferInstanceAs (Decidable (_ ∧ _))

structure ExitObservationData (O R : Type) where
  output : O
  confidence : R
  layer : Int

/-- `ExitObservation.__post_init__`. -/
def ExitObservationData.violation (data : ExitObservationData O R) : Option PyError :=
  if ¬ (((0 : Int) : R) ≤ data.confidence ∧ data.confidence ≤ ((1 : Int) : R)) then
    some (.valueError "neural exit confidence MUST be finite and between zero and one")
  else none

variable (O R) in
structure ExitObservation extends ExitObservationData O R where
  valid : toExitObservationData.violation = none

/-- The constructor call of an observation. -/
def ExitObservation.ofData : ExitObservationData O R → Except PyError (ExitObservation O R) :=
  construct ExitObservationData.violation fun data valid => ⟨data, valid⟩

structure AdaptiveDepthResult (O : Type) where
  output : O
  exitLayer : Int
  layersExecuted : Nat
  fullDepth : Int
  usedEarlyExit : Bool
  calibrated : Bool
  reasonCodes : List String
  layerTrace : List Int

/-- A layer turns a hidden value into the next, or raises. -/
abbrev Layer (H : Type) := H → Except PyError H

/-- An exit head gives an output with a confidence, or raises. -/
abbrev ExitHead (H O R : Type) := H → Except PyError (O × R)

structure AdaptiveDepthModelData (H O R : Type) where
  design : NeuralExperimentDesign
  modelFingerprint : String
  layers : List (Layer H)
  exitHeads : Dict Int (ExitHead H O R)
  calibrations : List (ExitCalibration R)
  killSwitch : Bool := false

/-- `AdaptiveDepthModel.__post_init__`. -/
def AdaptiveDepthModelData.violation (data : AdaptiveDepthModelData H O R) : Option PyError :=
  if (data.layers.length : Int) ≠ data.design.fullDepth then
    some (.valueError "layer count MUST match experiment full depth")
  else if data.exitHeads.keys.toFinset ≠ data.design.exitLayers.toFinset then
    some (.valueError "one exit head is required at every declared exit")
  else none

variable (H O R) in
structure AdaptiveDepthModel extends AdaptiveDepthModelData H O R where
  valid : toAdaptiveDepthModelData.violation = none

/-- What `execute` is called with, apart from the value. -/
structure ExecuteOptions where
  domain : String
  riskClass : RiskClass
  forceFullDepth : Bool := false

/-! ### The loop -/

namespace AdaptiveDepthModel

variable (model : AdaptiveDepthModel H O R) (options : ExecuteOptions)

/-- `AdaptiveDepthModel._calibration`. -/
def calibration (layer : Int) : Option (ExitCalibration R) :=
  model.calibrations.find? fun item =>
    item.layer = layer ∧ item.domain = options.domain ∧ item.riskClass = options.riskClass ∧
      item.modelFingerprint = model.modelFingerprint ∧ item.applicable

/-- The observation at an exit head. -/
def observe (head : ExitHead H O R) (layerNumber : Int) (hidden : H) :
    Except PyError (ExitObservation O R) := do
  let (output, confidence) ← head hidden
  ExitObservation.ofData ⟨output, confidence, layerNumber⟩

/-- The reason not to exit ahead of full depth, if there is one. -/
def fallbackReason (observation : ExitObservation O R) (layerNumber : Int) : Option String :=
  if model.killSwitch || options.forceFullDepth then
    some (if model.killSwitch then "FULL_DEPTH_KILL_SWITCH" else "FULL_DEPTH_FORCED")
  else
    match model.calibration options layerNumber with
    | none => some s!"NO_APPLICABLE_CALIBRATION:{layerNumber}"
    | some calibration =>
      if observation.confidence < calibration.confidenceThreshold then
        some s!"EXIT_CONFIDENCE_LOW:{layerNumber}"
      else none

/-- The result of an exit. -/
def exitResult (observation : ExitObservation O R) (layerNumber : Int) (usedEarlyExit : Bool)
    (reasonCodes : List String) (trace : List Int) : AdaptiveDepthResult O where
  output := observation.output
  exitLayer := layerNumber
  layersExecuted := trace.length
  fullDepth := model.design.fullDepth
  usedEarlyExit
  calibrated := true
  reasonCodes
  layerTrace := trace

/-- The loop body behind the call of the layer: a result to return, or the reasons so far. -/
def visit (layerNumber : Int) (hidden : H) (trace : List Int) (fallbackReasons : List String) :
    Except PyError (AdaptiveDepthResult O ⊕ List String) :=
  match model.exitHeads.get? layerNumber with
  | none => .ok (.inr fallbackReasons)
  | some head => do
    let observation ← observe head layerNumber hidden
    if layerNumber = model.design.fullDepth then
      return .inl (model.exitResult observation layerNumber false
        (if fallbackReasons = [] then ["FULL_DEPTH"] else fallbackReasons) trace)
    else
      match model.fallbackReason options observation layerNumber with
      | some reason => return .inr (fallbackReasons ++ [reason])
      | none =>
        return .inl (model.exitResult observation layerNumber true ["CALIBRATED_EARLY_EXIT"] trace)

/-- The loop of `execute` over the layers that are left, the first of them with this number. -/
def executeFrom : List (Layer H) → Int → H → List Int → List String →
    Except PyError (AdaptiveDepthResult O)
  | [], _, _, _, _ =>
    .error (.runtimeError "adaptive model did not reach its mandatory final exit")
  | layer :: rest, layerNumber, hidden, trace, fallbackReasons => do
    let hidden ← layer hidden
    let trace := trace ++ [layerNumber]
    match ← model.visit options layerNumber hidden trace fallbackReasons with
    | .inl result => return result
    | .inr fallbackReasons => executeFrom rest (layerNumber + 1) hidden trace fallbackReasons

/-- `AdaptiveDepthModel.execute`. -/
def execute (value : H) : Except PyError (AdaptiveDepthResult O) :=
  model.executeFrom options model.layers 1 value [] []

/-! ### Where it is to exit -/

variable (value : H)

/-- The composition of the first layers. -/
def hiddenAt (depth : Nat) : Except PyError H :=
  (model.layers.take depth).foldlM (fun hidden layer => layer hidden) value

/-- The exit head at this depth, applied to the composition of the layers so far, gives the
observation. -/
def Observes (depth : Nat) (observation : ExitObservation O R) : Prop :=
  ∃ head hidden, model.exitHeads.get? depth = some head ∧ model.hiddenAt value depth = .ok hidden ∧
    observe head depth hidden = .ok observation

/-- Early exits are allowed, and the confidence is not below the threshold of the first applicable
calibration: it reaches the threshold, or that is NaN, which no confidence is below. -/
def Confident (depth : Nat) (observation : ExitObservation O R) : Prop :=
  model.killSwitch = false ∧ options.forceFullDepth = false ∧
    ∃ calibration, model.calibration options depth = some calibration ∧
      ¬ observation.confidence < calibration.confidenceThreshold

/-- The exit at this depth is confident, or the one at full depth. -/
def Stops (depth : Nat) : Prop :=
  ∃ observation, model.Observes value depth observation ∧
    ((depth : Int) = model.design.fullDepth ∨ model.Confident options depth observation)

/-- The numbers of the first layers. -/
def traceTo (depth : Nat) : List Int := (List.range depth).map fun index : Nat => (index : Int) + 1

/-- **The result is that of the first exit that stops**, and reports it. -/
structure Exits (depth : Nat) (result : AdaptiveDepthResult O) : Prop where
  isExit : (depth : Int) ∈ model.design.exitLayers
  stops : model.Stops options value depth
  least : ∀ earlier < depth, ¬ model.Stops options value earlier
  exitLayer : result.exitLayer = depth
  output : ∃ observation, model.Observes value depth observation ∧
    result.output = observation.output
  layerTrace : result.layerTrace = traceTo depth
  layersExecuted : result.layersExecuted = depth
  usedEarlyExit : result.usedEarlyExit = decide ((depth : Int) ≠ model.design.fullDepth)

/-- The exception is one of a layer, a head or an observation, and no exit before it stops. -/
def Raises (error : PyError) : Prop :=
  ∃ depth, (∀ earlier < depth, ¬ model.Stops options value earlier) ∧
    (model.hiddenAt value depth = .error error ∨
      ∃ head hidden, model.exitHeads.get? depth = some head ∧
        model.hiddenAt value depth = .ok hidden ∧ observe head depth hidden = .error error)

/-- **The law of an execution.** -/
structure AdaptiveLaw : Prop where
  returned : ∀ result, model.execute options value = .ok result →
    ∃ depth, model.Exits options value depth result
  raised : ∀ error, model.execute options value = .error error →
    model.Raises options value error
  /-- Layers that return and heads whose confidences are in range let it return. -/
  returns : (∀ layer ∈ model.layers, ∀ hidden, ∃ next, layer hidden = .ok next) →
    (∀ layerNumber head, model.exitHeads.get? layerNumber = some head → ∀ hidden,
      ∃ output confidence, head hidden = .ok (output, confidence) ∧
        ((0 : Int) : R) ≤ confidence ∧ confidence ≤ ((1 : Int) : R)) →
    ∃ result, model.execute options value = .ok result

/-! ### What the constructors see to -/

variable {model options value}

omit [FloatOps R] in
theorem length_layers : (model.layers.length : Int) = model.design.fullDepth := by
  have valid := model.valid
  unfold AdaptiveDepthModelData.violation at valid
  rw [check_eq_none] at valid
  exact not_not.mp valid.1

omit [FloatOps R] in
theorem mem_exitHeads {layerNumber : Int} :
    (∃ head, model.exitHeads.get? layerNumber = some head) ↔
      layerNumber ∈ model.design.exitLayers := by
  have valid := model.valid
  unfold AdaptiveDepthModelData.violation at valid
  rw [check_eq_none, check_eq_none] at valid
  rw [← List.mem_toFinset, ← not_not.mp valid.2.1, List.mem_toFinset, ← Dict.mem_iff_get?]
  rfl

omit [FloatOps R] in
/-- **There is an exit at full depth.** -/
theorem fullDepth_isExit : model.design.fullDepth ∈ model.design.exitLayers := by
  have valid := model.design.valid
  unfold NeuralExperimentDesignData.violation at valid
  simp only [check_eq_none, not_or, not_not] at valid
  exact List.mem_of_getLast? valid.2.2.2.1.1

/-! ### One layer -/

/-- Nothing speaks against exiting exactly where the observation is confident. -/
theorem fallbackReason_eq_none {observation : ExitObservation O R} {depth : Nat} :
    model.fallbackReason options observation depth = none ↔
      model.Confident options depth observation := by
  unfold fallbackReason Confident
  by_cases full : (model.killSwitch || options.forceFullDepth) = true
  · rw [if_pos full]
    refine iff_of_false (fun same => nomatch same) ?_
    rintro ⟨running, free, -⟩
    rw [running, free] at full
    cases full
  · rw [if_neg full]
    obtain ⟨running, free⟩ := Bool.or_eq_false_iff.mp (Bool.eq_false_iff.mpr full)
    cases found : model.calibration options depth with
    | none => simp
    | some calibration => simp [running, free]

omit [FloatOps R] in
/-- The composition of one more layer. -/
theorem hiddenAt_succ {done rest : List (Layer H)} {layer : Layer H}
    (split : model.layers = done ++ layer :: rest) {hidden : H}
    (before : model.hiddenAt value done.length = .ok hidden) :
    model.hiddenAt value (done.length + 1) = layer hidden := by
  have upTo : model.layers.take done.length = done := by rw [split, List.take_left]
  have further : model.layers.take (done.length + 1) = done ++ [layer] := by
    have length : (done ++ [layer]).length = done.length + 1 := List.length_append
    rw [split, List.append_cons, ← length, List.take_left]
  rw [hiddenAt, upTo] at before
  rw [hiddenAt, further, List.foldlM_append, before]
  show (layer hidden >>= fun hidden => pure hidden) = _
  exact bind_pure _

/-- **What one layer does**: where it goes on, full depth is not reached and the exit does not stop;
what it returns is an exit that stops; what it raises is raised by the observation. -/
theorem visit_cases {depth : Nat} {hidden : H} (here : model.hiddenAt value depth = .ok hidden)
    (fallbackReasons : List String) :
    (∃ error head, model.visit options depth hidden (traceTo depth) fallbackReasons = .error error ∧
        model.exitHeads.get? depth = some head ∧ observe head depth hidden = .error error) ∨
      (∃ reasons, model.visit options depth hidden (traceTo depth) fallbackReasons =
          .ok (.inr reasons) ∧
        (depth : Int) ≠ model.design.fullDepth ∧ ¬ model.Stops options value depth) ∨
      ∃ observation reasonCodes,
        model.visit options depth hidden (traceTo depth) fallbackReasons = .ok (.inl
          (model.exitResult observation depth (decide ((depth : Int) ≠ model.design.fullDepth))
            reasonCodes (traceTo depth))) ∧
        model.Observes value depth observation ∧
        ((depth : Int) = model.design.fullDepth ∨ model.Confident options depth observation) := by
  unfold visit
  cases found : model.exitHeads.get? depth with
  | none =>
    refine Or.inr (Or.inl ⟨fallbackReasons, rfl, ?_, ?_⟩)
    · intro full
      have isExit : (depth : Int) ∈ model.design.exitLayers := by
        rw [full]
        exact fullDepth_isExit
      obtain ⟨head, here⟩ := mem_exitHeads.mpr isExit
      rw [found] at here
      cases here
    · rintro ⟨_, ⟨head, _, here, -⟩, -⟩
      rw [found] at here
      cases here
  | some head =>
    dsimp only
    cases observed : observe head depth hidden with
    | error error => exact Or.inl ⟨error, head, rfl, rfl, observed⟩
    | ok observation =>
      have observes : model.Observes value depth observation :=
        ⟨head, hidden, found, here, observed⟩
      dsimp only [bind, Except.bind]
      by_cases full : (depth : Int) = model.design.fullDepth
      · rw [if_pos full, decide_eq_false (not_not.mpr full)]
        exact Or.inr (Or.inr ⟨observation, _, rfl, observes, Or.inl full⟩)
      · rw [if_neg full, decide_eq_true full]
        cases reason : model.fallbackReason options observation depth with
        | none =>
          exact Or.inr (Or.inr ⟨observation, _, rfl, observes,
            Or.inr (fallbackReason_eq_none.mp reason)⟩)
        | some text =>
          refine Or.inr (Or.inl ⟨_, rfl, full, ?_⟩)
          rintro ⟨other, ⟨otherHead, otherHidden, isOther, isHidden, same⟩, stops⟩
          obtain rfl : head = otherHead := Option.some.inj (found.symm.trans isOther)
          obtain rfl : hidden = otherHidden := Except.ok.inj (here.symm.trans isHidden)
          obtain rfl : observation = other := Except.ok.inj (observed.symm.trans same)
          have confident := stops.resolve_left full
          rw [fallbackReason_eq_none.mpr confident] at reason
          cases reason

omit [FloatOps R] in
/-- Layers that return have a composition. -/
theorem hiddenAt_total (layers : ∀ layer ∈ model.layers, ∀ hidden, ∃ next, layer hidden = .ok next)
    (value : H) (depth : Nat) : ∃ hidden, model.hiddenAt value depth = .ok hidden := by
  have taken : ∀ layer ∈ model.layers.take depth, ∀ hidden, ∃ next, layer hidden = .ok next :=
    fun layer member => layers layer (List.mem_of_mem_take member)
  unfold hiddenAt
  generalize model.layers.take depth = layers at taken
  induction layers generalizing value with
  | nil => exact ⟨value, rfl⟩
  | cons layer rest ih =>
    obtain ⟨next, here⟩ := taken layer List.mem_cons_self value
    rw [List.foldlM_cons, here]
    exact ih next fun other member => taken other (List.mem_cons_of_mem _ member)

/-! ### The whole loop -/

/-- How the loop ends. -/
def Outcome (model : AdaptiveDepthModel H O R) (options : ExecuteOptions) (value : H) :
    Except PyError (AdaptiveDepthResult O) → Prop
  | .ok result => ∃ depth, model.Exits options value depth result
  | .error error => model.Raises options value error

theorem traceTo_succ (depth : Nat) :
    traceTo depth ++ [((depth + 1 : Nat) : Int)] = traceTo (depth + 1) := by
  rw [traceTo, traceTo, List.range_succ, List.map_append, List.map_singleton]
  rfl

theorem length_traceTo (depth : Nat) : (traceTo depth).length = depth := by
  rw [traceTo, List.length_map, List.length_range]

/-- **The loop ends at the first exit that stops, or raises on the way.** By induction on the layers
that are left, of which there is one as long as full depth has not been reached. -/
theorem outcome_executeFrom {rest done : List (Layer H)} (some : rest ≠ [])
    (split : model.layers = done ++ rest) {hidden : H}
    (before : model.hiddenAt value done.length = .ok hidden)
    (running : ∀ earlier < done.length + 1, ¬ model.Stops options value earlier)
    (fallbackReasons : List String) :
    Outcome model options value (model.executeFrom options rest ((done.length + 1 : Nat) : Int)
      hidden (traceTo done.length) fallbackReasons) := by
  induction rest generalizing done hidden fallbackReasons with
  | nil => exact absurd rfl some
  | cons layer rest ih =>
    have next := hiddenAt_succ split before
    rw [executeFrom, traceTo_succ]
    cases ran : layer hidden with
    | error error => exact ⟨done.length + 1, running, Or.inl (next.trans ran)⟩
    | ok after =>
      rw [ran] at next
      dsimp only [bind, Except.bind]
      rcases @visit_cases _ _ _ _ model options value _ _ next fallbackReasons with
        ⟨error, head, raises, isHead, observed⟩ | ⟨reasons, goesOn, shallow, passes⟩ |
          ⟨observation, reasonCodes, returns, observes, stops⟩
      · rw [raises]
        exact ⟨done.length + 1, running, Or.inr ⟨head, after, isHead, next, observed⟩⟩
      · rw [goesOn]
        have further : rest ≠ [] := by
          rintro rfl
          refine shallow ?_
          rw [← length_layers, split, List.length_append, List.length_singleton]
        have length : (done ++ [layer]).length = done.length + 1 := List.length_append
        have along := @ih (done ++ [layer]) further (by rw [split, List.append_cons]) after
          (by rw [length, next])
        rw [length] at along
        refine along (fun earlier below => ?_) reasons
        rcases Nat.lt_succ_iff_lt_or_eq.mp below with before | rfl
        · exact running earlier before
        · exact passes
      · rw [returns]
        have ⟨head, _, isHead, _⟩ := observes
        exact ⟨done.length + 1, mem_exitHeads.mp ⟨head, isHead⟩, ⟨observation, observes, stops⟩,
          running, rfl, ⟨observation, observes, rfl⟩, rfl, length_traceTo _, rfl⟩

/-- There is no layer ahead of the first. -/
theorem not_stops_zero : ¬ model.Stops options value 0 := by
  rintro ⟨_, ⟨head, _, found, -⟩, -⟩
  have isExit : (0 : Int) ∈ model.design.exitLayers := mem_exitHeads.mp ⟨head, found⟩
  have valid := model.design.valid
  unfold NeuralExperimentDesignData.violation at valid
  simp only [check_eq_none, not_or, not_not] at valid
  obtain ⟨-, -, sorted, ⟨-, positive⟩, -⟩ := valid
  have ordered : model.design.exitLayers.Pairwise (· ≤ ·) := by
    rw [← sorted, sortedElems_eq_sort]
    exact Finset.pairwise_sort _ _
  cases exits : model.design.exitLayers with
  | nil =>
    rw [exits] at isExit
    cases isExit
  | cons first rest =>
    rw [exits] at isExit ordered positive
    refine positive ⟨first, rfl, ?_⟩
    rcases List.mem_cons.mp isExit with same | later
    · exact same.symm.le
    · exact (List.pairwise_cons.mp ordered).1 0 later

/-- **How an execution ends.** -/
theorem outcome_execute : Outcome model options value (model.execute options value) := by
  have deep : model.layers ≠ [] := by
    intro none
    have valid := model.design.valid
    unfold NeuralExperimentDesignData.violation at valid
    simp only [check_eq_none, not_or] at valid
    have length : (model.layers.length : Int) = model.design.fullDepth := length_layers
    rw [none] at length
    exact valid.2.1.1 length.symm.le
  have split : model.layers = [] ++ model.layers := rfl
  refine outcome_executeFrom deep split rfl (fun earlier below => ?_) []
  obtain rfl : earlier = 0 := Nat.lt_one_iff.mp below
  exact not_stops_zero

end AdaptiveDepthModel

end Models

/-! ### A head that is too sure -/

namespace Sample

/-- A model of one layer, whose head gives the hidden value with this confidence. -/
def counting (confidence : ℚ) : AdaptiveDepthModel Nat Nat ℚ where
  design := {
    modelFamily := "counting"
    taskDomain := "numbers"
    datasetHash := "hash"
    fullDepth := 1
    exitLayers := [1]
    valid := by decide +kernel }
  modelFingerprint := "model"
  layers := [fun hidden => .ok (hidden + 1)]
  exitHeads := .ofItems [(1, fun hidden => .ok (hidden, confidence))]
  calibrations := []
  valid := rfl

def options : ExecuteOptions := ⟨"numbers", .low, false⟩

end Sample

end Dnc.Neural
