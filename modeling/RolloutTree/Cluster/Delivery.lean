import RolloutTree.Cluster.Metadata
import RolloutTree.Word

/-!
# Rollouts, experiments and analysis runs

The objects that bring a new revision of a program into use, as far as the tree shows them. They
come from a controller of its own, whose version may be newer than what is known here, so that
neither their kind nor their version is looked at and further members do not matter.

Such an object passes through a general form first, in which the times of its metadata are whole
seconds. Its parts are records: a missing field has its default, and null is a value of those fields
only that may be absent.

## Main definitions

* `Rollout`, `Experiment`, `AnalysisRun`, each with its decoder.
* `AnalysisRun.totals`: the counters of all metrics together.
-/

namespace RolloutTree

/-- Decodes the general form of an object: its metadata, and the object's fields. -/
def Decode.dynamic : Decoder (Metadata × Fields) := fun v => do
  let f ← Fields.ofObject? v
  let metadata ← f.withDefault "metadata" {} Metadata.decode
  return (metadata.wholeSeconds, f)

/-! ### Rollouts -/

/-- The two services between which a canary alternates. -/
structure PingPong where
  pingService : String := ""
  pongService : String := ""
  deriving DecidableEq, Repr

/-- Decodes the two services. -/
def PingPong.decode : Decoder PingPong := fun v => do
  let f ← Fields.ofRecord? ["pingService", "pongService"] v
  return { pingService := ← f.withDefault "pingService" "" Decode.text
           pongService := ← f.withDefault "pongService" "" Decode.text }

/-- The strategy that gives the new revision a growing share. -/
structure CanaryStrategy where
  pingPong : Option PingPong := none
  deriving DecidableEq, Repr

/-- Decodes a canary strategy. -/
def CanaryStrategy.decode : Decoder CanaryStrategy := fun v => do
  let f ← Fields.ofRecord? ["pingPong"] v
  return { pingPong := ← f.optional "pingPong" PingPong.decode }

/-- The strategy that switches from one revision to the other. -/
structure BlueGreenStrategy where
  activeService : String := ""
  previewService : Option String := none
  deriving DecidableEq, Repr

/-- Decodes a blue-green strategy. -/
def BlueGreenStrategy.decode : Decoder BlueGreenStrategy := fun v => do
  let f ← Fields.ofRecord? ["activeService", "previewService"] v
  return { activeService := ← f.withDefault "activeService" "" Decode.text
           previewService := ← f.optional "previewService" Decode.text }

/-- How a rollout brings a new revision into use. -/
structure Strategy where
  canary : Option CanaryStrategy := none
  blueGreen : Option BlueGreenStrategy := none
  deriving DecidableEq, Repr

/-- Decodes a strategy. -/
def Strategy.decode : Decoder Strategy := fun v => do
  let f ← Fields.ofRecord? ["canary", "blueGreen"] v
  return { canary := ← f.optional "canary" CanaryStrategy.decode
           blueGreen := ← f.optional "blueGreen" BlueGreenStrategy.decode }

/-- What is asked of a rollout. -/
structure RolloutSpec where
  replicas : Option Int32 := none
  isPaused : Bool := false
  strategy : Strategy := {}
  deriving DecidableEq, Repr

/-- Decodes what is asked of a rollout. -/
def RolloutSpec.decode : Decoder RolloutSpec := fun v => do
  let f ← Fields.ofRecord? ["replicas", "paused", "strategy"] v
  return { replicas := ← f.optional "replicas" Decode.int32
           isPaused := ← f.withDefault "paused" false Decode.flag
           strategy := ← f.withDefault "strategy" {} Strategy.decode }

/-- The revisions that the services of a blue-green strategy select, by their hashes. -/
structure BlueGreenStatus where
  activeSelector : Option String := none
  previewSelector : Option String := none
  deriving DecidableEq, Repr

/-- Decodes the state of a blue-green strategy. -/
def BlueGreenStatus.decode : Decoder BlueGreenStatus := fun v => do
  let f ← Fields.ofRecord? ["activeSelector", "previewSelector"] v
  return { activeSelector := ← f.optional "activeSelector" Decode.text
           previewSelector := ← f.optional "previewSelector" Decode.text }

/-- Which of the two services the stable revision has. -/
structure CanaryStatus where
  stablePingPong : Option String := none
  deriving DecidableEq, Repr

/-- Decodes the state of a canary strategy. -/
def CanaryStatus.decode : Decoder CanaryStatus := fun v => do
  let f ← Fields.ofRecord? ["stablePingPong"] v
  return { stablePingPong := ← f.optional "stablePingPong" Decode.text }

/-- Why a rollout is paused. -/
structure PauseCondition where
  reason : String := ""
  deriving DecidableEq, Repr

/-- Decodes why a rollout is paused. -/
def PauseCondition.decode : Decoder PauseCondition := fun v => do
  let f ← Fields.ofRecord? ["reason"] v
  return { reason := ← f.withDefault "reason" "" Decode.text }

/-- How a rollout is doing. -/
structure RolloutStatus where
  phase : Option String := none
  message : Option String := none
  isAborted : Bool := false
  /-- The hash of the newest revision. -/
  currentHash : Option String := none
  /-- The hash of the revision that is in full use. -/
  stableHash : Option String := none
  blueGreen : BlueGreenStatus := {}
  canary : CanaryStatus := {}
  pauseConditions : List PauseCondition := []
  deriving DecidableEq, Repr

/-- Decodes how a rollout is doing. -/
def RolloutStatus.decode : Decoder RolloutStatus := fun v => do
  let f ← Fields.ofRecord? ["phase", "message", "abort", "currentPodHash", "stableRS", "blueGreen",
    "canary", "pauseConditions"] v
  return {
    phase := ← f.optional "phase" Decode.text
    message := ← f.optional "message" Decode.text
    isAborted := ← f.withDefault "abort" false Decode.flag
    currentHash := ← f.optional "currentPodHash" Decode.text
    stableHash := ← f.optional "stableRS" Decode.text
    blueGreen := ← f.withDefault "blueGreen" {} BlueGreenStatus.decode
    canary := ← f.withDefault "canary" {} CanaryStatus.decode
    pauseConditions :=
      ← f.withDefault "pauseConditions" [] (Decode.list PauseCondition.decode) }

/-- A rollout: a program with its revisions. -/
structure Rollout where
  metadata : Metadata := {}
  spec : RolloutSpec := {}
  status : RolloutStatus := {}
  deriving DecidableEq, Repr

namespace Rollout

/-- Decodes a rollout. -/
def decode : Decoder Rollout := fun v => do
  let (metadata, f) ← Decode.dynamic v
  return { metadata
           spec := ← f.withDefault "spec" {} RolloutSpec.decode
           status := ← f.withDefault "status" {} RolloutStatus.decode }

/-- Whether the rollout switches from one revision to the other. -/
def isBlueGreen (r : Rollout) : Bool := r.spec.strategy.blueGreen.isSome

end Rollout

/-! ### Experiments -/

/-- How an experiment is doing. -/
structure ExperimentStatus where
  phase : Option String := none
  message : Option String := none
  deriving DecidableEq, Repr

/-- Decodes how an experiment is doing. -/
def ExperimentStatus.decode : Decoder ExperimentStatus := fun v => do
  let f ← Fields.ofRecord? ["phase", "message"] v
  return { phase := ← f.optional "phase" Decode.text
           message := ← f.optional "message" Decode.text }

/-- An experiment: replica sets that run side by side for a while. -/
structure Experiment where
  metadata : Metadata := {}
  status : ExperimentStatus := {}
  deriving DecidableEq, Repr

/-- Decodes an experiment. -/
def Experiment.decode : Decoder Experiment := fun v => do
  let (metadata, f) ← Decode.dynamic v
  return { metadata, status := ← f.withDefault "status" {} ExperimentStatus.decode }

/-! ### Analysis runs -/

/-- How often a metric was measured with which outcome. -/
structure MetricResult where
  name : String := ""
  successful : Int32 := 0
  failed : Int32 := 0
  error : Int32 := 0
  inconclusive : Int32 := 0
  deriving DecidableEq, Repr

/-- Decodes the outcomes of a metric. -/
def MetricResult.decode : Decoder MetricResult := fun v => do
  let f ← Fields.ofRecord? ["name", "successful", "failed", "error", "inconclusive"] v
  return { name := ← f.withDefault "name" "" Decode.text
           successful := ← f.withDefault "successful" 0 Decode.int32
           failed := ← f.withDefault "failed" 0 Decode.int32
           error := ← f.withDefault "error" 0 Decode.int32
           inconclusive := ← f.withDefault "inconclusive" 0 Decode.int32 }

/-- How an analysis run is doing. -/
structure AnalysisRunStatus where
  phase : Option String := none
  message : Option String := none
  metrics : List MetricResult := []
  deriving DecidableEq, Repr

/-- Decodes how an analysis run is doing. -/
def AnalysisRunStatus.decode : Decoder AnalysisRunStatus := fun v => do
  let f ← Fields.ofRecord? ["phase", "message", "metricResults"] v
  return { phase := ← f.optional "phase" Decode.text
           message := ← f.optional "message" Decode.text
           metrics := ← f.withDefault "metricResults" [] (Decode.list MetricResult.decode) }

/-- The counters of an analysis run. -/
structure Totals where
  successful : Int32 := 0
  failed : Int32 := 0
  inconclusive : Int32 := 0
  error : Int32 := 0
  deriving DecidableEq, Repr

/-- The counters after one more metric. -/
def Totals.add (t : Totals) (m : MetricResult) : Except Crash Totals := do
  return { successful := ← Word.add t.successful m.successful
           failed := ← Word.add t.failed m.failed
           inconclusive := ← Word.add t.inconclusive m.inconclusive
           error := ← Word.add t.error m.error }

/-- An analysis run: the measurements that decide on a revision. -/
structure AnalysisRun where
  metadata : Metadata := {}
  status : AnalysisRunStatus := {}
  deriving DecidableEq, Repr

namespace AnalysisRun

/-- Decodes an analysis run. -/
def decode : Decoder AnalysisRun := fun v => do
  let (metadata, f) ← Decode.dynamic v
  return { metadata, status := ← f.withDefault "status" {} AnalysisRunStatus.decode }

/-- The counters of all metrics together, added up from the first metric to the last. -/
def totals (run : AnalysisRun) : Except Crash Totals := run.status.metrics.foldlM Totals.add {}

end AnalysisRun

end RolloutTree
