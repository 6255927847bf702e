import RolloutTree.Proofs.Json.Growth
import RolloutTree.Tree.Rollout

/-!
# Members that are not known here

The objects of the delivery controller come from a version of it that may be newer than what is
known here. Wherever such an object is read as a record, it may have any further members: at its
top, in its nested records, in the items of its lists, and at any number of these places at once. It
has the same meaning with them and without, and so it is shown by the same node.

For each record the way in which it may grow names its fields, those that are kept and those that
are records themselves. What is added may have any name that is not among them. The metadata of an
object are no record of the controller; they are kept, and so are the kind and the version.

## Main definitions

* `Rollout.Grows`, `Experiment.Grows`, `AnalysisRun.Grows`: an object has got further members, at
  its top or further down.

## Main results

* `Decode.bind_dynamic`: the general form of an object that has grown.
* `Decode.further_members_ignored`: an object that has grown has the meaning that it had before.
-/

namespace RolloutTree

open Decode

/-! ### Rollouts -/

/-- The names of the two services are kept. -/
def PingPong.Grows : Growth := RecordGrows [kept "pingService", kept "pongService"]

theorem PingPong.ignores : Ignores Grows decode :=
  .record (fun _ => rfl) fun f g h => by
    simp only [h.withDefault "pingService" rfl (ignores_kept _),
      h.withDefault "pongService" rfl (ignores_kept _)]

/-- A canary strategy grows in its services. -/
def CanaryStrategy.Grows : Growth := RecordGrows [("pingPong", PingPong.Grows)]

theorem CanaryStrategy.ignores : Ignores Grows decode :=
  .record (fun _ => rfl) fun f g h => by
    simp only [h.optional "pingPong" rfl PingPong.ignores.nullable]

/-- The names of the two services are kept. -/
def BlueGreenStrategy.Grows : Growth := RecordGrows [kept "activeService", kept "previewService"]

theorem BlueGreenStrategy.ignores : Ignores Grows decode :=
  .record (fun _ => rfl) fun f g h => by
    simp only [h.withDefault "activeService" rfl (ignores_kept _),
      h.optional "previewService" rfl (ignores_kept _)]

/-- A strategy grows in both its forms. -/
def Strategy.Grows : Growth :=
  RecordGrows [("canary", CanaryStrategy.Grows), ("blueGreen", BlueGreenStrategy.Grows)]

theorem Strategy.ignores : Ignores Grows decode :=
  .record (fun _ => rfl) fun f g h => by
    simp only [h.optional "canary" rfl CanaryStrategy.ignores.nullable,
      h.optional "blueGreen" rfl BlueGreenStrategy.ignores.nullable]

/-- What is asked of a rollout grows in the strategy. -/
def RolloutSpec.Grows : Growth :=
  RecordGrows [kept "replicas", kept "paused", ("strategy", Strategy.Grows)]

theorem RolloutSpec.ignores : Ignores Grows decode :=
  .record (fun _ => rfl) fun f g h => by
    simp only [h.optional "replicas" rfl (ignores_kept _),
      h.withDefault "paused" rfl (ignores_kept _), h.withDefault "strategy" rfl Strategy.ignores]

/-- The hashes that the two services select are kept. -/
def BlueGreenStatus.Grows : Growth := RecordGrows [kept "activeSelector", kept "previewSelector"]

theorem BlueGreenStatus.ignores : Ignores Grows decode :=
  .record (fun _ => rfl) fun f g h => by
    simp only [h.optional "activeSelector" rfl (ignores_kept _),
      h.optional "previewSelector" rfl (ignores_kept _)]

/-- Which service is stable is kept. -/
def CanaryStatus.Grows : Growth := RecordGrows [kept "stablePingPong"]

theorem CanaryStatus.ignores : Ignores Grows decode :=
  .record (fun _ => rfl) fun f g h => by
    simp only [h.optional "stablePingPong" rfl (ignores_kept _)]

/-- The reason of a pause is kept. -/
def PauseCondition.Grows : Growth := RecordGrows [kept "reason"]

theorem PauseCondition.ignores : Ignores Grows decode :=
  .record (fun _ => rfl) fun f g h => by
    simp only [h.withDefault "reason" rfl (ignores_kept _)]

/-- How a rollout is doing grows in the states of both strategies and in each pause condition. -/
def RolloutStatus.Grows : Growth :=
  RecordGrows [kept "phase", kept "message", kept "abort", kept "currentPodHash", kept "stableRS",
    ("blueGreen", BlueGreenStatus.Grows), ("canary", CanaryStatus.Grows),
    ("pauseConditions", ListGrows PauseCondition.Grows)]

theorem RolloutStatus.ignores : Ignores Grows decode :=
  .record (fun _ => rfl) fun f g h => by
    simp only [h.optional "phase" rfl (ignores_kept _), h.optional "message" rfl (ignores_kept _),
      h.withDefault "abort" rfl (ignores_kept _),
      h.optional "currentPodHash" rfl (ignores_kept _),
      h.optional "stableRS" rfl (ignores_kept _),
      h.withDefault "blueGreen" rfl BlueGreenStatus.ignores,
      h.withDefault "canary" rfl CanaryStatus.ignores,
      h.withDefault "pauseConditions" rfl PauseCondition.ignores.list]

/-! ### Experiments and analysis runs -/

/-- The phase and the message are kept. -/
def ExperimentStatus.Grows : Growth := RecordGrows [kept "phase", kept "message"]

theorem ExperimentStatus.ignores : Ignores Grows decode :=
  .record (fun _ => rfl) fun f g h => by
    simp only [h.optional "phase" rfl (ignores_kept _), h.optional "message" rfl (ignores_kept _)]

/-- The name and the counters of a metric are kept. -/
def MetricResult.Grows : Growth :=
  RecordGrows [kept "name", kept "successful", kept "failed", kept "error", kept "inconclusive"]

theorem MetricResult.ignores : Ignores Grows decode :=
  .record (fun _ => rfl) fun f g h => by
    simp only [h.withDefault "name" rfl (ignores_kept _),
      h.withDefault "successful" rfl (ignores_kept _), h.withDefault "failed" rfl (ignores_kept _),
      h.withDefault "error" rfl (ignores_kept _),
      h.withDefault "inconclusive" rfl (ignores_kept _)]

/-- How an analysis run is doing grows in the outcomes of each metric. -/
def AnalysisRunStatus.Grows : Growth :=
  RecordGrows [kept "phase", kept "message", ("metricResults", ListGrows MetricResult.Grows)]

theorem AnalysisRunStatus.ignores : Ignores Grows decode :=
  .record (fun _ => rfl) fun f g h => by
    simp only [h.optional "phase" rfl (ignores_kept _), h.optional "message" rfl (ignores_kept _),
      h.withDefault "metricResults" rfl MetricResult.ignores.list]

/-! ### Objects -/

/-- A rollout grows at its top and in what is asked of it and how it is doing. -/
def Rollout.Grows : Growth :=
  RecordGrows [kept "metadata", kept "kind", kept "apiVersion", ("spec", RolloutSpec.Grows),
    ("status", RolloutStatus.Grows)]

/-- An experiment grows at its top and in how it is doing. -/
def Experiment.Grows : Growth :=
  RecordGrows [kept "metadata", kept "kind", kept "apiVersion", ("status", ExperimentStatus.Grows)]

/-- An analysis run grows at its top and in how it is doing. -/
def AnalysisRun.Grows : Growth :=
  RecordGrows [kept "metadata", kept "kind", kept "apiVersion", ("status", AnalysisRunStatus.Grows)]

variable {α : Type} {fields : List (String × Growth)} {v w : Json}

/-- What is read of the general form of an object does not depend on members that are added. -/
theorem Decode.bind_dynamic {read : Metadata × Fields → Option α}
    (hmetadata : fields.lookup "metadata" = some Eq)
    (hread : ∀ m f g, Fields.Grow fields f g → read (m, g) = read (m, f))
    (h : RecordGrows fields v w) : (dynamic w).bind read = (dynamic v).bind read := by
  cases h with
  | same => rfl
  | array => rfl
  | @object members more h =>
    have hgrow : Fields.Grow fields ⟨fun name => members.lookup name⟩
        ⟨fun name => more.lookup name⟩ := fun _ _ hname => h.lookup hname
    simp only [dynamic, Fields.ofObject?, Option.bind_eq_bind, Option.bind_some, Option.bind_assoc,
      Option.pure_def, hgrow.withDefault "metadata" hmetadata (ignores_kept _)]
    exact Option.bind_congr fun m _ => hread m.wholeSeconds _ _ hgrow

theorem Rollout.ignores : Ignores Grows decode := fun _ _ =>
  bind_dynamic rfl fun m f g h => by
    simp only [h.withDefault "spec" rfl RolloutSpec.ignores,
      h.withDefault "status" rfl RolloutStatus.ignores]

theorem Experiment.ignores : Ignores Grows decode := fun _ _ =>
  bind_dynamic rfl fun m f g h => by
    simp only [h.withDefault "status" rfl ExperimentStatus.ignores]

theorem AnalysisRun.ignores : Ignores Grows decode := fun _ _ =>
  bind_dynamic rfl fun m f g h => by
    simp only [h.withDefault "status" rfl AnalysisRunStatus.ignores]

/-- **Members that are not known here do not matter.** Take an object that is read as a rollout, an
experiment or an analysis run, and add members with names that are not known there to any of its
records, at any number of places. If it had a meaning before, it has the same meaning now, and the
same node; if it had none, it still has none. -/
theorem Decode.further_members_ignored (v w : Json) :
    (Rollout.Grows v w → Rollout.decode w = Rollout.decode v ∧
      ∀ now s, (Rollout.decode w).map (Rollout.node now s) =
        (Rollout.decode v).map (Rollout.node now s)) ∧
    (Experiment.Grows v w → Experiment.decode w = Experiment.decode v ∧
      ∀ now s, (Experiment.decode w).map (Experiment.node now s) =
        (Experiment.decode v).map (Experiment.node now s)) ∧
    (AnalysisRun.Grows v w → AnalysisRun.decode w = AnalysisRun.decode v ∧
      ∀ now s, (AnalysisRun.decode w).map (AnalysisRun.node now s) =
        (AnalysisRun.decode v).map (AnalysisRun.node now s)) := by
  refine ⟨fun h => ?_, fun h => ?_, fun h => ?_⟩
  · rw [Rollout.ignores v w h]
    exact ⟨rfl, fun _ _ => rfl⟩
  · rw [Experiment.ignores v w h]
    exact ⟨rfl, fun _ _ => rfl⟩
  · rw [AnalysisRun.ignores v w h]
    exact ⟨rfl, fun _ _ => rfl⟩

/-- A rollout with a field that is not known at its top, one in its services that is spelled
another way, and one in an item of its pause conditions. -/
theorem Decode.further_members_ignored_in_services :
    let v : Json := .object [
      ("spec", .object [("strategy", .object [("canary", .object [
        ("pingPong", .object [("pingService", .string "ping")])])])]),
      ("status", .object [("pauseConditions", .array [.object [("reason", .string "step")]])])]
    let w : Json := .object [
      ("spec", .object [("strategy", .object [("canary", .object [
        ("pingPong", .object [("ping_service", .null), ("pingService", .string "ping")])])])]),
      ("stableRS", .bool true),
      ("status", .object [("pauseConditions", .array [
        .object [("reason", .string "step"), ("startTime", .ofInt 7)]])])]
    Rollout.Grows v w ∧ Rollout.decode w = some
      { spec.strategy.canary := some { pingPong := some { pingService := "ping" } }
        status.pauseConditions := [{ reason := "step" }] } := by
  intro v w
  have hservices : PingPong.Grows (.object [("pingService", .string "ping")])
      (.object [("ping_service", .null), ("pingService", .string "ping")]) :=
    .object (.new _ rfl (.field rfl rfl .nil))
  have hcondition : PauseCondition.Grows (.object [("reason", .string "step")])
      (.object [("reason", .string "step"), ("startTime", .ofInt 7)]) :=
    .object (.field rfl rfl (.new _ rfl .nil))
  have hgrows : Rollout.Grows v w := by
    refine .object (.field rfl ?_ (.new _ rfl (.field rfl ?_ .nil)))
    · exact .object (.field rfl (.object (.field rfl (.object (.field rfl hservices .nil)) .nil))
        .nil)
    · exact .object (.field rfl (.array (.cons hcondition .nil)) .nil)
  exact ⟨hgrows, ((further_members_ignored v w).1 hgrows).1.trans rfl⟩

end RolloutTree
