/-!
# Kinds of objects in a cluster

A kind of object belongs to a group of kinds and to a version of that group; the core group has no
name. Requests name a kind by its plural.

## Main definitions

* `Resource`: a kind of object, with `Resource.groupVersion`.
* `Resource.delivery?`: the kinds of the delivery controller by the names that people use for them.
-/

namespace RolloutTree

/-- A kind of object, as requests address it. -/
structure Resource where
  group : String
  version : String
  /-- The group and the version as objects state them. -/
  apiVersion : String
  kind : String
  plural : String
  deriving DecidableEq, Repr

namespace Resource

/-- The group and the version in one text; the core group is not named. -/
def groupVersion (group version : String) : String :=
  if group.isEmpty then version else group ++ "/" ++ version

/-- The kind of a group and a version. -/
def ofGroup (group version kind plural : String) : Resource :=
  ⟨group, version, groupVersion group version, kind, plural⟩

/-- The core kind of pods. -/
def pods : Resource := ofGroup "" "v1" "Pod" "pods"

/-- The kind of replica sets. -/
def replicaSets : Resource := ofGroup "apps" "v1" "ReplicaSet" "replicasets"

/-- The kind of jobs. -/
def jobs : Resource := ofGroup "batch" "v1" "Job" "jobs"

/-- The group of the delivery controller. -/
def deliveryGroup : String := "argoproj.io"

/-- The version of its group that the delivery controller serves. -/
def deliveryVersion : String := "v1alpha1"

/-- The kind of rollouts. -/
def rollouts : Resource := ofGroup deliveryGroup deliveryVersion "Rollout" "rollouts"

/-- The kind of experiments. -/
def experiments : Resource := ofGroup deliveryGroup deliveryVersion "Experiment" "experiments"

/-- The kind of analysis runs. -/
def analysisRuns : Resource := ofGroup deliveryGroup deliveryVersion "AnalysisRun" "analysisruns"

/-- Whether two texts are the same up to the case of their ASCII letters. -/
def sameName (a b : String) : Bool := a.map Char.toLower == b.map Char.toLower

/-- Whether the name is the kind's own or its plural, in whatever case. -/
def isNamed (r : Resource) (name : String) : Bool :=
  sameName r.kind name || sameName r.plural name

/-- The kind of the delivery controller that the name stands for: its own name, its plural or a
short form, in whatever case. -/
def delivery? (name : String) : Option Resource :=
  match name.map Char.toLower with
  | "ro" => some rollouts
  | "exp" => some experiments
  | "ar" => some analysisRuns
  | _ => [rollouts, experiments, analysisRuns].find? (·.isNamed name)

end Resource

end RolloutTree
