import RolloutTree.Cluster.Delivery
import RolloutTree.Cluster.Workload

/-!
# Snapshots of a namespace

The objects of a namespace, as they were listed at one time. What belongs to an object is found by
the owners that each object names.

## Main definitions

* `Snapshot`: the listed objects.
* `ownedBy`: the objects of one kind that belong to an owner, in the order of their names.
-/

namespace RolloutTree

/-- The objects of a namespace by their kinds. -/
structure Snapshot where
  replicaSets : List ReplicaSet := []
  pods : List Pod := []
  jobs : List Job := []
  experiments : List Experiment := []
  analysisRuns : List AnalysisRun := []
  deriving Repr

/-- The order of names by their code points; an object without a name comes first. -/
def nameLE : Option String → Option String → Bool
  | none, _ => true
  | some _, none => false
  | some a, some b => decide (a ≤ b)

/-- The objects that name the owner, in the order of their names; those of one name stay in the
order in which they were listed. -/
def ownedBy {α : Type} (metadata : α → Metadata) (items : List α) (owner : String) : List α :=
  (items.filter fun item => (metadata item).isOwnedBy owner).mergeSort fun a b =>
    nameLE (metadata a).name (metadata b).name

namespace Snapshot

/-- The replica sets of an owner. -/
def replicaSetsOf (s : Snapshot) (owner : String) : List ReplicaSet :=
  ownedBy ReplicaSet.metadata s.replicaSets owner

/-- The pods of an owner. -/
def podsOf (s : Snapshot) (owner : String) : List Pod := ownedBy Pod.metadata s.pods owner

/-- The jobs of an owner. -/
def jobsOf (s : Snapshot) (owner : String) : List Job := ownedBy Job.metadata s.jobs owner

/-- The experiments of an owner. -/
def experimentsOf (s : Snapshot) (owner : String) : List Experiment :=
  ownedBy Experiment.metadata s.experiments owner

/-- The analysis runs of an owner. -/
def analysisRunsOf (s : Snapshot) (owner : String) : List AnalysisRun :=
  ownedBy AnalysisRun.metadata s.analysisRuns owner

end Snapshot

end RolloutTree
