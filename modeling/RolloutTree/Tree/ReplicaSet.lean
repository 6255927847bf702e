import RolloutTree.Cluster.Snapshot
import RolloutTree.Tree.Pod
import RolloutTree.Tree.Tags

/-!
# The node of a replica set

A replica set shows the parts that it plays in its rollout and, if it is to be scaled down later,
how long that will take. Its pods stand below it.

## Main definitions

* `ReplicaSet.shownStatus`, `ReplicaSet.delay?`.
* `ReplicaSet.node`, `ReplicaSet.build`: the node of a replica set, and what comes of building it.
-/

namespace RolloutTree.ReplicaSet

/-- The status of the replica set; one pod is wanted where no number is given. -/
def shownStatus (rs : ReplicaSet) : Status :=
  let wanted := rs.replicas.getD 1
  if Condition.holds rs.conditions "ReplicaFailure" then ⟨.bad, "Degraded"⟩
  else if wanted = 0 then ⟨.neutral, "ScaledDown"⟩
  else if rs.available.getD 0 < wanted then ⟨.progressing, "Progressing"⟩
  else ⟨.ok, "Healthy"⟩

/-- The tag for the time until the replica set is scaled down. -/
def delay? (now : Instant) (rs : ReplicaSet) : Option String := do
  let noted ← rs.metadata.annotations.lookup Metadata.scaleDownAnnotation
  let deadline ← Instant.parse? noted
  let left := now.elapsed deadline
  return if 0 < left then "delay:" ++ toString left ++ "s" else "delay:passed"

/-- The tags for the parts that the replica set plays. -/
def partTags (parts : Parts) (rs : ReplicaSet) : List String :=
  match rs.metadata.labels.lookup Metadata.podTemplateHashLabel with
  | some hash => (parts.tagsOf hash).map Tag.text
  | none => []

/-- The node of the replica set, with its pods below it. -/
def node (now : Instant) (parts : Parts) (s : Snapshot) (rs : ReplicaSet) : Node :=
  { kind := .replicaSet
    name := rs.metadata.displayName
    status := rs.shownStatus
    age := rs.metadata.age now
    info := partTags parts rs ++ (rs.delay? now).toList
    children := (s.podsOf rs.metadata.identity).map (Pod.node now) }

/-- Breaks off if the restarts of a pod of the replica set cannot be added up. -/
def addUp (s : Snapshot) (rs : ReplicaSet) : Except Crash Unit :=
  (s.podsOf rs.metadata.identity).forM Pod.addUp

/-- Builds the node of the replica set. -/
def build (now : Instant) (parts : Parts) (s : Snapshot) (rs : ReplicaSet) :
    Except Crash Node := do
  rs.addUp s
  return rs.node now parts s

end RolloutTree.ReplicaSet
