import RolloutTree.Cluster.Workload
import RolloutTree.Tree.Node

/-!
# The node of a job

## Main definitions

* `Job.shownStatus`, `Job.node`.
-/

namespace RolloutTree.Job

/-- The status of the job. A failure counts before a success, and both before running pods. -/
def shownStatus (j : Job) : Status :=
  if Condition.holds j.conditions "Failed" then ⟨.bad, "Failed"⟩
  else if Condition.holds j.conditions "Complete" || 0 < j.succeeded.getD 0 then
    ⟨.ok, "Successful"⟩
  else if 0 < j.active.getD 0 then ⟨.progressing, "Running"⟩
  else ⟨.waiting, "Pending"⟩

/-- The node of the job. -/
def node (now : Instant) (j : Job) : Node :=
  { kind := .job
    name := j.metadata.displayName
    status := j.shownStatus
    age := j.metadata.age now }

end RolloutTree.Job
