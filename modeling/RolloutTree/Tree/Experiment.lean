import RolloutTree.Tree.Job
import RolloutTree.Tree.ReplicaSet

/-!
# The nodes of analysis runs and experiments

Both show the phase that their controller reports. An analysis run counts its measurements, and its
jobs stand below it; below an experiment stand its replica sets and then its analysis runs.

## Main definitions

* `reportedPhase`: the phase, which is pending until one is reported.
* `AnalysisRun.counters`: the tags of an analysis run.
* `AnalysisRun.node`, `Experiment.node`, and `build` for what comes of building them.
-/

namespace RolloutTree

/-- The phase that is reported; an empty one is as good as none. -/
def reportedPhase? (phase : Option String) : Option String := phase.filter (· ≠ "")

/-- The phase that is reported, which is pending before. -/
def reportedPhase (phase : Option String) : String := (reportedPhase? phase).getD "Pending"

namespace AnalysisRun

/-- The tags for those counters that have counted. -/
def counters (t : Totals) : List String :=
  [(StatusIcon.ok, t.successful), (.bad, t.failed), (.unknown, t.inconclusive),
    (.warning, t.error)].filterMap fun (icon, count) =>
      if 0 < count then some (icon.glyph ++ " " ++ toString count.toInt) else none

/-- The tags of the analysis run. Counters that cannot be added up have none; then `build` has no
node. -/
def info (run : AnalysisRun) : List String :=
  match run.totals with
  | .ok totals => counters totals
  | .error _ => []

/-- The node of the analysis run, with its jobs below it. -/
def node (now : Instant) (s : Snapshot) (run : AnalysisRun) : Node :=
  { kind := .analysisRun
    name := run.metadata.displayName
    status := Status.ofPhase (reportedPhase run.status.phase)
    age := run.metadata.age now
    info := run.info
    children := (s.jobsOf run.metadata.identity).map (Job.node now) }

/-- Breaks off if the counters of the analysis run cannot be added up. -/
def addUp (run : AnalysisRun) : Except Crash Unit := do
  let _ ← run.totals

/-- Builds the node of the analysis run. -/
def build (now : Instant) (s : Snapshot) (run : AnalysisRun) : Except Crash Node := do
  run.addUp
  return run.node now s

end AnalysisRun

namespace Experiment

/-- The node of the experiment, with its replica sets and then its analysis runs below it. -/
def node (now : Instant) (s : Snapshot) (e : Experiment) : Node :=
  { kind := .experiment
    name := e.metadata.displayName
    status := Status.ofPhase (reportedPhase e.status.phase)
    age := e.metadata.age now
    children :=
      (s.replicaSetsOf e.metadata.identity).map (ReplicaSet.node now {} s) ++
        (s.analysisRunsOf e.metadata.identity).map (AnalysisRun.node now s) }

/-- Breaks off if the counts of a member of the experiment cannot be added up. -/
def addUp (s : Snapshot) (e : Experiment) : Except Crash Unit := do
  (s.replicaSetsOf e.metadata.identity).forM (ReplicaSet.addUp s)
  (s.analysisRunsOf e.metadata.identity).forM AnalysisRun.addUp

/-- Builds the node of the experiment. -/
def build (now : Instant) (s : Snapshot) (e : Experiment) : Except Crash Node := do
  e.addUp s
  return e.node now s

end Experiment

end RolloutTree
