import RolloutTree.Tree.Experiment

/-!
# The node of a rollout

Whatever belongs to a rollout is grouped by revision, the newest first. Within a revision the
replica sets come before the experiments and these before the analysis runs.

## Main definitions

* `Rollout.shownStatus`.
* `Rollout.members`: what belongs to a rollout, with the revisions.
* `Revision.groups`, `Revision.nodes`: the members by their revisions, and a node for each revision.
* `Rollout.node`, `Rollout.build`: the node of a rollout, and what comes of building it.
-/

namespace RolloutTree

namespace Revision

/-- Puts a member at the end of the group of its revision. The groups stand in order, the newest
revision first, and a revision without a group gets one in its place. -/
def enter {α : Type} (number : Nat) (member : α) : List (Nat × List α) → List (Nat × List α)
  | [] => [(number, [member])]
  | (first, group) :: rest =>
    if first < number then (number, [member]) :: (first, group) :: rest
    else if first = number then (first, group ++ [member]) :: rest
    else (first, group) :: enter number member rest

/-- The members by their revisions, entered one after the other. -/
def groups {α : Type} (members : List (Nat × α)) : List (Nat × List α) :=
  members.foldl (fun groups (number, member) => enter number member groups) []

/-- The node of a revision, with its members below it. -/
def node (number : Nat) (members : List Node) : Node :=
  { kind := .revision, name := "revision:" ++ toString number, children := members }

/-- The nodes of the revisions that occur. -/
def nodes (members : List (Nat × Node)) : List Node :=
  (groups members).map fun (number, group) => node number group

end Revision

namespace Rollout

/-- The status of the rollout: what is reported, or what can be told without a report. -/
def shownStatus (r : Rollout) : Status :=
  match reportedPhase? r.status.phase with
  | some phase => .ofPhase phase
  | none =>
    if r.status.isAborted then ⟨.bad, "Degraded"⟩
    else if r.spec.isPaused || !r.status.pauseConditions.isEmpty then ⟨.paused, "Paused"⟩
    else ⟨.unknown, "Unknown"⟩

/-- What belongs to the rollout, with the revisions; no revision counts as revision 0. -/
def members (now : Instant) (s : Snapshot) (r : Rollout) : List (Nat × Node) :=
  let owner := r.metadata.identity
  let parts := Parts.ofRollout r
  (s.replicaSetsOf owner).map (fun rs => (rs.metadata.revision, rs.node now parts s)) ++
    (s.experimentsOf owner).map (fun e => (e.metadata.revision, e.node now s)) ++
    (s.analysisRunsOf owner).map (fun run => (run.metadata.revision, run.node now s))

/-- The node of the rollout, with a node for each of its revisions below it. -/
def node (now : Instant) (s : Snapshot) (r : Rollout) : Node :=
  { kind := .rollout
    name := r.metadata.displayName
    status := r.shownStatus
    age := r.metadata.age now
    children := Revision.nodes (r.members now s) }

/-- Breaks off if the counts of what belongs to the rollout cannot be added up. -/
def addUp (s : Snapshot) (r : Rollout) : Except Crash Unit := do
  (s.replicaSetsOf r.metadata.identity).forM (ReplicaSet.addUp s)
  (s.experimentsOf r.metadata.identity).forM (Experiment.addUp s)
  (s.analysisRunsOf r.metadata.identity).forM AnalysisRun.addUp

/-- Builds the node of the rollout. -/
def build (now : Instant) (s : Snapshot) (r : Rollout) : Except Crash Node := do
  r.addUp s
  return r.node now s

end Rollout

end RolloutTree
