import RolloutTree.Cluster.Workload
import RolloutTree.Tree.Node
import RolloutTree.Word

/-!
# The node of a pod

A pod shows how many of its containers are ready, how often they were started again, and one word
for its state. The word comes from the most telling part of the pod: its deletion, then an init
container that holds it up, then a container that waits or has ended, then the pod itself.

## Main definitions

* `Container.reason?`: why a container does not run.
* `Pod.word`: the word for a pod's state; `Pod.iconOf`: what the word means.
* `Pod.restarts`: how often its containers were started again.
* `Pod.node`, `Pod.build`: the node of a pod, and what comes of building it.
-/

namespace RolloutTree

/-- The word for the end of a container: its reason, or else the signal or the exit code. -/
def Termination.word (t : Termination) : String :=
  match t.reason, t.signal with
  | some reason, _ => reason
  | none, some signal =>
    if signal ≠ 0 then "Signal:" ++ toString signal.toInt
    else "ExitCode:" ++ toString t.exitCode.toInt
  | none, none => "ExitCode:" ++ toString t.exitCode.toInt

/-- Why the container does not run, if that is known. -/
def Container.reason? (c : Container) : Option String :=
  match c.state with
  | .waiting reason => reason
  | .terminated t => some t.word
  | .other => none

namespace Pod

/-- The reason of the first init container that holds the pod up. -/
def initReason? (p : Pod) : Option String :=
  (p.initContainers.filterMap Container.reason?).find? (· ≠ "Completed")

/-- The reason of the last container that has one. -/
def containerReason? (p : Pod) : Option String :=
  p.containers.reverse.findSome? Container.reason?

/-- The word for the pod's state. -/
def word (p : Pod) : String :=
  if p.metadata.deleted.isSome then "Terminating"
  else
    match p.initReason?, p.containerReason? with
    | some reason, _ => "Init:" ++ reason
    | none, some reason => reason
    | none, none => (p.reason.or p.phase).getD "Unknown"

/-- What the word means for a pod with so many ready containers out of so many. -/
def iconOf (word : String) (ready total : Nat) : StatusIcon :=
  match word with
  | "Running" => if 0 < total && ready = total then .ok else .progressing
  | "ContainerCreating" | "PodInitializing" => .progressing
  | "Pending" => .waiting
  | "Succeeded" | "Completed" => .ok
  | "Terminating" => .neutral
  | "Failed" | "Error" | "CrashLoopBackOff" | "ImagePullBackOff" | "ErrImagePull" | "OOMKilled"
  | "ContainerCannotRun" | "InvalidImageName" => .bad
  | word =>
    if "Init:".toList.isPrefixOf word.toList then
      if "Error".toList.isSuffixOf word.toList || "BackOff".toList.isSuffixOf word.toList then .bad
      else .progressing
    else .unknown

/-- The number of containers that are ready. -/
def ready (p : Pod) : Nat := p.containers.countP Container.isReady

/-- How often the containers were started again. -/
def restarts (p : Pod) : Except Crash Int32 := Word.sum (p.containers.map Container.restarts)

/-- The tag for the restarts, if there were any. -/
def restartTags (restarts : Int32) : List String :=
  if 0 < restarts then ["restarts:" ++ toString restarts.toInt] else []

/-- The status of the pod. -/
def shownStatus (p : Pod) : Status := ⟨iconOf p.word p.ready p.containers.length, p.word⟩

/-- The tags of the pod. Restarts that cannot be added up have none; then `build` has no node. -/
def info (p : Pod) : List String :=
  ["ready:" ++ toString p.ready ++ "/" ++ toString p.containers.length] ++
    match p.restarts with
    | .ok restarts => restartTags restarts
    | .error _ => []

/-- The node of the pod. -/
def node (now : Instant) (p : Pod) : Node :=
  { kind := .pod
    name := p.metadata.displayName
    status := p.shownStatus
    age := p.metadata.age now
    info := p.info }

/-- Breaks off if the restarts of the pod cannot be added up. -/
def addUp (p : Pod) : Except Crash Unit := do
  let _ ← p.restarts

/-- Builds the node of the pod. -/
def build (now : Instant) (p : Pod) : Except Crash Node := do
  p.addUp
  return p.node now

end Pod

end RolloutTree
