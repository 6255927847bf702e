import RolloutTree.Api.Path
import RolloutTree.Api.Server
import RolloutTree.Tree.Rollout

/-!
# Fetching a tree

The tree of a rollout or an experiment needs six requests: the object itself and, from its
namespace, all replica sets, pods, jobs, experiments and analysis runs. A kind that the server does
not know has no objects. Of the experiments and analysis runs those count that have the form known
here; the object itself must have it.

A failure is fatal if asking again would not help: the object is not there or not to be seen, or the
server answers with a text that is something else.

## Main definitions

* `Severity`, `FetchFailure`, `FetchFailure.ofApi`.
* `ParentKind`, `Target`: what a tree is asked for.
* `Target.paths`: the paths of the requests.
* `Target.gather`, `Target.fetch`: what a tree is built from, and the tree, or why there is none.
-/

namespace RolloutTree

/-! ### Failures -/

/-- Whether asking again may help. -/
inductive Severity where
  | transient
  | fatal
  deriving DecidableEq, Repr

/-- What keeps a tree from being shown. -/
inductive FetchCause where
  | api (failure : Api.Failure)
  /-- The object is not of the form known here. -/
  | unfit
  | text (message : String)
  deriving DecidableEq, Repr

/-- The message, and the messages of what lies behind it. -/
def FetchCause.texts : FetchCause → List String
  | api failure => failure.texts
  | unfit => ["the object has an unknown form"]
  | text message => [message]

/-- Why a tree cannot be fetched, and whether asking again may help. -/
structure FetchFailure where
  severity : Severity
  cause : FetchCause
  deriving DecidableEq, Repr

namespace FetchFailure

/-- Asking again does not help where the object is missing or not to be seen, nor where the reply is
a text that is not what was asked for. -/
def severityOf : Api.Failure → Severity
  | .refused r => if r.code = 401 ∨ r.code = 403 ∨ r.code = 404 then .fatal else .transient
  | .undecodable => .fatal
  | _ => .transient

/-- The failure of a request as the failure of the fetch. -/
def ofApi (failure : Api.Failure) : FetchFailure := ⟨severityOf failure, .api failure⟩

/-- The object is not of the form known here. -/
def unfit : FetchFailure := ⟨.fatal, .unfit⟩

/-- The message. -/
def message (f : FetchFailure) : String := f.cause.texts.headD ""

end FetchFailure

/-! ### Snapshots -/

/-- Any object, as long as its metadata have the right form. -/
def Decode.general : Decoder Json := fun v => (Decode.dynamic v).map fun _ => v

namespace Api

/-- All objects of the kind in the namespace; none if the server does not know the kind. -/
def Server.listOrEmpty {α : Type} (s : Server) (item : Decoder α) (r : Resource) (place : String) :
    Except Failure (List α) := do
  match s.ask (Decode.listing item) (← Path.ofList r place) with
  | .error (.refused refusal) =>
    if refusal.code = 404 then .ok [] else .error (.refused refusal)
  | result => result

/-- The objects of the namespace. -/
def Server.snapshot (s : Server) (place : String) : Except Failure Snapshot := do
  let replicaSets ← s.listOrEmpty ReplicaSet.decode .replicaSets place
  let pods ← s.listOrEmpty Pod.decode .pods place
  let jobs ← s.listOrEmpty Job.decode .jobs place
  let experiments ← s.listOrEmpty Decode.general .experiments place
  let analysisRuns ← s.listOrEmpty Decode.general .analysisRuns place
  return { replicaSets, pods, jobs
           experiments := experiments.filterMap Experiment.decode
           analysisRuns := analysisRuns.filterMap AnalysisRun.decode }

end Api

/-! ### Trees -/

/-- The kinds of objects that have a tree of their own. -/
inductive ParentKind where
  | rollout
  | experiment
  deriving DecidableEq, Repr

namespace ParentKind

/-- The word for the kind. -/
def word : ParentKind → String
  | rollout => "rollout"
  | experiment => "experiment"

/-- The kind as requests address it. -/
def resource : ParentKind → Resource
  | rollout => .rollouts
  | experiment => .experiments

/-- Builds the tree of an object of the kind, if it has the form known here. -/
def build? (kind : ParentKind) (now : Instant) (s : Snapshot) (v : Json) :
    Except Crash (Option Node) :=
  match kind with
  | rollout => (Rollout.decode v).mapM (Rollout.build now s)
  | experiment => (Experiment.decode v).mapM (Experiment.build now s)

end ParentKind

/-- The object whose tree is asked for. -/
structure Target where
  kind : ParentKind
  name : String
  /-- The namespace. -/
  place : String
  deriving DecidableEq, Repr

namespace Target

/-- The path of the object. -/
def path (t : Target) : Except Api.Failure String :=
  Api.Path.ofObject t.kind.resource t.place t.name

/-- The kinds of objects that a tree is made of. -/
def listed : List Resource := [.replicaSets, .pods, .jobs, .experiments, .analysisRuns]

/-- The paths of the requests, which are made all or none. -/
def paths (t : Target) : List String :=
  match t.path with
  | .ok path => path :: listed.filterMap fun r => (Api.Path.ofList r t.place).toOption
  | .error _ => []

/-- The object, and the objects of its namespace. -/
def gather (t : Target) (s : Api.Server) : Except Api.Failure (Json × Snapshot) := do
  let parent ← t.path >>= s.ask Decode.general
  return (parent, ← s.snapshot t.place)

/-- The tree of the object, or why there is none; it may also break off. -/
def fetch (t : Target) (s : Api.Server) (now : Instant) :
    Except Crash (Except FetchFailure Node) := do
  match t.gather s with
  | .error failure => return .error (.ofApi failure)
  | .ok (parent, snapshot) =>
    match ← t.kind.build? now snapshot parent with
    | some node => return .ok node
    | none => return .error .unfit

end Target

end RolloutTree
