/-!
# Nodes of the tree

A node stands for an object of the cluster, or for a revision that groups objects. It carries what
its line shows: a kind, a name, perhaps a status, an age and tags.

## Main definitions

* `Kind`, with the glyph in front of a name and the label in its own column.
* `StatusIcon`, with its glyph, and `StatusIcon.ofPhase` for the phases that objects report.
* `Status`, `Node`, and `Node.size`, the number of nodes of a tree.
-/

namespace RolloutTree

/-- What a node stands for. -/
inductive Kind where
  | rollout
  | revision
  | replicaSet
  | pod
  | job
  | service
  | experiment
  | analysisRun
  deriving DecidableEq, Repr

namespace Kind

/-- The glyph in front of the name. -/
def icon : Kind → String
  | rollout => "⟳"
  | revision => "#"
  | replicaSet => "⧉"
  | pod => "□"
  | job => "⊞"
  | service => "⑃"
  | experiment => "Σ"
  | analysisRun => "α"

/-- The name of the kind; a revision is no object and has none. -/
def label : Kind → String
  | rollout => "Rollout"
  | revision => ""
  | replicaSet => "ReplicaSet"
  | pod => "Pod"
  | job => "Job"
  | service => "Service"
  | experiment => "Experiment"
  | analysisRun => "AnalysisRun"

end Kind

/-- How an object is doing. -/
inductive StatusIcon where
  | waiting
  | progressing
  | warning
  | unknown
  | ok
  | bad
  | paused
  | neutral
  deriving DecidableEq, Repr

namespace StatusIcon

/-- The glyph in front of the status text. -/
def glyph : StatusIcon → String
  | waiting => "◷"
  | progressing => "◌"
  | warning => "⚠"
  | unknown => "?"
  | ok => "✔"
  | bad => "✖"
  | paused => "॥"
  | neutral => "•"

/-- How an object in the phase is doing. -/
def ofPhase : String → StatusIcon
  | "Healthy" | "Successful" | "Completed" => ok
  | "Progressing" | "Running" => progressing
  | "Pending" => waiting
  | "Paused" => paused
  | "Degraded" | "Failed" | "Error" => bad
  | "Inconclusive" => warning
  | "ScaledDown" => neutral
  | _ => unknown

end StatusIcon

/-- A status: how the object is doing, and its own word for it. -/
structure Status where
  icon : StatusIcon
  text : String
  deriving DecidableEq, Repr

/-- The status that a phase stands for. -/
def Status.ofPhase (phase : String) : Status := ⟨.ofPhase phase, phase⟩

/-- A node with everything below it. -/
structure Node where
  kind : Kind
  name : String
  status : Option Status := none
  age : String := ""
  info : List String := []
  children : List Node := []
  deriving Repr

mutual

/-- The number of nodes of the tree. -/
def Node.size : Node → Nat
  | ⟨_, _, _, _, _, children⟩ => 1 + Node.sizes children

/-- The number of nodes of the trees together. -/
def Node.sizes : List Node → Nat
  | [] => 0
  | node :: nodes => node.size + Node.sizes nodes

end

end RolloutTree
