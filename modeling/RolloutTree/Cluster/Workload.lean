import RolloutTree.Cluster.Metadata

/-!
# Replica sets, pods and jobs

The objects that run a program, as far as the tree shows them. Whatever is absent has its default,
and null is as good as absent; a present `kind` and `apiVersion` have to be the right ones.

## Main definitions

* `Condition`, `ReplicaSet`, `ContainerState`, `Container`, `Pod`, `Job`, each with its decoder.
-/

namespace RolloutTree

/-- What is noted of one aspect of an object's state. -/
structure Condition where
  type : String
  status : String
  deriving DecidableEq, Repr

namespace Condition

/-- Decodes a condition. -/
def decode : Decoder Condition := fun v => do
  let f ← Fields.ofObject? v
  return { type := ← f.orDefault "type" "" Decode.text
           status := ← f.orDefault "status" "" Decode.text }

/-- Whether some condition of the type is noted as true. -/
def holds (conditions : List Condition) (type : String) : Bool :=
  conditions.any fun c => c.type == type && c.status == "True"

end Condition

namespace Decode

/-- The fields of an object whose kind and version, where they are present, are the given ones. -/
def ofKind (kind apiVersion : String) : Decoder Fields := fun v => do
  let f ← Fields.ofObject? v
  guard ((← f.withDefault "kind" kind text) = kind)
  guard ((← f.withDefault "apiVersion" apiVersion text) = apiVersion)
  return f

/-- A part of an object that may be absent or null, which says then what an empty object says. -/
def part {α : Type} (f : Fields) (name : String) (read : Fields → Option α) : Option α := do
  match ← f.optional name Fields.ofObject? with
  | some inner => read inner
  | none => read ⟨fun _ => none⟩

end Decode

/-- A replica set: how many pods it should have and how many are available. -/
structure ReplicaSet where
  metadata : Metadata := {}
  replicas : Option Int32 := none
  available : Option Int32 := none
  conditions : List Condition := []
  deriving DecidableEq, Repr

/-- Decodes a replica set. -/
def ReplicaSet.decode : Decoder ReplicaSet := fun v => do
  let f ← Decode.ofKind "ReplicaSet" "apps/v1" v
  let metadata ← f.orDefault "metadata" {} Metadata.decode
  let replicas ← Decode.part f "spec" fun spec => spec.optional "replicas" Decode.int32
  let (available, conditions) ← Decode.part f "status" fun status => do
    let available ← status.optional "availableReplicas" Decode.int32
    let conditions ← status.orDefault "conditions" [] (Decode.list Condition.decode)
    return (available, conditions)
  return { metadata, replicas, available, conditions }

/-- The end of a container. -/
structure Termination where
  reason : Option String := none
  signal : Option Int32 := none
  exitCode : Int32 := 0
  deriving DecidableEq, Repr

/-- Decodes the end of a container. -/
def Termination.decode : Decoder Termination := fun v => do
  let f ← Fields.ofObject? v
  return { reason := ← f.optional "reason" Decode.text
           signal := ← f.optional "signal" Decode.int32
           exitCode := ← f.orDefault "exitCode" 0 Decode.int32 }

/-- What a container is doing. -/
inductive ContainerState where
  | waiting (reason : Option String)
  | terminated (termination : Termination)
  | other
  deriving DecidableEq, Repr

/-- Decodes the state of a container. One that says it waits and has ended waits. -/
def ContainerState.decode : Decoder ContainerState := fun v => do
  let f ← Fields.ofObject? v
  let waiting ← f.optional "waiting" fun w => do
    (← Fields.ofObject? w).optional "reason" Decode.text
  let terminated ← f.optional "terminated" Termination.decode
  let _ ← f.optional "running" Decode.object
  return match waiting, terminated with
    | some reason, _ => .waiting reason
    | none, some termination => .terminated termination
    | none, none => .other

/-- A container of a pod. -/
structure Container where
  isReady : Bool := false
  restarts : Int32 := 0
  state : ContainerState := .other
  deriving DecidableEq, Repr

/-- Decodes the status of a container. -/
def Container.decode : Decoder Container := fun v => do
  let f ← Fields.ofObject? v
  return { isReady := ← f.orDefault "ready" false Decode.flag
           restarts := ← f.orDefault "restartCount" 0 Decode.int32
           state := ← f.orDefault "state" .other ContainerState.decode }

/-- A pod with its containers. -/
structure Pod where
  metadata : Metadata := {}
  phase : Option String := none
  reason : Option String := none
  initContainers : List Container := []
  containers : List Container := []
  deriving DecidableEq, Repr

/-- Decodes a pod. -/
def Pod.decode : Decoder Pod := fun v => do
  let f ← Decode.ofKind "Pod" "v1" v
  let metadata ← f.orDefault "metadata" {} Metadata.decode
  Decode.part f "status" fun status => do
    return { metadata
             phase := ← status.optional "phase" Decode.text
             reason := ← status.optional "reason" Decode.text
             initContainers :=
               ← status.orDefault "initContainerStatuses" [] (Decode.list Container.decode)
             containers :=
               ← status.orDefault "containerStatuses" [] (Decode.list Container.decode) }

/-- A job: how many of its pods are running or done. -/
structure Job where
  metadata : Metadata := {}
  active : Option Int32 := none
  succeeded : Option Int32 := none
  conditions : List Condition := []
  deriving DecidableEq, Repr

/-- Decodes a job. -/
def Job.decode : Decoder Job := fun v => do
  let f ← Decode.ofKind "Job" "batch/v1" v
  let metadata ← f.orDefault "metadata" {} Metadata.decode
  Decode.part f "status" fun status => do
    let _ ← status.optional "failed" Decode.int32
    return { metadata
             active := ← status.optional "active" Decode.int32
             succeeded := ← status.optional "succeeded" Decode.int32
             conditions := ← status.orDefault "conditions" [] (Decode.list Condition.decode) }

end RolloutTree
