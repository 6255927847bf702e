import RolloutTree.Json.Decode
import RolloutTree.Text.Natural
import RolloutTree.Time.Age
import RolloutTree.Time.Reader

/-!
# Object metadata

What every object of a cluster says about itself: its name and identity, when it was made, what was
noted on it, and which objects own it.

## Main definitions

* `Metadata`, `Metadata.decode`.
* `Metadata.displayName`, `Metadata.identity`, `Metadata.age`, `Metadata.isOwnedBy`.
* `Metadata.revision?`: the revision that an object belongs to.
-/

namespace RolloutTree

/-- What an object says about itself. -/
structure Metadata where
  name : Option String := none
  uid : Option String := none
  created : Option Instant := none
  deleted : Option Instant := none
  labels : List (String × String) := []
  annotations : List (String × String) := []
  /-- The identities of the owners. -/
  owners : List String := []
  deriving DecidableEq, Repr

namespace Metadata

/-- An instant, written as text. -/
def decodeInstant : Decoder Instant := fun v => (Decode.text v).bind Instant.parse?

/-- The identity of an owner; an owner without one has the empty identity. -/
def decodeOwner : Decoder String := fun v => do
  let f ← Fields.ofObject? v
  for name in ["apiVersion", "kind", "name"] do
    let _ ← f.optional name Decode.text
  for name in ["blockOwnerDeletion", "controller"] do
    let _ ← f.optional name Decode.flag
  f.orDefault "uid" "" Decode.text

/-- The metadata that an object stands for. Known fields must have the right form, kept or not. -/
def decode : Decoder Metadata := fun v => do
  let f ← Fields.ofObject? v
  for name in ["generateName", "namespace", "resourceVersion", "selfLink"] do
    let _ ← f.optional name Decode.text
  for name in ["deletionGracePeriodSeconds", "generation"] do
    let _ ← f.optional name Decode.int64
  let _ ← f.optional "finalizers" (Decode.list Decode.text)
  let _ ← f.optional "managedFields" (Decode.list Decode.object)
  return {
    name := ← f.optional "name" Decode.text
    uid := ← f.optional "uid" Decode.text
    created := ← f.optional "creationTimestamp" decodeInstant
    deleted := ← f.optional "deletionTimestamp" decodeInstant
    labels := ← f.orDefault "labels" [] Decode.textMap
    annotations := ← f.orDefault "annotations" [] Decode.textMap
    owners := ← f.orDefault "ownerReferences" [] (Decode.list decodeOwner) }

/-- The metadata with its times cut to whole seconds, as they are written. -/
def wholeSeconds (m : Metadata) : Metadata :=
  { m with
    created := m.created.map Instant.wholeSecond
    deleted := m.deleted.map Instant.wholeSecond }

/-- The name, empty if there is none. -/
def displayName (m : Metadata) : String := m.name.getD ""

/-- The identity, empty if there is none. -/
def identity (m : Metadata) : String := m.uid.getD ""

/-- How long ago the object was made, empty if that is not known. -/
def age (m : Metadata) (now : Instant) : String :=
  match m.created with
  | some created => Age.text created now
  | none => ""

/-- Whether the object with the identity is an owner. -/
def isOwnedBy (m : Metadata) (uid : String) : Bool := m.owners.contains uid

/-- The note that holds the revision. -/
def revisionAnnotation : String := "rollout.argoproj.io/revision"

/-- The note that holds the instant at which a replica set is scaled down. -/
def scaleDownAnnotation : String := "argo-rollouts.argoproj.io/scale-down-deadline"

/-- The label that holds the hash of a replica set's pod template. -/
def podTemplateHashLabel : String := "rollouts-pod-template-hash"

/-- The revision that the object belongs to: a numeral that fits into 64 bits. -/
def revision? (m : Metadata) : Option Nat :=
  (m.annotations.lookup revisionAnnotation).bind fun numeral => Text.natural? 64 numeral.toList

/-- The revision that the object is counted under, which is 0 if it notes none. -/
def revision (m : Metadata) : Nat := m.revision?.getD 0

end Metadata

end RolloutTree
