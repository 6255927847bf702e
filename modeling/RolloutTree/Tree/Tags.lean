import RolloutTree.Cluster.Delivery

/-!
# Tags of replica sets

A rollout tells its replica sets apart by hashes. A replica set carries the tags of the parts that
its hash plays: the stable and the canary revision, with the service that each of them has if two
services alternate, or the active and the preview revision of a blue-green strategy.

## Main definitions

* `Tag`, `Tag.text`.
* `Parts`: the hashes of a rollout's parts, with `Parts.ofRollout` and `Parts.tagsOf`.
-/

namespace RolloutTree

/-- A part that a replica set plays in its rollout. -/
inductive Tag where
  | stable
  | canary
  | active
  | preview
  | ping
  | pong
  deriving DecidableEq, Repr

/-- The word that is shown for the tag. -/
def Tag.text : Tag → String
  | stable => "stable"
  | canary => "canary"
  | active => "active"
  | preview => "preview"
  | ping => "ping"
  | pong => "pong"

/-- The hashes of the revisions that play a part in a rollout. -/
structure Parts where
  stable : Option String := none
  canary : Option String := none
  active : Option String := none
  preview : Option String := none
  /-- The services of the stable and of the canary revision, if two services alternate. -/
  services : Option (Tag × Tag) := none
  deriving DecidableEq, Repr

namespace Parts

/-- The services of the stable and of the canary revision. -/
def servicesOf (r : Rollout) : Option (Tag × Tag) :=
  match r.spec.strategy.canary with
  | some ⟨some _⟩ =>
    if r.status.canary.stablePingPong = some Tag.pong.text then some (.pong, .ping)
    else some (.ping, .pong)
  | _ => none

/-- The parts of a rollout. The newest revision is a canary unless it is the stable one. -/
def ofRollout (r : Rollout) : Parts :=
  if r.isBlueGreen then
    { stable := r.status.stableHash
      active := r.status.blueGreen.activeSelector
      preview := r.status.blueGreen.previewSelector }
  else
    { stable := r.status.stableHash
      canary := if r.status.currentHash = r.status.stableHash then none else r.status.currentHash
      services := servicesOf r }

/-- The tags of the replica set with the hash. -/
def tagsOf (p : Parts) (hash : String) : List Tag :=
  (if p.stable = some hash then .stable :: (p.services.map (·.1)).toList else []) ++
  (if p.canary = some hash then .canary :: (p.services.map (·.2)).toList else []) ++
  (if p.active = some hash then [.active] else []) ++
  (if p.preview = some hash ∧ p.active ≠ some hash then [.preview] else [])

end Parts

end RolloutTree
