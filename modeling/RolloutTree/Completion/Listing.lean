import RolloutTree.Api.Discovery
import RolloutTree.Cluster.Context
import RolloutTree.Completion.Candidates
import RolloutTree.Fetch
import RolloutTree.JsonPath.Query
import RolloutTree.JsonPath.Reader

/-!
# Listing names

Names are listed by asking the server for all objects of a kind and following a path through the
list. The kinds of the delivery controller are known by their names; any other kind is looked up
among all that the server serves.

## Main definitions

* `ListFailure`: why there are no names.
* `project`: the texts that a path leads to in a list of objects.
* `listNames`: the names of a kind, and the paths of the requests.
-/

namespace RolloutTree.Completion

/-- Why names cannot be listed. -/
inductive ListFailure where
  | noContext (reason : NoContext)
  | unknownKind (name : String)
  /-- The path to the names is none. -/
  | badTemplate
  | api (failure : Api.Failure)
  deriving DecidableEq, Repr

/-- The message. -/
def ListFailure.message : ListFailure → String
  | noContext reason => "unable to resolve namespace: " ++ reason.message
  | unknownKind name => "unknown resource kind " ++ name
  | badTemplate => "invalid name template"
  | api failure => failure.message

/-- The texts that the path leads to in the list of objects, with spaces between them. -/
def project (objects : List Json) (path : JsonPath.Path) : String :=
  " ".intercalate ((path.query (.object [("items", .array objects)])).filterMap Decode.text)

/-- The kind of objects that the name stands for. -/
def kindOf? (name : String) : Api.Exchange (Option Api.Served) :=
  match Resource.delivery? name with
  | some r => some <$> Api.Exchange.discoverKind r
  | none => (Api.resolve · name) <$> Api.Exchange.discover

/-- The objects of the kind in the namespace, unless the server does not know the kind. -/
def objects? (kind place : String) : Api.Exchange (Option (List Json)) := do
  match ← kindOf? kind with
  | none => return none
  | some served =>
    let path ← Api.Path.ofList served.resource (if served.isNamespaced then some place else none)
    return some (← Api.Exchange.ask (Decode.listing Decode.general) path)

/-- The names that a lister is asked for, with the paths of the requests that have reached the
server. The path to the names is looked at last. -/
def listNames (server : Api.Server) (config : AccessConfig) (context : Option String)
    (q : NameQuery) : Except ListFailure String × List String :=
  match config.place context with
  | .error reason => (.error (.noContext reason), [])
  | .ok place =>
    let (result, paths) := (objects? q.kind (q.place.getD place)).run server
    let listed := match result, JsonPath.Path.parse? q.template with
      | .error failure, _ => .error (.api failure)
      | .ok none, _ => .error (.unknownKind q.kind)
      | .ok (some _), none => .error .badTemplate
      | .ok (some found), some path => .ok (project found path)
    (listed, paths)

end RolloutTree.Completion
