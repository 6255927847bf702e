/-!
# Contexts

A configuration of cluster access knows contexts by name. Each may choose a namespace; without one
it is the default namespace.

## Main definitions

* `AccessConfig`, `AccessConfig.place`: the namespace of a context, or why there is no such context.
-/

namespace RolloutTree

/-- The contexts of a user, with the namespaces that they choose, and the current one. -/
structure AccessConfig where
  contexts : List (String × Option String) := []
  current : Option String := none
  deriving DecidableEq, Repr

/-- Why there is no context. -/
inductive NoContext where
  | unknown (name : String)
  | noCurrent
  deriving DecidableEq, Repr

/-- The message. -/
def NoContext.message : NoContext → String
  | unknown name => "failed to load current context: " ++ name
  | noCurrent => "failed to determine current context"

/-- The namespace of a context that does not choose one. -/
def defaultPlace : String := "default"

/-- The namespace of the context that is asked for, or else of the current one. -/
def AccessConfig.place (c : AccessConfig) (asked : Option String) : Except NoContext String :=
  match asked.or c.current with
  | none => .error .noCurrent
  | some name =>
    match c.contexts.lookup name with
    | some place => .ok (place.getD defaultPlace)
    | none => .error (.unknown name)

end RolloutTree
