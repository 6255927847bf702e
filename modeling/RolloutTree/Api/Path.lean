import RolloutTree.Api.Failure
import RolloutTree.Cluster.Resource

/-!
# Paths of requests

A request names what it asks for by a path: the group and version of a kind, the namespace if there
is one, the plural of the kind, and the name of a single object. Names are put into the path as they
are, so that a question mark in one starts the query and a number sign the fragment, neither of
which belongs to the path.

## Main definitions

* `Path.ofKind`: the path of all objects of a kind.
* `Path.requested?`: the path that a text asks for.
* `Path.ofObject`: the path of one object, or why it cannot be asked for.
-/

namespace RolloutTree.Api.Path

/-- Whether the character may stand in a path. -/
def isPathChar (c : Char) : Bool :=
  c = '!' || c = '"' || ('$' ≤ c && c ≤ ';') || c = '=' || ('@' ≤ c && c ≤ '_') || 'a' ≤ c

/-- Whether the character may stand in a query. -/
def isQueryChar (c : Char) : Bool :=
  c = '!' || ('$' ≤ c && c ≤ ';') || c = '=' || '?' ≤ c

/-- Whether the character ends a path. -/
def endsPath (c : Char) : Bool := c = '?' || c = '#'

/-- Whether the characters after a path are in order: a query perhaps, then a fragment perhaps,
which may be anything. -/
def isTail : List Char → Bool
  | '?' :: rest => (rest.takeWhile (· ≠ '#')).all isQueryChar
  | _ => true

/-- The path that the text asks for, if it has none but proper characters. -/
def requested? (text : String) : Option String :=
  let path := text.toList.takeWhile (!endsPath ·)
  let tail := text.toList.dropWhile (!endsPath ·)
  if path.all isPathChar && isTail tail then some (String.ofList path) else none

/-- The path of all objects of the kind, in a namespace or in all of the cluster. -/
def ofKind (r : Resource) (place : Option String) : String :=
  (if r.group.isEmpty then "/api/" else "/apis/") ++ r.apiVersion ++ "/" ++
    (match place with
      | some name => "namespaces/" ++ name ++ "/"
      | none => "") ++ r.plural

/-- The path that asks for all objects of the kind, or why it cannot be asked for. -/
def ofList (r : Resource) (place : Option String) : Except Failure String :=
  match requested? (ofKind r place) with
  | some path => .ok path
  | none => .error (.badRequest .badCharacter)

/-- The path that asks for one object of the kind, or why it cannot be asked for. -/
def ofObject (r : Resource) (place : Option String) (name : String) : Except Failure String :=
  if name.isEmpty then .error (.badRequest .emptyName)
  else
    match requested? (ofKind r place ++ "/" ++ name) with
    | some path => .ok path
    | none => .error (.badRequest .badCharacter)

end RolloutTree.Api.Path
