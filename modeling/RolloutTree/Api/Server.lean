import RolloutTree.Api.Failure
import RolloutTree.Cluster.Metadata

/-!
# The API server

A server is what it replies to each path, if a reply comes at all. A reply holds bytes. They are to
be a text, and unless the reply is a failure a JSON text; whether it says what was asked for is a
matter of decoding.

## Main definitions

* `Reply`, `Server`, `Server.ask`: the decoded reply to a path, or why there is none.
* `Exchange`: requests one after the other, with `Exchange.ask`.
* `Decode.listing`: the items of a list of objects.
-/

namespace RolloutTree

namespace Api

/-- A reply: a status code and bytes. -/
structure Reply where
  code : Nat := 200
  body : ByteArray

/-- A server: what it replies to each path, or the reasons why no reply comes back. -/
structure Server where
  reply : String → Except (List String) Reply

namespace Server

/-- A server that replies to every path. -/
def reachable (reply : String → Reply) : Server := ⟨fun path => .ok (reply path)⟩

/-- A server that no request reaches, for the reasons. -/
def unreachable (reasons : List String) : Server := ⟨fun _ => .error reasons⟩

/-- The text of the reply to the path. A failure that is no text does not say why it is one. -/
def fetch (s : Server) (path : String) : Except Failure String := do
  let r ← (s.reply path).mapError .unreachable
  let text ← (Text.Utf8.decode r.body).mapError .notText
  if isFailure r.code then .error (.refused (.ofReply r.code text)) else .ok text

/-- The meaning of the reply to the path. -/
def ask {α : Type} (s : Server) (value : Decoder α) (path : String) : Except Failure α := do
  match (Json.parse? (← s.fetch path)).bind value with
  | some a => .ok a
  | none => .error .undecodable

end Server

/-- Requests to one server, one after the other, up to the first that fails. The paths of the
requests that have reached the server are kept, the last one first. -/
abbrev Exchange (α : Type) := ReaderT Server (ExceptT Failure (StateM (List String))) α

namespace Exchange

/-- One request. -/
def ask {α : Type} (value : Decoder α) (path : String) : Exchange α := do
  let server ← read
  if (server.reply path).isOk then modify (path :: ·)
  server.ask value path

/-- The outcome of the requests, and their paths in order. -/
def run {α : Type} (x : Exchange α) (s : Server) : Except Failure α × List String :=
  let (result, paths) := (ReaderT.run x s).run []
  (result, paths.reverse)

end Exchange

end Api

namespace Decode

/-- The items of a list of objects. The list may note further facts about itself, and null is an
empty list. -/
def listing {α : Type} (item : Decoder α) : Decoder (List α) := fun v => do
  let f ← Fields.ofObject? v
  f.withDefault "metadata" () fun m => do
    let note ← Fields.ofObject? m
    for name in ["continue", "resourceVersion", "selfLink"] do
      let _ ← note.optional name text
    let _ ← note.optional "remainingItemCount" int64
  return (← f.required "items" (nullable (list item))).getD []

end Decode

end RolloutTree
