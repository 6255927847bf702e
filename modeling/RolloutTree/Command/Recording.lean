import RolloutTree.Command.Session
import RolloutTree.Json.Writer

/-!
# Recorded clusters

The program shows what was recorded of a cluster: the time, the contexts of the user and the replies
of the API server to the paths that were asked for. A cluster of which no replies were recorded
cannot be reached, for reasons that were; a path without a reply is not found.

## Main definitions

* `Recording`, `Recording.decode`.
* `Recording.surroundings`: what surrounds a call of the program on a recorded cluster.
-/

namespace RolloutTree.Command

/-- What was recorded of a cluster. -/
structure Recording where
  now : Instant
  access : AccessConfig := {}
  replies : Option (List (String × Api.Reply)) := none
  /-- Why the cluster cannot be reached, if no replies were recorded. -/
  reasons : List String := []

namespace Recording

/-- Decodes a reply: a status code, and a body, which is a value or a text. -/
def decodeReply : Decoder Api.Reply := fun v => do
  let f ← Fields.ofObject? v
  let code ← f.withDefault "code" 200 fun v => (Decode.integer 100 999 v).map Int.toNat
  match ← f.optional "text" Decode.text with
  | some text => return { code, body := text.toUTF8 }
  | none => return { code, body := ((f.find? "body").getD .null).compress.toUTF8 }

/-- Decodes an object as a map from its names. -/
def decodeMap {α : Type} (value : Decoder α) : Decoder (List (String × α))
  | .object members => members.mapM fun (name, v) => (value v).map (name, ·)
  | _ => none

/-- Decodes a recording. -/
def decode : Decoder Recording := fun v => do
  let f ← Fields.ofObject? v
  return {
    now := ← f.required "now" Metadata.decodeInstant
    access :=
      { contexts := ← f.withDefault "contexts" [] (decodeMap (Decode.nullable Decode.text))
        current := ← f.optional "current" Decode.text }
    replies := ← f.optional "replies" (decodeMap decodeReply)
    reasons := ← f.withDefault "reasons" [] (Decode.list Decode.text) }

/-- What the server says of a path that is not known. -/
def notFound : Api.Reply :=
  let message := "the server could not find the requested resource"
  { code := 404
    body := (Json.object [("status", .string "Failure"), ("message", .string message),
      ("reason", .string "NotFound"), ("code", .ofNat 404)]).compress.toUTF8 }

/-- The server that gives the recorded replies. -/
def server (r : Recording) : Api.Server :=
  match r.replies with
  | some replies => .reachable fun path => (replies.lookup path).getD notFound
  | none => .unreachable r.reasons

/-- What surrounds a call of the program on the recorded cluster. -/
def surroundings (r : Recording) (terminalType : Option String) : Surroundings :=
  { terminalType, access := r.access, server := r.server, now := r.now }

end Recording

end RolloutTree.Command
