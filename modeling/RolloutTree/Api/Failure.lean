import RolloutTree.Json.Decode
import RolloutTree.Json.Reader
import RolloutTree.Text.Quoted
import RolloutTree.Text.Utf8
import RolloutTree.Api.Phrase

/-!
# Why a request to the API server fails

A server refuses a request with a status object, which has a code of its own. Every other failure
is one of the ways in which a request cannot be made, cannot be sent, or is answered with something
that cannot be read.

## Main definitions

* `Refusal`, with `Refusal.decode`, and `Refusal.ofReply` for a reply that is a failure.
* `Failure`: the causes, and `Failure.message`.
* `Failure.texts`: the message and the messages of what lies behind it.
-/

namespace RolloutTree.Api

/-- A status object: why the server refuses a request. -/
structure Refusal where
  status : String
  message : String := ""
  reason : String := ""
  code : Nat
  deriving DecidableEq, Repr

namespace Refusal

/-- Decodes a status object. -/
def decode : Decoder Refusal := fun v => do
  let f ← Fields.ofRecord? ["status", "message", "reason", "code"] v
  return { status := ← f.required "status" Decode.text
           message := ← f.withDefault "message" "" Decode.text
           reason := ← f.withDefault "reason" "" Decode.text
           code := (← f.required "code" (Decode.integer 0 65535)).toNat }

/-- What a failed reply with the code says: its status object, or else the reply itself. -/
def ofReply (code : Nat) (body : String) : Refusal :=
  ((Json.parse? body).bind decode).getD
    { status := Api.status code, message := Text.Quoted.text body
      reason := "Failed to parse error data", code }

/-- The short form. -/
def summary (r : Refusal) : String := r.message ++ ": " ++ r.reason

/-- All that the status object says. -/
def details (r : Refusal) : String :=
  "ErrorResponse \x7b status: " ++ Text.Quoted.text r.status ++ ", message: " ++
    Text.Quoted.text r.message ++ ", reason: " ++ Text.Quoted.text r.reason ++ ", code: " ++
    toString r.code ++ " \x7d"

end Refusal

/-- Why a request cannot be made. -/
inductive BadRequest where
  /-- A single object is asked for by an empty name. -/
  | emptyName
  /-- The path has a character that no path has. -/
  | badCharacter
  deriving DecidableEq, Repr

/-- The message, and the messages of what lies behind it. -/
def BadRequest.texts : BadRequest → List String
  | emptyName => ["failed to validate request: A non-empty name is required"]
  | badCharacter => ["failed to build request: invalid uri character", "invalid uri character"]

/-- Why the kinds that a server serves cannot be told. -/
inductive Undiscovered where
  | emptyGroup (name : String)
  | missingKind (group version kind : String)
  deriving DecidableEq, Repr

/-- The message. -/
def Undiscovered.message : Undiscovered → String
  | emptyGroup name => "Empty Api Group: " ++ name
  | missingKind group version kind =>
    "Missing Kind: GroupVersionKind \x7b group: " ++ Text.Quoted.text group ++ ", version: " ++
      Text.Quoted.text version ++ ", kind: " ++ Text.Quoted.text kind ++ " \x7d"

/-- Why a request fails. -/
inductive Failure where
  | refused (refusal : Refusal)
  /-- The reply is no text. -/
  | notText (fault : Text.Utf8.Fault)
  /-- The reply is a text and no failure, but is not what was asked for. -/
  | undecodable
  | discovery (reason : Undiscovered)
  | badRequest (reason : BadRequest)
  /-- A path that the server itself has named is none. -/
  | badPath
  /-- The reply cannot be cut into lines. -/
  | brokenLines
  /-- The server asks for encryption, which is not to be had. -/
  | noEncryption
  /-- The request does not reach the server, or no reply comes back. What carries the requests says
  why, each reason more special than the one before. -/
  | unreachable (reasons : List String)
  deriving DecidableEq, Repr

namespace Failure

/-- The message, and the messages of what lies behind it, each more special than the one before. -/
def texts : Failure → List String
  | refused r => ["ApiError: " ++ r.summary ++ " (" ++ r.details ++ ")", r.summary]
  | notText fault => ["UTF-8 Error: " ++ fault.message, fault.message]
  | undecodable => ["Error deserializing response"]
  | discovery reason => ["Error from discovery: " ++ reason.message, reason.message]
  | badRequest reason =>
    ("Failed to build request: " ++ reason.texts.headD "") :: reason.texts
  | badPath => ["HttpError: invalid uri character", "invalid uri character"]
  | brokenLines => ["Error finding newline character"]
  | noEncryption => ["TLS required but no TLS stack selected"]
  | unreachable reasons => ("ServiceError: " ++ reasons.headD "") :: reasons

/-- The message. -/
def message (f : Failure) : String := f.texts.headD ""

end Failure

end RolloutTree.Api
