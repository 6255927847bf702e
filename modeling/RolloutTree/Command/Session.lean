import RolloutTree.Command.Arguments
import RolloutTree.Completion.Listing
import RolloutTree.Text.Split
import RolloutTree.Watch.Run

/-!
# Sessions of the program

A session is one call of the program: from a command line and what surrounds it to what is written
and the exit code. A failure is reported with what led to it.

## Main definitions

* `Surroundings`: the terminal, the access to the cluster and the directories.
* `report`: how a failure is reported.
* `Session`: what is written, and the exit code; `Session.of`: the session of a command line.
-/

namespace RolloutTree.Command

/-- What surrounds a call of the program. -/
structure Surroundings where
  terminalType : Option String := none
  access : AccessConfig := {}
  server : Api.Server := .unreachable []
  now : Instant
  /-- Whether there is a directory of the name. -/
  hasDirectory : String → Bool := fun _ => true

/-- What a call of the program writes, and its exit code. What is written about the usage of the
program is not told, and of a crash only its message. -/
structure Session where
  exit : Nat := 0
  output : String := ""
  /-- What is written beside the output. -/
  remarks : Option String := some ""
  deriving DecidableEq, Repr

/-! ### Reports -/

/-- The lines of a text. -/
def linesOf (s : String) : List String := (Text.pieces '\n' s.toList).map String.ofList

/-- A cause behind its mark; further lines of it are set below its first. -/
def causeText (mark cause : String) : String :=
  mark ++ ("\n" ++ Table.spaces mark.length).intercalate (linesOf cause)

/-- The mark of a numbered cause: its number in five columns. -/
def numberMark (number : Nat) : String :=
  let digits := toString number
  Table.spaces (5 - digits.length) ++ digits ++ ": "

/-- The causes, numbered if there are several. -/
def causesText : List String → String
  | [cause] => causeText "    " cause ++ "\n"
  | causes =>
    String.join (causes.zipIdx.map fun (cause, number) =>
      causeText (numberMark number) cause ++ "\n")

/-- How a failure is reported: what could not be done, and why. -/
def report (failed : String) (causes : List String) : String :=
  "Error: " ++ failed ++ "\n\nCaused by:\n" ++ causesText causes

/-! ### Actions -/

/-- The remark that nothing is logged, if there is no place for it. -/
def logRemark (s : Surroundings) (g : Globals) : String :=
  match g.logDirectory with
  | some directory =>
    if s.hasDirectory directory then ""
    else "warning: logging disabled: No such file or directory (os error 2)\n"
  | none => ""

/-- How the run of an action goes that shows a tree. -/
def setupOf (s : Surroundings) (isWatching noColor : Bool) (timeout : Nat) : Watch.Setup :=
  { isWatching
    deadline := if timeout = 0 then none else some (timeout * 1000)
    painter := .ofTerminal { noColor, type := s.terminalType } }

/-- The fetches that a run has time for, which are all alike as long as nothing changes. -/
def attemptsOf (setup : Watch.Setup) (result : Except FetchFailure Node) : List Watch.Attempt :=
  let outcome : Watch.Outcome := match result with
    | .ok node => .tree node
    | .error failure => .failed failure
  let count := if setup.isWatching then (setup.deadline.getD 0) / setup.interval + 1 else 1
  List.replicate count { outcome }

/-- The texts that a run writes, one after the other. -/
def outputOf (run : Watch.Run) : String :=
  String.join (run.events.filterMap fun event =>
    match event with
    | .write _ text => some text
    | _ => none)

/-- Showing the tree of an object. -/
def showTree (s : Surroundings) (g : Globals) (kind : ParentKind) (argument : String)
    (setup : Watch.Setup) : Session :=
  let name := Completion.nameOf argument
  match s.access.place g.context with
  | .error reason =>
    { exit := 1, remarks := some (report "failed to load kubeconfig" [reason.message]) }
  | .ok place =>
    let target : Target := { kind, name, place := g.place.getD place }
    match target.fetch s.server s.now with
    -- the first fetch breaks off, before anything is written
    | .error crash => { exit := 101, remarks := some (crash.message ++ "\n") }
    | .ok result =>
      let run := setup.run {} none (attemptsOf setup result)
      match run.ending with
      | some (.fetchFailed failure, _) =>
        { exit := 1, output := outputOf run
          remarks := some (report ("failed to get " ++ kind.word ++ " " ++ name)
            (failure.message :: failure.cause.texts)) }
      | _ => { output := outputOf run }

/-- Completing an argument; a lister that fails offers nothing. -/
def showCandidates (s : Surroundings) (g : Globals) (kind typed : String) : Session :=
  let lister (q : Completion.NameQuery) : Option String :=
    (Completion.listNames s.server s.access g.context q).1.toOption
  let found := Completion.complete lister g.place kind typed
  { output := String.join (found.candidates.map (· ++ "\n")) ++ ":" ++
      toString found.directive.bits ++ "\n" }

namespace Session

/-- The session with a remark in front of its others. -/
def remarkFirst (text : String) (s : Session) : Session :=
  { s with remarks := s.remarks.map (text ++ ·) }

/-- What the program says of its version. -/
def versionText : String := "kubectl-argo-rollouts-get 0.1.0\n"

/-- The session of a command line. -/
def ofWords (s : Surroundings) (words : List String) : Session :=
  match Invocation.parse words with
  | .error .usage => { exit := 2, remarks := none }
  | .error .version => { output := versionText }
  | .ok { globals, action } =>
    remarkFirst (logRemark s globals) <|
      match action with
      | .get kind argument isWatching noColor timeout =>
        showTree s globals kind argument (setupOf s isWatching noColor timeout)
      | .complete kind typed => showCandidates s globals kind typed

end Session

end RolloutTree.Command
