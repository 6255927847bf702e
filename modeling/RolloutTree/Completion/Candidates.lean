import RolloutTree.Completion.Directive
import RolloutTree.Text.Split

/-!
# Candidates for an argument

An argument names an object, alone or behind its type and a slash. What has been typed of it is
completed from the names that a lister gives, as one text with spaces between them. A lister that
fails gives no names: completing never gets in the way of typing.

## Main definitions

* `Typed`: what has been typed, with `Typed.parse`.
* `NameQuery`: what a lister is asked.
* `names`: the names in the text of a lister.
* `complete`: the candidates and the directive.
* `nameOf`: the name that an argument stands for.
-/

namespace RolloutTree.Completion

/-- The path that leads to the names in a list of objects. -/
def nameTemplate : String := "$.items[*].metadata.name"

/-- What a lister is asked: the kind, the namespace if one is chosen, and the path to the names. -/
structure NameQuery where
  kind : String
  place : Option String
  template : String := nameTemplate
  deriving DecidableEq, Repr

/-- What has been typed of an argument. -/
inductive Typed where
  /-- A part of a name or of a type. -/
  | start (text : String)
  /-- A type, and a part of a name behind the first slash. -/
  | qualified (type start : String)
  deriving DecidableEq, Repr

/-- What the text says. -/
def Typed.parse (text : String) : Typed :=
  match Text.cut? '/' text with
  | none => .start text
  | some (type, rest) => .qualified type rest

/-- The names in the text of a lister. -/
def names (listed : String) : List String :=
  ((Text.pieces ' ' listed.toList).filter (!·.isEmpty)).map String.ofList

/-- Whether the text starts with another. -/
def startsWith (text start : String) : Bool := start.toList.isPrefixOf text.toList

/-- The types that are offered for objects of a kind. -/
def offers : String → List String
  | "rollout" | "rollouts" => ["rollouts"]
  | "experiment" | "experiments" => ["experiments"]
  | _ => []

/-- What a lister is asked to complete an argument for an object of the kind. -/
def query (place : Option String) (kind text : String) : NameQuery :=
  match Typed.parse text with
  | .start _ => { kind, place }
  | .qualified type _ => { kind := type, place }

/-- Candidates, and what the shell is to do with them. -/
structure Completions where
  candidates : List String
  directive : Directive
  deriving DecidableEq, Repr

/-- The candidates for an argument that names an object of the kind. If no name fits, all that may
be left is a type, behind which more has to be typed. -/
def complete (lister : NameQuery → Option String) (place : Option String) (kind text : String) :
    Completions :=
  let listed := names ((lister (query place kind text)).getD "")
  match Typed.parse text with
  | .start start =>
    let found := listed.filter (startsWith · start)
    { candidates := found ++ ((offers kind).filter (startsWith · start)).map (· ++ "/")
      directive := { noFiles := true, noSpace := found.isEmpty } }
  | .qualified type start =>
    { candidates := (listed.filter (startsWith · start)).map (type ++ "/" ++ ·)
      directive := { noFiles := true } }

/-- The name that an argument stands for: what follows its last slash. -/
def nameOf (argument : String) : String :=
  String.ofList (argument.toList.reverse.takeWhile (· ≠ '/')).reverse

end RolloutTree.Completion
