import RolloutTree.Fetch
import RolloutTree.Text.Natural
import RolloutTree.Text.Split

/-!
# Command lines

A command line is read level by level: the program's own, then `get` or `__complete`, then the kind
of the object. Every level has settings with values and flags, each at most once; the level below
starts with the first argument that is neither. The settings that every level has count from the
lowest level at which they stand.

A setting's value stands in the same argument behind an equals sign, or in the next one, where it
may not look like a setting itself. Settings of one letter may stand together behind one hyphen.
Behind two hyphens alone all arguments are names.

## Main definitions

* `Level`: the levels, with the settings and flags that they know.
* `Level.read`: what stands at a level, and the arguments of the level below.
* `Invocation`, `Invocation.parse`: what a command line asks for.
-/

namespace RolloutTree.Command

/-! ### Settings and flags -/

/-- What has a value. -/
inductive Setting where
  | place
  | context
  | logDirectory
  | endpoint
  | timeout
  deriving DecidableEq, Repr

/-- What stands alone. -/
inductive Flag where
  | version
  | watch
  | noColor
  deriving DecidableEq, Repr

/-- What can be named behind hyphens. -/
inductive Switch where
  | setting (setting : Setting)
  | flag (flag : Flag)
  deriving DecidableEq, Repr

/-- Where in a command line something stands. -/
inductive Level where
  | program
  | get
  /-- Behind the kind of the object to get. -/
  | object
  | completion
  deriving DecidableEq, Repr

namespace Level

/-- Whether another level starts with the first name. -/
def hasCommands : Level → Bool
  | program | get => true
  | object | completion => false

/-- How many names can stand at the level. -/
def nameCount : Level → Nat
  | program | get => 0
  | object => 1
  | completion => 2

/-- What the word behind two hyphens names. -/
def long? (l : Level) (word : String) : Option Switch :=
  match word with
  | "namespace" => some (.setting .place)
  | "context" => some (.setting .context)
  | "log-dir" => some (.setting .logDirectory)
  | "otlp-endpoint" => some (.setting .endpoint)
  | "version" => if l = program then some (.flag .version) else none
  | "watch" => if l = object then some (.flag .watch) else none
  | "no-color" => if l = object then some (.flag .noColor) else none
  | "timeout-seconds" => if l = object then some (.setting .timeout) else none
  | _ => none

/-- What the letter behind one hyphen names. -/
def short? (l : Level) (letter : Char) : Option Switch :=
  match letter with
  | 'n' => some (.setting .place)
  | 'V' => if l = program then some (.flag .version) else none
  | 'w' => if l = object then some (.flag .watch) else none
  | _ => none

end Level

/-- Why a command line asks for nothing more. -/
inductive Stop where
  /-- It is not one. -/
  | usage
  /-- It asks for the program's version only. -/
  | version
  deriving DecidableEq, Repr

/-! ### One level -/

/-- What has been read at a level. -/
structure Given where
  settings : List (Setting × String) := []
  flags : List Flag := []
  names : List String := []
  deriving DecidableEq, Repr

namespace Given

/-- The value of the setting. -/
def value? (g : Given) (s : Setting) : Option String := g.settings.lookup s

/-- Whether the value is one that the setting can have. -/
def admits (s : Setting) (value : String) : Bool :=
  match s with
  | .logDirectory => !value.isEmpty
  | .timeout => (Text.natural? 64 value.toList).isSome
  | _ => true

/-- One more setting, which has not been set before. -/
def set (g : Given) (s : Setting) (value : String) : Except Stop Given :=
  if (g.value? s).isSome || !admits s value then .error .usage
  else .ok { g with settings := (s, value) :: g.settings }

/-- One more flag, which has not been given before. -/
def raise (g : Given) (f : Flag) : Except Stop Given :=
  if f = .version then .error .version
  else if g.flags.contains f then .error .usage
  else .ok { g with flags := f :: g.flags }

/-- One more name, if there can be one. -/
def name (g : Given) (l : Level) (word : String) : Except Stop Given :=
  if g.names.length < l.nameCount then .ok { g with names := g.names ++ [word] }
  else .error .usage

end Given

/-- What an argument looks like. -/
inductive Argument where
  /-- Two hyphens alone. -/
  | separator
  /-- A word behind two hyphens, and the text behind an equals sign. -/
  | long (word : String) (value : Option String)
  /-- Letters behind one hyphen. -/
  | short (letters : List Char)
  | plain (word : String)
  deriving DecidableEq, Repr

/-- What the argument looks like. -/
def Argument.parse (word : String) : Argument :=
  match word.toList with
  | ['-', '-'] => .separator
  | '-' :: '-' :: rest =>
    match Text.cut? '=' (String.ofList rest) with
    | none => .long (String.ofList rest) none
    | some (word, value) => .long word (some value)
  | '-' :: letter :: letters => .short (letter :: letters)
  | _ => .plain word

/-- Where the reader of a level stands. -/
structure Place where
  given : Given := {}
  /-- The setting whose value comes next. -/
  awaited : Option Setting := none
  /-- Whether all further arguments are names. -/
  onlyNames : Bool := false
  deriving DecidableEq, Repr

namespace Level

/-- Letters behind one hyphen. What follows the letter of a setting is its value. -/
def readLetters (l : Level) (p : Place) : List Char → Except Stop Place
  | [] => .ok p
  | letter :: rest => do
    match l.short? letter, rest with
    | some (.flag f), _ => readLetters l { p with given := ← p.given.raise f } rest
    | some (.setting s), [] => .ok { p with awaited := some s }
    | some (.setting s), '=' :: value
    | some (.setting s), value => .ok { p with given := ← p.given.set s (String.ofList value) }
    | none, _ => .error .usage

/-- A word behind two hyphens, with or without a value. -/
def readLong (l : Level) (p : Place) (word : String) (value : Option String) :
    Except Stop Place := do
  match l.long? word, value with
  | some (.setting s), some value => .ok { p with given := ← p.given.set s value }
  | some (.setting s), none => .ok { p with awaited := some s }
  | some (.flag f), none => .ok { p with given := ← p.given.raise f }
  | _, _ => .error .usage

/-- What stands at the level, and the arguments from the first that starts another level. -/
def read (l : Level) : Place → List String → Except Stop (Given × List String)
  | p, [] => if p.awaited.isSome then .error .usage else .ok (p.given, [])
  | p, word :: rest => do
    match p.awaited, if p.onlyNames then .plain word else Argument.parse word with
    | some s, .plain value => read l { given := ← p.given.set s value } rest
    | some _, _ => .error .usage
    | none, .separator => read l { p with onlyNames := true } rest
    | none, .long name value => read l (← l.readLong p name value) rest
    | none, .short letters => read l (← l.readLetters p letters) rest
    | none, .plain word =>
      if !l.hasCommands then read l { p with given := ← p.given.name l word } rest
      else if p.onlyNames then .error .usage
      else .ok (p.given, word :: rest)

end Level

/-! ### Whole command lines -/

/-- The settings that every level has. -/
structure Globals where
  place : Option String := none
  context : Option String := none
  logDirectory : Option String := none
  endpoint : Option String := none
  deriving DecidableEq, Repr

namespace Globals

/-- The settings of one level. -/
def ofGiven (g : Given) : Globals :=
  ⟨g.value? .place, g.value? .context, g.value? .logDirectory, g.value? .endpoint⟩

/-- The settings of a level and those of the level above, which count where the lower level has
none. -/
def below (lower upper : Globals) : Globals :=
  ⟨lower.place.or upper.place, lower.context.or upper.context,
    lower.logDirectory.or upper.logDirectory, lower.endpoint.or upper.endpoint⟩

end Globals

/-- What a command line asks to be done. -/
inductive Action where
  /-- To show the tree of an object; the time after which watching stops is in seconds, and zero is
  none. -/
  | get (kind : ParentKind) (argument : String) (isWatching noColor : Bool) (timeout : Nat)
  /-- To complete what has been typed of an argument. -/
  | complete (kind typed : String)
  deriving DecidableEq, Repr

/-- What a command line asks for. -/
structure Invocation where
  globals : Globals
  action : Action
  deriving DecidableEq, Repr

/-- The kind of object that a word behind `get` means. -/
def parentKind? : String → Option ParentKind
  | "rollout" | "ro" | "rollouts" => some .rollout
  | "experiment" | "exp" | "experiments" => some .experiment
  | _ => none

namespace Invocation

/-- What stands behind the kind of the object to get. -/
def parseObject (kind : ParentKind) (upper : Globals) (words : List String) :
    Except Stop Invocation := do
  let (given, _) ← Level.object.read {} words
  match given.names with
  | [argument] =>
    let timeout := ((given.value? .timeout).bind fun n => Text.natural? 64 n.toList).getD 0
    return { globals := (Globals.ofGiven given).below upper
             action := .get kind argument (given.flags.contains .watch)
               (given.flags.contains .noColor) timeout }
  | _ => .error .usage

/-- What stands behind `get`. -/
def parseGet (upper : Globals) (words : List String) : Except Stop Invocation := do
  let (given, rest) ← Level.get.read {} words
  match rest with
  | [] => .error .usage
  | word :: rest =>
    match parentKind? word with
    | some kind => parseObject kind ((Globals.ofGiven given).below upper) rest
    | none => .error .usage

/-- What stands behind `__complete`. -/
def parseCompletion (upper : Globals) (words : List String) : Except Stop Invocation := do
  let (given, _) ← Level.completion.read {} words
  let globals := (Globals.ofGiven given).below upper
  match given.names with
  | [kind] => return { globals, action := .complete kind "" }
  | [kind, typed] => return { globals, action := .complete kind typed }
  | _ => .error .usage

/-- What the command line asks for. -/
def parse (words : List String) : Except Stop Invocation := do
  let (given, rest) ← Level.program.read {} words
  match rest with
  | "get" :: rest => parseGet (.ofGiven given) rest
  | "__complete" :: rest => parseCompletion (.ofGiven given) rest
  | _ => .error .usage

end Invocation

end RolloutTree.Command
