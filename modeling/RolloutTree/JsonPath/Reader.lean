import RolloutTree.Json.Reader
import RolloutTree.JsonPath.Syntax

/-!
# Reading paths

A path is written as `$` and its segments: `.name`, `.*`, `[…]` with selectors between commas, and
each of these behind two dots for everything below. White space may stand between the parts, but not
at the ends.

## Main definitions

* `Path.parse?`: the path that a text stands for.
-/

namespace RolloutTree.JsonPath

/-- Reads a part of a text from its start. -/
abbrev Reader := StateT (List Char) Option

namespace Reader

/-- Whether the character is white space. -/
def isBlank (c : Char) : Bool := c = ' ' || c = '\t' || c = '\n' || c = '\r'

/-- Skips white space. -/
def blanks : Reader Unit := modify (·.dropWhile isBlank)

/-- Whether the characters come next; they are skipped then. -/
def skip? (expected : List Char) : Reader Bool := do
  if expected.isPrefixOf (← get) then
    modify (·.drop expected.length)
    return true
  else return false

/-- Skips the character, which has to come next. -/
def skip (c : Char) : Reader Unit := do
  guard (← skip? [c])

/-- The characters of a kind that come next. -/
def run (kind : Char → Bool) : Reader (List Char) := do
  let taken := (← get).takeWhile kind
  modify (·.drop taken.length)
  return taken

/-- Whether a name that is written without quotes may start with the character. -/
def startsName (c : Char) : Bool := c.isAlpha || c = '_' || 0x80 ≤ c.toNat

/-- A name that is written without quotes. -/
def shortName : Reader String := do
  let name ← run fun c => startsName c || c.isDigit
  guard ((name.head?.map startsName).getD false)
  return String.ofList name

/-- An integer without leading zeros whose digits a binary fraction of 53 bits can hold. -/
def integer : Reader Int := do
  let isNegative ← skip? ['-']
  let digits ← run Char.isDigit
  guard (!digits.isEmpty && (digits.head? != some '0' || (digits.length = 1 && !isNegative)))
  let value := Text.ofDigits digits
  guard (value < Nat.pow 2 53)
  return if isNegative then -value else value

/-- The inside of a string with the quote, up to the quote that ends it. -/
def inside (quote : Char) : List Char → Option (List Char × List Char)
  | [] => none
  | '\\' :: 'u' :: a :: b :: c :: d :: rest => do
    let unit ← Json.hexUnit? a b c d
    if 0xd800 ≤ unit && unit < 0xdc00 then
      match rest with
      | '\\' :: 'u' :: e :: f :: g :: h :: rest =>
        let low ← Json.hexUnit? e f g h
        guard (0xdc00 ≤ low && low < 0xe000)
        let (tail, rest) ← inside quote rest
        return (Char.ofNat (0x10000 + (unit - 0xd800) * 0x400 + (low - 0xdc00)) :: tail, rest)
      | _ => none
    else
      guard (!(0xdc00 ≤ unit && unit < 0xe000))
      let (tail, rest) ← inside quote rest
      return (Char.ofNat unit :: tail, rest)
  | '\\' :: c :: rest => do
    let meant ← if c = '"' || c = '\'' then (if c = quote then some c else none)
      else Json.shortEscape? c
    let (tail, rest) ← inside quote rest
    return (meant :: tail, rest)
  | c :: rest => do
    if c = quote then return ([], rest)
    guard (0x20 ≤ c.toNat && c ≠ '\\')
    let (tail, rest) ← inside quote rest
    return (c :: tail, rest)

/-- A string in double or single quotes, if one comes next. -/
def string? : Reader (Option String) := do
  match ← get with
  | '"' :: rest =>
    let (text, rest) ← inside '"' rest
    set rest
    return some (String.ofList text)
  | '\'' :: rest =>
    let (text, rest) ← inside '\'' rest
    set rest
    return some (String.ofList text)
  | _ => return none

/-- The comparison that comes next, if one does. -/
def comparison? : Reader (Option Comparison) := do
  if ← skip? ['=', '='] then return some .equal
  if ← skip? ['!', '='] then return some .different
  if ← skip? ['<', '='] then return some .atMost
  if ← skip? ['>', '='] then return some .atLeast
  if ← skip? ['<'] then return some .less
  if ← skip? ['>'] then return some .greater
  return none

/-- An integer, if one comes next. -/
def integer? : Reader (Option Int) := do
  match (← get).head? with
  | some c => if c = '-' || c.isDigit then return some (← integer) else return none
  | none => return none

/-- The rest of a slice after its start. -/
def sliceFrom (start : Option Int) : Reader Selector := do
  skip ':'
  blanks
  let stop ← integer?
  if stop.isSome then blanks
  if ← skip? [':'] then
    let kept ← get
    blanks
    match ← integer? with
    | some step => return .slice start stop step
    | none =>
      set kept
      return .slice start stop 1
  else return .slice start stop 1

/-- An index or a slice. -/
def indexOrSlice : Reader Selector := do
  let first ← integer?
  let kept ← get
  blanks
  match first, (← get).head? with
  | start, some ':' => sliceFrom start
  | some index, _ =>
    set kept
    return .index index
  | none, _ => failure

/-- A number as a value. -/
def number : Reader Json := do
  let text ← run Json.isNumberPart
  match Json.number? text with
  | some n => return .number n
  | none => failure

/-- The origin of a path, if one comes next. -/
def origin? : Reader (Option Origin) := do
  if ← skip? ['$'] then return some .root
  if ← skip? ['@'] then return some .current
  return none

mutual

/-- The segments that come next. Every call spends one of the steps. -/
def segments : Nat → Reader (List Segment)
  | 0 => failure
  | fuel + 1 => do
    let kept ← get
    blanks
    let isDeep ← skip? ['.', '.']
    let segment (selectors : List Selector) : Segment :=
      if isDeep then .descendants selectors else .children selectors
    if ← skip? ['['] then
      let first := segment (← selectors fuel)
      return first :: (← segments fuel)
    else if isDeep || (← skip? ['.']) then
      let selector : Selector ← if ← skip? ['*'] then pure .wildcard
        else pure (.name (← shortName))
      return segment [selector] :: (← segments fuel)
    else
      set kept
      return []

/-- The selectors up to the bracket that ends them. -/
def selectors : Nat → Reader (List Selector)
  | 0 => failure
  | fuel + 1 => do
    blanks
    let first ← selector fuel
    blanks
    if ← skip? [','] then return first :: (← selectors fuel)
    skip ']'
    return [first]

/-- A selector. -/
def selector : Nat → Reader Selector
  | 0 => failure
  | fuel + 1 => do
    match ← string? with
    | some name => return .name name
    | none =>
      if ← skip? ['*'] then return .wildcard
      if ← skip? ['?'] then
        blanks
        return .filter (← disjunction fuel)
      indexOrSlice

/-- Conditions of which one has to hold. -/
def disjunction : Nat → Reader Condition
  | 0 => failure
  | fuel + 1 => do
    let first ← conjunction fuel
    let kept ← get
    blanks
    if ← skip? ['|', '|'] then
      blanks
      return .either first (← disjunction fuel)
    set kept
    return first

/-- Conditions that all have to hold. -/
def conjunction : Nat → Reader Condition
  | 0 => failure
  | fuel + 1 => do
    let first ← condition fuel
    let kept ← get
    blanks
    if ← skip? ['&', '&'] then
      blanks
      return .both first (← conjunction fuel)
    set kept
    return first

/-- A condition that is not made of others, or one in parentheses. -/
def condition : Nat → Reader Condition
  | 0 => failure
  | fuel + 1 => do
    if ← skip? ['!'] then
      blanks
      if ← skip? ['('] then return .negation (← parenthesized fuel)
      match ← origin? with
      | some origin => return .negation (.existence origin (← segments fuel))
      | none => failure
    if ← skip? ['('] then return ← parenthesized fuel
    match ← origin? with
    | some origin =>
      let found ← segments fuel
      let kept ← get
      blanks
      match ← comparison? with
      | some relation =>
        guard (isSingular found)
        blanks
        return .comparison relation (.query origin found) (← operand fuel)
      | none =>
        set kept
        return .existence origin found
    | none =>
      let first ← operand fuel
      blanks
      match ← comparison? with
      | some relation =>
        blanks
        return .comparison relation first (← operand fuel)
      | none => failure

/-- A condition up to the parenthesis that ends it. -/
def parenthesized : Nat → Reader Condition
  | 0 => failure
  | fuel + 1 => do
    blanks
    let inner ← disjunction fuel
    blanks
    skip ')'
    return inner

/-- What is compared. -/
def operand : Nat → Reader Operand
  | 0 => failure
  | fuel + 1 => do
    match ← origin? with
    | some origin =>
      let found ← segments fuel
      guard (isSingular found)
      return .query origin found
    | none =>
      match ← string? with
      | some text => return .literal (.string text)
      | none =>
        match (← get).head? with
        | some c => if Json.isNumberPart c && !c.isAlpha then return .literal (← number)
        | none => failure
        let word ← run Char.isAlpha
        match Json.literal? word with
        | some value => return .literal value
        | none =>
          skip '('
          blanks
          let called ← call fuel (String.ofList word)
          blanks
          skip ')'
          return called

/-- The function of the name with its argument. -/
def call : Nat → String → Reader Operand
  | 0, _ => failure
  | fuel + 1, "length" => do return .length (← operand fuel)
  | fuel + 1, "count" => do
    match ← origin? with
    | some origin => return .count origin (← segments fuel)
    | none => failure
  | fuel + 1, "value" => do
    match ← origin? with
    | some origin => return .query origin (← segments fuel)
    | none => failure
  | _ + 1, _ => failure

end

end Reader

/-- The path that the text stands for. A reader of one character takes four steps at most. -/
def Path.parse? (text : String) : Option Path :=
  match text.toList with
  | '$' :: rest =>
    match Reader.segments (4 * rest.length + 4) rest with
    | some (segments, []) => some ⟨segments⟩
    | _ => none
  | _ => none

end RolloutTree.JsonPath
