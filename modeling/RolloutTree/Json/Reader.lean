import RolloutTree.Json.Value
import RolloutTree.Text.Natural

/-!
# Reading JSON

A text is cut into tokens, and the tokens are put together with a stack of the arrays and objects
that are still open. Of two members of one object with the same name the later one counts.

## Main definitions

* `Token`, `tokens`: the tokens of a text, or nothing when it has a part that is no token.
* `Build.step`: what the next token does to the values built so far.
* `Json.parse?`: the value that a text holds.
-/

namespace RolloutTree.Json

/-- A token of a JSON text. -/
inductive Token where
  | openArray
  | closeArray
  | openObject
  | closeObject
  | comma
  | colon
  /-- A value without parts: a literal, a number or a string. -/
  | scalar (value : Json)

/-- What stands at the start of a text, and the rest of the text, which is shorter. -/
structure Reading (α : Type) (text : List Char) where
  value : α
  rest : List Char
  shorter : rest.length < text.length

/-- The value of a hexadecimal digit. -/
def hexDigit? (c : Char) : Option Nat :=
  if '0' ≤ c && c ≤ '9' then some (c.toNat - 48)
  else if 'a' ≤ c && c ≤ 'f' then some (c.toNat - 87)
  else if 'A' ≤ c && c ≤ 'F' then some (c.toNat - 55)
  else none

/-- The value of four hexadecimal digits. -/
def hexUnit? (a b c d : Char) : Option Nat := do
  return ((← hexDigit? a) * 16 + (← hexDigit? b)) * 256 + (← hexDigit? c) * 16 + (← hexDigit? d)

/-- The character that a letter stands for after a backslash. -/
def shortEscape? : Char → Option Char
  | '"' => some '"'
  | '\\' => some '\\'
  | '/' => some '/'
  | 'b' => some '\x08'
  | 'f' => some '\x0c'
  | 'n' => some '\n'
  | 'r' => some '\r'
  | 't' => some '\t'
  | _ => none

/-- The characters that the inside of a string stands for. Control characters have to be escaped,
and a surrogate stands only in a pair. -/
def unescape : List Char → Option (List Char)
  | [] => some []
  | '\\' :: 'u' :: a :: b :: c :: d :: rest => do
    let unit ← hexUnit? a b c d
    if 0xd800 ≤ unit && unit < 0xdc00 then
      match rest with
      | '\\' :: 'u' :: e :: f :: g :: h :: rest =>
        let low ← hexUnit? e f g h
        if 0xdc00 ≤ low && low < 0xe000 then
          let tail ← unescape rest
          return Char.ofNat (0x10000 + (unit - 0xd800) * 0x400 + (low - 0xdc00)) :: tail
        else none
      | _ => none
    else if 0xdc00 ≤ unit && unit < 0xe000 then none
    else
      let tail ← unescape rest
      return Char.ofNat unit :: tail
  | '\\' :: c :: rest => do
    let c ← shortEscape? c
    let tail ← unescape rest
    return c :: tail
  | c :: rest => do
    if c.toNat < 0x20 || c = '\\' then none
    else
      let tail ← unescape rest
      return c :: tail

/-- The inside of a string up to the quote that ends it, as it was written. -/
def quoted : (text : List Char) → Option (Reading (List Char) text)
  | [] => none
  | '"' :: rest => some ⟨[], rest, by simp⟩
  | '\\' :: c :: rest =>
    (quoted rest).map fun r =>
      ⟨'\\' :: c :: r.value, r.rest, by have := r.shorter; simp only [List.length_cons]; omega⟩
  | c :: rest =>
    (quoted rest).map fun r =>
      ⟨c :: r.value, r.rest, by have := r.shorter; simp only [List.length_cons]; omega⟩

/-- Whether the character can be a part of a number. -/
def isNumberPart (c : Char) : Bool := c.isDigit || c ∈ ['-', '+', '.', 'e', 'E']

/-- The digits at the start, if there is at least one, and what follows them. -/
def digits? (text : List Char) : Option (List Char × List Char) :=
  match text.takeWhile Char.isDigit with
  | [] => none
  | digits => some (digits, text.dropWhile Char.isDigit)

/-- The exponent that the rest of a number stands for. -/
def exponent? : List Char → Option Int
  | [] => some 0
  | mark :: rest => do
    guard (mark = 'e' || mark = 'E')
    let (isNegative, rest) := match rest with
      | '-' :: rest => (true, rest)
      | '+' :: rest => (false, rest)
      | rest => (false, rest)
    let (digits, []) ← digits? rest | none
    let value : Int := Text.ofDigits digits
    return if isNegative then -value else value

/-- Whether a decimal is in range: below the middle between the greatest binary fraction of 53 bits
with an exponent of 11 bits and the next one that there would be. -/
def isInRange (digits : Nat) (exponent : Int) : Bool :=
  let top := (toString digits).length + exponent
  digits = 0 || top < 309 ||
    (top = 309 && digits * Nat.pow 10 exponent.toNat <
      (Nat.pow 2 1024 - Nat.pow 2 970) * Nat.pow 10 (-exponent).toNat)

/-- A decimal, if it is in range. -/
def decimal? (isNegative : Bool) (digits : Nat) (exponent : Int) : Option Number :=
  if isInRange digits exponent then some (.decimal isNegative digits exponent) else none

/-- The number that the characters stand for. Leading zeros are not allowed, and minus zero is no
integer. -/
def number? (text : List Char) : Option Number := do
  let (isNegative, text) := match text with
    | '-' :: rest => (true, rest)
    | rest => (false, rest)
  let (whole, rest) ← digits? text
  guard (whole.length = 1 || whole.head? != some '0')
  match rest with
  | [] =>
    if isNegative && Text.ofDigits whole = 0 then return .decimal true 0 0
    else return .int (if isNegative then -(Text.ofDigits whole : Int) else Text.ofDigits whole)
  | '.' :: rest =>
    let (fraction, rest) ← digits? rest
    let exponent ← exponent? rest
    decimal? isNegative (Text.ofDigits (whole ++ fraction)) (exponent - fraction.length)
  | rest =>
    let exponent ← exponent? rest
    decimal? isNegative (Text.ofDigits whole) exponent

/-- The literal that the letters stand for. -/
def literal? (letters : List Char) : Option Json :=
  match String.ofList letters with
  | "null" => some .null
  | "true" => some (.bool true)
  | "false" => some (.bool false)
  | _ => none

/-- The token that a single character is. -/
def punctuation? : Char → Option Token
  | '[' => some .openArray
  | ']' => some .closeArray
  | '{' => some .openObject
  | '}' => some .closeObject
  | ',' => some .comma
  | ':' => some .colon
  | _ => none

private theorem length_dropWhile_le (p : Char → Bool) (text : List Char) :
    (text.dropWhile p).length ≤ text.length := (List.dropWhile_suffix p).length_le

/-- The tokens of the text, if it consists of tokens and the white space between them. -/
def tokens : (text : List Char) → Option (List Token)
  | [] => some []
  | c :: rest =>
    if c = ' ' || c = '\n' || c = '\r' || c = '\t' then tokens rest
    else if c = '"' then
      match quoted rest with
      | none => none
      | some ⟨inside, rest', _⟩ =>
        match unescape inside with
        | none => none
        | some cs => (tokens rest').map (.scalar (.string (String.ofList cs)) :: ·)
    else if isNumberPart c && !c.isAlpha then
      have := length_dropWhile_le isNumberPart rest
      match number? (c :: rest.takeWhile isNumberPart) with
      | none => none
      | some n => (tokens (rest.dropWhile isNumberPart)).map (.scalar (.number n) :: ·)
    else if c.isAlpha then
      have := length_dropWhile_le Char.isAlpha rest
      match literal? (c :: rest.takeWhile Char.isAlpha) with
      | none => none
      | some v => (tokens (rest.dropWhile Char.isAlpha)).map (.scalar v :: ·)
    else
      match punctuation? c with
      | none => none
      | some t => (tokens rest).map (t :: ·)
termination_by text => text.length
decreasing_by all_goals simp only [List.length_cons]; omega

/-- An array or object that is still open, with its parts in reverse order. -/
inductive Open where
  | array (items : List Json)
  | object (members : List (String × Json)) (name : String)

/-- What has to come next. -/
inductive Await where
  /-- A value. -/
  | value
  /-- A value, or the end of an array that has none yet. -/
  | firstItem
  /-- A name, or the end of an object that has none yet. -/
  | firstName (members : List (String × Json))
  /-- A name. -/
  | name (members : List (String × Json))
  /-- The colon after a name. -/
  | colon (members : List (String × Json)) (name : String)
  /-- A comma or the end of the innermost array or object, after a value in it. -/
  | next (last : Json)

/-- The values built so far: the open arrays and objects, innermost first, and what comes next. -/
structure Build where
  stack : List Open
  await : Await

namespace Build

/-- The members with one more, which replaces an earlier one of its name. -/
def putMember (members : List (String × Json)) (name : String) (value : Json) :
    List (String × Json) :=
  (name, value) :: members.filter (·.1 != name)

/-- The build after the token, if the token can stand there. -/
def step (b : Build) (t : Token) : Option Build :=
  match b.await, t with
  | .value, .scalar v | .firstItem, .scalar v => some ⟨b.stack, .next v⟩
  | .value, .openArray | .firstItem, .openArray => some ⟨.array [] :: b.stack, .firstItem⟩
  | .value, .openObject | .firstItem, .openObject => some ⟨b.stack, .firstName []⟩
  | .firstItem, .closeArray =>
    match b.stack with
    | .array _ :: stack => some ⟨stack, .next (.array [])⟩
    | _ => none
  | .firstName _, .closeObject => some ⟨b.stack, .next (.object [])⟩
  | .firstName members, .scalar (.string name) | .name members, .scalar (.string name) =>
    some ⟨b.stack, .colon members name⟩
  | .colon members name, .colon => some ⟨.object members name :: b.stack, .value⟩
  | .next v, .comma =>
    match b.stack with
    | .array items :: stack => some ⟨.array (v :: items) :: stack, .value⟩
    | .object members name :: stack => some ⟨stack, .name (putMember members name v)⟩
    | [] => none
  | .next v, .closeArray =>
    match b.stack with
    | .array items :: stack => some ⟨stack, .next (.array (v :: items).reverse)⟩
    | _ => none
  | .next v, .closeObject =>
    match b.stack with
    | .object members name :: stack =>
      some ⟨stack, .next (.object (putMember members name v).reverse)⟩
    | _ => none
  | _, _ => none

/-- The value, if it is complete and nothing is open. -/
def result? : Build → Option Json
  | ⟨[], .next v⟩ => some v
  | _ => none

end Build

/-- The value that the tokens form. -/
def ofTokens? (ts : List Token) : Option Json := do
  (← ts.foldlM Build.step ⟨[], .value⟩).result?

/-- The value that the text holds. -/
def parse? (text : String) : Option Json := do
  ofTokens? (← tokens text.toList)

end RolloutTree.Json
