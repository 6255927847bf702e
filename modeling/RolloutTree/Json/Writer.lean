import RolloutTree.Json.Value

/-!
# Writing JSON

The compact form: no white space, members in their order, and only those characters of a string
escaped that have to be.

## Main definitions

* `Number.text`: a number; a decimal has a point or an exponent.
* `Json.quote`: a string with its quotes.
* `Json.compress`: a value.
-/

namespace RolloutTree

/-- The digits without the zeros at the end, and how many those were. -/
def Number.dropZeros (digits : Nat) : Nat × Nat :=
  if h : digits ≠ 0 ∧ digits % 10 = 0 then
    have : digits / 10 < digits := Nat.div_lt_self (Nat.pos_of_ne_zero h.1) (by omega)
    let (rest, count) := dropZeros (digits / 10)
    (rest, count + 1)
  else (digits, 0)
termination_by digits

/-- The text of a decimal: positional from 0.00001 below 10^16, with an exponent outside. -/
def Number.decimalText (digits : Nat) (exponent : Int) : String :=
  if digits = 0 then "0.0"
  else
    let (kept, dropped) := dropZeros digits
    let ds := toString kept
    let scale := exponent + dropped
    let point := scale + ds.length
    if 0 ≤ scale && point ≤ 16 then ds ++ String.ofList (List.replicate scale.toNat '0') ++ ".0"
    else if 0 < point && point ≤ 16 then
      String.ofList (ds.toList.take point.toNat) ++ "." ++
        String.ofList (ds.toList.drop point.toNat)
    else if -5 < point && point ≤ 0 then
      "0." ++ String.ofList (List.replicate (-point).toNat '0') ++ ds
    else
      match ds.toList with
      | [d] => String.ofList [d] ++ "e" ++ toString (point - 1)
      | d :: rest => String.ofList (d :: '.' :: rest) ++ "e" ++ toString (point - 1)
      | [] => ""

/-- The text of a number. -/
def Number.text : Number → String
  | .int value => toString value
  | .decimal isNegative digits exponent =>
    (if isNegative then "-" else "") ++ decimalText digits exponent

namespace Json

/-- A hexadecimal digit. -/
def hexChar (n : Nat) : Char := if n < 10 then Char.ofNat (48 + n) else Char.ofNat (87 + n)

/-- A character inside a string. -/
def escapeChar (c : Char) : List Char :=
  match c with
  | '"' => ['\\', '"']
  | '\\' => ['\\', '\\']
  | '\x08' => ['\\', 'b']
  | '\x0c' => ['\\', 'f']
  | '\n' => ['\\', 'n']
  | '\r' => ['\\', 'r']
  | '\t' => ['\\', 't']
  | c =>
    if c.toNat < 0x20 then ['\\', 'u', '0', '0', hexChar (c.toNat / 16), hexChar (c.toNat % 16)]
    else [c]

/-- A string in its quotes. -/
def quote (s : String) : String := String.ofList ('"' :: s.toList.flatMap escapeChar ++ ['"'])

mutual

/-- The compact text of a value. -/
def compress : Json → String
  | null => "null"
  | bool true => "true"
  | bool false => "false"
  | number n => n.text
  | string s => quote s
  | array items => "[" ++ compressItems items ++ "]"
  | object members => "\x7b" ++ compressMembers members ++ "\x7d"

/-- The items of an array, with commas between them. -/
def compressItems : List Json → String
  | [] => ""
  | [v] => compress v
  | v :: rest => compress v ++ "," ++ compressItems rest

/-- The members of an object, with commas between them. -/
def compressMembers : List (String × Json) → String
  | [] => ""
  | [(name, v)] => quote name ++ ":" ++ compress v
  | (name, v) :: rest => quote name ++ ":" ++ compress v ++ "," ++ compressMembers rest

end

end Json

end RolloutTree
