/-!
# Decimal numerals

## Main definitions

* `ofDigits`: the number that decimal digits stand for.
* `natural?`: the number that a numeral stands for, which may have a plus sign.
-/

namespace RolloutTree.Text

/-- The number that decimal digits stand for. -/
def ofDigits (digits : List Char) : Nat :=
  digits.foldl (fun value c => value * 10 + (c.toNat - 48)) 0

/-- The digits of a numeral, which may have one plus sign before them. -/
def unsigned : List Char → List Char
  | '+' :: rest => rest
  | rest => rest

/-- The number that the numeral stands for, if it fits into so many bits. -/
def natural? (bits : Nat) (numeral : List Char) : Option Nat :=
  let digits := unsigned numeral
  if digits.isEmpty || !digits.all Char.isDigit then none
  else if ofDigits digits < Nat.pow 2 bits then some (ofDigits digits)
  else none

end RolloutTree.Text
