import RolloutTree.Text.Extend
import RolloutTree.Text.Unprintable

/-!
# Quoted texts

A text inside a message stands in double quotes, so that its ends can be seen. Characters that would
be mistaken for the quotes, that cannot be seen or that would join the character before them are
written by escapes.

## Main definitions

* `Quoted.escape`: a character inside the quotes.
* `Quoted.text`: a text in quotes.
-/

namespace RolloutTree.Text.Quoted

/-- The character by its number. -/
def byNumber (c : Char) : List Char :=
  ['\\', 'u', '\x7b'] ++ Nat.toDigits 16 c.toNat ++ ['\x7d']

/-- A character inside the quotes. -/
def escape (c : Char) : List Char :=
  match c with
  | '\x00' => ['\\', '0']
  | '\t' => ['\\', 't']
  | '\n' => ['\\', 'n']
  | '\r' => ['\\', 'r']
  | '"' => ['\\', '"']
  | '\\' => ['\\', '\\']
  | c => if isExtending c || isUnprintable c then byNumber c else [c]

/-- The text in quotes. -/
def text (s : String) : String := String.ofList ('"' :: s.toList.flatMap escape ++ ['"'])

end RolloutTree.Text.Quoted
