/-!
# Words that are added up

The counts of the cluster are words of 32 bits with a sign. They are added up with a check: a sum
that has no word makes the program break off, instead of starting again at the other end.

## Main definitions

* `Crash`: why the program breaks off.
* `Word.Fits`: a number has a word.
* `Word.add`, `Word.sum`: the checked sums of two words and of a list of words.
-/

namespace RolloutTree

/-- Why the program breaks off in the middle of what it does. -/
inductive Crash where
  /-- A sum has no word. -/
  | overflow
  deriving DecidableEq, Repr

/-- The message. -/
def Crash.message : Crash → String
  | overflow => "attempt to add with overflow"

namespace Word

/-- The number has a word of 32 bits with a sign. -/
def Fits (n : Int) : Prop := -2147483648 ≤ n ∧ n ≤ 2147483647

instance (n : Int) : Decidable (Fits n) := inferInstanceAs (Decidable (_ ∧ _))

/-- The sum of two words, if it has a word. -/
def add (a b : Int32) : Except Crash Int32 :=
  if Fits (a.toInt + b.toInt) then .ok (a + b) else .error .overflow

/-- The sum of the words, added up from the first to the last. -/
def sum (words : List Int32) : Except Crash Int32 := words.foldlM add 0

end Word

end RolloutTree
