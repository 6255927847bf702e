import RolloutTree.Text.Natural

/-!
# Versions of a group

A version is named by a number, `v1`, and while it is not stable by its stage and perhaps the number
of the attempt, `v2beta1`. A stable version is preferred to a beta and a beta to an alpha, then a
higher number to a lower one, then a numbered attempt to an unnumbered one and a higher attempt to a
lower one. A version with any other name comes last; of such the one whose name comes first is
preferred.

## Main definitions

* `Version`, `Version.parse`.
* `Version.isPreferred`: whether a version is preferred to another, or as good.
-/

namespace RolloutTree.Api

/-- A version of a group. -/
inductive Version where
  | stable (number : Nat)
  | beta (number : Nat) (attempt : Option Nat)
  | alpha (number : Nat) (attempt : Option Nat)
  | other (name : String)
  deriving DecidableEq, Repr

namespace Version

/-- The number of an attempt, or that there is none. -/
def attempt? (numeral : List Char) : Option (Option Nat) :=
  if numeral.isEmpty then some none else (Text.natural? 32 numeral).map some

/-- The stage that a name goes on with after its number. -/
def ofStage? (number : Nat) : List Char → Option Version
  | [] => some (stable number)
  | 'a' :: 'l' :: 'p' :: 'h' :: 'a' :: rest => (attempt? rest).map (alpha number)
  | 'b' :: 'e' :: 't' :: 'a' :: rest => (attempt? rest).map (beta number)
  | _ => none

/-- The version that the name stands for, unless it is of another form. -/
def numbered? (name : List Char) : Option Version :=
  match name with
  | 'v' :: rest => do
    ofStage? (← Text.natural? 32 (rest.takeWhile Char.isDigit)) (rest.dropWhile Char.isDigit)
  | _ => none

/-- The version of the name. -/
def parse (name : String) : Version := (numbered? name.toList).getD (other name)

/-- The stage, the number and the attempt; higher ones are preferred. -/
def rank : Version → Nat × Nat × Nat
  | stable number => (3, number, 0)
  | beta number attempt => (2, number, (attempt.map (· + 1)).getD 0)
  | alpha number attempt => (1, number, (attempt.map (· + 1)).getD 0)
  | other _ => (0, 0, 0)

/-- The order of ranks: the first difference decides. -/
def rankLE (a b : Nat × Nat × Nat) : Bool :=
  a.1 < b.1 || (a.1 = b.1 && (a.2.1 < b.2.1 || (a.2.1 = b.2.1 && a.2.2 ≤ b.2.2)))

/-- Whether the first version is preferred to the second, or as good. -/
def isPreferred : Version → Version → Bool
  | other a, other b => decide (a ≤ b)
  | a, b => rankLE b.rank a.rank

end Version

end RolloutTree.Api
