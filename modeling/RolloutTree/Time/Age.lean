import RolloutTree.Time.Instant

/-!
# Ages

The time that has passed is told in at most two units, rounded down to the smaller one: up to an
hour in one unit, up to a week in two, then in days, and beyond a year of 365 days in years and
days.

## Main definitions

* `Age.Unit`, with the letter and the seconds of a unit.
* `Age.parts`: how often each told unit has passed.
* `Age.text`: the age as it is shown.
-/

namespace RolloutTree.Age

/-- A unit in which ages are told. -/
inductive Unit where
  | year
  | day
  | hour
  | minute
  | second
  deriving DecidableEq, Repr

namespace Unit

/-- The letter that stands for the unit. -/
def letter : Unit → String
  | year => "y"
  | day => "d"
  | hour => "h"
  | minute => "m"
  | second => "s"

/-- The seconds of the unit. -/
def seconds : Unit → Nat
  | year => 31536000
  | day => 86400
  | hour => 3600
  | minute => 60
  | second => 1

end Unit

/-- How often each told unit has passed after so many seconds. -/
def parts (elapsed : Nat) : List (Nat × Unit) :=
  let days := elapsed / 86400
  let hours := elapsed / 3600 % 24
  let minutes := elapsed / 60 % 60
  if 365 < days then [(days / 365, .year), (days % 365, .day)]
  else if 7 < days then [(days, .day)]
  else if 0 < days then [(days, .day), (hours, .hour)]
  else if 0 < hours then [(hours, .hour), (minutes, .minute)]
  else if 0 < minutes then [(minutes, .minute)]
  else [(elapsed % 60, .second)]

/-- The age after so many seconds, as it is shown. -/
def ofSeconds (elapsed : Nat) : String :=
  String.join ((parts elapsed).map fun (count, unit) => toString count ++ unit.letter)

/-- The age of something that started then; what starts later has the age zero. -/
def text (start now : Instant) : String := ofSeconds (start.elapsed now).toNat

end RolloutTree.Age
