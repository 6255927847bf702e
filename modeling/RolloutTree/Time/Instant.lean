/-!
# Instants

An instant is a day, a second of that day and the part of the second that has passed, in
nanoseconds. A leap second continues the last second of a minute, so that the part may exceed one
second. Days are counted in the Gregorian calendar, also before it was introduced.

## Main definitions

* `Date`, `Date.isValid`, `Date.dayNumber`.
* `Instant`, `Instant.wholeSecond`.
* `Instant.elapsed`: the whole seconds from one instant to another.
-/

namespace RolloutTree

/-- A day of the calendar. -/
structure Date where
  year : Int
  month : Nat
  day : Nat
  deriving DecidableEq, Repr

namespace Date

/-- Every fourth year is a leap year, but of the full centuries only every fourth. -/
def isLeapYear (year : Int) : Bool := year % 4 = 0 && (year % 100 ≠ 0 || year % 400 = 0)

/-- The days of a month. -/
def daysInMonth (year : Int) : Nat → Nat
  | 2 => if isLeapYear year then 29 else 28
  | 4 | 6 | 9 | 11 => 30
  | _ => 31

/-- The first and the last year that a date can have. -/
def firstYear : Int := -262143

@[inherit_doc firstYear]
def lastYear : Int := 262142

/-- Whether there is such a day. -/
def isValid (d : Date) : Bool :=
  firstYear ≤ d.year && d.year ≤ lastYear && 1 ≤ d.month && d.month ≤ 12 && 1 ≤ d.day &&
    d.day ≤ daysInMonth d.year d.month

/-- The days before the first of the month in its year. -/
def daysBeforeMonth (year : Int) : Nat → Nat
  | 0 => 0
  | month + 1 => if month = 0 then 0 else daysBeforeMonth year month + daysInMonth year month

/-- The days from the first of January of the year 0 to the first of January of the year. -/
def daysBeforeYear (year : Int) : Int :=
  let past := year - 1
  365 * year + past / 4 - past / 100 + past / 400 + 1

/-- The days from the first of January of the year 0 to the day. -/
def dayNumber (d : Date) : Int :=
  daysBeforeYear d.year + daysBeforeMonth d.year d.month + (d.day - 1)

end Date

/-- A point in time. -/
structure Instant where
  day : Int
  second : Nat
  /-- Nanoseconds since the start of the second; in a leap second one second and more. -/
  nanos : Nat
  deriving DecidableEq, Repr

namespace Instant

/-- The nanoseconds of a second. -/
def nanosPerSecond : Nat := 1000000000

/-- The seconds of a day. -/
def secondsPerDay : Nat := 86400

/-- Whether the instant lies in a leap second. -/
def isLeap (t : Instant) : Bool := nanosPerSecond ≤ t.nanos

/-- The start of the second that the instant lies in. -/
def wholeSecond (t : Instant) : Instant :=
  { t with nanos := t.nanos / nanosPerSecond * nanosPerSecond }

/-- The leap second that has passed between two seconds of a day, with a sign for its direction.
It counts only where the earlier of the two lies in it. -/
def leapBetween (start stop : Instant) : Int :=
  if start.second < stop.second then (if start.isLeap then 1 else 0)
  else if stop.second < start.second then (if stop.isLeap then -1 else 0)
  else 0

/-- The nanoseconds from one instant to another. -/
def elapsedNanos (start stop : Instant) : Int :=
  ((stop.day - start.day) * secondsPerDay + ((stop.second : Int) - start.second) +
    leapBetween start stop) * nanosPerSecond + ((stop.nanos : Int) - start.nanos)

/-- The whole seconds from one instant to another, negative if the other is earlier. -/
def elapsed (start stop : Instant) : Int := (elapsedNanos start stop).tdiv nanosPerSecond

end Instant

end RolloutTree
