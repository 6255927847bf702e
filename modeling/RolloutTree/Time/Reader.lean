import RolloutTree.Text.Blank
import RolloutTree.Text.Natural
import RolloutTree.Time.Instant

/-!
# Reading an instant

A relaxed form of the internet date and time format: `2024-05-10T12:00:00.5Z`. White space may
stand before every number and after every number but an hour offset's, numbers may be short, a year
of more than four digits has a sign, a space may separate date and time, and the offset from
universal time is `Z`, `UTC` or a sign with two digits for the hours and two for the minutes.

## Main definitions

* `Instant.parse?`: the instant that a text stands for.
-/

namespace RolloutTree.Instant

/-- A reader of a part of the text, which leaves the rest. -/
abbrev Reader := StateT (List Char) Option

namespace Reader

/-- White space, if there is any. -/
def blanks : Reader Unit := modify (·.dropWhile Text.isBlank)

/-- The next character, if it is one of the accepted. -/
def char (accepts : Char → Bool) : Reader Char := do
  match ← get with
  | c :: rest => if accepts c then set rest; return c else failure
  | [] => failure

/-- Digits, at least one and at most so many. -/
def digits (most : Nat) : Reader (List Char) := do
  let text ← get
  let found := (text.takeWhile Char.isDigit).take most
  if found.isEmpty then failure
  set (text.drop found.length)
  return found

/-- A number of at most so many digits, after white space. -/
def number (most : Nat) : Reader Nat := do
  blanks
  return Text.ofDigits (← digits most)

/-- A year: with a sign of any length, without one of at most four digits. -/
def year : Reader Int := do
  blanks
  match ← get with
  | '-' :: rest => set rest; return -(Text.ofDigits (← digits rest.length) : Int)
  | '+' :: rest => set rest; return Text.ofDigits (← digits rest.length)
  | _ => return Text.ofDigits (← digits 4)

/-- A separator, after white space. -/
def separator (mark : Char) : Reader Unit := do
  blanks
  let _ ← char (· = mark)

/-- A day of the calendar. -/
def date : Reader Date := do
  let year ← year
  separator '-'
  let month ← number 2
  separator '-'
  let day ← number 2
  return ⟨year, month, day⟩

/-- The fraction of a second in nanoseconds, if there is one. Digits after the ninth do not
count. -/
def fraction : Reader Nat := do
  match ← get with
  | '.' :: rest =>
    set rest
    let found ← digits 9
    modify (·.dropWhile Char.isDigit)
    return Text.ofDigits found * Nat.pow 10 (9 - found.length)
  | _ => return 0

/-- A time of day: the second of the day and the nanoseconds. A second 60 is a leap second. -/
def time : Reader (Nat × Nat) := do
  let hour ← number 2
  separator ':'
  let minute ← number 2
  separator ':'
  let second ← number 2
  let nanos ← fraction
  guard (hour < 24 && minute < 60 && second ≤ 60)
  if second = 60 then return (hour * 3600 + minute * 60 + 59, nanosPerSecond + nanos)
  else return (hour * 3600 + minute * 60 + second, nanos)

/-- Whether the text starts with `UTC` in letters of any case. -/
def isUniversal (text : List Char) : Bool := (text.take 3).map Char.toUpper = ['U', 'T', 'C']

/-- Two digits. -/
def twoDigits : Reader Nat := do
  let tens ← char Char.isDigit
  let units ← char Char.isDigit
  return Text.ofDigits [tens, units]

/-- The seconds by which local time is ahead of universal time. -/
def offset : Reader Int := do
  blanks
  if isUniversal (← get) then
    modify (·.drop 3)
    return 0
  let mark ← char fun c => c ∈ ['Z', 'z', '+', '-', '\u2212']
  if mark = 'Z' || mark = 'z' then return 0
  let hours ← twoDigits
  modify (·.dropWhile fun c => c = ':' || Text.isBlank c)
  let minutes ← twoDigits
  guard (minutes < 60)
  let seconds : Int := hours * 3600 + minutes * 60
  guard (seconds < secondsPerDay)
  return if mark = '+' then seconds else -seconds

end Reader

/-- The instant of a local date and time, if it lies in the range of dates. -/
def ofLocal? (date : Date) (second nanos : Nat) (offset : Int) : Option Instant :=
  let seconds := (second : Int) - offset
  let day := date.dayNumber + seconds / secondsPerDay
  if date.isValid && Date.dayNumber ⟨Date.firstYear, 1, 1⟩ ≤ day &&
      day ≤ Date.dayNumber ⟨Date.lastYear, 12, 31⟩ then
    some ⟨day, (seconds % secondsPerDay).toNat, nanos⟩
  else none

/-- The whole text as an instant. -/
def Reader.instant : Reader Instant := do
  let date ← date
  let _ ← char fun c => c = 'T' || c = 't' || c = ' '
  let (second, nanos) ← time
  let offset ← offset
  blanks
  guard (← get).isEmpty
  ofLocal? date second nanos offset

/-- The instant that the text stands for. -/
def parse? (text : String) : Option Instant := (Reader.instant.run text.toList).map (·.1)

end RolloutTree.Instant
