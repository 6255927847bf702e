import Mathlib.Data.List.Chain
import RolloutTree.Time.Age

/-!
# Ages read back

The text of an age can be read: it is a list of counts in decimal, each with the letter of a unit
behind it. What is read is the time that has passed, rounded down to the last unit that is told.
That unit grows with the age, but each larger one is used from a whole number of it on, so that an
age which is told later never stands for less time than one told before.

## Main definitions

* `Age.read?`: the counts and units in a text.
* `Age.seconds`: the seconds that counts of units make.
* `Age.RoundsDown`: counts of units tell a time, rounded down to the last unit.
* `Age.Tells`: the counts that are told of an age, by its length.

## Main results

* `Age.read?_ofSeconds`: from the text of an age its parts are read.
* `Age.tells_parts`: which parts are told of an age.
* `Age.Tells.roundsDown`, `Age.Tells.seconds_le`: they tell the time, rounded down, and more time is
  not told as less.
* `Age.text_rounds_down`: the same of the text between any two instants.
-/

namespace RolloutTree.Age

/-! ### Reading -/

/-- The unit that the letter stands for. -/
def Unit.ofLetter? : Char → Option Unit
  | 'y' => some .year
  | 'd' => some .day
  | 'h' => some .hour
  | 'm' => some .minute
  | 's' => some .second
  | _ => none

/-- The counts and units in a text, of whose first count some digits have been read before. -/
def readFrom (digits : List Char) : List Char → Option (List (Nat × Unit))
  | [] => if digits.isEmpty then some [] else none
  | c :: cs =>
    if c.isDigit then readFrom (digits ++ [c]) cs
    else if digits.isEmpty then none
    else do
      let unit ← Unit.ofLetter? c
      let told ← readFrom [] cs
      return (Nat.ofDigitChars 10 digits 0, unit) :: told

/-- The counts and units in a text. -/
def read? (text : String) : Option (List (Nat × Unit)) := readFrom [] text.toList

theorem Unit.seconds_pos (unit : Unit) : 0 < unit.seconds := by
  cases unit <;> decide

theorem Unit.exists_letter (unit : Unit) :
    ∃ c, unit.letter.toList = [c] ∧ c.isDigit = false ∧ ofLetter? c = some unit := by
  cases unit <;> exact ⟨_, rfl, rfl, rfl⟩

theorem readFrom_digits {more : List Char} (h : ∀ c ∈ more, c.isDigit = true)
    (digits rest : List Char) :
    readFrom digits (more ++ rest) = readFrom (digits ++ more) rest := by
  induction more generalizing digits with
  | nil => rw [List.nil_append, List.append_nil]
  | cons c more ih =>
    obtain ⟨hc, hmore⟩ := List.forall_mem_cons.mp h
    rw [List.cons_append, readFrom, if_pos hc, ih hmore, List.append_assoc, List.singleton_append]

/-- A count and its unit are read as they are told. -/
theorem readFrom_append (count : Nat) (unit : Unit) (rest : List Char) :
    readFrom [] ((toString count ++ unit.letter).toList ++ rest) =
      (readFrom [] rest).map ((count, unit) :: ·) := by
  obtain ⟨c, hletter, hdigit, hunit⟩ := unit.exists_letter
  have hdigits : ∀ d ∈ Nat.toDigits 10 count, d.isDigit = true :=
    fun d => Nat.isDigit_of_mem_toDigits (by decide) (by decide)
  have htext : (toString count ++ unit.letter).toList ++ rest =
      Nat.toDigits 10 count ++ c :: rest := by
    rw [String.toList_append, hletter, List.append_assoc]
    exact congrArg (· ++ c :: rest) Nat.toList_repr
  have hne : Nat.toDigits 10 count ≠ [] := Nat.toDigits_ne_nil
  rw [htext, readFrom_digits hdigits, List.nil_append, readFrom, hdigit, hunit,
    Nat.ofDigitChars_ten_toDigits]
  cases h : readFrom [] rest <;> simp [hne]

/-- Counts and units are read as they are told, one behind the other. -/
theorem read?_join : (told : List (Nat × Unit)) →
    read? (String.join (told.map fun (count, unit) => toString count ++ unit.letter)) = some told
  | [] => rfl
  | (count, unit) :: told => by
    have hrest := read?_join told
    rw [read?] at hrest ⊢
    rw [List.map_cons, String.join_cons, String.toList_append, readFrom_append, hrest,
      Option.map_some]

/-- From the text of an age its parts are read. -/
theorem read?_ofSeconds (elapsed : Nat) : read? (ofSeconds elapsed) = some (parts elapsed) :=
  read?_join _

/-! ### Rounding -/

/-- The seconds that counts of units make. -/
def seconds : List (Nat × Unit) → Nat
  | [] => 0
  | (count, unit) :: told => count * unit.seconds + seconds told

/-- A smaller unit is told behind a larger one, less often than it fits into it. -/
inductive Follows : Nat × Unit → Nat × Unit → Prop
  | days {years days : Nat} (h : days < 365) : Follows (years, .year) (days, .day)
  | hours {days hours : Nat} (h : hours < 24) : Follows (days, .day) (hours, .hour)
  | minutes {hours minutes : Nat} (h : minutes < 60) : Follows (hours, .hour) (minutes, .minute)

/-- Counts of units tell the time that has passed, rounded down to the last unit. -/
structure RoundsDown (elapsed : Nat) (told : List (Nat × Unit)) : Prop where
  /-- Less than one more of the last unit has passed beyond what is told. -/
  rounds : ∃ last, told.getLast? = some last ∧ seconds told ≤ elapsed ∧
    elapsed < seconds told + last.2.seconds
  /-- No count makes one of the unit before it. -/
  follows : told.IsChain Follows
  /-- The first count is not zero if any second has passed. -/
  leads : ∃ first, told.head? = some first ∧ (first.1 = 0 → elapsed = 0)

theorem seconds_single (part : Nat × Unit) : seconds [part] = part.1 * part.2.seconds := rfl

theorem seconds_pair (larger smaller : Nat × Unit) : seconds [larger, smaller] =
    larger.1 * larger.2.seconds + smaller.1 * smaller.2.seconds := by
  simp [seconds]

/-! ### The units of an age -/

/-- What is told of an age, from the shortest to the longest. -/
inductive Tells (elapsed : Nat) : List (Nat × Unit) → Prop
  | seconds (h : elapsed < 60) : Tells elapsed [(elapsed, .second)]
  | minutes (h : 60 ≤ elapsed) (h' : elapsed < 3600) : Tells elapsed [(elapsed / 60, .minute)]
  | hours (h : 3600 ≤ elapsed) (h' : elapsed < 86400) :
    Tells elapsed [(elapsed / 3600, .hour), (elapsed / 60 % 60, .minute)]
  | week (h : 86400 ≤ elapsed) (h' : elapsed < 8 * 86400) :
    Tells elapsed [(elapsed / 86400, .day), (elapsed / 3600 % 24, .hour)]
  | days (h : 8 * 86400 ≤ elapsed) (h' : elapsed < 366 * 86400) :
    Tells elapsed [(elapsed / 86400, .day)]
  | years (h : 366 * 86400 ≤ elapsed) :
    Tells elapsed [(elapsed / 86400 / 365, .year), (elapsed / 86400 % 365, .day)]

theorem tells_parts (elapsed : Nat) : Tells elapsed (parts elapsed) := by
  unfold parts
  dsimp only
  split
  · exact .years (by omega)
  split
  · exact .days (by omega) (by omega)
  split
  · exact .week (by omega) (by omega)
  split
  · have hhours : elapsed / 3600 % 24 = elapsed / 3600 := by omega
    rw [hhours]
    exact .hours (by omega) (by omega)
  split
  · have hminutes : elapsed / 60 % 60 = elapsed / 60 := by omega
    rw [hminutes]
    exact .minutes (by omega) (by omega)
  · have hseconds : elapsed % 60 = elapsed := by omega
    rw [hseconds]
    exact .seconds (by omega)

variable {elapsed : Nat} {told : List (Nat × Unit)}

/-- The last unit that is told of an age: seconds in the first minute, minutes in the first day,
hours in the first eight days, and days from then on. -/
def lastUnit (elapsed : Nat) : Unit :=
  if elapsed < 60 then .second
  else if elapsed < 86400 then .minute
  else if elapsed < 8 * 86400 then .hour
  else .day

theorem lastUnit_minute (h : 60 ≤ elapsed) (h' : elapsed < 86400) : lastUnit elapsed = .minute := by
  rw [lastUnit, if_neg (Nat.not_lt.mpr h), if_pos h']

theorem lastUnit_hour (h : 86400 ≤ elapsed) (h' : elapsed < 8 * 86400) :
    lastUnit elapsed = .hour := by
  rw [lastUnit, if_neg (by omega), if_neg (Nat.not_lt.mpr h), if_pos h']

theorem lastUnit_day (h : 8 * 86400 ≤ elapsed) : lastUnit elapsed = .day := by
  rw [lastUnit, if_neg (by omega), if_neg (by omega), if_neg (Nat.not_lt.mpr h)]

namespace Tells

theorem last (h : Tells elapsed told) :
    ∃ last, told.getLast? = some last ∧ last.2 = lastUnit elapsed := by
  cases h with
  | seconds h => exact ⟨_, rfl, (if_pos h).symm⟩
  | minutes h h' => exact ⟨_, rfl, (lastUnit_minute h (by omega)).symm⟩
  | hours h h' => exact ⟨_, rfl, (lastUnit_minute (by omega) h').symm⟩
  | week h h' => exact ⟨_, rfl, (lastUnit_hour h h').symm⟩
  | days h h' => exact ⟨_, rfl, (lastUnit_day h).symm⟩
  | years h => exact ⟨_, rfl, (lastUnit_day (by omega)).symm⟩

/-- What is told of an age is a whole number of the last unit. -/
theorem seconds_eq (h : Tells elapsed told) : Age.seconds told =
    elapsed / (lastUnit elapsed).seconds * (lastUnit elapsed).seconds := by
  cases h with
  | seconds h =>
    have hunit : lastUnit elapsed = .second := if_pos h
    rw [seconds_single, hunit, Unit.seconds, Nat.div_one]
  | minutes h h' =>
    rw [seconds_single, lastUnit_minute h (by omega)]
    rfl
  | hours h h' =>
    rw [seconds_pair, lastUnit_minute (by omega) h', Unit.seconds, Unit.seconds]
    omega
  | week h h' =>
    rw [seconds_pair, lastUnit_hour h h', Unit.seconds, Unit.seconds]
    omega
  | days h h' =>
    rw [seconds_single, lastUnit_day h]
    rfl
  | years h =>
    rw [seconds_pair, lastUnit_day (by omega), Unit.seconds, Unit.seconds]
    omega

theorem follows (h : Tells elapsed told) : told.IsChain Follows := by
  cases h with
  | seconds h => exact .singleton _
  | minutes h h' => exact .singleton _
  | hours h h' => exact .cons_cons (.minutes (Nat.mod_lt _ (by decide))) (.singleton _)
  | week h h' => exact .cons_cons (.hours (Nat.mod_lt _ (by decide))) (.singleton _)
  | days h h' => exact .singleton _
  | years h => exact .cons_cons (.days (Nat.mod_lt _ (by decide))) (.singleton _)

theorem leads (h : Tells elapsed told) :
    ∃ first, told.head? = some first ∧ (first.1 = 0 → elapsed = 0) := by
  cases h with
  | seconds h => exact ⟨_, rfl, id⟩
  | minutes h h' => exact ⟨_, rfl, fun hzero => by dsimp only at hzero; omega⟩
  | hours h h' => exact ⟨_, rfl, fun hzero => by dsimp only at hzero; omega⟩
  | week h h' => exact ⟨_, rfl, fun hzero => by dsimp only at hzero; omega⟩
  | days h h' => exact ⟨_, rfl, fun hzero => by dsimp only at hzero; omega⟩
  | years h => exact ⟨_, rfl, fun hzero => by dsimp only at hzero; omega⟩

/-- What is told of an age tells it, rounded down. -/
theorem roundsDown (h : Tells elapsed told) : RoundsDown elapsed told := by
  obtain ⟨last, hlast, hunit⟩ := h.last
  refine ⟨⟨last, hlast, ?_, ?_⟩, h.follows, h.leads⟩
  · rw [h.seconds_eq]
    exact Nat.div_mul_le_self _ _
  · rw [h.seconds_eq, hunit]
    exact Nat.lt_div_mul_add (lastUnit elapsed).seconds_pos

/-- More time is not told as less: where a larger unit begins to be the last one, a whole number of
it has passed. -/
theorem seconds_le {later : Nat} {told' : List (Nat × Unit)} (h : Tells elapsed told)
    (h' : Tells later told') (hle : elapsed ≤ later) :
    Age.seconds told ≤ Age.seconds told' := by
  rw [h.seconds_eq, h'.seconds_eq]
  -- with one last unit this is division; with two, the larger one divides the time from which on
  -- it is the last, and that time lies between the two
  unfold lastUnit
  split_ifs <;> simp only [Unit.seconds] <;> omega

end Tells

/-- **The text of an age is the time that has passed, rounded down.** Its counts and units can be
read back.

* They make no more seconds than have passed, and less than one of the last unit is missing.
* A count behind another makes less than one of the unit before it: there are less than 24 hours
  behind days, less than 60 minutes behind hours and less than 365 days behind years.
* The first count is not zero unless no second has passed.
* Where more time has passed, no less is told. -/
theorem text_rounds_down (start now : Instant) :
    ∃ told, read? (text start now) = some told ∧
      RoundsDown (start.elapsed now).toNat told ∧
      ∀ start' now' : Instant, (start.elapsed now).toNat ≤ (start'.elapsed now').toNat →
        ∃ told', read? (text start' now') = some told' ∧ seconds told ≤ seconds told' :=
  ⟨_, read?_ofSeconds _, (tells_parts _).roundsDown, fun _ _ h =>
    ⟨_, read?_ofSeconds _, (tells_parts _).seconds_le (tells_parts _) h⟩⟩

/-- The last day of one format and the first of the next. -/
example : (ofSeconds (366 * 86400 - 1), ofSeconds (366 * 86400)) = ("365d", "1y1d") := by decide

end RolloutTree.Age
