/-!
# Waiting

Whoever waits for something stops waiting when the run is cancelled or its deadline has come. Of
things that come at one time the cancellation counts first, then the deadline, and last what is
waited for.

## Main definitions

* `Moment`: a time in milliseconds since the start, or never.
* `Limits`: when a run is cancelled and when its deadline is.
* `Limits.wait`: what ends a wait, and when.
-/

namespace RolloutTree.Watch

/-- A time in milliseconds since the start of the run, or never. -/
abbrev Moment := Option Nat

/-- When a run is cancelled, and when its deadline is. -/
structure Limits where
  cancelled : Moment := none
  deadline : Moment := none
  deriving DecidableEq, Repr

/-- What ends a wait. -/
inductive Wake where
  | cancelled
  | timedOut
  | ready
  deriving DecidableEq, Repr

/-- The earlier of two things; of two at one time the first. -/
def earlier {α : Type} : Option (Nat × α) → Option (Nat × α) → Option (Nat × α)
  | some a, some b => if a.1 ≤ b.1 then some a else some b
  | a, none => a
  | none, b => b

/-- When something is noticed by one who waits from now on; what is past is noticed at once. -/
def noticed {α : Type} (now : Nat) (m : Moment) (a : α) : Option (Nat × α) :=
  m.map fun time => (max now time, a)

/-- When the wait ends that starts now, and what ends it, if anything does. -/
def Limits.wait (l : Limits) (now : Nat) (awaited : Moment) : Option (Nat × Wake) :=
  earlier (earlier (noticed now l.cancelled .cancelled) (noticed now l.deadline .timedOut))
    (noticed now awaited .ready)

end RolloutTree.Watch
