import RolloutTree.Fetch
import RolloutTree.Tree.Frame
import RolloutTree.Watch.Wait

/-!
# Watching a tree

A run fetches the tree, shows it, and waits for the next refresh, over and over; a run that does not
watch does so once. Time is counted, not measured: a fetch is given by how long it takes and what
comes of it, and everything else takes no time.

A refresh is due every interval. One that is taken late moves those after it, unless it is late by
no more than a grace of five milliseconds. A transient failure is shown under the last frame, and
the next refresh tries again; a fatal one ends the run.

## Main definitions

* `Attempt`: one fetch.
* `Setup`, `Output`: how a run goes and what becomes of its writes.
* `Event`, `Ending`, `Run`: what happens in a run, with `Run.fetches`, `Run.writes`, `Run.flushes`.
* `Attempt.firstMove`: when a fetch cancels the run or has its outcome.
* `step`: one fetch with all that follows up to the next one.
* `run`: the run over the fetches that it will meet.
-/

namespace RolloutTree.Watch

/-! ### What a run is made of -/

/-- What comes of a fetch, if anything does. -/
inductive Outcome where
  | tree (node : Node)
  | failed (failure : FetchFailure)
  | nothing
  deriving Repr

/-- A fetch. -/
structure Attempt where
  /-- Whether it cancels the run. -/
  cancels : Bool := false
  /-- How long after its start it cancels the run, if it is not over by then. -/
  cancelDelay : Nat := 0
  /-- How long it takes. -/
  delay : Nat := 0
  outcome : Outcome
  deriving Repr

namespace Attempt

/-- A fetch that cancels the run and does not come back. -/
def abandon : Attempt := { cancels := true, outcome := .nothing }

/-- When a fetch that starts now has its outcome. -/
def finish (a : Attempt) (now : Nat) : Moment :=
  match a.outcome with
  | .nothing => none
  | _ => some (now + a.delay)

/-- When a fetch that starts now cancels the run; one that is over before does not. -/
def cancellation (a : Attempt) (now : Nat) : Moment :=
  if a.cancels && (a.finish now).all (now + a.cancelDelay ≤ ·) then some (now + a.cancelDelay)
  else none

/-- When a fetch that starts now first does something: it cancels the run, or it has its
outcome. -/
def firstMove (a : Attempt) (now : Nat) : Moment :=
  Option.merge min (a.finish now) (a.cancellation now)

end Attempt

/-- How a run goes. -/
structure Setup where
  /-- Whether the tree is fetched again and again. -/
  isWatching : Bool := false
  /-- The time from one refresh to the next, which is not zero. -/
  interval : Nat := 1000
  deadline : Moment := none
  painter : Painter

/-- Why there is no run with the setup, if there is none. -/
def Setup.refusal? (s : Setup) : Option String :=
  if s.interval = 0 then some "`period` must be non-zero." else none

/-- What becomes of writes: why the write of a number fails, if it does, and likewise the flush that
follows it. Writes are counted from 1. -/
structure Output where
  failWrite : Nat → Option String := fun _ => none
  failFlush : Nat → Option String := fun _ => none

/-- What happens at a time. -/
inductive Event where
  | fetch (time : Nat)
  /-- A fetch cancels the run. -/
  | cancel (time : Nat)
  | write (time : Nat) (text : String)
  | flush (time : Nat)
  deriving DecidableEq, Repr

/-- The time of an event. -/
def Event.time : Event → Nat
  | fetch time => time
  | cancel time => time
  | write time _ => time
  | flush time => time

namespace Event

/-- When a fetch starts, if the event is one. -/
def fetch? : Event → Option Nat
  | fetch time => some time
  | _ => none

/-- What is written and when, if the event is a write. -/
def write? : Event → Option (Nat × String)
  | write time text => some (time, text)
  | _ => none

/-- When the output is flushed, if the event is that. -/
def flush? : Event → Option Nat
  | flush time => some time
  | _ => none

end Event

/-- How a run ends. -/
inductive Ending where
  | completed
  | cancelled
  | timedOut
  | fetchFailed (failure : FetchFailure)
  | outputFailed (reason : String)
  deriving DecidableEq, Repr

/-- The message of an ending that is a failure. -/
def Ending.message? : Ending → Option String
  | fetchFailed failure => some failure.message
  | outputFailed reason => some ("failed to write to terminal: " ++ reason)
  | _ => none

/-- A run: what happens in it, and how and when it ends, if it does. -/
structure Run where
  events : List Event := []
  ending : Option (Ending × Nat) := none
  deriving DecidableEq, Repr

namespace Run

/-- When fetches start. -/
def fetches (r : Run) : List Nat := r.events.filterMap Event.fetch?

/-- What is written, and when. -/
def writes (r : Run) : List (Nat × String) := r.events.filterMap Event.write?

/-- When the output is flushed. -/
def flushes (r : Run) : List Nat := r.events.filterMap Event.flush?

end Run

/-! ### One refresh -/

/-- What a run knows before a fetch. -/
structure State where
  now : Nat := 0
  /-- When the next refresh is due. -/
  due : Nat
  cancelled : Moment := none
  /-- The last frame that was shown without a failure. -/
  frame : String := ""
  /-- How many writes there were. -/
  writes : Nat := 0
  deriving DecidableEq, Repr

/-- How a run goes on. -/
inductive Next where
  | go (state : State)
  | stop (ending : Ending) (time : Nat)
  | endless
  deriving DecidableEq, Repr

/-- By how much a refresh may be late without moving those after it. -/
def grace : Nat := 5

/-- When the next refresh is due after one that was due and is taken now. -/
def nextDue (interval due now : Nat) : Nat :=
  if now ≤ due + grace then due + interval else now + interval

namespace Setup

/-- The limits of waits. -/
def limits (s : Setup) (cancelled : Moment) : Limits := ⟨cancelled, s.deadline⟩

/-- What is written to show the text: a watched one takes the place of what was shown before. -/
def shown (s : Setup) (text : String) : String :=
  if s.isWatching then Escape.clearScreen ++ text else text

/-- What is shown for a failure that does not end the run. -/
def failureText (frame : String) (failure : FetchFailure) : String :=
  frame ++ "\nerror: " ++ failure.message ++ "\n"

/-- What happens when a text is written and flushed, and why that fails, if it does. -/
def draw (s : Setup) (out : Output) (number time : Nat) (text : String) :
    List Event × Option String :=
  match out.failWrite number with
  | some reason => ([], some reason)
  | none => ([.write time (s.shown text), .flush time], out.failFlush number)

/-- How a wait for a moment goes on when it is over. -/
def await (s : Setup) (cancelled : Moment) (now : Nat) (awaited : Moment)
    (next : Nat → List Event × Next) : List Event × Next :=
  match (s.limits cancelled).wait now awaited with
  | some (time, .cancelled) => ([], .stop .cancelled time)
  | some (time, .timedOut) => ([], .stop .timedOut time)
  | some (time, .ready) => next time
  | none => ([], .endless)

/-- Showing a text, and then waiting for the next refresh if the run watches. -/
def drawAndPause (s : Setup) (out : Output) (state : State) (time : Nat) (text : String) :
    List Event × Next :=
  let (events, failed) := s.draw out (state.writes + 1) time text
  match failed with
  | some reason => (events, .stop (.outputFailed reason) time)
  | none =>
    if s.isWatching then
      let (rest, next) := s.await state.cancelled time (some state.due) fun now =>
        ([], .go { state with
          now, due := nextDue s.interval state.due now, writes := state.writes + 1 })
      (events ++ rest, next)
    else (events, .stop .completed time)

/-- What follows from the outcome of a fetch. -/
def settle (s : Setup) (out : Output) (state : State) (time : Nat) : Outcome → List Event × Next
  | .tree node =>
    let frame := Frame.text s.painter node
    s.drawAndPause out { state with frame } time frame
  | .failed failure =>
    if failure.severity = .fatal || !s.isWatching then ([], .stop (.fetchFailed failure) time)
    else s.drawAndPause out state time (failureText state.frame failure)
  | .nothing => ([], .endless)

/-- What a fetch does that started at a time and is reached again now. One that has cancelled the
run and is not over is not reached any more; an outcome that is there at once still counts. -/
def proceed (s : Setup) (out : Output) (a : Attempt) (state : State) (start now : Nat) :
    List Event × Next :=
  if a.cancellation start = some now then
    let (events, next) :=
      if a.finish start = some now then
        s.settle out { state with cancelled := some now } now a.outcome
      else ([], .stop .cancelled now)
    (.cancel now :: events, next)
  else s.settle out state now a.outcome

/-- One fetch with all that follows up to the next one. The fetch does not start when the run is to
stop. -/
def step (s : Setup) (out : Output) (a : Attempt) (state : State) : List Event × Next :=
  s.await state.cancelled state.now (some state.now) fun start =>
    let (events, next) :=
      s.await state.cancelled start (a.firstMove start) (s.proceed out a state start)
    (.fetch start :: events, next)

/-- The run from a state on, over the fetches that it will meet. A run that meets no more is
cancelled by its next fetch, which does not come back. -/
def runFrom (s : Setup) (out : Output) : List Attempt → State → Run
  | [], state =>
    match s.step out .abandon state with
    | (events, .stop ending time) => ⟨events, some (ending, time)⟩
    | (events, _) => ⟨events, none⟩
  | a :: rest, state =>
    match s.step out a state with
    | (events, .stop ending time) => ⟨events, some (ending, time)⟩
    | (events, .endless) => ⟨events, none⟩
    | (events, .go state) =>
      let r := runFrom s out rest state
      ⟨events ++ r.events, r.ending⟩

/-- The run over the fetches that it will meet; it may be cancelled from outside. -/
def run (s : Setup) (out : Output) (cancelled : Moment) (attempts : List Attempt) : Run :=
  s.runFrom out attempts { due := s.interval, cancelled }

end Setup

end RolloutTree.Watch
