import RolloutTree.Proofs.Watch.Wait

/-!
# What one refresh of a run can do

One refresh is a fetch with all that follows up to the next fetch. It is described by three
relations, one on top of the other: what follows from a text to be shown, what follows from the
outcome of a fetch, and what follows from the state before the fetch. The function that computes a
refresh satisfies them (`Setup.steps_step`), and a run is a chain of refreshes
(`Setup.runs_runFrom`), so that a statement on all runs is proved by cases on these relations.

## Main definitions

* `Setup.Draws`: a text is written, and the run stops or waits for the next refresh.
* `Setup.Settles`: the outcome of a fetch is shown, or it ends the run.
* `Setup.Steps`: one refresh.
* `Setup.Runs`: a run, refresh by refresh.

## Main results

* `Setup.steps_step`, `Setup.runs_runFrom`: the computed refresh and run are such ones.
-/

namespace RolloutTree.Watch

namespace Attempt

variable (a : Attempt) {now time : Nat}

theorem finish_eq_some_iff :
    a.finish now = some time ↔ a.outcome ≠ .nothing ∧ time = now + a.delay := by
  cases h : a.outcome <;> simp [finish, h, eq_comm]

theorem outcome_ne (h : a.finish now = some time) : a.outcome ≠ .nothing :=
  (a.finish_eq_some_iff.mp h).1

/-- A fetch that cancels the run does so no later than it has its outcome. -/
theorem cancellation_eq_some_iff :
    a.cancellation now = some time ↔
      a.cancels = true ∧ time = now + a.cancelDelay ∧ ∀ t ∈ a.finish now, time ≤ t := by
  rw [cancellation, Option.ite_none_right_eq_some, Bool.and_eq_true, Option.all_eq_true,
    Option.some.injEq]
  constructor
  · rintro ⟨⟨hc, hle⟩, rfl⟩
    exact ⟨hc, rfl, fun t ht => of_decide_eq_true (hle t ht)⟩
  · rintro ⟨hc, rfl, hle⟩
    exact ⟨⟨hc, fun t ht => decide_eq_true (hle t ht)⟩, rfl⟩

/-- The first thing that a fetch does is to cancel the run, to come back, or both at once. -/
theorem firstMove_cases (h : a.firstMove now = some time) :
    (a.cancellation now = some time ∧ a.finish now ≠ some time) ∨
    (a.cancellation now = none ∧ a.finish now = some time) ∨
    (a.cancellation now = some time ∧ a.finish now = some time) := by
  unfold firstMove at h
  cases hc : a.cancellation now with
  | none =>
    rw [hc] at h
    exact Or.inr (Or.inl ⟨rfl, by simpa using h⟩)
  | some c =>
    have hle := (a.cancellation_eq_some_iff.mp hc).2.2
    cases hf : a.finish now with
    | none =>
      rw [hc, hf] at h
      exact Or.inl ⟨h, nofun⟩
    | some f =>
      have hcf : c ≤ f := hle f hf
      rw [hc, hf, Option.merge_some_some, Nat.min_eq_right hcf, Option.some_inj] at h
      subst h
      by_cases hfc : f = c
      · exact Or.inr (Or.inr ⟨rfl, by rw [hfc]⟩)
      · exact Or.inl ⟨rfl, by simpa using hfc⟩

theorem firstMove_of_finish (hf : a.finish now = some time)
    (hc : ∀ c ∈ a.cancellation now, time ≤ c) : a.firstMove now = some time := by
  unfold firstMove
  cases h : a.cancellation now with
  | none => simp [hf]
  | some c => simp [hf, hc c h]

/-- A fetch does nothing before it starts. -/
theorem le_of_firstMove (h : a.firstMove now = some time) : now ≤ time := by
  rcases a.firstMove_cases h with ⟨hc, -⟩ | ⟨-, hf⟩ | ⟨hc, -⟩
  · have := (a.cancellation_eq_some_iff.mp hc).2.1
    omega
  · have := (a.finish_eq_some_iff.mp hf).2
    omega
  · have := (a.cancellation_eq_some_iff.mp hc).2.1
    omega

end Attempt

namespace Setup

variable (s : Setup) (out : Output)

/-! ### Showing a text -/

/-- The events of a text that is written and flushed. -/
def drawn (time : Nat) (text : String) : List Event := [.write time (s.shown text), .flush time]

@[simp] theorem filterMap_fetch?_drawn (time : Nat) (text : String) :
    (s.drawn time text).filterMap Event.fetch? = [] := rfl

@[simp] theorem filterMap_write?_drawn (time : Nat) (text : String) :
    (s.drawn time text).filterMap Event.write? = [(time, s.shown text)] := rfl

@[simp] theorem filterMap_flush?_drawn (time : Nat) (text : String) :
    (s.drawn time text).filterMap Event.flush? = [time] := rfl

/-- The state after the pause that follows a refresh. -/
def paused (state : State) (time : Nat) : State :=
  { state with
    now := max time state.due
    due := nextDue s.interval state.due (max time state.due)
    writes := state.writes + 1 }

@[simp] theorem paused_now (state : State) (time : Nat) :
    (s.paused state time).now = max time state.due := rfl

@[simp] theorem paused_due (state : State) (time : Nat) :
    (s.paused state time).due = nextDue s.interval state.due (max time state.due) := rfl

@[simp] theorem paused_cancelled (state : State) (time : Nat) :
    (s.paused state time).cancelled = state.cancelled := rfl

/-- What follows when a text is to be shown. -/
inductive Draws (state : State) (time : Nat) (text : String) : List Event → Next → Prop
  | writeFails (reason : String) (hw : out.failWrite (state.writes + 1) = some reason) :
      Draws state time text [] (.stop (.outputFailed reason) time)
  | flushFails (reason : String) (hw : out.failWrite (state.writes + 1) = none)
      (hf : out.failFlush (state.writes + 1) = some reason) :
      Draws state time text (s.drawn time text) (.stop (.outputFailed reason) time)
  | completes (hw : out.failWrite (state.writes + 1) = none)
      (hf : out.failFlush (state.writes + 1) = none) (hs : s.isWatching = false) :
      Draws state time text (s.drawn time text) (.stop .completed time)
  | halts (hw : out.failWrite (state.writes + 1) = none)
      (hf : out.failFlush (state.writes + 1) = none) (hs : s.isWatching = true)
      (ending : Ending) (stop : Nat)
      (hh : (s.limits state.cancelled).Halts time (some state.due) ending stop) :
      Draws state time text (s.drawn time text) (.stop ending stop)
  | pauses (hw : out.failWrite (state.writes + 1) = none)
      (hf : out.failFlush (state.writes + 1) = none) (hs : s.isWatching = true)
      (ho : (s.limits state.cancelled).IsOpen (max time state.due)) :
      Draws state time text (s.drawn time text) (.go (s.paused state time))

theorem draws_drawAndPause (state : State) (time : Nat) (text : String) :
    s.Draws out state time text (s.drawAndPause out state time text).1
      (s.drawAndPause out state time text).2 := by
  unfold drawAndPause draw
  cases hw : out.failWrite (state.writes + 1) with
  | some reason => exact .writeFails reason hw
  | none =>
    cases hf : out.failFlush (state.writes + 1) with
    | some reason => exact .flushFails reason hw hf
    | none =>
      cases hs : s.isWatching with
      | false => exact .completes hw hf hs
      | true =>
        simp only [↓reduceIte]
        rcases s.await_cases state.cancelled time (some state.due) _ with
          ⟨ending, stop, hh, he⟩ | ⟨m, hm, ho, he⟩ | ⟨-, -, hn, -⟩
        · rw [he]
          exact .halts hw hf hs ending stop hh
        · obtain rfl := Option.some.inj hm
          rw [he]
          exact .pauses hw hf hs ho
        · exact absurd hn (by simp)

/-! ### Settling an outcome -/

/-- What is shown for an outcome over the frame shown before, if anything is, and the frame that
stays. -/
def display (frame : String) : Outcome → Option (String × String)
  | .tree node => some (Frame.text s.painter node, Frame.text s.painter node)
  | .failed failure =>
    if failure.severity = .fatal ∨ s.isWatching = false then none
    else some (failureText frame failure, frame)
  | .nothing => none

/-- What follows from the outcome of a fetch. -/
inductive Settles (state : State) (time : Nat) : Outcome → List Event → Next → Prop
  | fails (failure : FetchFailure) (hf : failure.severity = .fatal ∨ s.isWatching = false) :
      Settles state time (.failed failure) [] (.stop (.fetchFailed failure) time)
  | shows (outcome : Outcome) (text frame : String) (events : List Event) (next : Next)
      (ht : s.display state.frame outcome = some (text, frame))
      (hd : s.Draws out { state with frame } time text events next) :
      Settles state time outcome events next

theorem settles_settle (state : State) (time : Nat) {outcome : Outcome} (ho : outcome ≠ .nothing) :
    s.Settles out state time outcome (s.settle out state time outcome).1
      (s.settle out state time outcome).2 := by
  cases outcome with
  | nothing => exact absurd rfl ho
  | tree node => exact .shows _ _ _ _ _ rfl (s.draws_drawAndPause out ..)
  | failed failure =>
    simp only [settle]
    by_cases hf : failure.severity = .fatal ∨ s.isWatching = false
    · rw [if_pos (by simpa using hf)]
      exact .fails failure hf
    · rw [if_neg (by simpa using hf)]
      exact .shows _ _ _ _ _ (if_neg hf) (s.draws_drawAndPause out ..)

variable {s out} in
/-- A run goes on from an outcome only when it is shown and no limit comes in the pause. -/
theorem Settles.of_go {state state' : State} {time : Nat} {outcome : Outcome}
    {events : List Event} (h : s.Settles out state time outcome events (.go state')) :
    ∃ text frame, s.isWatching = true ∧ s.display state.frame outcome = some (text, frame) ∧
      (s.limits state.cancelled).IsOpen (max time state.due) ∧ events = s.drawn time text ∧
      state' = s.paused { state with frame } time := by
  cases h with
  | shows _ text frame _ _ ht hd =>
    cases hd with
    | pauses hw hfl hwatch hp => exact ⟨text, frame, hwatch, ht, hp, rfl, rfl⟩

/-! ### One refresh -/

/-- One refresh: what happens in it, and how the run goes on. -/
inductive Steps (a : Attempt) (state : State) : List Event → Next → Prop
  | refused (ending : Ending) (time : Nat)
      (hh : (s.limits state.cancelled).Halts state.now (some state.now) ending time) :
      Steps a state [] (.stop ending time)
  | interrupted (hs : (s.limits state.cancelled).IsOpen state.now) (ending : Ending) (time : Nat)
      (hh : (s.limits state.cancelled).Halts state.now (a.firstMove state.now) ending time) :
      Steps a state [.fetch state.now] (.stop ending time)
  | hangs (hs : (s.limits state.cancelled).IsOpen state.now) (hc : state.cancelled = none)
      (hd : s.deadline = none) (hm : a.firstMove state.now = none) :
      Steps a state [.fetch state.now] .endless
  | abandons (hs : (s.limits state.cancelled).IsOpen state.now) (time : Nat)
      (ho : (s.limits state.cancelled).IsOpen time) (hc : a.cancellation state.now = some time)
      (hf : a.finish state.now ≠ some time) :
      Steps a state [.fetch state.now, .cancel time] (.stop .cancelled time)
  | finishes (hs : (s.limits state.cancelled).IsOpen state.now) (time : Nat)
      (ho : (s.limits state.cancelled).IsOpen time) (hc : a.cancellation state.now = none)
      (hf : a.finish state.now = some time) (events : List Event) (next : Next)
      (hn : s.Settles out state time a.outcome events next) :
      Steps a state (.fetch state.now :: events) next
  | finishesLast (hs : (s.limits state.cancelled).IsOpen state.now) (time : Nat)
      (ho : (s.limits state.cancelled).IsOpen time) (hc : a.cancellation state.now = some time)
      (hf : a.finish state.now = some time) (events : List Event) (next : Next)
      (hn : s.Settles out { state with cancelled := some time } time a.outcome events next) :
      Steps a state (.fetch state.now :: .cancel time :: events) next

theorem steps_proceed {a : Attempt} {state : State} {time : Nat}
    (hs : (s.limits state.cancelled).IsOpen state.now)
    (ho : (s.limits state.cancelled).IsOpen time) (hm : a.firstMove state.now = some time) :
    s.Steps out a state (.fetch state.now :: (s.proceed out a state state.now time).1)
      (s.proceed out a state state.now time).2 := by
  unfold proceed
  rcases a.firstMove_cases hm with ⟨hc, hf⟩ | ⟨hc, hf⟩ | ⟨hc, hf⟩
  · rw [if_pos hc, if_neg hf]
    exact .abandons hs time ho hc hf
  · rw [if_neg (by simp [hc])]
    exact .finishes hs time ho hc hf _ _ (s.settles_settle out state time (a.outcome_ne hf))
  · rw [if_pos hc, if_pos hf]
    exact .finishesLast hs time ho hc hf _ _ (s.settles_settle out _ time (a.outcome_ne hf))

theorem steps_step (a : Attempt) (state : State) :
    s.Steps out a state (s.step out a state).1 (s.step out a state).2 := by
  unfold step
  rcases s.await_cases state.cancelled state.now (some state.now) _ with
    ⟨ending, time, hh, he⟩ | ⟨m, hm, ho, he⟩ | ⟨-, -, hn, -⟩
  · rw [he]
    exact .refused ending time hh
  · obtain rfl := Option.some.inj hm
    rw [Nat.max_self] at ho he
    rw [he]
    rcases s.await_cases state.cancelled state.now (a.firstMove state.now)
        (s.proceed out a state state.now) with
      ⟨ending, time, hh, he⟩ | ⟨time, hm, ho', he⟩ | ⟨hc, hd, hm, he⟩
    · rw [he]
      exact .interrupted ho ending time hh
    · rw [Nat.max_eq_right (a.le_of_firstMove hm)] at ho' he
      rw [he]
      exact s.steps_proceed out ho ho' hm
    · rw [he]
      exact .hangs ho hc hd hm
  · exact absurd hn (by simp)

variable {s out} in
/-- A run goes on from a refresh only when its fetch came back with something to be shown, which was
written and flushed, and when no limit came before the next refresh. -/
theorem Steps.of_go {a : Attempt} {state state' : State} {events : List Event}
    (h : s.Steps out a state events (.go state')) :
    ∃ time text frame, s.isWatching = true ∧ (s.limits state.cancelled).IsOpen state.now ∧
      a.cancellation state.now = none ∧ a.finish state.now = some time ∧
      s.display state.frame a.outcome = some (text, frame) ∧
      (s.limits state.cancelled).IsOpen (max time state.due) ∧
      events = .fetch state.now :: s.drawn time text ∧
      state' = s.paused { state with frame } time := by
  cases h with
  | finishes hs time ho hc hf _ _ hn =>
    obtain ⟨text, frame, hwatch, ht, hp, rfl, rfl⟩ := hn.of_go
    exact ⟨time, text, frame, hwatch, hs, hc, hf, ht, hp, rfl, rfl⟩
  | finishesLast hs time ho hc hf _ _ hn =>
    -- the fetch itself has cancelled the run, so that the pause does not begin
    obtain ⟨-, -, -, -, hp, -, -⟩ := hn.of_go
    have hlt : max time state.due < time := hp.1 time rfl
    omega

/-! ### Runs -/

/-- A run over the fetches that it meets: refreshes, until one stops the run or hangs. -/
inductive Runs : List Attempt → State → Run → Prop
  | stops (attempts : List Attempt) (state : State) (events : List Event) (ending : Ending)
      (time : Nat) (h : s.Steps out (attempts.headD .abandon) state events (.stop ending time)) :
      Runs attempts state ⟨events, some (ending, time)⟩
  | hangs (attempts : List Attempt) (state : State) (events : List Event)
      (h : s.Steps out (attempts.headD .abandon) state events .endless) :
      Runs attempts state ⟨events, none⟩
  | goes (a : Attempt) (rest : List Attempt) (state state' : State) (events : List Event) (r : Run)
      (h : s.Steps out a state events (.go state')) (hr : Runs rest state' r) :
      Runs (a :: rest) state ⟨events ++ r.events, r.ending⟩

/-- The fetch that a run meets when there are no more does not let the run go on. -/
theorem not_steps_abandon_go {state state' : State} {events : List Event} :
    ¬s.Steps out .abandon state events (.go state') := by
  intro h
  cases h with
  | finishes _ _ _ _ hf => simp [Attempt.abandon, Attempt.finish] at hf
  | finishesLast _ _ _ _ hf => simp [Attempt.abandon, Attempt.finish] at hf

theorem runFrom_of_stop (attempts : List Attempt) {state : State} {events : List Event}
    {ending : Ending} {time : Nat}
    (h : s.step out (attempts.headD .abandon) state = (events, .stop ending time)) :
    s.runFrom out attempts state = ⟨events, some (ending, time)⟩ := by
  cases attempts with
  | nil =>
    rw [List.headD_nil] at h
    rw [runFrom, h]
  | cons a rest =>
    rw [List.headD_cons] at h
    rw [runFrom, h]

theorem runFrom_of_endless (attempts : List Attempt) {state : State} {events : List Event}
    (h : s.step out (attempts.headD .abandon) state = (events, .endless)) :
    s.runFrom out attempts state = ⟨events, none⟩ := by
  cases attempts with
  | nil =>
    rw [List.headD_nil] at h
    rw [runFrom, h]
  | cons a rest =>
    rw [List.headD_cons] at h
    rw [runFrom, h]

theorem runFrom_of_go {a : Attempt} {rest : List Attempt} {state state' : State}
    {events : List Event} (h : s.step out a state = (events, .go state')) :
    s.runFrom out (a :: rest) state =
      ⟨events ++ (s.runFrom out rest state').events, (s.runFrom out rest state').ending⟩ := by
  rw [runFrom, h]

/-- The computed run is a chain of refreshes. -/
theorem runs_runFrom : (attempts : List Attempt) → (state : State) →
    s.Runs out attempts state (s.runFrom out attempts state)
  | [], state => by
    have h := s.steps_step out .abandon state
    rcases hstep : s.step out .abandon state with ⟨events, state' | ⟨ending, time⟩ | _⟩ <;>
      rw [hstep] at h
    · exact absurd h (s.not_steps_abandon_go out)
    · rw [s.runFrom_of_stop out [] hstep]
      exact .stops [] state events ending time h
    · rw [s.runFrom_of_endless out [] hstep]
      exact .hangs [] state events h
  | a :: rest, state => by
    have h := s.steps_step out a state
    rcases hstep : s.step out a state with ⟨events, state' | ⟨ending, time⟩ | _⟩ <;>
      rw [hstep] at h
    · rw [s.runFrom_of_go out hstep]
      exact .goes a rest state state' events _ h (runs_runFrom rest state')
    · rw [s.runFrom_of_stop out (a :: rest) hstep]
      exact .stops (a :: rest) state events ending time h
    · rw [s.runFrom_of_endless out (a :: rest) hstep]
      exact .hangs (a :: rest) state events h

end Setup

end RolloutTree.Watch
