import RolloutTree.Proofs.Watch.Step

/-!
# When a run stops

Nothing happens in a run once it has been cancelled from outside or its deadline has come. A fetch
may cancel the run itself; then the run stops at once, and only an outcome that comes together with
the cancellation is still shown. Either way the run ends when the first of these things happens, or
before.

The refreshes of a run keep pace with its interval: the one of number `n`, counted from 0, starts no
earlier than `n` intervals after the start of the run. So a run with a limit meets only so many
fetches as fit before it, however many there are to come.

## Main definitions

* `Run.IsCancelledAt`: the run is cancelled at a time, from outside or by a fetch.

## Main results

* `Setup.Steps.isOpen_of_mem`, `Setup.Steps.stop_time`: one refresh and the limits.
* `Setup.Runs.fetch_time_ge`: refreshes keep pace with the interval.
* `Setup.run_stops_in_time`: when a run stops, and what can still happen.
-/

namespace RolloutTree.Watch

/-- The run is cancelled at the time, from outside or by a fetch. -/
def Run.IsCancelledAt (r : Run) (outside : Moment) (time : Nat) : Prop :=
  outside = some time ∨ .cancel time ∈ r.events

theorem Run.mem_fetches (r : Run) {time : Nat} : time ∈ r.fetches ↔ .fetch time ∈ r.events := by
  simp only [Run.fetches, List.mem_filterMap]
  constructor
  · rintro ⟨e, he, ht⟩
    cases e with
    | fetch t => rwa [← Option.some.inj ht]
    | _ => simp [Event.fetch?] at ht
  · exact fun h => ⟨_, h, rfl⟩

/-- The only cancellation behind a fetch is the next event if no later one is a cancellation. -/
theorem eq_of_fetch_cancel {start time time' : Nat} {rest before after : List Event}
    (h : .fetch start :: .cancel time :: rest = before ++ .cancel time' :: after)
    (hrest : .cancel time' ∉ rest) : before = [.fetch start] ∧ time' = time ∧ after = rest := by
  rcases before with _ | ⟨e, _ | ⟨e', before⟩⟩
  · simp at h
  · simp only [List.cons_append, List.nil_append, List.cons.injEq, Event.cancel.injEq] at h
    exact ⟨by rw [h.1], h.2.1.symm, h.2.2.symm⟩
  · simp only [List.cons_append, List.cons.injEq] at h
    exact absurd (h.2.2 ▸ List.mem_append_right _ List.mem_cons_self) hrest

theorem exists_of_append_eq {α : Type} {l m before after : List α} {x : α} (hx : x ∉ l)
    (h : l ++ m = before ++ x :: after) :
    ∃ before', before = l ++ before' ∧ m = before' ++ x :: after := by
  rcases List.append_eq_append_iff.mp h with ⟨before', hb, hm⟩ | ⟨c, hl, hm⟩
  · exact ⟨before', hb, hm⟩
  · cases c with
    | nil => exact ⟨[], by simpa using hl.symm, by simpa using hm.symm⟩
    | cons y c =>
      obtain ⟨rfl, -⟩ := List.cons.inj hm
      exact absurd (by simp [hl]) hx

namespace Setup

variable {s : Setup} {out : Output}

/-! ### One refresh -/

/-- What happens on account of an outcome is that a text is written and flushed, or nothing. -/
theorem Settles.events_eq {state : State} {time : Nat} {outcome : Outcome} {events : List Event}
    {next : Next} (h : s.Settles out state time outcome events next) :
    events = [] ∨ ∃ text, events = s.drawn time text := by
  cases h with
  | fails => exact Or.inl rfl
  | shows _ text frame _ _ ht hd =>
    cases hd with
    | writeFails => exact Or.inl rfl
    | flushFails => exact Or.inr ⟨text, rfl⟩
    | completes => exact Or.inr ⟨text, rfl⟩
    | halts => exact Or.inr ⟨text, rfl⟩
    | pauses => exact Or.inr ⟨text, rfl⟩

/-- All that happens on account of an outcome happens when it comes. -/
theorem Settles.time_eq_of_mem {state : State} {time : Nat} {outcome : Outcome}
    {events : List Event} {next : Next} (h : s.Settles out state time outcome events next)
    {e : Event} (he : e ∈ events) : e.time = time ∧ ∀ t, e ≠ .cancel t := by
  rcases h.events_eq with rfl | ⟨text, rfl⟩
  · exact absurd he List.not_mem_nil
  · simp only [drawn, List.mem_cons, List.not_mem_nil, or_false] at he
    rcases he with rfl | rfl
    · exact ⟨rfl, by simp⟩
    · exact ⟨rfl, by simp⟩

/-- Whatever happens in a refresh happens while no limit has come. -/
theorem Steps.isOpen_of_mem {a : Attempt} {state : State} {events : List Event} {next : Next}
    (h : s.Steps out a state events next) :
    ∀ e ∈ events, (s.limits state.cancelled).IsOpen e.time := by
  intro e he
  cases h with
  | refused => exact absurd he List.not_mem_nil
  | interrupted hs => rwa [List.mem_singleton.mp he]
  | hangs hs => rwa [List.mem_singleton.mp he]
  | abandons hs time ho =>
    simp only [List.mem_cons, List.not_mem_nil, or_false] at he
    rcases he with rfl | rfl
    · exact hs
    · exact ho
  | finishes hs time ho hc hf events _ hn =>
    rcases List.mem_cons.mp he with rfl | he
    · exact hs
    · rwa [(hn.time_eq_of_mem he).1]
  | finishesLast hs time ho hc hf events _ hn =>
    simp only [List.mem_cons] at he
    rcases he with rfl | rfl | he
    · exact hs
    · exact ho
    · rwa [(hn.time_eq_of_mem he).1]

/-- A fetch that cancels the run has just started, and only what comes together with the
cancellation is still shown. -/
theorem Steps.eq_of_cancel {a : Attempt} {state : State} {events before after : List Event}
    {time : Nat} {next : Next} (h : s.Steps out a state events next)
    (he : events = before ++ .cancel time :: after) :
    before = [.fetch state.now] ∧ a.cancellation state.now = some time ∧
      (after = [] ∨ a.finish state.now = some time ∧ ∃ text, after = s.drawn time text) := by
  have hmem : .cancel time ∈ events := by simp [he]
  cases h with
  | refused => exact absurd hmem List.not_mem_nil
  | interrupted => simp at hmem
  | hangs => simp at hmem
  | abandons hs t ho hc hf =>
    obtain ⟨rfl, rfl, rfl⟩ := eq_of_fetch_cancel he List.not_mem_nil
    exact ⟨rfl, hc, Or.inl rfl⟩
  | finishes hs t ho hc hf events _ hn =>
    rcases List.mem_cons.mp hmem with hmem | hmem
    · exact absurd hmem (by simp)
    · exact absurd rfl ((hn.time_eq_of_mem hmem).2 time)
  | finishesLast hs t ho hc hf events _ hn =>
    obtain ⟨rfl, rfl, rfl⟩ :=
      eq_of_fetch_cancel he fun hmem => (hn.time_eq_of_mem hmem).2 time rfl
    exact ⟨rfl, hc, hn.events_eq.imp_right fun ht => ⟨hf, ht⟩⟩

/-- A run that is stopped on account of an outcome is stopped before a limit has passed, and by a
limit when that limit comes. -/
theorem Settles.stop_time {state : State} {now time : Nat} {outcome : Outcome}
    {events : List Event} {ending : Ending}
    (h : s.Settles out state now outcome events (.stop ending time))
    (hn : (s.limits state.cancelled).NotPast now) :
    (s.limits state.cancelled).NotPast time ∧
      (ending = .timedOut → s.deadline = some time) ∧
      (ending = .cancelled → state.cancelled = some time) := by
  cases h with
  | fails => exact ⟨hn, by simp, by simp⟩
  | shows _ text frame _ _ ht hd =>
    cases hd with
    | writeFails => exact ⟨hn, by simp, by simp⟩
    | flushFails => exact ⟨hn, by simp, by simp⟩
    | completes => exact ⟨hn, by simp, by simp⟩
    | halts _ _ _ _ _ hh =>
      exact ⟨hh.notPast hn, fun he => (he ▸ hh).eq_of_timedOut hn,
        fun he => (he ▸ hh).eq_of_cancelled hn⟩

/-- A refresh that stops a run does so before a limit has passed and no later than its fetch cancels
the run, and by a limit or the cancellation when that comes. -/
theorem Steps.stop_time {a : Attempt} {state : State} {events : List Event} {ending : Ending}
    {time : Nat} (h : s.Steps out a state events (.stop ending time))
    (hn : (s.limits state.cancelled).NotPast state.now) :
    (s.limits state.cancelled).NotPast time ∧ (∀ c, .cancel c ∈ events → time ≤ c) ∧
      (ending = .timedOut → s.deadline = some time) ∧
      (ending = .cancelled → state.cancelled = some time ∨ .cancel time ∈ events) := by
  cases h with
  | refused _ _ hh =>
    exact ⟨hh.notPast hn, by simp, fun he => (he ▸ hh).eq_of_timedOut hn,
      fun he => Or.inl ((he ▸ hh).eq_of_cancelled hn)⟩
  | interrupted hs _ _ hh =>
    exact ⟨hh.notPast hn, by simp, fun he => (he ▸ hh).eq_of_timedOut hn,
      fun he => Or.inl ((he ▸ hh).eq_of_cancelled hn)⟩
  | abandons hs time ho hc hf => exact ⟨ho.notPast, by simp, by simp, by simp⟩
  | finishes hs now ho hc hf events _ hs' =>
    obtain ⟨hle, htimed, hcanc⟩ := hs'.stop_time ho.notPast
    refine ⟨hle, fun c hmem => ?_, htimed, fun he => Or.inl (hcanc he)⟩
    rcases List.mem_cons.mp hmem with hmem | hmem
    · exact absurd hmem (by simp)
    · exact absurd rfl ((hs'.time_eq_of_mem hmem).2 c)
  | finishesLast hs now ho hc hf events _ hs' =>
    have hn' : (s.limits (some now)).NotPast now :=
      ⟨fun c hc' => Nat.le_of_eq (Option.some.inj hc'), ho.notPast.2⟩
    obtain ⟨hle, htimed, hcanc⟩ := hs'.stop_time hn'
    have htime : time ≤ now := hle.1 now rfl
    refine ⟨⟨fun c hc' => Nat.le_trans htime (Nat.le_of_lt (ho.1 c hc')), hle.2⟩, fun c hmem => ?_,
      htimed, fun he => Or.inr ?_⟩
    · simp only [List.mem_cons, Event.cancel.injEq] at hmem
      rcases hmem with hmem | rfl | hmem
      · exact absurd hmem (by simp)
      · exact htime
      · exact absurd rfl ((hs'.time_eq_of_mem hmem).2 c)
    · obtain rfl := Option.some.inj (hcanc he)
      simp

theorem Settles.not_endless {state : State} {time : Nat} {outcome : Outcome}
    {events : List Event} : ¬s.Settles out state time outcome events .endless := by
  intro h
  cases h with
  | shows _ _ _ _ _ _ hd => cases hd

/-- A refresh hangs only in a run without limits that its fetch does not cancel. -/
theorem Steps.of_endless {a : Attempt} {state : State} {events : List Event}
    (h : s.Steps out a state events .endless) :
    state.cancelled = none ∧ s.deadline = none ∧ ∀ time, .cancel time ∉ events := by
  cases h with
  | hangs _ hc hd => exact ⟨hc, hd, by simp⟩
  | finishes _ _ _ _ _ _ _ hn => exact absurd hn Settles.not_endless
  | finishesLast _ _ _ _ _ _ _ hn => exact absurd hn Settles.not_endless

theorem cancel_mem_iff {start now time : Nat} {text : String} {events : List Event} :
    .cancel time ∈ (.fetch start :: s.drawn now text) ++ events ↔ .cancel time ∈ events := by
  simp [drawn]

/-! ### Whole runs -/

/-- Whatever happens in a run happens while no limit has come. -/
theorem Runs.isOpen_of_mem {attempts : List Attempt} {state : State} {r : Run}
    (h : s.Runs out attempts state r) :
    ∀ e ∈ r.events, (s.limits state.cancelled).IsOpen e.time := by
  induction h with
  | stops attempts state events ending time h => exact h.isOpen_of_mem
  | hangs attempts state events h => exact h.isOpen_of_mem
  | goes a rest state state' events r h hr ih =>
    intro e he
    rcases List.mem_append.mp he with he | he
    · exact h.isOpen_of_mem e he
    · obtain ⟨time, text, frame, -, -, -, -, -, -, -, rfl⟩ := h.of_go
      exact ih e he

/-- The fetch that cancels a run is the last one that starts, and only what comes together with the
cancellation is still shown. -/
theorem Runs.eq_of_cancel {attempts : List Attempt} {state : State} {r : Run}
    (h : s.Runs out attempts state r) {before after : List Event} {time : Nat}
    (he : r.events = before ++ .cancel time :: after) :
    ∃ earlier start a, before = earlier ++ [.fetch start] ∧
      (attempts ++ [.abandon])[(earlier.filterMap Event.fetch?).length]? = some a ∧
      a.cancellation start = some time ∧
      (after = [] ∨ a.finish start = some time ∧ ∃ text, after = s.drawn time text) := by
  induction h generalizing before with
  | stops attempts state events ending stop h =>
    obtain ⟨rfl, hc, hafter⟩ := h.eq_of_cancel he
    exact ⟨[], state.now, _, rfl, by cases attempts <;> rfl, hc, hafter⟩
  | hangs attempts state events h =>
    obtain ⟨rfl, hc, hafter⟩ := h.eq_of_cancel he
    exact ⟨[], state.now, _, rfl, by cases attempts <;> rfl, hc, hafter⟩
  | goes a rest state state' events r h hr ih =>
    obtain ⟨t, text, frame, -, -, -, -, -, -, rfl, rfl⟩ := h.of_go
    obtain ⟨before', rfl, he'⟩ := exists_of_append_eq (by simp [drawn]) he
    obtain ⟨earlier, start, b, rfl, hb, hc, hafter⟩ := ih he'
    refine ⟨_ ++ earlier, start, b, (List.append_assoc ..).symm, ?_, hc, hafter⟩
    simpa [Event.fetch?] using hb

/-- A run ends before a limit has passed and no later than it is cancelled, and when one of these
ends it, then just when that comes. -/
theorem Runs.stop_time {attempts : List Attempt} {state : State} {r : Run}
    (h : s.Runs out attempts state r) (hn : (s.limits state.cancelled).NotPast state.now)
    {ending : Ending} {time : Nat} (he : r.ending = some (ending, time)) :
    (s.limits state.cancelled).NotPast time ∧ (∀ c, .cancel c ∈ r.events → time ≤ c) ∧
      (ending = .timedOut → s.deadline = some time) ∧
      (ending = .cancelled → state.cancelled = some time ∨ .cancel time ∈ r.events) := by
  induction h with
  | stops attempts state events ending time h =>
    cases he
    exact h.stop_time hn
  | hangs => exact absurd he (by simp)
  | goes a rest state state' events r h hr ih =>
    obtain ⟨t, text, frame, -, -, -, -, -, ho, rfl, rfl⟩ := h.of_go
    simpa only [cancel_mem_iff, paused_cancelled] using ih ho.notPast he

/-- A run hangs only if it has no limits and is not cancelled. -/
theorem Runs.of_ending_eq_none {attempts : List Attempt} {state : State} {r : Run}
    (h : s.Runs out attempts state r) (he : r.ending = none) :
    state.cancelled = none ∧ s.deadline = none ∧ ∀ time, .cancel time ∉ r.events := by
  induction h with
  | stops => exact absurd he (by simp)
  | hangs attempts state events h => exact h.of_endless
  | goes a rest state state' events r h hr ih =>
    obtain ⟨t, text, frame, -, -, -, -, -, -, rfl, rfl⟩ := h.of_go
    simpa only [cancel_mem_iff, paused_cancelled] using ih he

/-! ### The pace of refreshes -/

/-- However late a refresh is taken, the next one is due an interval later at least. -/
theorem le_nextDue (interval due now : Nat) : due + interval ≤ nextDue interval due now := by
  unfold nextDue
  split <;> omega

theorem Settles.fetches_eq {state : State} {time : Nat} {outcome : Outcome} {events : List Event}
    {next : Next} (h : s.Settles out state time outcome events next) :
    events.filterMap Event.fetch? = [] := by
  rcases h.events_eq with rfl | ⟨text, rfl⟩ <;> rfl

/-- A refresh starts at most one fetch, and that when it starts itself. -/
theorem Steps.fetches_eq {a : Attempt} {state : State} {events : List Event} {next : Next}
    (h : s.Steps out a state events next) :
    events.filterMap Event.fetch? = [] ∨ events.filterMap Event.fetch? = [state.now] := by
  cases h with
  | refused => exact Or.inl rfl
  | interrupted => exact Or.inr rfl
  | hangs => exact Or.inr rfl
  | abandons => exact Or.inr rfl
  | finishes _ _ _ _ _ _ _ hn =>
    have hf := hn.fetches_eq
    exact Or.inr (congrArg (state.now :: ·) hf)
  | finishesLast _ _ _ _ _ _ _ hn =>
    have hf := hn.fetches_eq
    exact Or.inr (congrArg (state.now :: ·) hf)

theorem Steps.eq_now_of_fetches {a : Attempt} {state : State} {events : List Event} {next : Next}
    (h : s.Steps out a state events next) {i t : Nat}
    (hi : (events.filterMap Event.fetch?)[i]? = some t) : i = 0 ∧ t = state.now := by
  rcases h.fetches_eq with hf | hf <;> rw [hf] at hi
  · simp at hi
  · cases i with
    | zero => exact ⟨rfl, (Option.some.inj hi).symm⟩
    | succ i => simp at hi

/-- Refreshes keep pace with the interval: of the fetches from a state on that comes after `n`
intervals, the one of number `i` starts no earlier than `i` intervals later. -/
theorem Runs.fetch_time_ge {attempts : List Attempt} {state : State} {r : Run}
    (h : s.Runs out attempts state r) {n : Nat} (hnow : n * s.interval ≤ state.now)
    (hdue : (n + 1) * s.interval ≤ state.due) {i t : Nat} (hi : r.fetches[i]? = some t) :
    (n + i) * s.interval ≤ t := by
  induction h generalizing n i with
  | stops attempts state events ending time h =>
    obtain ⟨rfl, rfl⟩ := h.eq_now_of_fetches hi
    exact hnow
  | hangs attempts state events h =>
    obtain ⟨rfl, rfl⟩ := h.eq_now_of_fetches hi
    exact hnow
  | goes a rest state state' events r h hr ih =>
    obtain ⟨time, text, frame, -, -, -, -, -, -, rfl, rfl⟩ := h.of_go
    have hnext := le_nextDue s.interval state.due (max time state.due)
    cases i with
    | zero =>
      obtain rfl : state.now = t := Option.some.inj hi
      exact hnow
    | succ i =>
      have hi' : r.fetches[i]? = some t := hi
      rw [Nat.add_mul, Nat.one_mul] at hdue
      have hle := ih (n := n + 1) (by rw [paused_now, Nat.add_mul]; simp; omega)
        (by rw [paused_due, Nat.add_mul, Nat.add_mul]; simp; omega) hi'
      rwa [Nat.add_right_comm] at hle

/-! ### Fetches that a run does not meet -/

/-- A refresh that does not start its fetch does not depend on it. -/
theorem step_eq_of_fetches_eq_nil {a : Attempt} {state : State}
    (h : (s.step out a state).1.filterMap Event.fetch? = []) (b : Attempt) :
    s.step out b state = s.step out a state := by
  unfold step at h ⊢
  generalize hw : (s.limits state.cancelled).wait state.now (some state.now) = w at h
  rcases w with _ | ⟨time, _ | _ | _⟩
  · simp only [await, hw]
  · simp only [await, hw]
  · simp only [await, hw]
  · simp [await, hw, Event.fetch?] at h

/-- A run that starts no more fetches than it is given does not depend on what comes later. -/
theorem runFrom_append (more : List Attempt) : (attempts : List Attempt) → (state : State) →
    (s.runFrom out attempts state).fetches.length ≤ attempts.length →
    s.runFrom out (attempts ++ more) state = s.runFrom out attempts state
  | [], state, h => by
    have hnil : (s.runFrom out [] state).fetches = [] :=
      List.length_eq_zero_iff.mp (Nat.le_zero.mp h)
    rcases hstep : s.step out .abandon state with ⟨events, state' | ⟨ending, time⟩ | _⟩
    · have hsteps := s.steps_step out .abandon state
      rw [hstep] at hsteps
      exact absurd hsteps (s.not_steps_abandon_go out)
    · rw [s.runFrom_of_stop out [] hstep] at hnil ⊢
      have hmore := step_eq_of_fetches_eq_nil (by rw [hstep]; exact hnil) (more.headD .abandon)
      exact s.runFrom_of_stop out more (hmore.trans hstep)
    · rw [s.runFrom_of_endless out [] hstep] at hnil ⊢
      have hmore := step_eq_of_fetches_eq_nil (by rw [hstep]; exact hnil) (more.headD .abandon)
      exact s.runFrom_of_endless out more (hmore.trans hstep)
  | a :: rest, state, h => by
    rcases hstep : s.step out a state with ⟨events, state' | ⟨ending, time⟩ | _⟩
    · have hsteps := s.steps_step out a state
      rw [hstep] at hsteps
      obtain ⟨time, text, frame, -, -, -, -, -, -, rfl, -⟩ := hsteps.of_go
      rw [s.runFrom_of_go out hstep] at h
      have hrest : (s.runFrom out rest state').fetches.length ≤ rest.length :=
        Nat.le_of_succ_le_succ h
      rw [s.runFrom_of_go out hstep, List.cons_append, s.runFrom_of_go out hstep,
        runFrom_append more rest state' hrest]
    · rw [s.runFrom_of_stop out (a :: rest) hstep]
      exact s.runFrom_of_stop out (a :: (rest ++ more)) hstep
    · rw [s.runFrom_of_endless out (a :: rest) hstep]
      exact s.runFrom_of_endless out (a :: (rest ++ more)) hstep

/-- **When a run stops.** Whatever a run fetches or writes, it does before its deadline and before
it is cancelled from outside. When a fetch cancels the run, no other fetch starts, and nothing more
is written unless the outcome of this very fetch comes at the same time. The run ends no later than
the deadline and than it is cancelled; it is timed out only at the deadline, and ends as cancelled
only when it is cancelled. It goes on for ever only without a deadline and uncancelled: a run with a
limit meets no more fetches than intervals fit before the limit. -/
theorem run_stops_in_time (s : Setup) (out : Output) (outside : Moment) (attempts : List Attempt) :
    let r : Run := s.run out outside attempts
    (∀ e ∈ r.events, (∀ d ∈ s.deadline, e.time < d) ∧ ∀ c ∈ outside, e.time < c) ∧
    (∀ before after time, r.events = before ++ .cancel time :: after →
      ∃ earlier start a, before = earlier ++ [.fetch start] ∧
        (attempts ++ [.abandon])[(earlier.filterMap Event.fetch?).length]? = some a ∧
        a.cancellation start = some time ∧
        (after = [] ∨
          a.finish start = some time ∧ ∃ text, after = [.write time text, .flush time])) ∧
    (∀ ending time, r.ending = some (ending, time) →
      (∀ d ∈ s.deadline, time ≤ d) ∧ (∀ c, r.IsCancelledAt outside c → time ≤ c) ∧
      (ending = .timedOut → s.deadline = some time) ∧
      (ending = .cancelled → r.IsCancelledAt outside time)) ∧
    (r.ending = none → s.deadline = none ∧ ∀ c, ¬r.IsCancelledAt outside c) ∧
    ∀ limit more, s.deadline = some limit ∨ outside = some limit →
      limit ≤ attempts.length * s.interval → s.run out outside (attempts ++ more) = r := by
  intro r
  have hr := s.runs_runFrom out attempts { due := s.interval, cancelled := outside }
  refine ⟨fun e he => (hr.isOpen_of_mem e he).symm, fun before after time he => ?_,
    fun ending time he => ?_, fun he => ?_, fun limit more hlimit hle => ?_⟩
  · obtain ⟨earlier, start, a, hb, ha, hc, hafter⟩ := hr.eq_of_cancel he
    exact ⟨earlier, start, a, hb, ha, hc, hafter.imp_right fun ⟨hf, text, ht⟩ => ⟨hf, _, ht⟩⟩
  · have hzero : (s.limits outside).NotPast 0 :=
      ⟨fun _ _ => Nat.zero_le _, fun _ _ => Nat.zero_le _⟩
    obtain ⟨hle, hcancel, htimed, hcancelled⟩ := hr.stop_time hzero he
    refine ⟨hle.2, fun c hc => ?_, htimed, hcancelled⟩
    rcases hc with hc | hc
    · exact hle.1 c hc
    · exact hcancel c hc
  · obtain ⟨hc, hd, hcancel⟩ := hr.of_ending_eq_none he
    refine ⟨hd, fun c hc' => ?_⟩
    rcases hc' with hc' | hc'
    · exact absurd (hc.symm.trans hc') (by simp)
    · exact hcancel c hc'
  · refine runFrom_append more attempts _ (Nat.le_of_not_lt fun hlt => ?_)
    obtain ⟨t, ht⟩ : ∃ t, r.fetches[attempts.length]? = some t :=
      ⟨_, List.getElem?_eq_getElem hlt⟩
    have hpace : (0 + attempts.length) * s.interval ≤ t :=
      hr.fetch_time_ge (by simp) (by simp) ht
    have hopen := hr.isOpen_of_mem _ (r.mem_fetches.mp (List.mem_of_getElem? ht))
    have hlt : t < limit := hlimit.elim (hopen.2 limit) (hopen.1 limit)
    rw [Nat.zero_add] at hpace
    omega

end Setup

end RolloutTree.Watch
