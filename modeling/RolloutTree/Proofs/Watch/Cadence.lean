import RolloutTree.Proofs.Watch.Stopping

/-!
# The cadence of refreshes

A refresh is due when an interval has passed since the last one was due, unless that one was taken
too late: then the interval counts from the time at which it was taken. So the time from one refresh
to the next due time is the interval, or less by what the refresh was late within the grace. This is
the invariant of a run, and every refresh restores it (`Setup.onPace_paused`), however long its
fetch took. Between two fetches there passes at least the interval less the grace, and no more than
the interval unless the fetch itself takes longer.

While no fetch takes longer than the interval, no refresh is late, and the due times are the
multiples of the interval.

## Main definitions

* `Setup.OnPace`: the next refresh is due in an interval, or earlier by no more than the grace.

## Main results

* `Setup.OnPace.refresh_time`: when the refresh after a fetch is taken.
* `Setup.Runs.fetch_gap`: the time between the starts of two fetches.
* `Setup.Runs.fetch_time_eq`: a run without slow fetches does not drift.
* `Setup.fetches_keep_cadence`: when the fetches of a run start.
-/

namespace RolloutTree.Watch.Setup

variable {s : Setup} {out : Output}

/-! ### One refresh -/

/-- The next refresh is due in an interval, or earlier by no more than the grace. -/
structure OnPace (s : Setup) (state : State) : Prop where
  le_due : state.now + s.interval ≤ state.due + grace
  due_le : state.due ≤ state.now + s.interval

/-- However late a refresh is taken, the one after it is due in an interval, or earlier by no more
than the grace. -/
theorem onPace_paused (state : State) (time : Nat) : s.OnPace (s.paused state time) := by
  have hdue : state.due ≤ max time state.due := Nat.le_max_right ..
  by_cases hlate : max time state.due ≤ state.due + grace
  · have hnext : nextDue s.interval state.due (max time state.due) = state.due + s.interval :=
      if_pos hlate
    constructor <;> (rw [paused_now, paused_due, hnext]; omega)
  · have hnext : nextDue s.interval state.due (max time state.due) =
        max time state.due + s.interval := if_neg hlate
    constructor
    · rw [paused_now, paused_due, hnext]
      omega
    · rw [paused_now, paused_due]
      exact Nat.le_of_eq hnext

/-- When the refresh after a fetch is taken: the fetch is over by then, and the time since it
started is an interval, less the grace at most, unless the fetch takes longer. -/
theorem OnPace.refresh_time {state : State} (h : s.OnPace state) (delay : Nat) :
    state.now + max (s.interval - grace) delay ≤ max (state.now + delay) state.due ∧
      max (state.now + delay) state.due ≤ state.now + max s.interval delay := by
  have hle := h.le_due
  have hge := h.due_le
  omega

/-- A refresh whose fetch takes no longer than an interval is not late. -/
theorem paused_of_delay_le (state : State) {delay : Nat} (h : state.now + delay ≤ state.due) :
    (s.paused state (state.now + delay)).now = state.due ∧
      (s.paused state (state.now + delay)).due = state.due + s.interval := by
  rw [paused_now, paused_due, Nat.max_eq_right h]
  exact ⟨rfl, if_pos (Nat.le_add_right ..)⟩

/-! ### Whole runs -/

/-- The first fetch of a run starts at once. -/
theorem Runs.fetch_time_zero {attempts : List Attempt} {state : State} {r : Run}
    (h : s.Runs out attempts state r) {start : Nat} (hstart : r.fetches[0]? = some start) :
    start = state.now := by
  cases h with
  | stops attempts state events ending time h => exact (h.eq_now_of_fetches hstart).2
  | hangs attempts state events h => exact (h.eq_now_of_fetches hstart).2
  | goes a rest state state' events r h hr =>
    obtain ⟨time, text, frame, -, -, -, -, -, -, rfl, rfl⟩ := h.of_go
    exact (Option.some.inj hstart).symm

/-- Between the starts of two fetches the first one comes back, and there passes an interval, less
the grace at most, or the time that the fetch takes if that is longer. -/
theorem Runs.fetch_gap {attempts : List Attempt} {state : State} {r : Run}
    (h : s.Runs out attempts state r) (hpace : s.OnPace state) {k start next : Nat}
    (hstart : r.fetches[k]? = some start) (hnext : r.fetches[k + 1]? = some next) :
    ∃ a, attempts[k]? = some a ∧ a.finish start = some (start + a.delay) ∧
      start + max (s.interval - grace) a.delay ≤ next ∧
      next ≤ start + max s.interval a.delay := by
  induction h generalizing k with
  | stops attempts state events ending time h =>
    exact absurd (h.eq_now_of_fetches hnext).1 (Nat.succ_ne_zero k)
  | hangs attempts state events h =>
    exact absurd (h.eq_now_of_fetches hnext).1 (Nat.succ_ne_zero k)
  | goes a rest state state' events r h hr ih =>
    obtain ⟨time, text, frame, -, -, -, hf, -, -, rfl, rfl⟩ := h.of_go
    have hnext' : r.fetches[k]? = some next := hnext
    cases k with
    | zero =>
      obtain rfl : state.now = start := Option.some.inj hstart
      obtain rfl : time = state.now + a.delay := (a.finish_eq_some_iff.mp hf).2
      obtain rfl := hr.fetch_time_zero hnext'
      exact ⟨a, rfl, hf, hpace.refresh_time a.delay⟩
    | succ k =>
      have hstart' : r.fetches[k]? = some start := hstart
      exact ih (onPace_paused _ _) hstart' hnext'

/-- A run does not drift: from a state on that comes after `n` intervals, the fetch of number `k`
starts just `k` intervals later, if no fetch before it takes longer than an interval. -/
theorem Runs.fetch_time_eq {attempts : List Attempt} {state : State} {r : Run}
    (h : s.Runs out attempts state r) {n : Nat} (hnow : state.now = n * s.interval)
    (hdue : state.due = (n + 1) * s.interval) {k start : Nat}
    (hstart : r.fetches[k]? = some start)
    (hfast : ∀ j a, j < k → attempts[j]? = some a → a.delay ≤ s.interval) :
    start = (n + k) * s.interval := by
  induction h generalizing n k with
  | stops attempts state events ending time h =>
    obtain ⟨rfl, rfl⟩ := h.eq_now_of_fetches hstart
    exact hnow
  | hangs attempts state events h =>
    obtain ⟨rfl, rfl⟩ := h.eq_now_of_fetches hstart
    exact hnow
  | goes a rest state state' events r h hr ih =>
    obtain ⟨time, text, frame, -, -, -, hf, -, -, rfl, rfl⟩ := h.of_go
    cases k with
    | zero => exact (Option.some.inj hstart).symm.trans hnow
    | succ k =>
      have hstart' : r.fetches[k]? = some start := hstart
      obtain rfl : time = state.now + a.delay := (a.finish_eq_some_iff.mp hf).2
      have ha : a.delay ≤ s.interval := hfast 0 a (Nat.zero_lt_succ k) rfl
      have hintime : state.now + a.delay ≤ state.due := by
        rw [hnow, hdue, Nat.add_mul, Nat.one_mul]
        omega
      have hpaused := paused_of_delay_le (s := s) { state with frame } hintime
      have hrest (j : Nat) (b : Attempt) (hj : j < k) (hb : rest[j]? = some b) :
          b.delay ≤ s.interval := hfast (j + 1) b (Nat.succ_lt_succ hj) hb
      have heq : start = (n + 1 + k) * s.interval := by
        refine ih (hpaused.1.trans hdue) (hpaused.2.trans ?_) hstart' hrest
        rw [hdue, Nat.add_mul (n + 1) 1, Nat.one_mul]
      rwa [Nat.add_right_comm, Nat.add_assoc] at heq

/-- **The cadence of a run.** The first fetch starts at once. When another one starts, the one
before it has come back, and the time between the two starts is an interval, less five milliseconds
at most, or the time that the earlier fetch takes if that is longer. So fetches do not overlap, and
a slow one is not made up for by others in quick succession. As long as no fetch takes longer than
an interval, the fetch of number `k`, counted from 0, starts after `k` intervals exactly. -/
theorem fetches_keep_cadence (s : Setup) (out : Output) (outside : Moment)
    (attempts : List Attempt) :
    let r : Run := s.run out outside attempts
    (∀ start, r.fetches[0]? = some start → start = 0) ∧
    (∀ k start next : Nat, r.fetches[k]? = some start → r.fetches[k + 1]? = some next →
      ∃ a, attempts[k]? = some a ∧ a.finish start = some (start + a.delay) ∧
        start + max (s.interval - 5) a.delay ≤ next ∧ next ≤ start + max s.interval a.delay) ∧
    ∀ k start : Nat, r.fetches[k]? = some start →
      (∀ j a, j < k → attempts[j]? = some a → a.delay ≤ s.interval) →
      start = k * s.interval := by
  intro r
  have hr := s.runs_runFrom out attempts { due := s.interval, cancelled := outside }
  have hpace : s.OnPace { due := s.interval, cancelled := outside } := by
    constructor <;> simp
  refine ⟨fun start hstart => hr.fetch_time_zero hstart, ?_, ?_⟩
  · intro k start next hstart hnext
    exact hr.fetch_gap hpace hstart hnext
  · intro k start hstart hfast
    have heq := hr.fetch_time_eq (n := 0) (by simp) (by simp) hstart hfast
    rwa [Nat.zero_add] at heq

/-- A fetch that is late by four milliseconds leaves the refreshes after it where they are, and one
that is late by thirteen moves them. -/
example :
    let s : Setup := { isWatching := true, interval := 10, painter := ⟨false⟩ }
    let failed : Outcome := .failed ⟨.transient, .text "timeout"⟩
    let script : List Attempt := [0, 14, 0, 23, 0].map fun delay => { delay, outcome := failed }
    (s.run {} none script).fetches = [0, 10, 24, 30, 53, 63] := by
  decide +kernel

end RolloutTree.Watch.Setup
