import RolloutTree.Proofs.Watch.Frames
import RolloutTree.Proofs.Watch.Stopping

/-!
# Why a run ends

A run whose output does not fail ends for one of three reasons: one of its limits comes, its last
fetch fails, or it does not watch and has shown its tree. A watching run is ended by fatal failures
only, and these end every run at once: nothing is fetched or written after them.

## Main definitions

* `Setup.Completes`: the fetch of a number completes with an outcome.
* `Setup.Follows`, `Setup.Resolves`: what becomes of a refresh and of a run with such a fetch.

## Main results

* `Setup.Settles.follows`, `Setup.Runs.resolves`: refreshes and runs go one of these ways.
* `Setup.Runs.ending_cases`: the reasons for which runs end.
* `Setup.run_ends_for_cause`: both for the run of a setup.
-/

namespace RolloutTree.Watch

/-- The run ends by one of its limits. -/
def Run.EndsByLimit (r : Run) : Prop :=
  ∃ ending time, r.ending = some (ending, time) ∧ ending.IsLimit

namespace Setup

variable {s : Setup}

/-- The fetch of the number, counted from 0, starts in the run and completes at the time with the
outcome. -/
def Completes (s : Setup) (outside : Moment) (attempts : List Attempt) (r : Run) (i time : Nat)
    (outcome : Outcome) : Prop :=
  ∃ start a, r.fetches[i]? = some start ∧ attempts[i]? = some a ∧
    a.completion? (s.limits outside) start = some (time, outcome)

/-! ### One refresh -/

/-- What follows when a fetch completes at a time with an outcome, on an output that never fails:
what is written, and how the run goes on. -/
inductive Follows (s : Setup) (time : Nat) : Outcome → List (Nat × String) → Next → Prop
  | fails (failure : FetchFailure) (hf : failure.severity = .fatal ∨ s.isWatching = false) :
      Follows s time (.failed failure) [] (.stop (.fetchFailed failure) time)
  | completes (node : Node) (hs : s.isWatching = false) :
      Follows s time (.tree node) [(time, Frame.text s.painter node)] (.stop .completed time)
  | halts (outcome : Outcome) (w : Nat × String) (hs : s.isWatching = true)
      (hf : ∀ failure, outcome = .failed failure → failure.severity ≠ .fatal)
      (ending : Ending) (stop : Nat) (hl : ending.IsLimit) :
      Follows s time outcome [w] (.stop ending stop)
  | goes (outcome : Outcome) (w : Nat × String) (hs : s.isWatching = true)
      (hf : ∀ failure, outcome = .failed failure → failure.severity ≠ .fatal) (state : State) :
      Follows s time outcome [w] (.go state)

/-- A failure that is shown does not end the run. -/
theorem not_ends_of_display {frame : String} {outcome : Outcome} {shown : String × String}
    (h : s.display frame outcome = some shown) {failure : FetchFailure}
    (ho : outcome = .failed failure) : failure.severity ≠ .fatal ∧ s.isWatching = true := by
  subst ho
  rw [display, Option.ite_none_left_eq_some, not_or, Bool.not_eq_false] at h
  exact h.1

theorem Settles.follows {state : State} {time : Nat} {outcome : Outcome} {events : List Event}
    {next : Next} (h : s.Settles {} state time outcome events next) :
    s.Follows time outcome (events.filterMap Event.write?) next := by
  cases h with
  | fails failure hf => exact .fails failure hf
  | shows _ text frame _ _ ht hd =>
    have hf (failure : FetchFailure) (ho : outcome = .failed failure) :=
      not_ends_of_display ht ho
    cases hd with
    | writeFails _ hw => exact nomatch hw
    | flushFails _ _ hflush => exact nomatch hflush
    | halts _ _ hs ending stop hh =>
      exact .halts _ _ hs (fun failure ho => (hf failure ho).1) ending stop hh.isLimit
    | pauses _ _ hs => exact .goes _ _ hs (fun failure ho => (hf failure ho).1) _
    | completes _ _ hs =>
      cases outcome with
      | failed failure =>
        have hwatch := (hf failure rfl).2
        exact absurd hwatch (by simp [hs])
      | nothing => exact absurd ht (by simp [display])
      | tree node =>
        obtain ⟨rfl, -⟩ := Prod.mk.inj (Option.some.inj ht)
        have hdrawn : (s.drawn time (Frame.text s.painter node)).filterMap Event.write? =
            [(time, Frame.text s.painter node)] := by
          rw [filterMap_write?_drawn, shown, if_neg (by simp [hs])]
        rw [hdrawn]
        exact .completes node hs

/-- A run is stopped after a fetch that completes by a limit, or at once on account of the
outcome. -/
theorem Follows.of_stop {time stop : Nat} {outcome : Outcome} {writes : List (Nat × String)}
    {ending : Ending} (h : s.Follows time outcome writes (.stop ending stop)) :
    ending.IsLimit ∨ stop = time ∧
      ((∃ failure, outcome = .failed failure ∧ ending = .fetchFailed failure) ∨
        ∃ node, outcome = .tree node ∧ ending = .completed ∧ s.isWatching = false) := by
  cases h with
  | fails failure => exact Or.inr ⟨rfl, Or.inl ⟨failure, rfl, rfl⟩⟩
  | completes node hs => exact Or.inr ⟨rfl, Or.inr ⟨node, rfl, rfl, hs⟩⟩
  | halts _ _ _ _ _ _ hl => exact Or.inl hl

/-- A refresh of a run whose output does not fail, and whose fetch completes. -/
theorem Refreshes.of_completion {a : Attempt} {state : State} {events : List Event} {next : Next}
    (h : s.Refreshes {} a state events next) {time : Nat} {outcome : Outcome}
    (hstart : events.filterMap Event.fetch? ≠ [])
    (hd : a.completion? (s.limits state.cancelled) state.now = some (time, outcome)) :
    ∃ after writes, events = .fetch state.now :: after ∧ after.filterMap Event.fetch? = [] ∧
      after.filterMap Event.write? = writes ∧ s.Follows time outcome writes next := by
  cases h with
  | refused => exact absurd rfl hstart
  | incomplete _ _ hnone => exact nomatch hnone.symm.trans hd
  | completes cancels hc time' hd' _ events _ hn =>
    obtain ⟨rfl, rfl⟩ := Prod.mk.inj (Option.some.inj (hd'.symm.trans hd))
    obtain ⟨hfetch, hwrite, -⟩ := filterMap_refresh hc state.now events
    refine ⟨cancels ++ events, _, rfl, ?_, hwrite, hn.follows⟩
    rw [hn.fetches_eq] at hfetch
    exact (List.cons.inj hfetch).2

/-- A refresh starts its fetch unless a limit stops the run. -/
theorem Refreshes.fetches_ne_nil_or {out : Output} {a : Attempt} {state : State}
    {events : List Event} {next : Next} (h : s.Refreshes out a state events next) :
    events.filterMap Event.fetch? ≠ [] ∨
      ∃ ending time, next = .stop ending time ∧ ending.IsLimit := by
  cases h with
  | refused ending time hl => exact Or.inr ⟨ending, time, rfl, hl⟩
  | incomplete => exact Or.inl (by simp [Event.fetch?])
  | completes => exact Or.inl (by simp [Event.fetch?])

/-! ### Whole runs -/

/-- A run starts a fetch unless a limit ends it at once. -/
theorem Runs.fetches_ne_nil_or {out : Output} {attempts : List Attempt} {state : State} {r : Run}
    (h : s.Runs out attempts state r) : r.fetches ≠ [] ∨ r.EndsByLimit := by
  cases h with
  | stops attempts state events ending time h =>
    refine h.refreshes.fetches_ne_nil_or.imp_right ?_
    rintro ⟨_, _, heq, hl⟩
    obtain ⟨rfl, rfl⟩ := Next.stop.inj heq
    exact ⟨_, _, rfl, hl⟩
  | hangs attempts state events h =>
    refine h.refreshes.fetches_ne_nil_or.imp_right ?_
    rintro ⟨_, _, heq, -⟩
    cases heq
  | goes a rest state state' events r h hr =>
    obtain ⟨time, text, frame, -, -, -, -, -, -, rfl, -⟩ := h.of_go
    exact Or.inl (by simp [Run.fetches, Event.fetch?])

/-- In a run of one refresh, only its first fetch can complete. -/
theorem Completes.of_steps {out : Output} {attempts : List Attempt} {state : State}
    {events : List Event} {next : Next} {ending : Option (Ending × Nat)} {i time : Nat}
    {outcome : Outcome}
    (hc : s.Completes state.cancelled attempts ⟨events, ending⟩ i time outcome)
    (h : s.Steps out (attempts.headD .abandon) state events next) :
    i = 0 ∧ events.filterMap Event.fetch? ≠ [] ∧
      (attempts.headD .abandon).completion? (s.limits state.cancelled) state.now =
        some (time, outcome) := by
  obtain ⟨start, a, hstart, ha, hd⟩ := hc
  obtain ⟨rfl, rfl⟩ := h.eq_now_of_fetches hstart
  obtain ⟨rest, rfl⟩ : ∃ rest, attempts = a :: rest := by
    cases attempts with
    | nil => simp at ha
    | cons b rest => exact ⟨rest, by rw [Option.some.inj ha]⟩
  refine ⟨rfl, fun hnil => ?_, hd⟩
  simp [Run.fetches, hnil] at hstart

/-- What becomes of a run when the fetch of a number completes: it ends with its failure, and
nothing is fetched or written after the fetch that fails; it ends with the tree that it shows; or it
fetches again unless a limit ends it. -/
inductive Resolves (s : Setup) (r : Run) (i time : Nat) : Outcome → Prop
  | fails (failure : FetchFailure) (hf : failure.severity = .fatal ∨ s.isWatching = false)
      (he : r.ending = some (.fetchFailed failure, time)) (before after : List Event) (start : Nat)
      (hevents : r.events = before ++ .fetch start :: after)
      (hbefore : (before.filterMap Event.fetch?).length = i)
      (hfetch : after.filterMap Event.fetch? = []) (hwrite : after.filterMap Event.write? = [])
      (hnone : s.isWatching = false → r.writes = []) : Resolves s r i time (.failed failure)
  | completes (node : Node) (hs : s.isWatching = false) (he : r.ending = some (.completed, time))
      (hwrites : r.writes = [(time, Frame.text s.painter node)]) : Resolves s r i time (.tree node)
  | survives (outcome : Outcome) (hs : s.isWatching = true)
      (hf : ∀ failure, outcome = .failed failure → failure.severity ≠ .fatal)
      (hgoes : i + 1 < r.fetches.length ∨ r.EndsByLimit) : Resolves s r i time outcome

/-- What happens before a fetch in a watching run does not change what becomes of it. -/
theorem Resolves.goes {r : Run} {i time : Nat} {outcome : Outcome}
    (h : s.Resolves r i time outcome) (hs : s.isWatching = true) {events : List Event}
    (hfetches : (events.filterMap Event.fetch?).length = 1) :
    s.Resolves ⟨events ++ r.events, r.ending⟩ (i + 1) time outcome := by
  cases h with
  | fails failure hf he before after start hevents hbefore hfetch hwrite =>
    refine .fails failure hf he (events ++ before) after start ?_ ?_ hfetch hwrite
      fun hnot => absurd hs (by simp [hnot])
    · rw [hevents, List.append_assoc]
    · rw [List.filterMap_append, List.length_append, hfetches, hbefore, Nat.add_comm]
  | completes node hnot => exact absurd hs (by simp [hnot])
  | survives _ _ hf hgoes =>
    refine .survives outcome hs hf (hgoes.imp_left fun hlt => ?_)
    rw [Run.fetches, List.filterMap_append, List.length_append, hfetches, Nat.add_comm 1]
    exact Nat.succ_lt_succ hlt

theorem Runs.resolves {attempts : List Attempt} {state : State} {r : Run}
    (h : s.Runs {} attempts state r) {i time : Nat} {outcome : Outcome}
    (hc : s.Completes state.cancelled attempts r i time outcome) :
    s.Resolves r i time outcome := by
  induction h generalizing i with
  | stops attempts state events ending stop h =>
    obtain ⟨rfl, hstart, hd⟩ := hc.of_steps h
    obtain ⟨after, writes, rfl, hfetch, hwrites, hf⟩ := h.refreshes.of_completion hstart hd
    cases hf with
    | fails failure hf =>
      exact .fails failure hf rfl [] after _ rfl rfl hfetch hwrites fun _ => hwrites
    | completes node hs => exact .completes node hs rfl hwrites
    | halts outcome w hs hf _ _ hl => exact .survives outcome hs hf (Or.inr ⟨_, _, rfl, hl⟩)
  | hangs attempts state events h =>
    obtain ⟨rfl, hstart, hd⟩ := hc.of_steps h
    obtain ⟨after, writes, -, -, -, hf⟩ := h.refreshes.of_completion hstart hd
    cases hf
  | goes a rest state state' events r h hr ih =>
    obtain ⟨start, b, hstart, hb, hd⟩ := hc
    have hrefreshes := h.refreshes
    obtain ⟨t, text, frame, hs, -, -, -, -, -, rfl, rfl⟩ := h.of_go
    cases i with
    | zero =>
      obtain rfl : state.now = start := Option.some.inj hstart
      obtain rfl : a = b := Option.some.inj hb
      obtain ⟨after, writes, -, -, -, hf⟩ :=
        hrefreshes.of_completion (by simp [Event.fetch?]) hd
      cases hf with
      | goes outcome w _ hf =>
        refine .survives outcome hs hf (hr.fetches_ne_nil_or.imp_left fun hne => ?_)
        exact Nat.succ_lt_succ (List.length_pos_iff.mpr hne)
    | succ i => exact (ih ⟨start, b, hstart, hb, hd⟩).goes hs rfl

/-- A failure that a run does not survive ends it with this very failure: nothing is fetched or
written after the fetch that fails. -/
theorem Runs.of_failure {attempts : List Attempt} {state : State} {r : Run}
    (h : s.Runs {} attempts state r) {i time : Nat} {failure : FetchFailure}
    (hc : s.Completes state.cancelled attempts r i time (.failed failure))
    (hf : failure.severity = .fatal ∨ s.isWatching = false) :
    r.ending = some (.fetchFailed failure, time) ∧
      (∃ before start after, r.events = before ++ .fetch start :: after ∧
        (before.filterMap Event.fetch?).length = i ∧
        after.filterMap Event.fetch? = [] ∧ after.filterMap Event.write? = []) ∧
      (s.isWatching = false → r.writes = []) := by
  cases h.resolves hc with
  | fails _ _ he before after start hevents hbefore hfetch hwrite hnone =>
    exact ⟨he, ⟨before, start, after, hevents, hbefore, hfetch, hwrite⟩, hnone⟩
  | survives _ hs hsurvives => exact absurd hf (by simp [hs, hsurvives failure rfl])

/-- A watching run survives a failure that may pass: it fetches again unless a limit ends it. -/
theorem Runs.of_transient {attempts : List Attempt} {state : State} {r : Run}
    (h : s.Runs {} attempts state r) (hs : s.isWatching = true) {i time : Nat}
    {failure : FetchFailure}
    (hc : s.Completes state.cancelled attempts r i time (.failed failure))
    (hf : failure.severity ≠ .fatal) : i + 1 < r.fetches.length ∨ r.EndsByLimit := by
  cases h.resolves hc with
  | fails _ hends => exact absurd hends (by simp [hs, hf])
  | survives _ _ _ hgoes => exact hgoes

/-- A run that does not watch shows the tree that it has fetched, and is completed. -/
theorem Runs.of_tree {attempts : List Attempt} {state : State} {r : Run}
    (h : s.Runs {} attempts state r) (hs : s.isWatching = false) {i time : Nat} {node : Node}
    (hc : s.Completes state.cancelled attempts r i time (.tree node)) :
    r.ending = some (.completed, time) ∧ r.writes = [(time, Frame.text s.painter node)] := by
  cases h.resolves hc with
  | completes _ _ he hwrites => exact ⟨he, hwrites⟩
  | survives _ hwatch => exact absurd hwatch (by simp [hs])

/-- A run that does not watch fetches at most once. -/
theorem Runs.fetches_length_le {out : Output} {attempts : List Attempt} {state : State} {r : Run}
    (h : s.Runs out attempts state r) (hs : s.isWatching = false) : r.fetches.length ≤ 1 := by
  have hrefresh {a : Attempt} {events : List Event} {next : Next}
      (h : s.Steps out a state events next) : (events.filterMap Event.fetch?).length ≤ 1 := by
    rcases h.fetches_eq with hf | hf <;> simp [hf]
  cases h with
  | stops _ _ _ _ _ h => exact hrefresh h
  | hangs _ _ _ h => exact hrefresh h
  | goes _ _ _ _ _ _ h =>
    obtain ⟨_, _, _, hwatch, -⟩ := h.of_go
    exact absurd hwatch (by simp [hs])

/-- A run ends by a limit, or else on account of its last fetch, which completes: it has failed, or
the run does not watch and has shown its tree. -/
theorem Runs.ending_cases {attempts : List Attempt} {state : State} {r : Run}
    (h : s.Runs {} attempts state r) {ending : Ending} {stop : Nat}
    (he : r.ending = some (ending, stop)) :
    ending.IsLimit ∨ ∃ i outcome, r.fetches.length = i + 1 ∧
      s.Completes state.cancelled attempts r i stop outcome ∧
      ((∃ failure, outcome = .failed failure ∧ ending = .fetchFailed failure) ∨
        ∃ node, outcome = .tree node ∧ ending = .completed ∧ s.isWatching = false) := by
  induction h with
  | hangs => exact nomatch he
  | stops attempts state events ending' stop' h =>
    obtain ⟨rfl, rfl⟩ := Prod.mk.inj (Option.some.inj he)
    have hrefreshes := h.refreshes
    cases hrefreshes with
    | refused _ _ hl => exact Or.inl hl
    | incomplete _ _ _ _ hl =>
      rcases hl with hl | ⟨_, _, heq, hl⟩
      · exact nomatch hl
      · obtain ⟨rfl, rfl⟩ := Next.stop.inj heq
        exact Or.inl hl
    | completes cancels hc time hd cancelled events _ hn =>
      refine hn.follows.of_stop.imp_right ?_
      rintro ⟨rfl, hcause⟩
      have hfetches := (filterMap_refresh hc state.now events).1
      rw [hn.fetches_eq] at hfetches
      cases attempts with
      | nil => exact nomatch hd
      | cons a rest =>
        have hstart : [state.now][0]? = some state.now := rfl
        rw [← hfetches] at hstart
        exact ⟨0, a.outcome, congrArg List.length hfetches, ⟨_, a, hstart, rfl, hd⟩, hcause⟩
  | goes a rest state state' events r h hr ih =>
    obtain ⟨t, text, frame, -, -, -, -, -, -, rfl, rfl⟩ := h.of_go
    refine (ih he).imp_right ?_
    rintro ⟨i, outcome, hlen, ⟨start, b, hstart, hb, hd⟩, hcause⟩
    exact ⟨i + 1, outcome, congrArg (· + 1) hlen, ⟨start, b, hstart, hb, hd⟩, hcause⟩

/-- A run ends with the failure of its last fetch. -/
theorem Runs.of_fetchFailed {attempts : List Attempt} {state : State} {r : Run}
    (h : s.Runs {} attempts state r) {failure : FetchFailure} {time : Nat}
    (he : r.ending = some (.fetchFailed failure, time)) :
    ∃ i, r.fetches.length = i + 1 ∧
      s.Completes state.cancelled attempts r i time (.failed failure) := by
  rcases h.ending_cases he with hl | ⟨i, outcome, hlen, hc, hcause⟩
  · exact absurd hl (by simp [Ending.IsLimit])
  · rcases hcause with ⟨failure', rfl, heq⟩ | ⟨_, -, heq, -⟩
    · obtain rfl := Ending.fetchFailed.inj heq
      exact ⟨i, hlen, hc⟩
    · exact nomatch heq

/-- A run that is completed does not watch, and its last fetch gives a tree. -/
theorem Runs.of_completed {attempts : List Attempt} {state : State} {r : Run}
    (h : s.Runs {} attempts state r) {time : Nat} (he : r.ending = some (.completed, time)) :
    s.isWatching = false ∧ ∃ i node, r.fetches.length = i + 1 ∧
      s.Completes state.cancelled attempts r i time (.tree node) := by
  rcases h.ending_cases he with hl | ⟨i, outcome, hlen, hc, hcause⟩
  · exact absurd hl (by simp [Ending.IsLimit])
  · rcases hcause with ⟨_, -, heq⟩ | ⟨node, rfl, -, hs⟩
    · exact nomatch heq
    · exact ⟨hs, i, node, hlen, hc⟩

/-- **Why a run ends.** Let the output not fail. A watching run is never completed, and the only
failure that ends it is a fatal one of its last fetch. A fatal failure ends it whenever it comes,
and nothing is fetched or written after the fetch that fails. After any other failure the run
fetches again unless a limit ends it.

A run that does not watch fetches at most once. It is completed exactly when its fetch completes
with a tree, and then it has written the frame of the tree and nothing else. It ends with a failure
exactly when its fetch completes with that failure, and then it has written nothing.

A run of either kind is timed out only at its deadline, and ends as cancelled only when it is
cancelled. -/
theorem run_ends_for_cause (s : Setup) (outside : Moment) (attempts : List Attempt) :
    let r : Run := s.run {} outside attempts
    (s.isWatching = true →
      (∀ time, r.ending ≠ some (.completed, time)) ∧
      (∀ failure time, r.ending = some (.fetchFailed failure, time) →
        failure.severity = .fatal ∧ ∃ i, r.fetches.length = i + 1 ∧
          s.Completes outside attempts r i time (.failed failure)) ∧
      ∀ i time failure, s.Completes outside attempts r i time (.failed failure) →
        (failure.severity = .fatal →
          r.ending = some (.fetchFailed failure, time) ∧
          ∃ before start after, r.events = before ++ .fetch start :: after ∧
            (before.filterMap Event.fetch?).length = i ∧
            after.filterMap Event.fetch? = [] ∧ after.filterMap Event.write? = []) ∧
        (failure.severity = .transient → i + 1 < r.fetches.length ∨ r.EndsByLimit)) ∧
    (s.isWatching = false →
      r.fetches.length ≤ 1 ∧
      (∀ time, r.ending = some (.completed, time) ↔
        ∃ node, s.Completes outside attempts r 0 time (.tree node)) ∧
      (∀ time node, s.Completes outside attempts r 0 time (.tree node) →
        r.writes = [(time, Frame.text s.painter node)]) ∧
      (∀ time failure, r.ending = some (.fetchFailed failure, time) ↔
        s.Completes outside attempts r 0 time (.failed failure)) ∧
      ∀ time failure, s.Completes outside attempts r 0 time (.failed failure) → r.writes = []) ∧
    ∀ ending time, r.ending = some (ending, time) →
      (∀ reason, ending ≠ .outputFailed reason) ∧
      (ending = .timedOut → s.deadline = some time) ∧
      (ending = .cancelled → r.IsCancelledAt outside time) := by
  intro r
  have hr := s.runs_runFrom {} attempts { due := s.interval, cancelled := outside }
  refine ⟨fun hs => ⟨fun time he => ?_, fun failure time he => ?_, fun i time failure hc =>
    ⟨fun hf => ?_, fun hf => ?_⟩⟩, fun hs => ?_, fun ending time he => ⟨fun reason heq => ?_, ?_⟩⟩
  · exact absurd (hr.of_completed he).1 (by simp [hs])
  · obtain ⟨i, hlen, hc⟩ := hr.of_fetchFailed he
    refine ⟨?_, i, hlen, hc⟩
    cases hf : failure.severity with
    | fatal => rfl
    | transient =>
      -- a failure that may pass is followed by another fetch or by a limit
      rcases hr.of_transient hs hc (by simp [hf]) with hlt | ⟨_, _, he', hl⟩
      · omega
      · obtain ⟨rfl, -⟩ := Prod.mk.inj (Option.some.inj (he.symm.trans he'))
        exact absurd hl (by simp [Ending.IsLimit])
  · obtain ⟨he, hevents, -⟩ := hr.of_failure hc (Or.inl hf)
    exact ⟨he, hevents⟩
  · exact hr.of_transient hs hc (by simp [hf])
  · have hle := hr.fetches_length_le hs
    refine ⟨hle, fun time => ⟨fun he => ?_, fun ⟨node, hc⟩ => (hr.of_tree hs hc).1⟩,
      fun time node hc => (hr.of_tree hs hc).2, fun time failure => ⟨fun he => ?_, fun hc => ?_⟩,
      fun time failure hc => (hr.of_failure hc (Or.inr hs)).2.2 hs⟩
    · obtain ⟨-, i, node, hlen, hc⟩ := hr.of_completed he
      obtain rfl : i = 0 := by omega
      exact ⟨node, hc⟩
    · obtain ⟨i, hlen, hc⟩ := hr.of_fetchFailed he
      obtain rfl : i = 0 := by omega
      exact hc
    · exact (hr.of_failure hc (Or.inr hs)).1
  · subst heq
    rcases hr.ending_cases he with hl | ⟨_, _, -, -, ⟨_, -, heq⟩ | ⟨_, -, heq, -⟩⟩
    · exact absurd hl (by simp [Ending.IsLimit])
    · exact nomatch heq
    · exact nomatch heq
  · have hzero : (s.limits outside).NotPast 0 :=
      ⟨fun _ _ => Nat.zero_le _, fun _ _ => Nat.zero_le _⟩
    exact (hr.stop_time hzero he).2.2

end Setup

end RolloutTree.Watch
